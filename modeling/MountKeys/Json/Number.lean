import MountKeys.Json
import MountKeys.Text.Basic

/-!
# What numbers are

A number is kept as it is written.  `Json.wholeNumber?` and `Json.isDouble` say what a reader can
make of it.
-/

namespace MountKeys.Json

/-- The whole number that a lexeme writes without point and exponent; of a minus sign before zero
there is none. -/
def wholeNumber? (lexeme : List Char) : Option Int :=
  match lexeme with
  | '-' :: ds =>
    if ds.all Char.isDigit && ds != ['0'] then some (-(Text.decimal ds : Int)) else none
  | ds => if ds.all Char.isDigit then some (Text.decimal ds) else none

/-- Whether a number fits 64 bits with its sign. -/
def isInt64 (n : Int) : Bool :=
  -0x8000000000000000 ≤ n && n < 0x8000000000000000

/-- The least number that is rounded to more than double precision can hold: the middle between the
greatest double, of 53 binary digits, and the next power of two. -/
def doubleBound : Nat :=
  Nat.pow 2 1024 - Nat.pow 2 970

/-- Whether `n` times the `e`-th power of ten is below the bound of double precision.  How many
digits it has decides that, unless they are as many as the bound has. -/
def isBelowBound (n : Nat) (e : Int) : Bool :=
  let size := ((Nat.toDigits 10 n).length : Int) + e
  if n = 0 ∨ size < 309 then true
  else if 309 < size then false
  else n * Nat.pow 10 e.toNat < doubleBound * Nat.pow 10 (-e).toNat

/-- The exponent at the end of a lexeme, after its mark. -/
def exponentOf : List Char → Int
  | [] => 0
  | '-' :: ds => -(Text.decimal ds : Int)
  | '+' :: ds => Text.decimal ds
  | ds => Text.decimal ds

/-- Whether a number is not too large for double precision. -/
def isDouble (lexeme : List Char) : Bool :=
  let isMark := fun c => c == 'e' || c == 'E'
  let digits := (lexeme.takeWhile fun c => !isMark c).filter fun c => c != '-'
  let whole := digits.takeWhile (· != '.')
  let part := digits.drop (whole.length + 1)
  let exponent := exponentOf (lexeme.drop ((lexeme.takeWhile fun c => !isMark c).length + 1))
  isBelowBound (Text.decimal (whole ++ part)) (exponent - part.length)

end MountKeys.Json
