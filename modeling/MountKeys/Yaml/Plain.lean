/-!
# Plain text that is no text

A YAML reader takes some texts without quotes for something else: nothing, a truth value or a
number.  `Yaml.isAmbiguous` says which, so that a writer knows what to quote.
-/

namespace MountKeys.Yaml

/-- The ways to write nothing. -/
def isNull (cs : List Char) : Bool :=
  cs = [] || cs = ['~'] || cs = ['n', 'u', 'l', 'l'] || cs = ['N', 'u', 'l', 'l'] ||
    cs = ['N', 'U', 'L', 'L']

/-- The ways to write a truth value. -/
def isTruth (cs : List Char) : Bool :=
  cs = ['t', 'r', 'u', 'e'] || cs = ['T', 'r', 'u', 'e'] || cs = ['T', 'R', 'U', 'E'] ||
    cs = ['f', 'a', 'l', 's', 'e'] || cs = ['F', 'a', 'l', 's', 'e'] ||
    cs = ['F', 'A', 'L', 'S', 'E']

/-! ## Whole numbers -/

/-- The value of a digit, letters of either case included. -/
def digit? (c : Char) : Option Nat :=
  if '0' ≤ c ∧ c ≤ '9' then some (c.toNat - 48)
  else if 'a' ≤ c ∧ c ≤ 'z' then some (c.toNat - 87)
  else if 'A' ≤ c ∧ c ≤ 'Z' then some (c.toNat - 55)
  else none

/-- The number that digits write after `acc`. -/
def digitsFrom (radix acc : Nat) : List Char → Option Nat
  | [] => some acc
  | c :: rest =>
    match digit? c with
    | some d => if d < radix then digitsFrom radix (acc * radix + d) rest else none
    | none => none

/-- The number that one or more digits write. -/
def number? (radix : Nat) : List Char → Option Nat
  | [] => none
  | cs => digitsFrom radix 0 cs

/-- A magnitude with its radix before it. -/
def magnitude? : List Char → Option Nat
  | '0' :: 'x' :: rest => number? 16 rest
  | '0' :: 'o' :: rest => number? 8 rest
  | '0' :: 'b' :: rest => number? 2 rest
  | cs => number? 10 cs

/-- The first number of more than 128 bits. -/
def wholeBound : Nat := Nat.pow 2 128

/-- Whether a text is a whole number of at most 128 bits, one of them for a minus sign. -/
def isWhole : List Char → Bool
  | '-' :: rest => (magnitude? rest).any (· ≤ wholeBound / 2)
  | '+' :: rest => (magnitude? rest).any (· < wholeBound)
  | cs => (magnitude? cs).any (· < wholeBound)

/-- The text after its sign, if it has one. -/
def unsigned : List Char → List Char
  | '-' :: rest => rest
  | '+' :: rest => rest
  | cs => cs

/-- Whether a text has only digits but does not count as a number, since it starts with a zero. -/
def isZeroLed (cs : List Char) : Bool :=
  match unsigned cs with
  | '0' :: c :: rest => (c :: rest).all Char.isDigit
  | _ => false

/-! ## Numbers with a point or an exponent -/

/-- Decimal digits with a point somewhere among them: all digits, and how many stand after it. -/
def mantissa? (cs : List Char) : Option (List Char × Nat) :=
  let whole := cs.takeWhile Char.isDigit
  let found : List Char × Nat :=
    match cs.dropWhile Char.isDigit with
    | '.' :: rest => (whole ++ rest, rest.length)
    | rest => (whole ++ rest, 0)
  if found.1.isEmpty || !found.1.all Char.isDigit then none else some found

/-- An exponent with its sign. -/
def exponent? (cs : List Char) : Option Int :=
  match cs with
  | '-' :: rest => (number? 10 rest).map fun n => -(n : Int)
  | '+' :: rest => (number? 10 rest).map Int.ofNat
  | cs => (number? 10 cs).map Int.ofNat

/-- Whether a character begins an exponent. -/
def isExponentMark (c : Char) : Bool :=
  c == 'e' || c == 'E'

/-- The digits of a decimal number, read as a whole number, and the power of ten they count in. -/
def decimal? (cs : List Char) : Option (Nat × Int) := do
  let (digits, places) ← mantissa? (cs.takeWhile fun c => !isExponentMark c)
  let value ← number? 10 digits
  match cs.dropWhile fun c => !isExponentMark c with
  | [] => some (value, -(places : Int))
  | _ :: rest => (exponent? rest).map fun e => (value, e - places)

/-- The first number that is no longer near enough to a finite binary number of 64 bits: half a step
above the greatest of them. -/
def finiteBound : Nat := Nat.pow 2 1024 - Nat.pow 2 970

/-- Whether a number in powers of ten is near enough to a finite binary number of 64 bits. -/
def isFinite (value : Nat) (power : Int) : Bool :=
  let size := (Nat.toDigits 10 value).length + power
  if value = 0 ∨ size ≤ 308 then true
  else if 310 < size then false
  else if 0 ≤ power then value * Nat.pow 10 power.toNat < finiteBound
  else value < finiteBound * Nat.pow 10 (-power).toNat

/-- Whether a text without sign is a finite number. -/
def isDecimal (cs : List Char) : Bool :=
  match decimal? cs with
  | some (value, power) => isFinite value power
  | none => false

/-- The ways to write the number without end. -/
def isInfinity (cs : List Char) : Bool :=
  cs = ['.', 'i', 'n', 'f'] || cs = ['.', 'I', 'n', 'f'] || cs = ['.', 'I', 'N', 'F']

/-- The ways to write what is no number. -/
def isNotANumber (cs : List Char) : Bool :=
  cs = ['.', 'n', 'a', 'n'] || cs = ['.', 'N', 'a', 'N'] || cs = ['.', 'N', 'A', 'N']

/-- Whether a text is a number with a point or an exponent. -/
def isFloat (cs : List Char) : Bool :=
  isInfinity (unsigned cs) || isNotANumber cs || isDecimal (unsigned cs)

/-- Whether a reader would take a text without quotes for something other than that text. -/
def isAmbiguous (cs : List Char) : Bool :=
  isNull cs || isTruth cs || isWhole cs || isZeroLed cs || isFloat cs

end MountKeys.Yaml
