import MountKeys.Text.Basic

/-!
# Single characters of a pattern

The smallest parts of a regular expression: a character, a class of characters by a letter, or a
place between characters.  What follows a backslash is read here, in the mode that the flags before
it set.
-/

namespace MountKeys.Pattern

/-- How a part of a pattern is read. -/
structure Mode where
  /-- Blanks and comments count for nothing. -/
  spaced : Bool
  /-- A pattern is about characters of all scripts, not about bytes. -/
  wide : Bool
  deriving DecidableEq, Repr

/-- The mode that a pattern starts in. -/
def Mode.initial : Mode :=
  ⟨false, true⟩

/-- What follows blanks and comments; a comment goes to the end of its line. -/
def skipSpace (comment : Bool) : List Char → List Char
  | [] => []
  | c :: rest =>
    if comment then skipSpace (c != '\n') rest
    else if Text.isBlank c then skipSpace false rest
    else if c = '#' then skipSpace true rest
    else c :: rest

/-- The text from the next character on that counts. -/
def Mode.skip (m : Mode) (cs : List Char) : List Char :=
  if m.spaced then skipSpace false cs else cs

/-- The next character that counts, where a comment is taken for its first character only. -/
def Mode.peek? (m : Mode) (cs : List Char) : Option Char :=
  if m.spaced then
    match Text.trimStart cs with
    | '#' :: rest => (Text.trimStart rest).head?
    | cs => cs.head?
  else cs.head?

/-- The smallest part of a pattern. -/
inductive Atom
  | char (c : Char)
  /-- Any character of a class. -/
  | one
  /-- A place, such as the end of the text. -/
  | place
  deriving DecidableEq, Repr

/-- The value of a hexadecimal digit. -/
def hexDigit? (c : Char) : Option Nat :=
  if c.isDigit then some (c.toNat - 48)
  else if 'a' ≤ c ∧ c ≤ 'f' then some (c.toNat - 87)
  else if 'A' ≤ c ∧ c ≤ 'F' then some (c.toNat - 55)
  else none

/-- The number that `count` digits write after `acc`. -/
def hexNumber? (m : Mode) : (count acc : Nat) → List Char → Option (Nat × List Char)
  | 0, acc, cs => some (acc, cs)
  | _ + 1, _, [] => none
  | count + 1, acc, c :: rest =>
    match hexDigit? c with
    | some d => hexNumber? m count (acc * 16 + d) (m.skip rest)
    | none => none

/-- A character by its number in `count` digits. -/
def numbered? (m : Mode) (count : Nat) (cs : List Char) : Option (Atom × List Char) :=
  match hexNumber? m count 0 (m.skip cs) with
  | some (n, rest) => if n.isValidChar then some (.char (Char.ofNat n), rest) else none
  | none => none

/-- The letters that name a category of characters, in either case. -/
def categories : List Char :=
  ['c', 'l', 'm', 'n', 'p', 's', 'z']

/-- A category of characters, which bytes have none of. -/
def category? (m : Mode) (cs : List Char) : Option (Atom × List Char) :=
  match m.skip cs with
  | c :: rest =>
    if m.wide && categories.contains c.toLower then some (.one, m.skip rest) else none
  | [] => none

/-- What follows a backslash.  Of bytes, a class may not be the rest of another one, for that would
cut characters apart.  Of characters, the edge of a word is nothing that an automaton can see. -/
def escape? (m : Mode) : List Char → Option (Atom × List Char)
  | [] => none
  | c :: rest =>
    match c with
    | 'x' =>
      match numbered? m 2 rest with
      | some (.char c, rest) => if m.wide || c.toNat < 0x80 then some (.char c, rest) else none
      | _ => none
    | 'u' => numbered? m 4 rest
    | 'U' => numbered? m 8 rest
    | 'p' | 'P' => category? m rest
    | 'd' | 's' | 'w' => some (.one, rest)
    | 'D' | 'S' | 'W' => if m.wide then some (.one, rest) else none
    | 'a' => some (.char '\x07', rest)
    | 'f' => some (.char '\x0c', rest)
    | 't' => some (.char '\t', rest)
    | 'n' => some (.char '\n', rest)
    | 'r' => some (.char '\r', rest)
    | 'v' => some (.char '\x0b', rest)
    | 'A' | 'z' => some (.place, rest)
    | 'b' | 'B' | '<' | '>' => if m.wide then none else some (.place, rest)
    | c => if c.toNat < 0x80 && !c.isAlphanum then some (.char c, rest) else none

end MountKeys.Pattern
