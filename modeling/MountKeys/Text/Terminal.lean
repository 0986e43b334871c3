import MountKeys.Utf8

/-!
# Text without terminal commands

Bytes that a terminal would obey and not show: single control characters, and sequences that an
escape character starts.  `Text.unadorned` leaves them out of a text; blank control characters
stay, and one of them ends a sequence that it stands in.
-/

namespace MountKeys.Text

/-- The kind of sequence that a byte stands in. -/
inductive Sequence
  /-- None. -/
  | none
  /-- One that is only started. -/
  | escape
  /-- A short one, after its first byte. -/
  | short
  /-- One with parameters, up to a letter. -/
  | control
  /-- One with parameters before a text. -/
  | device
  /-- A text up to the string terminator. -/
  | string
  /-- A text up to the string terminator or a bell. -/
  | title
  deriving DecidableEq, Repr

/-- The kind of sequence after a byte that goes on with one that was started. -/
def Sequence.afterEscape (b : UInt8) : Sequence :=
  if b < 0x20 ∨ 0x7F ≤ b then .escape
  else if b < 0x30 then .short
  else if b = 0x5B then .control
  else if b = 0x5D then .title
  else if b = 0x50 then .device
  else if b = 0x58 ∨ b = 0x5E ∨ b = 0x5F then .string
  else .none

/-- The kind of sequence after a byte. -/
def Sequence.after (b : UInt8) (s : Sequence) : Sequence :=
  if b = 0x1B then .escape
  else if b = 0x18 ∨ b = 0x1A then .none
  else
    match s with
    | .none => .none
    | .escape => Sequence.afterEscape b
    | .short => if 0x30 ≤ b ∧ b < 0x7F then .none else .short
    | .control => if 0x40 ≤ b ∧ b < 0x7F then .none else .control
    | .device => if 0x40 ≤ b ∧ b < 0x7F then .string else .device
    | .string => if b = 0x9C then .none else .string
    | .title => if b = 0x07 then .none else .title

/-- Whether a byte is a control character that counts as blank. -/
def isBlankControl (b : UInt8) : Bool :=
  b == 0x09 || b == 0x0A || b == 0x0C || b == 0x0D

/-- Whether a blank control character is shown where it stands. -/
def Sequence.showsBlanks : Sequence → Bool
  | .device | .string | .title => false
  | _ => true

/-- The bytes of a text that are shown, after those that `s` stands for.  `inside` holds within a
character of several bytes that is shown. -/
def shownBytes (s : Sequence) (inside : Bool) : Bytes → Bytes
  | [] => []
  | b :: rest =>
    if inside && Utf8.isTail b then b :: shownBytes .none true rest
    else if s = .none ∧ 0xC2 ≤ b ∧ b ≤ 0xF4 then b :: shownBytes .none true rest
    else if s = .none ∧ 0x20 ≤ b ∧ b < 0x7F then b :: shownBytes .none false rest
    else if s.showsBlanks && isBlankControl b then b :: shownBytes .none false rest
    else shownBytes (s.after b) false rest

/-- A text without what a terminal would obey. -/
def unadorned (s : String) : String :=
  Utf8.lossy (shownBytes .none false (textBytes s))

end MountKeys.Text
