/-!
# Characters, words and digits

What the other modules on text are built on.  A property of characters is a list of ranges of code
points (`inRanges`), where a table is needed.  `isBlank` is the Unicode property `White_Space`:
`trim` takes blanks off both ends of a text, and `words` gives the runs between them.  `decimal` is
the number that digits write.
-/

namespace MountKeys.Text

/-! ## Characters -/

/-- Whether a code point lies in one of the ranges, the ends included. -/
def inRanges (ranges : List (Nat × Nat)) (n : Nat) : Bool :=
  ranges.any fun r => r.1 ≤ n && n ≤ r.2

/-- Whether a character is white space. -/
def isBlank (c : Char) : Bool :=
  let n := c.toNat
  n == 0x20 || (0x9 ≤ n && n ≤ 0xD) || n == 0x85 || n == 0xA0 || n == 0x1680 ||
    (0x2000 ≤ n && n ≤ 0x200A) || n == 0x2028 || n == 0x2029 || n == 0x202F || n == 0x205F ||
    n == 0x3000

/-! ## Lines and words -/

/-- The text from its first character on that is not blank. -/
def trimStart (cs : List Char) : List Char :=
  cs.dropWhile isBlank

/-- The text up to its last character that is not blank. -/
def trimEnd (cs : List Char) : List Char :=
  ((cs.reverse).dropWhile isBlank).reverse

/-- The text without blanks at its ends. -/
def trim (cs : List Char) : List Char :=
  trimEnd (trimStart cs)

/-- The parts of a text between the characters `sep`, one more than there are such characters. -/
def cutAt (sep : Char) : List Char → List (List Char)
  | [] => [[]]
  | c :: rest =>
    if c = sep then [] :: cutAt sep rest
    else
      match cutAt sep rest with
      | [] => [[c]]
      | part :: parts => (c :: part) :: parts

/-- The words of a text whose first word goes on with `start` reversed. -/
def wordsFrom (start : List Char) : List Char → List (List Char)
  | [] => if start.isEmpty then [] else [start.reverse]
  | c :: rest =>
    if isBlank c then
      if start.isEmpty then wordsFrom [] rest else start.reverse :: wordsFrom [] rest
    else wordsFrom (c :: start) rest

/-- The runs of characters that are not blank. -/
def words (cs : List Char) : List (List Char) :=
  wordsFrom [] cs

/-! ## Digits -/

/-- The number that decimal digits write. -/
def decimal (ds : List Char) : Nat :=
  ds.foldl (fun n d => n * 10 + (d.toNat - 48)) 0

end MountKeys.Text
