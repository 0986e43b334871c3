import MountKeys.Yaml.Plain

/-!
# YAML scalars

A text as a value in a block of YAML.  A text of several lines is written as a literal block where
that keeps it, a text that would be taken for something else is quoted, and every other text stands
plainly where it can.  Where a style cannot hold the text, double quotes with escapes can.
-/

namespace MountKeys.Yaml

/-! ## Characters -/

/-- Whether a character ends a line. -/
def isBreak (c : Char) : Bool :=
  c == '\n' || c == '\r' || c == '\u0085' || c == '\u2028' || c == '\u2029'

/-- Whether a character may stand in YAML without an escape. -/
def isShown (c : Char) : Bool :=
  let n := c.toNat
  n == 0xA || (0x20 ≤ n && n ≤ 0x7E) || (0xA0 ≤ n && n ≤ 0xD7FF) ||
    (0xE000 ≤ n && n ≤ 0xFFFD && n != 0xFEFF) || 0x10000 ≤ n

/-- Whether a character is a space or ends a line. -/
def isGap (c : Char) : Bool :=
  c == ' ' || isBreak c

/-! ## What a text has in it -/

/-- Whether two characters side by side pass the two tests. -/
def hasPair (p q : Char → Bool) : List Char → Bool
  | a :: b :: rest => (p a && q b) || hasPair p q (b :: rest)
  | _ => false

/-- Whether the rest of a text starts with a gap or is empty. -/
def gapNext : List Char → Bool
  | [] => true
  | c :: _ => isGap c

/-- Whether the last character passes a test. -/
def endsWith (p : Char → Bool) (cs : List Char) : Bool :=
  match cs.getLast? with
  | some c => p c
  | none => false

/-- Whether the first character passes a test. -/
def startsWith (p : Char → Bool) : List Char → Bool
  | [] => false
  | c :: _ => p c

/-- Whether the rest of a text, after `before`, has a mark that ends plain text: a colon before a
gap, or a number sign after one. -/
def hasMark (before : Char) : List Char → Bool
  | [] => false
  | c :: rest =>
    (c == ':' && gapNext rest) || (c == '#' && isGap before) || hasMark c rest

/-- The characters that mean something else at the start of a text. -/
def leadMarks : List Char :=
  ['#', ',', '[', ']', '\x7b', '\x7d', '&', '*', '!', '|', '>', '\'', '"', '%', '@', '\x60']

/-- Whether a text has a mark that plain text must not have. -/
def hasIndicator (cs : List Char) : Bool :=
  match cs with
  | [] => false
  | c :: rest =>
    leadMarks.contains c || ((c == '?' || c == ':' || c == '-') && gapNext rest) ||
      hasMark c rest || ['-', '-', '-'].isPrefixOf cs || ['.', '.', '.'].isPrefixOf cs

/-- Whether only double quotes hold the text: it has a character that needs an escape, or a space
that ends a line. -/
def needsEscapes (cs : List Char) : Bool :=
  cs.any (fun c => !isShown c) || hasPair (· == ' ') isBreak cs

/-- Whether a text may stand without quotes. -/
def allowsPlain (cs : List Char) : Bool :=
  !needsEscapes cs && !cs.any isBreak && !startsWith (· == ' ') cs && !endsWith (· == ' ') cs &&
    !hasIndicator cs

/-- Whether a text may stand between single quotes. -/
def allowsSingle (cs : List Char) : Bool :=
  !needsEscapes cs && !hasPair isBreak (· == ' ') cs

/-- Whether a text may stand as a literal block. -/
def allowsLiteral (cs : List Char) : Bool :=
  !needsEscapes cs && !endsWith (· == ' ') cs

/-! ## Styles -/

/-- The ways to write a text. -/
inductive Style
  | plain
  | single
  | double
  | literal
  deriving DecidableEq, Repr

/-- The style of a value. -/
def style (cs : List Char) : Style :=
  if cs.contains '\n' then if allowsLiteral cs then .literal else .double
  else if allowsPlain cs && !isAmbiguous cs then .plain
  else if allowsSingle cs then .single
  else .double

/-- The style of a key, which stays on one line. -/
def keyStyle (cs : List Char) : Style :=
  if cs.any isBreak then .double
  else style cs

/-- Blanks before a line. -/
def blanks (n : Nat) : List Char :=
  List.replicate n ' '

/-- The text with a line break kept as it is and blanks before each character that starts a line
with something on it; `fresh` says whether a line starts here. -/
def indented (indent : Nat) (fresh : Bool) : List Char → List Char
  | [] => []
  | c :: rest =>
    if isBreak c then c :: indented indent true rest
    else (if fresh then blanks indent else []) ++ c :: indented indent false rest

/-- The text with each single quote twice. -/
def doubleQuotes (cs : List Char) : List Char :=
  cs.flatMap fun c => if c = '\'' then ['\'', '\''] else [c]

/-- A text between single quotes. -/
def printSingle (indent : Nat) (cs : List Char) : List Char :=
  '\'' :: indented indent false (doubleQuotes cs) ++
    (if endsWith isBreak cs then blanks indent else []) ++ ['\'']

/-- A hexadecimal digit. -/
def hexDigit (n : Nat) : Char :=
  if n < 10 then Char.ofNat (48 + n) else Char.ofNat (55 + n)

/-- A number in `width` hexadecimal digits. -/
def hexDigits : Nat → Nat → List Char
  | 0, _ => []
  | width + 1, n => hexDigit (n / Nat.pow 16 width % 16) :: hexDigits width n

/-- The escape of a character. -/
def escape (c : Char) : List Char :=
  let n := c.toNat
  '\\' ::
    if n = 0 then ['0']
    else if n = 7 then ['a']
    else if n = 8 then ['b']
    else if n = 9 then ['t']
    else if n = 0xA then ['n']
    else if n = 0xB then ['v']
    else if n = 0xC then ['f']
    else if n = 0xD then ['r']
    else if n = 0x1B then ['e']
    else if n = 0x22 ∨ n = 0x5C then [c]
    else if n = 0x85 then ['N']
    else if n = 0x2028 then ['L']
    else if n = 0x2029 then ['P']
    else if n ≤ 0xFF then 'x' :: hexDigits 2 n
    else if n ≤ 0xFFFF then 'u' :: hexDigits 4 n
    else 'U' :: hexDigits 8 n

/-- A text between double quotes, on one line. -/
def printDouble (cs : List Char) : List Char :=
  '"' :: cs.flatMap (fun c =>
    if isShown c && !isBreak c && c != '"' && c != '\\' then [c] else escape c) ++ ['"']

/-- How a literal block says where its text ends: without a line break, with one, or with all
those that are there. -/
def chomping (cs : List Char) : List Char :=
  match cs.reverse with
  | [] => ['-']
  | last :: before =>
    if !isBreak last then ['-']
    else if startsWith (fun c => !isBreak c) before then []
    else ['+']

/-- A literal block, up to the end of its last line. -/
def printLiteral (indent : Nat) (cs : List Char) : List Char :=
  '|' :: (if startsWith isGap cs then ['2'] else []) ++ chomping cs ++
    '\n' :: indented indent true cs ++ if endsWith isBreak cs then [] else ['\n']

/-- A value with the end of its line; lines after the first are indented. -/
def printValue (indent : Nat) (cs : List Char) : List Char :=
  match style cs with
  | .plain => cs ++ ['\n']
  | .single => printSingle indent cs ++ ['\n']
  | .double => printDouble cs ++ ['\n']
  | .literal => printLiteral indent cs

/-- A key. -/
def printKey (cs : List Char) : List Char :=
  match keyStyle cs with
  | .plain => cs
  | .single => printSingle 0 cs
  | .double | .literal => printDouble cs

end MountKeys.Yaml
