import Mathlib.Data.List.DropRight
import MountKeys.Json
import MountKeys.Text.Walk
import MountKeys.Yaml.Scalar

/-!
# Reading YAML

A reader for streams of YAML documents that are maps of scalars and of further maps in block style,
with comments and empty lines between them.  It goes by the rules of YAML 1.1 as the common reader
of that version has them, not by how this program writes: it knows plain scalars and what they
resolve to, both kinds of quotes with all escapes and with the folding of lines, and literal blocks
with every header.

A plain scalar resolves by the same rules by which a writer decides what it has to quote: there is
one set of them (`Yaml.isAmbiguous`) for both sides.

What it does not know it refuses: sequences and other collections between brackets, anchors, tags,
folded blocks, plain scalars of several lines, directives, and keys that are not plain texts.  So
`Yaml.read` gives documents only where it understood all of the stream.

* `scanQuoted`, `scanPlain` and `scanLiteral` read the scalars.
* `lineStep` reads one key with what stands after it, which takes more lines than one if it is a
  quoted scalar or a block.
* `addItem` puts keys together by their columns, from the last one to the first.
-/

namespace MountKeys.Yaml

/-! ## Characters -/

/-- Whether a stream may have the character in it. -/
def isReadable (c : Char) : Bool :=
  isShown c || c == '\t' || c == '\r' || c == '\u0085'

/-- Whether a character is blank within a line. -/
def isBlank (c : Char) : Bool :=
  c == ' ' || c == '\t'

/-- Whether a blank, a line break or the end is next. -/
def spaceNext : List Char → Bool
  | [] => true
  | c :: _ => isBlank c || isBreak c

/-- The stream with one spelling of the usual line break.  The separators of lines and paragraphs
end a line too, but stay what they are. -/
def normalize : List Char → List Char
  | [] => []
  | '\r' :: '\n' :: rest => '\n' :: normalize rest
  | c :: rest => (if c = '\r' ∨ c = '\u0085' then '\n' else c) :: normalize rest

/-! ## Lines -/

/-- The stream after the line break that is next. -/
def dropLine (cs : List Char) : List Char :=
  (cs.dropWhile fun c => !isBreak c).drop 1

/-- The stream after the end of a line that has nothing more on it but a comment. -/
def endLine (cs : List Char) : Option (List Char) :=
  match cs.dropWhile isBlank with
  | [] => some []
  | c :: rest => if isBreak c then some rest else if c = '#' then some (dropLine rest) else none

/-! ## Plain scalars -/

/-- Whether a plain scalar starts here. -/
def startsPlain : List Char → Bool
  | [] => false
  | c :: rest =>
    !isBlank c && !isBreak c && !leadMarks.contains c &&
      !((c == '-' || c == '?' || c == ':') && spaceNext rest)

/-- What is on the line up to a comment or to the colon after a key, and the rest of the stream;
`before` is the character before. -/
def scanPlain (before : Char) : List Char → List Char × List Char
  | [] => ([], [])
  | c :: rest =>
    if isBreak c || (c == ':' && spaceNext rest) || (c == '#' && isBlank before) then
      ([], c :: rest)
    else
      let (text, after) := scanPlain c rest
      (c :: text, after)

/-- The text of a plain scalar ends before the blanks at its end. -/
def plainText (before : Char) (cs : List Char) : List Char × List Char :=
  let (text, after) := scanPlain before cs
  (text.rdropWhile isBlank, after)

/-- The value of a plain scalar. -/
def resolve (cs : List Char) : Json :=
  if isNull cs then .null
  else if isTruth cs then .bool (cs.head?.any fun c => c == 't' || c == 'T')
  else if isZeroLed cs then .text (String.ofList cs)
  else if isWhole cs || isFloat cs then .number (String.ofList cs)
  else .text (String.ofList cs)

/-! ## Quoted scalars -/

/-- What an escape of one character stands for. -/
def named? : Char → Option Char
  | '0' => some '\x00'
  | 'a' => some '\x07'
  | 'b' => some '\x08'
  | 't' | '\t' => some '\t'
  | 'n' => some '\n'
  | 'v' => some '\x0b'
  | 'f' => some '\x0c'
  | 'r' => some '\r'
  | 'e' => some '\x1b'
  | ' ' => some ' '
  | '"' => some '"'
  | '/' => some '/'
  | '\\' => some '\\'
  | 'N' => some '\u0085'
  | '_' => some '\u00a0'
  | 'L' => some '\u2028'
  | 'P' => some '\u2029'
  | _ => none

/-- How many hexadecimal digits follow. -/
def width? : Char → Option Nat
  | 'x' => some 2
  | 'u' => some 4
  | 'U' => some 8
  | _ => none

/-- The character with that number, if there is one. -/
def char? (n : Nat) : Option Char :=
  if n.isValidChar then some (Char.ofNat n) else none

/-- The character that an escape stands for, after its backslash, and the rest of the stream. -/
def scanEscape : List Char → Option (Char × List Char)
  | [] => none
  | c :: rest =>
    match named? c with
    | some d => some (d, rest)
    | none =>
      match width? c with
      | none => none
      | some width =>
        let digits := rest.take width
        if digits.length = width then
          ((number? 16 digits).bind char?).map fun d => (d, rest.drop width)
        else none

/-- The two kinds of quotes. -/
inductive Quotes
  | single
  | double
  deriving DecidableEq, Repr

/-- What comes next in a quoted scalar. -/
inductive Piece
  /-- A character of the text. -/
  | char (c : Char)
  /-- A blank, which does not count at the end of a line or at its beginning. -/
  | blank (c : Char)
  | newline (c : Char)
  | close

/-- What comes next between quotes, and the rest of the stream. -/
def nextPiece (quotes : Quotes) : List Char → Option (Piece × List Char)
  | [] => none
  | c :: rest =>
    if isBlank c then some (.blank c, rest)
    else if isBreak c then some (.newline c, rest)
    else
      match quotes with
      | .single =>
        if c = '\'' then
          if rest.head? = some '\'' then some (.char '\'', rest.drop 1) else some (.close, rest)
        else some (.char c, rest)
      | .double =>
        if c = '"' then some (.close, rest)
        else if c = '\\' then (scanEscape rest).map fun (d, rest) => (.char d, rest)
        else some (.char c, rest)

/-- What stands between two characters of a quoted text. -/
inductive Gap
  /-- Blanks within a line. -/
  | within (blanks : List Char)
  /-- The end of a line, and of empty lines after it; `margin` says whether the next character is
  the first of its line. -/
  | across (first : Char) (more : List Char) (margin : Bool)

namespace Gap

/-- The gap with one more blank. -/
def blank (c : Char) : Gap → Gap
  | .within blanks => .within (blanks ++ [c])
  | .across first more _ => .across first more false

/-- The gap with one more line break. -/
def newline (c : Char) : Gap → Gap
  | .within _ => .across c [] true
  | .across first more _ => .across first (more ++ [c]) true

/-- What becomes of the gap.  The usual line break is folded: one is a space, and of more the first
does not count. -/
def text : Gap → List Char
  | .within blanks => blanks
  | .across first more _ =>
    if first = '\n' then (if more.isEmpty then [' '] else more) else first :: more

/-- Whether the next character is the first of its line. -/
def atMargin : Gap → Bool
  | .within _ => false
  | .across _ _ margin => margin

end Gap

/-- Read on between quotes, after some text and a gap.  A line that starts at the margin could be
the marker of a document and is refused. -/
def quotedStep (quotes : Quotes) (state : List Char × Gap) (cs : List Char) :
    Option (Text.Step (List Char × Gap) (List Char) × List Char) :=
  let (text, gap) := state
  match nextPiece quotes cs with
  | none => none
  | some (.blank c, rest) => some (.next (text, gap.blank c), rest)
  | some (.newline c, rest) => some (.next (text, gap.newline c), rest)
  | some (.char c, rest) =>
    if gap.atMargin then none else some (.next (text ++ gap.text ++ [c], .within []), rest)
  | some (.close, rest) => if gap.atMargin then none else some (.done (text ++ gap.text), rest)

/-- The text of a quoted scalar after its first quote, and the rest of the stream. -/
def scanQuoted (quotes : Quotes) (cs : List Char) : Option (List Char × List Char) :=
  Text.walk (quotedStep quotes) ([], .within []) cs

/-! ## Literal blocks -/

/-- What becomes of the line breaks at the end of a block. -/
inductive Chomp
  | strip
  /-- The first one stays, if there is a line before it. -/
  | clip
  | keep
  deriving DecidableEq, Repr

/-- The block without the line breaks that do not count. -/
def Chomp.apply : Chomp → List Char → List Char
  | .strip, raw => raw.rdropWhile isBreak
  | .clip, raw =>
    let text := raw.rdropWhile isBreak
    if text.isEmpty then [] else raw.take (text.length + 1)
  | .keep, raw => raw

/-- How a header says what becomes of the line breaks. -/
def chompMark? (c : Char) : Option Chomp :=
  if c = '-' then some .strip else if c = '+' then some .keep else none

/-- How a header says by how much the lines are indented. -/
def hintMark? (c : Char) : Option Nat :=
  if '1' ≤ c ∧ c ≤ '9' then some (c.toNat - 48) else none

/-- The header of a block, with its two marks in either order, and the rest of the stream. -/
def scanHeader : List Char → (Chomp × Option Nat) × List Char
  | [] => ((.clip, none), [])
  | c :: rest =>
    match chompMark? c with
    | some chomp =>
      match rest.head?.bind hintMark? with
      | some hint => ((chomp, some hint), rest.drop 1)
      | none => ((chomp, none), rest)
    | none =>
      match hintMark? c with
      | some hint =>
        match rest.head?.bind chompMark? with
        | some chomp => ((chomp, some hint), rest.drop 1)
        | none => ((.clip, some hint), rest)
      | none => ((.clip, none), c :: rest)

/-- The greatest column up to the first line with something on it.  A tab is no column. -/
def widest (column most : Nat) : List Char → Option Nat
  | [] => some (max most column)
  | c :: rest =>
    if c = ' ' then widest (column + 1) most rest
    else if isBreak c then widest 0 (max most column) rest
    else if c = '\t' then none
    else some (max most column)

/-- The lines of a block that are indented by so much, with their line breaks, and the rest of the
stream from the start of the first line that is not.  At the start of a line `read` says how many
spaces were read. -/
def scanLines (indent : Nat) (read : Option Nat) : List Char → List Char × List Char
  | [] => ([], blanks (read.getD 0))
  | c :: rest =>
    let more (read : Option Nat) : List Char × List Char :=
      let (text, after) := scanLines indent read rest
      (c :: text, after)
    match read with
    | none => if isBreak c then more (some 0) else more none
    | some n =>
      if c = ' ' ∧ n < indent then scanLines indent (some (n + 1)) rest
      else if isBreak c then more (some 0)
      else if n = indent then more none
      else ([], blanks n ++ c :: rest)

/-- By how much the lines of a block under a key at a column are indented. -/
def blockIndent? (column : Nat) (hint : Option Nat) (body : List Char) : Option Nat :=
  match hint with
  | some n => some (column + n)
  | none => (widest 0 0 body).map (max (column + 1))

/-- The text of a literal block under a key at a column, and the rest of the stream. -/
def scanLiteral (column : Nat) (cs : List Char) : Option (List Char × List Char) := do
  let ((chomp, hint), after) := scanHeader cs
  let body ← endLine after
  let indent ← blockIndent? column hint body
  let (raw, rest) := scanLines indent (some 0) body
  return (chomp.apply raw, rest)

/-! ## Lines with keys -/

/-- A scalar between quotes that nothing follows on its last line. -/
def scanQuotedValue (quotes : Quotes) (cs : List Char) : Option (Json × List Char) :=
  (scanQuoted quotes cs).bind fun (text, after) =>
    (endLine after).map fun rest => (.text (String.ofList text), rest)

/-- The value after a key at a column, up to the end of its last line, and the rest of the
stream. -/
def scanValue (column : Nat) : List Char → Option (Json × List Char)
  | '|' :: cs => (scanLiteral column cs).map fun (text, rest) => (.text (String.ofList text), rest)
  | '\'' :: cs => scanQuotedValue .single cs
  | '"' :: cs => scanQuotedValue .double cs
  | '\x7b' :: '\x7d' :: cs => (endLine cs).map fun rest => (.object [], rest)
  | cs =>
    if startsPlain cs then
      let (text, after) := plainText ' ' cs
      (endLine after).map fun rest => (resolve text, rest)
    else none

/-- What a stream consists of. -/
inductive Item
  /-- The beginning of a document. -/
  | marker
  /-- A key at a column, and its value if there is one on the same line. -/
  | entry (column : Nat) (key : String) (value : Option Json)

/-- The most characters that a key may have before its colon. -/
def keyLimit : Nat := 1024

/-- What stands after the colon of a key at a column, if it is not on other lines, and the rest of
the stream. -/
def scanAfterKey (column : Nat) (cs : List Char) : Option (Option Json × List Char) :=
  match endLine cs with
  | some rest => some (none, rest)
  | none => (scanValue column (cs.dropWhile isBlank)).map fun (value, rest) => (some value, rest)

/-- A key at a column, with its value, and the rest of the stream. -/
def scanEntry (column : Nat) (cs : List Char) : Option (Item × List Char) :=
  let (text, after) := plainText ' ' cs
  if startsPlain cs ∧ text.length < keyLimit then
    match resolve text, after with
    | .text key, ':' :: cs =>
      (scanAfterKey column cs).map fun (value, rest) => (.entry column key value, rest)
    | _, _ => none
  else none

/-- Whether a line starts with one of the marks for the beginning or the end of a document. -/
def startsMark (mark : Char) (line : List Char) : Bool :=
  [mark, mark, mark].isPrefixOf line && spaceNext (line.drop 3)

/-- Read on at the start of a line, after some items. -/
def lineStep (items : List Item) (cs : List Char) :
    Option (Text.Step (List Item) (List Item) × List Char) :=
  let column := (cs.takeWhile (· == ' ')).length
  match cs.dropWhile (· == ' ') with
  | [] => some (.done items, [])
  | c :: rest =>
    if isBreak c then some (.next items, rest)
    else if c = '#' then some (.next items, dropLine rest)
    else if column = 0 ∧ startsMark '-' (c :: rest) then
      (endLine (rest.drop 2)).map fun rest => (.next (items ++ [.marker]), rest)
    else if column = 0 ∧ startsMark '.' (c :: rest) then none
    else (scanEntry column (c :: rest)).map fun (item, rest) => (.next (items ++ [item]), rest)

/-! ## Documents -/

/-- The keys of one map that were read so far, with their column. -/
abbrev OpenMap := Nat × List (String × Json)

/-- Put a key with its value before maps that are still open, those at greater columns first.  No
map has a key twice. -/
def addField (column : Nat) (key : String) (value : Json) : List OpenMap → Option (List OpenMap)
  | [] => some [(column, [(key, value)])]
  | (column', fields) :: maps =>
    if column = column' then
      if (fields.map Prod.fst).contains key then none
      else some ((column, (key, value) :: fields) :: maps)
    else if column' < column then some ((column, [(key, value)]) :: (column', fields) :: maps)
    else none

/-- Put a key before maps that are still open.  If it has no value on its line, its value is the map
at the next greater column, or nothing. -/
def addEntry (column : Nat) (key : String) : Option Json → List OpenMap → Option (List OpenMap)
  | some value, maps => addField column key value maps
  | none, (column', fields) :: maps =>
    if column < column' then addField column key (.object fields) maps
    else addField column key .null ((column', fields) :: maps)
  | none, [] => addField column key .null []

/-- The document that consists of the maps that are open. -/
def document? : List OpenMap → Option Json
  | [] => some .null
  | [(_, fields)] => some (.object fields)
  | _ => none

/-- Put an item before those that were read after it: maps that are still open, and whole
documents. -/
def addItem : Item → List OpenMap × List Json → Option (List OpenMap × List Json)
  | .entry column key value, (maps, documents) =>
    (addEntry column key value maps).map fun maps => (maps, documents)
  | .marker, (maps, documents) =>
    (document? maps).map fun document => ([], document :: documents)

/-- The maps that are open before some items, and the documents after them. -/
def assemble (items : List Item) (state : Option (List OpenMap × List Json)) :
    Option (List OpenMap × List Json) :=
  items.foldr (fun item state => state.bind (addItem item)) state

/-- The documents of a stream.  The first one needs no mark. -/
def read (cs : List Char) : Option (List Json) := do
  if !cs.all isReadable then none
  let (items, _) ← Text.walk lineStep [] (normalize cs)
  match ← assemble items (some ([], [])) with
  | ([], documents) => return documents
  | (maps, documents) => return (← document? maps) :: documents

/-- Folded lines, line breaks that are kept, and digits that are no number. -/
example : read "# keys\na: 'x\n\n  y'\nb: |+\n  z\n\nc: \x7b\x7d\nd: 007 # text\n".toList =
    some [.object [("a", .text "x\ny"), ("b", .text "z\n\n"), ("c", .object []),
      ("d", .text "007")]] := by
  cbv

end MountKeys.Yaml
