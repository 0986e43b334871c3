import MountKeys.Log.Level
import MountKeys.Log.Pattern
import MountKeys.Text.Basic
import MountKeys.Text.Lowercase

/-!
# Which events are logged

A filter is a list of directives.  A plain directive gives a level to the events of a part of the
program, named by the start of its path, or to all events, or to those that have a field; of the
plain directives that an event falls under the closest counts, and an event under none is not
logged.  The other directives are about spans, stretches of work in which events happen: what
happens in a span is logged to the level of any directive that the span falls under.

`Filter.standardText` is the filter of a run that sets a level only, and `Filter.read?` reads the
text of a filter.
-/

namespace MountKeys

/-- What a directive asks of the fields of an event or a span. -/
structure FieldTest where
  name : List Char
  /-- The value of the field has to be a certain one. -/
  hasValue : Bool
  deriving DecidableEq, Repr

/-- A level for some of the events. -/
structure Directive where
  /-- The start of the path of a part; none stands for the whole program and all it uses. -/
  scope : Option (List Char)
  /-- The name of a span. -/
  span : Option (List Char)
  field : Option FieldTest
  /-- How many levels are logged. -/
  depth : Nat
  deriving DecidableEq, Repr

/-- Which events are logged. -/
abbrev Filter := List Directive

/-- A stretch of work in which events happen. -/
structure Span where
  name : String
  /-- The path of the part that does the work. -/
  scope : String
  /-- The names of its fields. -/
  fields : List String
  deriving DecidableEq, Repr

namespace Filter

/-! ## The standard filter -/

/-- The level that a text names, whatever its case and the blanks around it. -/
def levelOf (text : String) : Level :=
  let word := Text.lower (Text.trim text.toList)
  if word = "warning".toList then .warn
  else (Level.all.find? fun l => l.word.toList == word).getD .info

/-- The filter of a run at a level: this program at the level, everything else from warnings on. -/
def standardText (level : String) : String :=
  s!"warn,sshfs_keysync={(levelOf level).word}"

/-! ## Reading a filter -/

/-- The number of levels that a text names, by a number or by a word. -/
def depth? (cs : List Char) : Option Nat :=
  let digits := if cs.head? = some '+' then cs.drop 1 else cs
  if !digits.isEmpty && digits.all Char.isDigit then
    if Text.decimal digits ≤ 5 then some (Text.decimal digits) else none
  else
    let word := cs.map Char.toLower
    if word = "off".toList then some 0
    else (Level.all.find? fun l => l.word.toList == word).map Level.rank

/-- The number of levels after an equals sign; nothing stands for all. -/
def depthOrAll? (cs : List Char) : Option Nat :=
  if cs.isEmpty then some 5 else depth? cs

/-- Whether a directive may start with a character. -/
def mayStart (c : Char) : Bool :=
  c == '-' || c == ':' || c == '_' || Text.isAlphanumeric c

/-- What follows some bytes of a text, if they end between characters. -/
def dropBytes : Nat → List Char → Option (List Char)
  | 0, cs => some cs
  | _ + 1, [] => none
  | n + 1, c :: rest => if c.utf8Size ≤ n + 1 then dropBytes (n + 1 - c.utf8Size) rest else none
termination_by _ cs => cs.length

/-- Some bytes of a text, if they end between characters. -/
def takeBytes : Nat → List Char → Option (List Char)
  | 0, _ => some []
  | _ + 1, [] => none
  | n + 1, c :: rest =>
    if c.utf8Size ≤ n + 1 then (takeBytes (n + 1 - c.utf8Size) rest).map (c :: ·) else none
termination_by _ cs => cs.length

/-- The bytes of a text from one place to another. -/
def between (start stop : Nat) (cs : List Char) : Option (List Char) :=
  (dropBytes start cs).bind (takeBytes (stop - start))

/-- The piece of a directive that is being read; `start` is where it begins. -/
inductive Piece
  /-- A level or a path. -/
  | first
  /-- The name of a span. -/
  | span (start : Nat)
  | field (start : Nat)
  /-- Nothing: the field is over, and the bracket has to end. -/
  | afterField
  /-- Nothing: the bracket is over. -/
  | afterBracket
  | level (start : Nat)
  deriving DecidableEq, Repr

/-- A field that a directive asks for, with its value after an equals sign. -/
def fieldTest? (cs : List Char) : Option FieldTest :=
  if cs.isEmpty then none
  else
    match Text.cutAt '=' cs with
    | name :: value :: _ => if Pattern.isValue value then some ⟨name, true⟩ else none
    | name :: [] => some ⟨name, false⟩
    | [] => none

/-- What a character does to a directive that is read up to place `i`. -/
def advance (part : List Char) (i : Nat) (c : Char) :
    Piece → Directive → Option (Piece × Directive)
  | .first, d =>
    if c = '=' then (between 0 i part).map fun scope => (.level (i + 1), { d with scope })
    else if c = '[' then (between 0 i part).map fun scope => (.span (i + 1), { d with scope })
    else some (.first, d)
  | .span start, d =>
    if c = ']' then (between start i part).map fun span => (.afterBracket, { d with span })
    else if c = '\x7b' then
      (between start i part).map fun span =>
        (.field (i + 1), { d with span := if span.isEmpty then none else some span })
    else some (.span start, d)
  | .field start, d =>
    if c = '\x7d' then
      ((between start i part).bind fieldTest?).map fun field => (.afterField, { d with field })
    else some (.field start, d)
  | .afterField, d => if c = ']' then some (.afterBracket, d) else none
  | .afterBracket, d => if c = '=' then some (.level (i + 1), d) else none
  | .level start, d => some (.level start, d)

/-- The directive at the end of a part of a filter. -/
def conclude (part : List Char) : Piece → Directive → Option Directive
  | .first, d =>
    match depth? part with
    | some depth => some { d with depth }
    | none => some { d with scope := some part }
  | .level start, d =>
    ((dropBytes start part).bind depthOrAll?).map fun depth => { d with depth }
  | .afterBracket, d => some d
  | _, _ => none

/-- Read the rest of a part of a filter from place `i` on. -/
def readPiece (part : List Char) (i : Nat) (p : Piece) (d : Directive) :
    List Char → Option Directive
  | [] => conclude part p d
  | c :: rest =>
    match advance part i c p d with
    | some (p, d) => readPiece part (i + c.utf8Size) p d rest
    | none => none

/-- The directive that a part of a filter writes.  Where a piece of it stands is counted without the
blanks at the start of the part, yet the piece is cut out of the part with them. -/
def directive? (part : List Char) : Option Directive :=
  let nothing : Directive := ⟨none, none, none, 5⟩
  match Text.trim part with
  | [] => none
  | c :: rest =>
    if c = '[' then readPiece part 1 (.span 1) nothing rest
    else if mayStart c then readPiece part c.utf8Size .first nothing rest
    else none

/-- The directives of some parts, if every one of them can be read. -/
def directives? : List (List Char) → Option Filter
  | [] => some []
  | part :: rest =>
    if part.isEmpty then directives? rest
    else
      match directive? part, directives? rest with
      | some d, some more => some (d :: more)
      | _, _ => none

/-- The filter that a text writes: directives between commas. -/
def read? (text : String) : Option Filter :=
  directives? (Text.cutAt ',' text.toList)

/-- The filter of a run: the one that the environment sets, if it can be read, else the standard
one. -/
def ofSettings (setting : Option String) (level : String) : Filter :=
  ((setting.bind read?).orElse fun _ => read? (standardText level)).getD []

/-! ## Applying a filter -/

/-- The names of the fields of an event: all that an event has is its message. -/
def eventFields : List String :=
  ["message"]

/-- Whether a directive is about something at a path with some fields. -/
def Directive.concerns (d : Directive) (path : String) (fields : List String) : Bool :=
  d.scope.all (·.isPrefixOf path.toList) && d.field.all fun f => fields.any (·.toList == f.name)

/-- Whether a directive is about events by themselves. -/
def Directive.isPlain (d : Directive) : Bool :=
  d.span.isNone && !d.field.any FieldTest.hasValue

/-- How closely a directive names what it is about: by the length of the path, then by the field. -/
def Directive.closeness (d : Directive) : Nat :=
  (match d.scope with
    | some scope => 2 * (scope.length + 1)
    | none => 0) + if d.field.isSome then 1 else 0

/-- The plain directive that counts for the events at a path; of two for the same, the later. -/
def closest (f : Filter) (path : String) : Option Directive :=
  (f.filter fun d => Directive.isPlain d && Directive.concerns d path eventFields).foldl
    (fun best d =>
      match best with
      | some b => if Directive.closeness b ≤ Directive.closeness d then some d else best
      | none => some d) none

/-- Whether a directive is about what happens in a span.  Which value a field has is not known, so
that no directive about a value is. -/
def Directive.enters (d : Directive) (s : Span) : Bool :=
  (d.span.isSome || d.field.isSome) && !d.field.any FieldTest.hasValue &&
    d.span.all (· == s.name.toList) && Directive.concerns d s.scope s.fields

/-- Whether events of a level are logged for the span that they happen in. -/
def allowsIn (f : Filter) (level : Level) (s : Span) : Bool :=
  f.any fun d => Directive.enters d s && level.rank ≤ d.depth

/-- Whether events of a level at a path are logged, in a span or in none. -/
def allows (f : Filter) (path : String) (level : Level) (span : Option Span) : Bool :=
  span.any (allowsIn f level) ||
    match closest f path with
    | some d => level.rank ≤ d.depth
    | none => false

end Filter

end MountKeys
