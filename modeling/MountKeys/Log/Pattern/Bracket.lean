import MountKeys.Log.Pattern.Atom
import MountKeys.Text.Walk

/-!
# Sets of characters between brackets

A bracket holds characters, ranges, classes and other brackets, and joins such sets by operators.
`Pattern.bracket?` reads one to its end and says how deep it is nested.
-/

namespace MountKeys.Pattern

/-- Parts that stand one after the other. -/
structure Row where
  count : Nat
  /-- How deep the deepest part is nested. -/
  deepest : Nat
  deriving DecidableEq, Repr

namespace Row

/-- No parts. -/
def empty : Row :=
  ⟨0, 0⟩

/-- The row with one more part at its end. -/
def add (r : Row) (depth : Nat) : Row :=
  ⟨r.count + 1, max r.deepest depth⟩

/-- How deep the row is nested: a single part stands for itself. -/
def depth (r : Row) : Nat :=
  if r.count ≤ 1 then r.deepest else r.deepest + 1

end Row

/-- A bracket that is open. -/
structure Bracket where
  /-- What was read since the last operator. -/
  row : Row
  /-- How deep that is nested which is before the last operator. -/
  before : Option Nat
  /-- Nothing but hyphens was read. -/
  fresh : Bool
  deriving DecidableEq, Repr

namespace Bracket

/-- A bracket of which nothing is read. -/
def empty : Bracket :=
  ⟨.empty, none, true⟩

/-- The bracket with one more part. -/
def add (b : Bracket) (depth : Nat) : Bracket :=
  { b with row := b.row.add depth, fresh := false }

/-- The bracket with one more hyphen at its start. -/
def addHyphen (b : Bracket) : Bracket :=
  { b with row := b.row.add 0 }

/-- How deep the sets in the bracket are nested. -/
def depth (b : Bracket) : Nat :=
  match b.before with
  | none => b.row.depth
  | some d => max d b.row.depth + 1

/-- The bracket after an operator. -/
def operate (b : Bracket) : Bracket :=
  ⟨.empty, some b.depth, false⟩

end Bracket

/-- The classes that have a name. -/
def classNames : List String :=
  ["alnum", "alpha", "ascii", "blank", "cntrl", "digit", "graph", "lower", "print", "punct",
    "space", "upper", "word", "xdigit"]

/-- A class by its name, after the bracket that opens it: whether it is turned round, and what
follows it. -/
def named? : List Char → Option (Bool × List Char)
  | ':' :: rest =>
    let turned := rest.head? = some '^'
    let rest := if turned then rest.drop 1 else rest
    let name := rest.takeWhile (· != ':')
    match rest.drop name.length with
    | ':' :: ']' :: rest =>
      if classNames.contains (String.ofList name) then some (turned, rest) else none
    | _ => none
  | _ => none

/-- What follows the start of a bracket, of which bytes know no rest. -/
def opened? (m : Mode) (cs : List Char) : Option (List Char) :=
  match m.skip cs with
  | '^' :: rest => if m.wide then some rest else none
  | cs => some cs

/-- A character or a class in a bracket. -/
def member? (m : Mode) : List Char → Option (Atom × List Char)
  | [] => none
  | '\\' :: rest => escape? m rest
  | c :: rest => some (.char c, rest)

/-- Whether a part may stand in a bracket. -/
def Mode.admits (m : Mode) : Atom → Bool
  | .char c => m.wide || c.toNat < 0x80
  | .one => true
  | .place => false

/-- What follows a character, a class or a range of characters. -/
def range? (m : Mode) (cs : List Char) : Option (List Char) :=
  match member? m cs with
  | none => none
  | some (first, rest) =>
    if !m.admits first then none
    else
      match m.skip rest with
      | '-' :: rest =>
        if m.peek? rest = some ']' ∨ m.peek? rest = some '-' then some ('-' :: rest)
        else
          match first, member? m (m.skip rest) with
          | .char low, some (.char high, rest) =>
            if m.admits (.char high) && low ≤ high then some rest else none
          | _, _ => none
      | rest => some rest

/-- One step in a bracket that may lie in others, the nearest first. -/
def bracketStep (m : Mode) (s : Bracket × List Bracket) (cs : List Char) :
    Option (Text.Step (Bracket × List Bracket) Nat × List Char) :=
  let (b, outer) := s
  match m.skip cs with
  | [] => none
  | '[' :: rest =>
    match named? rest with
    | some (turned, rest) =>
      if turned && !m.wide then none else some (.next (b.add 0, outer), rest)
    | none => (opened? m rest).map fun rest => (.next (.empty, b :: outer), rest)
  | ']' :: rest =>
    if b.fresh && b.row.count == 0 then some (.next (b.add 0, outer), rest)
    else
      match outer with
      | [] => some (.done (b.depth + 1), rest)
      | o :: outer => some (.next (o.add (b.depth + 1), outer), rest)
  | '-' :: rest =>
    if b.fresh then some (.next (b.addHyphen, outer), rest)
    else
      match rest with
      | '-' :: rest => some (.next (b.operate, outer), rest)
      | _ => (range? m ('-' :: rest)).map fun rest => (.next (b.add 0, outer), rest)
  | '&' :: '&' :: rest => some (.next (b.operate, outer), rest)
  | '~' :: '~' :: rest => some (.next (b.operate, outer), rest)
  | cs => (range? m cs).map fun rest => (.next (b.add 0, outer), rest)

/-- What follows a bracket, after the mark that opens it, and how deep it is nested. -/
def bracket? (m : Mode) (cs : List Char) : Option (Nat × List Char) :=
  (opened? m cs).bind (Text.walk (bracketStep m) (.empty, []))

end MountKeys.Pattern
