import MountKeys.Log.Pattern.Bracket
import MountKeys.Text.Alphanumeric

/-!
# Patterns of field values

A directive of a filter may ask for the value of a field, as a number or by a regular expression.
`Pattern.isValue` says which texts can stand there: an expression has to be well formed, not nested
too deeply, and such that a finite automaton can run it over text.
-/

namespace MountKeys.Pattern

/-! ## Groups -/

/-- A group that is open, or the pattern as a whole. -/
structure Group where
  /-- The parts of the last branch. -/
  row : Row
  /-- How deep the last part is nested, if it may be repeated. -/
  last : Option Nat
  /-- How deep the deepest branch before is nested. -/
  branches : Option Nat
  deriving DecidableEq, Repr

namespace Group

/-- A group of which nothing is read. -/
def empty : Group :=
  ⟨.empty, none, none⟩

/-- The group with one more part. -/
def add (g : Group) (depth : Nat) : Group :=
  { g with row := g.row.add depth, last := some depth }

/-- The group with flags at its end. -/
def addFlags (g : Group) : Group :=
  { g with row := g.row.add 0, last := none }

/-- The group with its last part repeated. -/
def repeated? (g : Group) : Option Group :=
  g.last.map fun d =>
    { g with row := ⟨g.row.count, max g.row.deepest (d + 1)⟩, last := some (d + 1) }

/-- How deep the branches are nested that end here. -/
def branchDepth (g : Group) : Nat :=
  max (g.branches.getD 0) g.row.depth

/-- The group with a new branch. -/
def branch (g : Group) : Group :=
  ⟨.empty, none, some g.branchDepth⟩

/-- How deep the parts of the group are nested. -/
def depth (g : Group) : Nat :=
  if g.branches.isSome then g.branchDepth + 1 else g.branchDepth

end Group

/-! ## What opens a group -/

/-- The flags that there are; a hyphen turns those after it off. -/
def flagLetters : List Char :=
  ['i', 'm', 's', 'U', 'u', 'R', 'x', '-']

/-- Flags up to the colon or parenthesis after them, in order, each one once. -/
def flags? (seen : List Char) : List Char → Option (List Char × Char × List Char)
  | [] => none
  | c :: rest =>
    if c = ':' ∨ c = ')' then
      if seen.head? = some '-' then none else some (seen.reverse, c, rest)
    else if flagLetters.contains c && !seen.contains c then flags? (c :: seen) rest
    else none

/-- What flags say of one of them, or what held before. -/
def flagState (flags : List Char) (flag : Char) (before : Bool) : Bool :=
  if (flags.takeWhile (· != '-')).contains flag then true
  else if flags.contains flag then false
  else before

/-- The mode after flags. -/
def Mode.set (m : Mode) (flags : List Char) : Mode :=
  ⟨flagState flags 'x' m.spaced, flagState flags 'u' m.wide⟩

/-- Whether a name of a group may begin with a character. -/
def mayStartName (c : Char) : Bool :=
  c == '_' || Text.isLetter c

/-- Whether a name of a group may go on with a character. -/
def mayFollowInName (c : Char) : Bool :=
  c == '_' || c == '.' || c == '[' || c == ']' || Text.isAlphanumeric c

/-- The name of a group up to its closing mark; no two groups have the same. -/
def name? (names : List (List Char)) (cs : List Char) : Option (List Char × List Char) :=
  let name := cs.takeWhile (· != '>')
  match name, cs.drop name.length with
  | c :: more, '>' :: rest =>
    if mayStartName c && more.all mayFollowInName && !names.contains name then some (name, rest)
    else none
  | _, _ => none

/-- What a parenthesis opens. -/
inductive Opening
  /-- A group that is read in a mode. -/
  | group (mode : Mode)
  /-- A group with a name. -/
  | named (name : List Char)
  /-- No group: flags for what follows. -/
  | flags (mode : Mode)
  deriving DecidableEq, Repr

/-- What stands after a parenthesis.  To look ahead or behind is beyond an automaton. -/
def opening? (m : Mode) (names : List (List Char)) (cs : List Char) :
    Option (Opening × List Char) :=
  match m.skip cs with
  | '?' :: '=' :: _ | '?' :: '!' :: _ | '?' :: '<' :: '=' :: _ | '?' :: '<' :: '!' :: _ => none
  | '?' :: 'P' :: '<' :: rest | '?' :: '<' :: rest =>
    (name? names rest).map fun (name, rest) => (.named name, rest)
  | '?' :: rest =>
    match flags? [] rest with
    | some (flags, ':', rest) => some (.group (m.set flags), rest)
    | some ([], _, _) => none
    | some (flags, _, rest) => some (.flags (m.set flags), rest)
    | none => none
  | rest => some (.group m, rest)

/-! ## Whole patterns -/

/-- How far a pattern is read. -/
structure State where
  mode : Mode
  /-- The names of groups so far. -/
  names : List (List Char)
  group : Group
  /-- The groups that this one lies in, the nearest first, with their modes. -/
  outer : List (Group × Mode)

namespace State

/-- Nothing is read. -/
def initial : State :=
  ⟨.initial, [], .empty, []⟩

/-- Go on with the group as `g`. -/
def go (s : State) (g : Group) (rest : List Char) :
    Option (Text.Step State Nat × List Char) :=
  some (.next { s with group := g }, rest)

/-- Go on after an opening. -/
def enter (s : State) (o : Opening) : State :=
  match o with
  | .group mode => { s with mode, group := .empty, outer := (s.group, s.mode) :: s.outer }
  | .named name =>
    { s with names := name :: s.names, group := .empty, outer := (s.group, s.mode) :: s.outer }
  | .flags mode => { s with mode, group := s.group.addFlags }

/-- One step; at the end the result is how deep the pattern is nested. -/
def step (s : State) (cs : List Char) : Option (Text.Step State Nat × List Char) :=
  match s.mode.skip cs with
  | [] => if s.outer.isEmpty then some (.done s.group.depth, []) else none
  | c :: rest =>
    match c with
    | '(' => (opening? s.mode s.names rest).map fun (o, rest) => (.next (s.enter o), rest)
    | ')' =>
      match s.outer with
      | [] => none
      | (g, mode) :: outer =>
        some (.next { s with mode, group := g.add (s.group.depth + 1), outer }, rest)
    | '|' => s.go s.group.branch rest
    | '[' => (bracket? s.mode rest).bind fun (depth, rest) => s.go (s.group.add depth) rest
    | '?' | '*' | '+' =>
      s.group.repeated?.bind fun g => s.go g (if rest.head? = some '?' then rest.drop 1 else rest)
    | '\\' => (escape? s.mode rest).bind fun (_, rest) => s.go (s.group.add 0) rest
    | '.' => if s.mode.wide then s.go (s.group.add 0) rest else none
    -- A count would need a closing brace, but that ends the fields of a directive.
    | '\x7b' => none
    | _ => s.go (s.group.add 0) rest

end State

/-- How deep a pattern may be nested. -/
def depthLimit : Nat := 250

/-- Whether a text is a regular expression that can be used. -/
def isPattern (cs : List Char) : Bool :=
  match Text.walk State.step .initial cs with
  | some (depth, _) => depth ≤ depthLimit
  | none => false

/-! ## Numbers -/

/-- The text after a sign, if there is one. -/
def unsigned (cs : List Char) : List Char :=
  if cs.head? = some '+' ∨ cs.head? = some '-' then cs.drop 1 else cs

/-- Whether a text is one digit or more. -/
def isDigits (cs : List Char) : Bool :=
  !cs.isEmpty && cs.all Char.isDigit

/-- Whether what follows the digits of a number is nothing or an exponent. -/
def isExponent : List Char → Bool
  | [] => true
  | c :: rest => (c == 'e' || c == 'E') && isDigits (unsigned rest)

/-- Whether a text is a decimal number, with digits on one side of the point at least. -/
def isDecimal (cs : List Char) : Bool :=
  let whole := cs.takeWhile Char.isDigit
  match cs.drop whole.length with
  | '.' :: rest =>
    let part := rest.takeWhile Char.isDigit
    (!whole.isEmpty || !part.isEmpty) && isExponent (rest.drop part.length)
  | rest => !whole.isEmpty && isExponent rest

/-- The words for what no digits write. -/
def numberWords : List String :=
  ["inf", "infinity", "nan"]

/-- Whether a text is a number. -/
def isNumber (cs : List Char) : Bool :=
  let cs := unsigned cs
  isDecimal cs || numberWords.contains (String.ofList (cs.map Char.toLower))

/-- Whether a text may stand for the value of a field. -/
def isValue (cs : List Char) : Bool :=
  isNumber cs || isPattern cs

end MountKeys.Pattern
