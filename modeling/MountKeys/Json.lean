import MountKeys.SortedMap

/-!
# JSON values

A value keeps its numbers as they are written and its fields in their order, repeated names
included, so that a reader of a value decides what they mean.  `Json.Printer` writes a value and
`Json.Parser` reads one.
-/

namespace MountKeys

/-- A JSON value. -/
inductive Json
  | null
  | bool (b : Bool)
  /-- A number as it is written. -/
  | number (lexeme : String)
  | text (s : String)
  /-- A text that is written with half of a surrogate pair, or an object with such a name: it may
  stand where nobody reads it, but it has no value. -/
  | unreadable
  | array (items : List Json)
  | object (fields : List (String × Json))
  deriving Inhabited, Repr

namespace Json

/-- The object with the entries of a map as its fields. -/
def ofMap (f : ν → Json) (m : SortedMap String ν) : Json :=
  .object (m.entries.map fun e => (e.1, f e.2))

/-- A value that may be absent, as a field or no field. -/
def field (name : String) : Option Json → List (String × Json)
  | some value => [(name, value)]
  | none => []

/-- The value of a field among fields; of several of that name the last counts. -/
def lookup (name : String) : List (String × Json) → Option Json
  | [] => none
  | (k, v) :: rest =>
    match lookup name rest with
    | some found => some found
    | none => if k = name then some v else none

/-- The value of a field of an object. -/
def field? (name : String) : Json → Option Json
  | .object fields => lookup name fields
  | _ => none

/-- The text that a value is. -/
def text? : Json → Option String
  | .text s => some s
  | _ => none

/-- The fields of an object; no others have any. -/
def fields : Json → List (String × Json)
  | .object fields => fields
  | _ => []

/-- Fields with one set: in its place if there is one of that name, else at the end. -/
def put (name : String) (value : Json) : List (String × Json) → List (String × Json)
  | [] => [(name, value)]
  | (k, v) :: rest => if k = name then (k, value) :: rest else (k, v) :: put name value rest

/-- An object with a field set; anything else becomes an object with that field alone. -/
def setField (j : Json) (name : String) (value : Json) : Json :=
  .object (put name value j.fields)

end Json

end MountKeys
