import MountKeys.Base64
import MountKeys.Json.Number
import MountKeys.Timestamp

/-!
# Shapes of JSON values

A shape says what a reader expects of a value.  `Json.fits` holds when every part of a value that
the reader looks at is as expected; names that a record does not list are passed over.  A record
may leave out each of its fields or give it as `null`, except for those that have one fixed text.
-/

namespace MountKeys.Json

/-- What a reader expects of a value. -/
inductive Shape
  | text
  | flag
  /-- A whole number of 64 bits with its sign. -/
  | integer
  /-- A text that names a point in time. -/
  | moment
  /-- A text that is base64; `null` stands for no bytes. -/
  | bytes
  /-- Any value that can be read as a whole and is not nested too deeply. -/
  | anything (depthLimit : Nat)
  /-- One text and no other. -/
  | exactly (s : String)
  | sequence (item : Shape)
  /-- An object of any names, with values of one shape. -/
  | table (item : Shape)
  /-- An object of known names. -/
  | record (fields : List (String × Shape))

mutual

/-- Whether every text and number in a value can be read. -/
def isReadable : Json → Bool
  | .unreadable => false
  | .number lexeme => isDouble lexeme.toList
  | .array items => areReadable items
  | .object fields => haveReadable fields
  | _ => true

/-- Whether every text and number in some values can be read. -/
def areReadable : List Json → Bool
  | [] => true
  | j :: rest => isReadable j && areReadable rest

/-- Whether every text and number in the values of some fields can be read. -/
def haveReadable : List (String × Json) → Bool
  | [] => true
  | (_, j) :: rest => isReadable j && haveReadable rest

end

mutual

/-- How deep a value is nested. -/
def depth : Json → Nat
  | .array items => itemsDepth items + 1
  | .object fields => fieldsDepth fields + 1
  | _ => 0

/-- How deep the deepest of some values is nested. -/
def itemsDepth : List Json → Nat
  | [] => 0
  | j :: rest => max (depth j) (itemsDepth rest)

/-- How deep the deepest value of some fields is nested. -/
def fieldsDepth : List (String × Json) → Nat
  | [] => 0
  | (_, j) :: rest => max (depth j) (fieldsDepth rest)

end

/-- Whether a shape may stand as `null` in a record. -/
def Shape.isOptional : Shape → Bool
  | .exactly _ => false
  | _ => true

/-- The shape of a name in a record. -/
def Shape.ofField (name : String) : List (String × Shape) → Option Shape
  | [] => none
  | (k, s) :: rest => if k = name then some s else ofField name rest

mutual

/-- Whether a value is as expected. -/
def fits : Shape → Json → Bool
  | .text, .text _ => true
  | .flag, .bool _ => true
  | .integer, .number lexeme => (wholeNumber? lexeme.toList).any isInt64
  | .moment, .text s => (Timestamp.parse? s.toList).isSome
  | .bytes, .text s => (Base64.decode? s.toList).isSome
  | .bytes, .null => true
  | .anything limit, j => isReadable j && depth j ≤ limit
  | .exactly expected, .text s => s == expected
  | .sequence item, .array items => allFit item items
  | .table item, .object fields => valuesFit item fields
  | .record shapes, .object fields => fieldsFit shapes fields
  | _, _ => false

/-- Whether every value is as expected. -/
def allFit (item : Shape) : List Json → Bool
  | [] => true
  | j :: rest => fits item j && allFit item rest

/-- Whether the value of every field is as expected. -/
def valuesFit (item : Shape) : List (String × Json) → Bool
  | [] => true
  | (_, j) :: rest => fits item j && valuesFit item rest

/-- Whether the fields of a record are as expected. -/
def fieldsFit (shapes : List (String × Shape)) : List (String × Json) → Bool
  | [] => true
  | (name, j) :: rest =>
    (match Shape.ofField name shapes with
      | none => true
      | some shape =>
        match j with
        | .null => shape.isOptional
        | j => fits shape j) && fieldsFit shapes rest

end

end MountKeys.Json
