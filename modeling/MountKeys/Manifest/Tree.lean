import MountKeys.Json
import MountKeys.Yaml.Scalar

/-!
# Trees of texts

A manifest is texts under names under names.  The same tree is sent as JSON and shown as YAML.
-/

namespace MountKeys

/-- Texts under names. -/
inductive Tree
  | text (s : String)
  | map (entries : List (String × Tree))
  deriving Repr

namespace Tree

/-- A text under a name, or nothing. -/
def entry (name : String) : Option Tree → List (String × Tree)
  | some t => [(name, t)]
  | none => []

/-- The tree of a map of texts. -/
def ofMap (m : SortedMap String String) : Tree :=
  .map (m.entries.map fun e => (e.1, .text e.2))

mutual

/-- The tree as a JSON value. -/
def toJson : Tree → Json
  | .text s => .text s
  | .map entries => .object (entriesToJson entries)

/-- Entries as the fields of a JSON object. -/
def entriesToJson : List (String × Tree) → List (String × Json)
  | [] => []
  | (name, t) :: rest => (name, t.toJson) :: entriesToJson rest

end

mutual

/-- What stands after a key at a depth, up to the end of the line before the next key. -/
def printAfterKey (depth : Nat) : Tree → List Char
  | .text s => ' ' :: Yaml.printValue (2 * depth + 2) s.toList
  | .map [] => [' ', '\x7b', '\x7d', '\n']
  | .map (e :: rest) => '\n' :: printEntries (depth + 1) (e :: rest)

/-- Keys at a depth with what stands under them. -/
def printEntries (depth : Nat) : List (String × Tree) → List Char
  | [] => []
  | (name, t) :: rest =>
    Yaml.blanks (2 * depth) ++ Yaml.printKey name.toList ++ ':' :: printAfterKey depth t ++
      printEntries depth rest

end

/-- The tree as a YAML document without its marker. -/
def toYaml : Tree → List Char
  | .text s => Yaml.printValue 0 s.toList
  | .map [] => ['\x7b', '\x7d', '\n']
  | .map (e :: rest) => printEntries 0 (e :: rest)

end Tree

end MountKeys
