import MountKeys.FileFault
import MountKeys.Keys.Load
import MountKeys.SortedMap

/-!
# Trees of files

A file system as a value: what stands at each place below the root, and the directory that relative
paths start from.  `FileTree.read` follows a path as a system does, symbolic links included;
`write`, `makeDirectory` and `makeLink` build a tree.
-/

namespace MountKeys

/-- What may stand at a place. -/
inductive Node
  | file (f : File)
  | directory
  | link (target : Path)
  /-- Something else, such as a device. -/
  | special
  deriving DecidableEq

/-- Places are lists of names, from the root down. -/
structure FileTree where
  /-- What stands at each place; the root is a directory without an entry. -/
  nodes : SortedMap (List Bytes) Node
  /-- The directory that relative paths start from. -/
  here : List Bytes
  deriving DecidableEq

namespace FileTree

/-! ## Following a path -/

/-- The most bytes that a path may have. -/
def pathLimit : Nat := 4095

/-- The most bytes that a name may have. -/
def nameLimit : Nat := 255

/-- The most links that are followed on one path. -/
def linkLimit : Nat := 40

/-- The parts of a path between separators. -/
def parts : Bytes → List Bytes
  | [] => [[]]
  | b :: rest =>
    if b = Path.separator then [] :: parts rest
    else
      match parts rest with
      | [] => [[b]]
      | part :: more => (b :: part) :: more

/-- The name of a directory for itself. -/
def self : Bytes := [0x2E]

/-- The name of the directory above. -/
def parent : Bytes := [0x2E, 0x2E]

/-- What stands at a place. -/
def node? (t : FileTree) (place : List Bytes) : Option Node :=
  if place.isEmpty then some .directory else t.nodes.get? place

/-- Where a path starts. -/
def startOf (place : List Bytes) (p : Path) : List Bytes :=
  if p.isAbsolute then [] else place

/-- Where a path leads. -/
inductive Spot
  | found (place : List Bytes) (node : Node)
  /-- The directory of the last name is there, but nothing of that name in it. -/
  | vacant (place : List Bytes)
  deriving DecidableEq

/-- Follow parts of a path from a place, with so many links left to follow. -/
def walk (t : FileTree) (links : Nat) (place : List Bytes) (todo : List Bytes) :
    Except FileFault Spot :=
  match todo with
  | [] =>
    match t.node? place with
    | some node => .ok (.found place node)
    | none => .error .notFound
  | part :: rest =>
    match t.node? place with
    | some .directory =>
      if part = [] ∨ part = self then walk t links place rest
      else if part = parent then walk t links place.dropLast rest
      else if nameLimit < part.length then .error .nameTooLong
      else
        let next := place ++ [part]
        match t.node? next with
        | none => if rest.isEmpty then .ok (.vacant next) else .error .notFound
        | some (.link target) =>
          match links with
          | 0 => .error .tooManyLinks
          | links + 1 =>
            walk t links (startOf place target) (parts target.bytes ++ rest)
        | some _ => walk t links next rest
    | some _ => .error .notADirectory
    | none => .error .notFound
termination_by (links, todo.length)
decreasing_by
  all_goals simp_wf
  all_goals first
    | (apply Prod.Lex.right; simp)
    | (apply Prod.Lex.left; omega)

/-- Where a path leads. -/
def locate (t : FileTree) (p : Path) : Except FileFault Spot :=
  if p.bytes.contains 0 then .error .zeroByte
  else if pathLimit < p.bytes.length then .error .nameTooLong
  else if p.bytes.isEmpty then .error .notFound
  else t.walk linkLimit (startOf t.here p) (parts p.bytes)

/-- The regular file at a path. -/
def read (t : FileTree) : Files := fun p =>
  match t.locate p with
  | .error fault => .error fault
  | .ok (.found _ (.file f)) => .ok f
  | .ok (.found _ _) => .error .notRegular
  | .ok (.vacant _) => .error .notFound

/-! ## Building a tree -/

/-- Have something at a place, in place of what was there. -/
def put (t : FileTree) (place : List Bytes) (node : Node) : FileTree :=
  { t with nodes := t.nodes.insert place node }

/-- Whether a name may be given to something new. -/
def isNewName (name : Bytes) : Bool :=
  !(name = [] || name = self || name = parent || nameLimit < name.length || name.contains 0)

/-- Have the directories on the way down from a place, and say where it ends; there is none through
a file. -/
def makeWay (t : FileTree) (place : List Bytes) : List Bytes → Option (FileTree × List Bytes)
  | [] => some (t, place)
  | part :: rest =>
    if part = [] ∨ part = self then makeWay t place rest
    else if part = parent then makeWay t place.dropLast rest
    else
      let next := place ++ [part]
      match t.node? next with
      | none => if isNewName part then makeWay (t.put next .directory) next rest else none
      | some .directory => makeWay t next rest
      | some (.link _) =>
        match t.walk linkLimit place [part] with
        | .ok (.found found .directory) => makeWay t found rest
        | _ => none
      | some _ => none

/-- Have a directory, and those above it. -/
def makeDirectory (t : FileTree) (p : Path) : FileTree :=
  ((t.makeWay (startOf t.here p) (parts p.bytes)).map Prod.fst).getD t

/-- Have the directories above the last name of a path, and say where they end and what stands
after the last separator. -/
def makeParents (t : FileTree) (p : Path) : Option (FileTree × List Bytes × Bytes) :=
  let all := parts p.bytes
  let above := (all.filter fun part => part ≠ [] ∧ part ≠ self).dropLast
  (t.makeWay (startOf t.here p) above).map fun (t, place) => (t, place, all.getLastD [])

/-- Have a file, in place of what the file at that path held; nothing where that cannot be. -/
def write (t : FileTree) (p : Path) (f : File) : FileTree :=
  match t.makeParents p with
  | none => t
  | some (t, place, name) =>
    if !isNewName name then t
    else
      match t.walk linkLimit place [name] with
      | .ok (.vacant spot) => t.put spot (.file f)
      | .ok (.found spot (.file _)) => t.put spot (.file f)
      | _ => t

/-- Have a link, if nothing of its name is there. -/
def makeLink (t : FileTree) (p target : Path) : FileTree :=
  match t.makeParents p with
  | none => t
  | some (t, place, name) =>
    if !isNewName name || target.bytes.isEmpty || target.bytes.contains 0 ||
        (t.node? (place ++ [name])).isSome then t
    else t.put (place ++ [name]) (.link target)

/-- Lose what is at a path and all that is in it. -/
def remove (t : FileTree) (p : Path) : FileTree :=
  match t.makeParents p with
  | none => t
  | some (_, place, name) =>
    { t with nodes := t.nodes.filter fun spot _ => !(place ++ [name]).isPrefixOf spot }

end FileTree

end MountKeys
