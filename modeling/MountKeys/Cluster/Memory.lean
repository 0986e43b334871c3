import MountKeys.Cluster.Call

/-!
# A cluster in memory

A cluster that keeps no more of an object than its values and when it was first stored.
`Store.answer` is how it answers calls; the other operations are what another client of the same
cluster may do to it.
-/

namespace MountKeys

/-- What a cluster in memory holds. -/
structure Store where
  namespaces : SortedMap String Unit
  objects : SortedMap Place Stored
  /-- How many times of creation were given out. -/
  clock : Nat
  deriving DecidableEq

namespace Store

/-- The cluster that holds nothing. -/
def empty : Store :=
  ⟨∅, ∅, 0⟩

/-- Have a namespace. -/
def addNamespace (s : Store) (ns : String) : Store :=
  { s with namespaces := s.namespaces.insert ns () }

/-- Lose a namespace and all that is in it. -/
def dropNamespace (s : Store) (ns : String) : Store :=
  { s with
    namespaces := s.namespaces.erase ns
    objects := s.objects.filter fun p _ => p.ns != ns }

/-- When an object at a place was first stored: as told, else as before, else now. -/
def createdAt (s : Store) (p : Place) (told : Option String) : String × Nat :=
  match told with
  | some created => (created, s.clock)
  | none =>
    match (s.objects.get? p).bind Stored.created with
    | some created => (created, s.clock)
    | none => (s!"created-{s.clock + 1}", s.clock + 1)

/-- Hold an object, in place of the one that was there. -/
def put (s : Store) (p : Place) (data : ByteMap) (told : Option String) : Store :=
  let (created, clock) := s.createdAt p told
  { s with objects := s.objects.insert p ⟨p.name, p.ns, data, some created⟩, clock }

/-- Lose an object. -/
def drop (s : Store) (p : Place) : Store :=
  { s with objects := s.objects.erase p }

/-- Hold an object if it says where and its namespace is there. -/
def apply (s : Store) (m : Manifest) : Except ClusterError Unit × Store :=
  match m.metadata.ns with
  | none => (.error (.invalidObject "missing namespace"), s)
  | some ns =>
    match m.metadata.name with
    | none => (.error (.invalidObject "missing name"), s)
    | some name =>
      if s.namespaces.contains ns then (.ok (), s.put ⟨ns, m.kind, name⟩ m.contents none)
      else (.error (.usual 404 s!"namespaces \"{ns}\" not found"), s)

/-- Answer a call. -/
def answer : Handler Call Call.Answer Store
  | .namespaceExists ns, s => (.ok (s.namespaces.contains ns), s)
  | .createNamespace ns, s =>
    if s.namespaces.contains ns then
      (.error (.usual 409 s!"namespaces \"{ns}\" already exists"), s)
    else (.ok (), s.addNamespace ns)
  | .apply m, s => s.apply m
  | .get p, s => (.ok (s.objects.get? p), s)

end Store

end MountKeys
