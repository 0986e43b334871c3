import MountKeys.SortedMap
import MountKeys.Utf8

/-!
# The cluster as its clients see it

Two kinds of objects hold keys.  Each one stands at a `Place` and is read back as `Stored`: a map of
byte strings, whatever fields the cluster keeps them in.  A call fails with a `ClusterError`.
-/

namespace MountKeys

/-- The kinds of objects that hold keys. -/
inductive Kind
  | secret
  | configMap
  deriving DecidableEq, Repr

/-- The name of the kind. -/
def Kind.label : Kind → String
  | .secret => "Secret"
  | .configMap => "ConfigMap"

/-- The name of the collection that holds the objects of the kind. -/
def Kind.plural : Kind → String
  | .secret => "secrets"
  | .configMap => "configmaps"

/-- Values of an object by their keys. -/
abbrev ByteMap := SortedMap String Bytes

/-- An object as it is read back. -/
structure Stored where
  name : String
  ns : String
  data : ByteMap
  /-- When the cluster first stored it, if it says so. -/
  created : Option String
  deriving DecidableEq

/-- Why a call on the cluster failed. -/
inductive ClusterError
  /-- The cluster answered that it does not do it. -/
  | rejected (code : Nat) (reason message : String)
  /-- There was no answer that could be read. -/
  | transport (text : String)
  /-- The object lacks what the call needs. -/
  | invalidObject (text : String)
  deriving DecidableEq, Repr

namespace ClusterError

/-- What went wrong, in words. -/
def message : ClusterError → String
  | .rejected code reason message => s!"API request rejected ({code} {reason}): {message}"
  | .transport text => s!"API request failed: {text}"
  | .invalidObject text => s!"invalid object: {text}"

/-- Whether the cluster refused to create what it already has. -/
def isAlreadyExists : ClusterError → Bool
  | .rejected code reason _ => code == 409 && reason == "AlreadyExists"
  | _ => false

/-- The reason that goes with a code. -/
def usualReason (code : Nat) : String :=
  match code with
  | 400 => "BadRequest"
  | 401 => "Unauthorized"
  | 403 => "Forbidden"
  | 404 => "NotFound"
  | 409 => "AlreadyExists"
  | 422 => "Invalid"
  | _ => "InternalError"

/-- A rejection with the reason that goes with its code. -/
def usual (code : Nat) (message : String) : ClusterError :=
  .rejected code (usualReason code) message

end ClusterError

/-- Where an object stands. -/
structure Place where
  ns : String
  kind : Kind
  name : String
  deriving DecidableEq, Repr

namespace Place

/-- Places are ordered by namespace, then by collection, then by name. -/
def sortKey (p : Place) : List String :=
  [p.ns, p.kind.plural, p.name]

theorem sortKey_inj {p q : Place} (h : p.sortKey = q.sortKey) : p = q := by
  obtain ⟨_, k, _⟩ := p
  obtain ⟨_, l, _⟩ := q
  cases k <;> cases l <;> simp_all [sortKey, Kind.plural]

instance : Ord Place := ⟨fun p q => compare p.sortKey q.sortKey⟩

instance : Std.TransOrd Place where
  eq_swap {p q} := @Std.OrientedCmp.eq_swap (List String) compare _ p.sortKey q.sortKey
  isLE_trans {p q r} h h' :=
    @Std.TransCmp.isLE_trans (List String) compare _ p.sortKey q.sortKey r.sortKey h h'

instance : Std.LawfulEqOrd Place where
  compare_self {p} := @Std.ReflCmp.compare_self (List String) compare _ p.sortKey
  eq_of_compare {p q} h :=
    sortKey_inj (@Std.LawfulEqCmp.eq_of_compare (List String) compare _ p.sortKey q.sortKey h)

end Place

end MountKeys
