import MountKeys.Cluster.Call
import MountKeys.Manifest.Render

/-!
# Inspecting

Look at what the cluster holds, without writing, and compare it with local keys if there are any.
The objects are in sync when every key in them was compared and is the local one.
-/

namespace MountKeys

/-- How a stored value compares with the local key. -/
inductive KeyMatch
  | same
  | different
  /-- The object has no such value. -/
  | missing
  /-- There is no local key. -/
  | unchecked
  deriving DecidableEq, Repr

/-- The comparison in words. -/
def KeyMatch.label : KeyMatch → String
  | .same => "matches local file"
  | .different => "differs from local file"
  | .missing => "missing"
  | .unchecked => "not checked"

/-- What the cluster holds of one object. -/
structure ObjectStatus where
  kind : Kind
  name : String
  found : Bool
  created : Option String
  /-- How each of its keys compares. -/
  keys : List (String × KeyMatch)
  deriving DecidableEq, Repr

namespace ObjectStatus

/-- Whether the object is there with the local keys. -/
def isInSync (s : ObjectStatus) : Bool :=
  s.found && s.keys.all fun k => k.2 == .same

/-- Whether a key of the object could not be compared. -/
def hasUnchecked (s : ObjectStatus) : Bool :=
  s.keys.any fun k => k.2 == .unchecked

end ObjectStatus

/-- What the cluster holds. -/
structure Inspection where
  ns : String
  namespaceFound : Bool
  secret : ObjectStatus
  configMap : ObjectStatus
  deriving DecidableEq, Repr

namespace Inspection

/-- Whether everything is there with the local keys. -/
def isInSync (i : Inspection) : Bool :=
  i.namespaceFound && i.secret.isInSync && i.configMap.isInSync

/-- Whether there was nothing to compare with. -/
def isExistenceOnly (i : Inspection) : Bool :=
  i.secret.hasUnchecked || i.configMap.hasUnchecked

/-- How the value of a key in an object compares with the local one. -/
def compareKey (stored : Option Stored) (key : String) (own : Option Bytes) : KeyMatch :=
  match stored.bind fun s => s.data.get? key with
  | none => .missing
  | some value =>
    match own with
    | none => .unchecked
    | some own => if value = own then .same else .different

/-- The status of an object with some keys and their local values. -/
def statusOf (place : Place) (stored : Option Stored) (keys : List (String × Option Bytes)) :
    ObjectStatus where
  kind := place.kind
  name := place.name
  found := stored.isSome
  created := stored.bind Stored.created
  keys := keys.map fun k => (k.1, compareKey stored k.1 k.2)

/-- The inspection of what was read. -/
def ofStored (names : Names) (own : Option KeyPair) (namespaceFound : Bool)
    (secret configMap : Option Stored) : Inspection :=
  let publicKey := (publicKeyEntry, own.map KeyPair.publicKey)
  { ns := names.ns
    namespaceFound
    secret := statusOf (names.place .secret) secret
      [(privateKeyEntry, own.map KeyPair.privateKey), publicKey]
    configMap := statusOf (names.place .configMap) configMap [publicKey] }

/-- Look at what the cluster holds.  Without the namespace there is nothing to read. -/
def run (names : Names) (own : Option KeyPair) : Session (Except ClusterError Inspection) := do
  match ← Session.namespaceExists names.ns with
  | .error e => return .error e
  | .ok false =>
    Dialogue.log (.readsSkipped names.ns)
    return .ok (ofStored names own false none none)
  | .ok true =>
    match ← Session.get (names.place .secret) with
    | .error e => return .error e
    | .ok secret =>
      match ← Session.get (names.place .configMap) with
      | .error e => return .error e
      | .ok configMap => return .ok (ofStored names own true secret configMap)

end Inspection

end MountKeys
