import MountKeys.Cluster.Call
import MountKeys.Keys.Fingerprint
import MountKeys.Keys.Load
import MountKeys.Manifest.Render
import MountKeys.Reconcile.Error

/-!
# Reconciling

Bring the cluster to hold one key pair: have the namespace, apply the Secret and then the ConfigMap,
read both back.  Each step is safe to repeat, so a run that failed is mended by another run;
nothing is retried and nothing is undone.
-/

namespace MountKeys

/-- What a run did. -/
structure Report where
  names : Names
  /-- Whether this run created the namespace. -/
  namespaceCreated : Bool
  secretCreated : Option String
  configMapCreated : Option String
  fingerprint : Option String
  deriving DecidableEq

namespace Reconcile

/-- Have the namespace, and say whether this run created it.  Another client that creates it first
does no harm. -/
def ensureNamespace (ns : String) : Session (Except RunError Bool) := do
  match ← Session.namespaceExists ns with
  | .error cause => return .error (.namespaceFailed ns cause)
  | .ok true =>
    Dialogue.log (.namespaceExists ns)
    return .ok false
  | .ok false =>
    match ← Session.createNamespace ns with
    | .ok () =>
      Dialogue.log (.namespaceCreated ns)
      return .ok true
    | .error cause =>
      if cause.isAlreadyExists then
        Dialogue.log (.namespaceCreatedElsewhere ns)
        return .ok false
      else
        Dialogue.log (.namespaceFailed ns cause)
        return .error (.namespaceFailed ns cause)

/-- What a report of an applied object calls it; a missing name is empty there. -/
def appliedOf (m : Manifest) : Applied :=
  ⟨m.kind, m.metadata.ns.getD "", m.metadata.name.getD ""⟩

/-- Apply one object after those in `before`. -/
def applyOne (m : Manifest) (before : List Applied) : Session (Except RunError (List Applied)) := do
  let applied := appliedOf m
  match ← Session.apply m with
  | .error cause =>
    Dialogue.log (.applyFailed applied.kind applied.ns applied.name cause)
    return .error (.applyFailed applied.kind applied.name before cause)
  | .ok () =>
    Dialogue.log (.applied applied.kind applied.ns applied.name)
    return .ok (before ++ [applied])

/-- Apply both objects, the Secret first, up to the first failure. -/
def applyDesired (desired : Desired) : Session (Except RunError (List Applied)) := do
  match ← applyOne (.secret desired.secret) [] with
  | .error e => return .error e
  | .ok applied => applyOne (.configMap desired.configMap) applied

/-- Read one object back; it has to be there. -/
def readBack (kind : Kind) (names : Names) (applied : List Applied) :
    Session (Except RunError Stored) := do
  let place := names.place kind
  match ← Session.get place with
  | .ok (some stored) =>
    Dialogue.log (.verified kind place.ns place.name stored.created)
    return .ok stored
  | .ok none =>
    Dialogue.log (.lost kind place.ns place.name)
    return .error (.verificationFailed kind place.name applied none)
  | .error cause =>
    Dialogue.log (.readFailed kind place.ns place.name cause)
    return .error (.verificationFailed kind place.name applied (some cause))

/-- Warn if an object holds something other than it should: another client has written it since. -/
def warnOnDrift (kind : Kind) (stored : Stored) (expected : ByteMap) : Session Unit :=
  if stored.data = expected then return ()
  else Dialogue.log (.drifted kind stored.ns stored.name stored.data.keys)

/-- Read both objects back.  They have to be there; what they hold is only looked at. -/
def verify (names : Names) (desired : Desired) (applied : List Applied) :
    Session (Except RunError (Stored × Stored)) := do
  match ← readBack .secret names applied with
  | .error e => return .error e
  | .ok secret =>
    warnOnDrift .secret secret desired.secret.contents
    match ← readBack .configMap names applied with
    | .error e => return .error e
    | .ok configMap =>
      warnOnDrift .configMap configMap desired.configMap.contents
      return .ok (secret, configMap)

/-- What is said about the public key before anything is done. -/
def keyNotice (fingerprint : Option String) : Notice :=
  match fingerprint with
  | some text => .fingerprint text
  | none => .noFingerprint

/-- Bring the cluster to hold a key pair.  The names are checked before the first call. -/
def run (keys : KeyPair) (names : Names) : Session (Except RunError Report) := do
  match names.check with
  | .error cause => return .error (.invalidNames cause)
  | .ok () =>
    let fingerprint := keys.fingerprint?
    Dialogue.log (keyNotice fingerprint)
    match ← ensureNamespace names.ns with
    | .error e => return .error e
    | .ok namespaceCreated =>
      let desired := Desired.render keys names
      match ← applyDesired desired with
      | .error e => return .error e
      | .ok applied =>
        match ← verify names desired applied with
        | .error e => return .error e
        | .ok (secret, configMap) =>
          Dialogue.log (.reconciled names)
          return .ok ⟨names, namespaceCreated, secret.created, configMap.created, fingerprint⟩

/-- Bring the cluster to hold the key pair in two files, which are read before anything else. -/
def runFiles (paths : KeyFiles) (files : Files) (names : Names) :
    Session (Except RunError Report) := do
  match paths.load files with
  | .error cause => return .error (.missingKey cause)
  | .ok (keys, notices) =>
    Dialogue.logAll notices
    run keys names

end Reconcile

end MountKeys
