import MountKeys.Dialogue
import MountKeys.Manifest

/-!
# Calls on the cluster

The few things that a run needs of a cluster.  A session is a dialogue of such calls.
-/

namespace MountKeys

/-- The object of a kind that the names stand for. -/
def Names.place (names : Names) : Kind → Place
  | .secret => ⟨names.ns, .secret, names.secret⟩
  | .configMap => ⟨names.ns, .configMap, names.configMap⟩

/-- A call on the cluster. -/
inductive Call
  | namespaceExists (ns : String)
  | createNamespace (ns : String)
  /-- Create the object, or replace all of it if it is there. -/
  | apply (m : Manifest)
  | get (p : Place)
  deriving DecidableEq

/-- What a call gives when it succeeds. -/
abbrev Call.Result : Call → Type
  | .namespaceExists _ => Bool
  | .createNamespace _ => Unit
  | .apply _ => Unit
  | .get _ => Option Stored

/-- What a call is answered with. -/
abbrev Call.Answer (c : Call) : Type :=
  Except ClusterError c.Result

/-- A dialogue with the cluster. -/
abbrev Session (α : Type) :=
  Dialogue Call Call.Answer α

namespace Session

/-- Whether a namespace exists. -/
def namespaceExists (ns : String) : Session (Except ClusterError Bool) :=
  .send (Call.namespaceExists ns)

/-- Create a namespace. -/
def createNamespace (ns : String) : Session (Except ClusterError Unit) :=
  .send (Call.createNamespace ns)

/-- Create an object, or replace all of it. -/
def apply (m : Manifest) : Session (Except ClusterError Unit) :=
  .send (Call.apply m)

/-- Read an object back. -/
def get (p : Place) : Session (Except ClusterError (Option Stored)) :=
  .send (Call.get p)

end Session

end MountKeys
