import MountKeys.Cluster
import MountKeys.Json.Parser
import MountKeys.Json.Shape

/-!
# Objects as the API server sends them

What a client expects of a Namespace, a Secret or a ConfigMap in an answer, and what it takes out of
it.  `Received.read?` refuses an object with a field that is not as expected, also a field that is
of no further use.
-/

namespace MountKeys

open Json (Shape)

namespace Schema

/-- Metadata of any object. -/
def metadata : Shape :=
  .record [
    ("annotations", .table .text),
    ("creationTimestamp", .moment),
    ("deletionGracePeriodSeconds", .integer),
    ("deletionTimestamp", .moment),
    ("finalizers", .sequence .text),
    ("generateName", .text),
    ("generation", .integer),
    ("labels", .table .text),
    ("managedFields", .sequence (.record [
      ("apiVersion", .text),
      ("fieldsType", .text),
      -- The four values around it take four of the 127 levels that an answer may have.
      ("fieldsV1", .anything 123),
      ("manager", .text),
      ("operation", .text),
      ("subresource", .text),
      ("time", .moment)])),
    ("name", .text),
    ("namespace", .text),
    ("ownerReferences", .sequence (.record [
      ("apiVersion", .text),
      ("blockOwnerDeletion", .flag),
      ("controller", .flag),
      ("kind", .text),
      ("name", .text),
      ("uid", .text)])),
    ("resourceVersion", .text),
    ("selfLink", .text),
    ("uid", .text)]

/-- An object of a kind with more fields than all have. -/
def object (kind : String) (fields : List (String × Shape)) : Shape :=
  .record ([("apiVersion", .exactly "v1"), ("kind", .exactly kind), ("metadata", metadata)] ++
    fields)

/-- A Namespace. -/
def namespaceObject : Shape :=
  object "Namespace" [
    ("spec", .record [("finalizers", .sequence .text)]),
    ("status", .record [
      ("conditions", .sequence (.record [
        ("lastTransitionTime", .moment),
        ("message", .text),
        ("reason", .text),
        ("status", .text),
        ("type", .text)])),
      ("phase", .text)])]

/-- An object that holds keys. -/
def keyObject : Kind → Shape
  | .secret =>
    object Kind.secret.label [
      ("data", .table .bytes),
      ("immutable", .flag),
      ("stringData", .table .text),
      ("type", .text)]
  | .configMap =>
    object Kind.configMap.label [
      ("binaryData", .table .bytes),
      ("data", .table .text),
      ("immutable", .flag)]

end Schema

/-- What a client takes out of an object in an answer. -/
structure Received where
  name : String
  ns : String
  version : Option String
  created : Option String
  data : ByteMap
  deriving DecidableEq

namespace Received

/-- The bytes that a value of a table stands for, if it is one. -/
def bytesOf (j : Json) : Bytes :=
  match j with
  | .text s => (Base64.decode? s.toList).getD []
  | _ => []

/-- The bytes of the text that a value is. -/
def textBytesOf (j : Json) : Bytes :=
  match j with
  | .text s => textBytes s
  | _ => []

/-- The table in a field, its values read by `f`. -/
def table (f : Json → Bytes) (name : String) (j : Json) : ByteMap :=
  .ofList (((j.field? name).map Json.fields).getD [] |>.map fun e => (e.1, f e.2))

/-- The values of an object by their keys. -/
def dataOf (kind : Kind) (j : Json) : ByteMap :=
  match kind with
  | .secret => table bytesOf "data" j
  | .configMap => (table textBytesOf "data" j).overlay (table bytesOf "binaryData" j)

/-- A text in the metadata of an object. -/
def metadataText (name : String) (j : Json) : Option String :=
  ((j.field? "metadata").bind (Json.field? name)).bind Json.text?

/-- The time in the metadata of an object, in its canonical form. -/
def createdOf (j : Json) : Option String :=
  (metadataText "creationTimestamp" j).bind fun s =>
    (Timestamp.parse? s.toList).map Timestamp.print

/-- What is taken out of an object that is as expected. -/
def ofJson (kind : Kind) (j : Json) : Received where
  name := (metadataText "name" j).getD ""
  ns := (metadataText "namespace" j).getD ""
  version := metadataText "resourceVersion" j
  created := createdOf j
  data := dataOf kind j

/-- What is taken out of a text, if it is an object as expected. -/
def read? (kind : Kind) (text : List Char) : Option Received :=
  match Json.parse text with
  | some j => if Json.fits (Schema.keyObject kind) j then some (ofJson kind j) else none
  | none => none

/-- The object as it is read back. -/
def stored (r : Received) : Stored :=
  ⟨r.name, r.ns, r.data, r.created⟩

end Received

/-- Whether a text is a Namespace as expected. -/
def isNamespace (text : List Char) : Bool :=
  match Json.parse text with
  | some j => Json.fits Schema.namespaceObject j
  | none => false

end MountKeys
