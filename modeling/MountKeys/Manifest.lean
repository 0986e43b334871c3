import MountKeys.Base64
import MountKeys.Cluster
import MountKeys.Manifest.Tree

/-!
# Manifests

What a client asks the cluster to hold: a Secret or a ConfigMap with its metadata.  `Manifest.tree`
is the one form in which a manifest leaves the program, as JSON or as YAML, and
`Manifest.contents` is what is read back once the cluster holds it.
-/

namespace MountKeys

/-- What an object says about itself. -/
structure Metadata where
  name : Option String
  ns : Option String
  labels : SortedMap String String
  /-- The version that a replacement takes the place of. -/
  version : Option String
  deriving DecidableEq

/-- A Secret; its data is sent as base64. -/
structure Secret where
  metadata : Metadata
  type : String
  data : Option ByteMap
  deriving DecidableEq

/-- A ConfigMap.  Values that are text stand in `data`, others as base64 in `binaryData`. -/
structure ConfigMap where
  metadata : Metadata
  data : Option (SortedMap String String)
  binaryData : Option ByteMap
  deriving DecidableEq

/-- An object that a client asks the cluster to hold. -/
inductive Manifest
  | secret (s : Secret)
  | configMap (c : ConfigMap)
  deriving DecidableEq

/-- The tree of byte strings in base64. -/
def ByteMap.tree (m : ByteMap) : Tree :=
  .ofMap (m.mapValues fun bytes => String.ofList (Base64.encode bytes))

/-- The tree of metadata. -/
def Metadata.tree (m : Metadata) : Tree :=
  .map (("labels", .ofMap m.labels) :: Tree.entry "name" (m.name.map .text) ++
    Tree.entry "namespace" (m.ns.map .text) ++ Tree.entry "resourceVersion" (m.version.map .text))

/-- The values by their keys. -/
def Secret.contents (s : Secret) : ByteMap :=
  s.data.getD ∅

/-- The values by their keys; where both fields have one, the one in `binaryData` counts. -/
def ConfigMap.contents (c : ConfigMap) : ByteMap :=
  ((c.data.getD ∅).mapValues textBytes).overlay (c.binaryData.getD ∅)

/-- The version of the resources that are used. -/
def apiVersion : String := "v1"

/-- The tree of a Secret. -/
def Secret.tree (s : Secret) : Tree :=
  .map ([("apiVersion", .text apiVersion), ("kind", .text Kind.secret.label)] ++
    Tree.entry "data" (s.data.map ByteMap.tree) ++
    [("metadata", s.metadata.tree), ("type", .text s.type)])

/-- The tree of a ConfigMap. -/
def ConfigMap.tree (c : ConfigMap) : Tree :=
  .map ([("apiVersion", .text apiVersion), ("kind", .text Kind.configMap.label)] ++
    Tree.entry "binaryData" (c.binaryData.map ByteMap.tree) ++
    Tree.entry "data" (c.data.map Tree.ofMap) ++ [("metadata", c.metadata.tree)])

namespace Manifest

/-- The kind of object. -/
def kind : Manifest → Kind
  | .secret _ => .secret
  | .configMap _ => .configMap

/-- What the object says about itself. -/
def metadata : Manifest → Metadata
  | .secret s => s.metadata
  | .configMap c => c.metadata

/-- The values by their keys. -/
def contents : Manifest → ByteMap
  | .secret s => s.contents
  | .configMap c => c.contents

/-- The tree of the object. -/
def tree : Manifest → Tree
  | .secret s => s.tree
  | .configMap c => c.tree

/-- The same object as a replacement of a version. -/
def replacing (version : Option String) : Manifest → Manifest
  | .secret s => .secret { s with metadata := { s.metadata with version } }
  | .configMap c => .configMap { c with metadata := { c.metadata with version } }

end Manifest

end MountKeys
