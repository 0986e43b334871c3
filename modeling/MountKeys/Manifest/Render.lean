import MountKeys.Keys
import MountKeys.Manifest
import MountKeys.Names
import MountKeys.Text.Quoted

/-!
# Rendering

From a key pair and the names to the two objects that hold it: the Secret with both keys, for the
client that mounts, and the ConfigMap with the public key, for the server that lets it in.
-/

namespace MountKeys

/-- The objects of one key pair. -/
structure Desired where
  secret : Secret
  configMap : ConfigMap
  deriving DecidableEq

/-- The key of the private key in the Secret. -/
def privateKeyEntry : String := "id_rsa"

/-- The key of the public key in both objects. -/
def publicKeyEntry : String := "id_rsa.pub"

/-- The labels of every object that this program writes. -/
def managedLabels : SortedMap String String :=
  .ofList [("app.kubernetes.io/managed-by", "sshfs-keysync")]

/-- The metadata of an object of that name. -/
def Metadata.ofName (ns name : String) : Metadata :=
  ⟨some name, some ns, managedLabels, none⟩

namespace Desired

/-- The Secret of a key pair. -/
def secretOf (keys : KeyPair) (names : Names) : Secret where
  metadata := .ofName names.ns names.secret
  type := "Opaque"
  data := some (.ofList [(privateKeyEntry, keys.privateKey), (publicKeyEntry, keys.publicKey)])

/-- The ConfigMap of a key pair.  A public key that is no text goes into `binaryData`. -/
def configMapOf (keys : KeyPair) (names : Names) : ConfigMap :=
  let metadata := Metadata.ofName names.ns names.configMap
  match Utf8.decode? keys.publicKey with
  | some text => ⟨metadata, some (.ofList [(publicKeyEntry, text)]), none⟩
  | none => ⟨metadata, none, some (.ofList [(publicKeyEntry, keys.publicKey)])⟩

/-- The objects of a key pair. -/
def render (keys : KeyPair) (names : Names) : Desired :=
  ⟨secretOf keys names, configMapOf keys names⟩

/-- Both objects as a stream of YAML documents, the Secret first. -/
def toYaml (d : Desired) : String :=
  String.ofList ("---\n".toList ++ d.secret.tree.toYaml ++ "---\n".toList ++
    d.configMap.tree.toYaml)

/-- A name that may be missing, for a description. -/
def describeName : Option String → String
  | some name => "Some(" ++ Text.quoted name ++ ")"
  | none => "None"

/-- A description that says nothing about the keys. -/
def describe (d : Desired) : String :=
  "DesiredState \x7b secret: " ++ describeName d.secret.metadata.name ++ ", config_map: " ++
    describeName d.configMap.metadata.name ++ ", .. \x7d"

end Desired

end MountKeys
