import MountKeys.Cluster.Call
import MountKeys.Manifest.Render
import MountKeys.Proofs.Names
import MountKeys.Proofs.SortedMap
import MountKeys.Proofs.Utf8

/-!
# What is rendered

The two objects of a key pair by their kind: where they belong and what is read back from them once
a cluster holds them.  Whether the public key is text decides which field of the ConfigMap it goes
into (`render_configMap_fields`); `render_contents` shows that it makes no difference to a reader.
-/

namespace MountKeys

@[simp] theorem Names.place_kind (names : Names) (kind : Kind) :
    (names.place kind).kind = kind := by
  cases kind <;> rfl

@[simp] theorem Names.place_ns (names : Names) (kind : Kind) :
    (names.place kind).ns = names.ns := by
  cases kind <;> rfl

/-- Objects of different kinds stand at different places. -/
theorem Names.place_inj {names : Names} {kind kind' : Kind} :
    names.place kind = names.place kind' ↔ kind = kind' := by
  cases kind <;> cases kind' <;> simp [Names.place]

/-- The name of an object is plain. -/
theorem Names.place_plain {names : Names} (valid : names.check = .ok ()) (kind : Kind) :
    IsPlain (names.place kind).name := by
  cases kind with
  | secret => exact (check_plain valid).2.1
  | configMap => exact (check_plain valid).2.2

/-- Where an object belongs; a missing name is empty there. -/
def Manifest.place (m : Manifest) : Place :=
  ⟨m.metadata.ns.getD "", m.kind, m.metadata.name.getD ""⟩

/-- The value of an object for a key by its fields; of a ConfigMap the one in `binaryData` comes
first. -/
def Manifest.valueAt (k : String) : Manifest → Option Bytes
  | .secret s => s.data.bind (·.get? k)
  | .configMap c => (c.binaryData.bind (·.get? k)).or ((c.data.bind (·.get? k)).map textBytes)

theorem Manifest.get?_contents (m : Manifest) (k : String) :
    m.contents.get? k = m.valueAt k := by
  cases m with
  | secret s =>
    obtain ⟨metadata, type, data⟩ := s
    cases data <;> rfl
  | configMap c =>
    obtain ⟨metadata, data, binaryData⟩ := c
    rw [contents, ConfigMap.contents, SortedMap.get?_overlay, SortedMap.get?_mapValues, valueAt]
    cases data <;> cases binaryData <;> rfl

/-- The values that an object of a kind is to hold for a key pair. -/
def KeyPair.valuesOf (keys : KeyPair) : Kind → ByteMap
  | .secret => .ofList [(privateKeyEntry, keys.privateKey), (publicKeyEntry, keys.publicKey)]
  | .configMap => .ofList [(publicKeyEntry, keys.publicKey)]

namespace Desired

/-- The object of a kind. -/
def object (d : Desired) : Kind → Manifest
  | .secret => .secret d.secret
  | .configMap => .configMap d.configMap

@[simp] theorem object_kind (d : Desired) (kind : Kind) : (d.object kind).kind = kind := by
  cases kind <;> rfl

/-- A rendered object says that it belongs at the place that the names stand for. -/
@[simp] theorem render_metadata (keys : KeyPair) (names : Names) (kind : Kind) :
    ((render keys names).object kind).metadata = .ofName names.ns (names.place kind).name := by
  cases kind with
  | secret => rfl
  | configMap =>
    rw [object, Manifest.metadata, render, configMapOf]
    split <;> rfl

/-- That a rendered object says where it belongs, and nothing about a version. -/
theorem render_ofName (keys : KeyPair) (names : Names) (kind : Kind) :
    ((render keys names).object kind).metadata =
      ⟨some (names.place kind).name, some names.ns, managedLabels, none⟩ :=
  render_metadata keys names kind

@[simp] theorem render_place (keys : KeyPair) (names : Names) (kind : Kind) :
    ((render keys names).object kind).place = names.place kind := by
  rw [Manifest.place, render_metadata, object_kind]
  cases kind <;> rfl

/-! ## What is read back -/

/-- The Secret holds both keys. -/
theorem render_secret_contents (keys : KeyPair) (names : Names) :
    ((render keys names).object .secret).contents =
      .ofList [(privateKeyEntry, keys.privateKey), (publicKeyEntry, keys.publicKey)] := rfl

/-- The ConfigMap holds the public key, whether or not it is text. -/
theorem render_configMap_contents (keys : KeyPair) (names : Names) :
    ((render keys names).object .configMap).contents =
      .ofList [(publicKeyEntry, keys.publicKey)] := by
  rw [object, Manifest.contents, render, configMapOf]
  cases text : Utf8.decode? keys.publicKey with
  | none => exact SortedMap.empty_overlay _
  | some s =>
    rw [← Utf8.textBytes_of_decode? text]
    exact SortedMap.overlay_empty _

variable (keys : KeyPair) (names : Names)

/-- Each object holds what it is to hold. -/
theorem render_contents (kind : Kind) :
    ((render keys names).object kind).contents = keys.valuesOf kind := by
  cases kind with
  | secret => exact render_secret_contents keys names
  | configMap => exact render_configMap_contents keys names

/-- The public key stands in one field of the ConfigMap: in `data` if it is text. -/
theorem render_configMap_fields :
    let c := (render keys names).configMap
    ((c.data.bind (·.get? publicKeyEntry)).isSome = true ↔
        keys.publicKey.toByteArray.IsValidUTF8) ∧
      ((c.binaryData.bind (·.get? publicKeyEntry)).isSome = true ↔
        ¬keys.publicKey.toByteArray.IsValidUTF8) := by
  rw [← Utf8.decode?_isSome_iff, render, configMapOf]
  cases Utf8.decode? keys.publicKey <;> simp [SortedMap.ofList]

theorem render_publicKey (kind : Kind) :
    ((render keys names).object kind).contents.get? publicKeyEntry = some keys.publicKey := by
  cases kind with
  | secret => simp [render_secret_contents, SortedMap.ofList]
  | configMap => simp [render_configMap_contents, SortedMap.ofList]

theorem render_privateKey :
    ((render keys names).object .secret).contents.get? privateKeyEntry =
      some keys.privateKey := by
  simp [render_secret_contents, SortedMap.ofList, privateKeyEntry, publicKeyEntry]

end Desired

end MountKeys
