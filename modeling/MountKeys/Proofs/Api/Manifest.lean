import MountKeys.Proofs.Api.Object
import MountKeys.Proofs.Render

/-!
# Manifests at the API server

A manifest is sent as the JSON of its tree, the server sets some of its metadata, and clients read
the result.  Three things are shown for every manifest, whoever made it: what is held is storable
(`storable_tree`), the values that are read from it are those of the manifest (`dataOf_eq`), and for
one that says where it belongs nothing is added but a version and a time (`stamp_replacing`).  Where
nothing was set, `Received.ofJson_tree` is all that is read.
-/

namespace MountKeys

namespace Tree

theorem entriesToJson_eq (es : List (String × Tree)) :
    entriesToJson es = es.map fun e => (e.1, e.2.toJson) := by
  induction es with
  | nil => rfl
  | cons e rest ih =>
    obtain ⟨name, t⟩ := e
    rw [entriesToJson, ih]
    rfl

theorem toJson_ofMap (m : SortedMap String String) :
    (ofMap m).toJson = .object (m.entries.map fun e => (e.1, .text e.2)) := by
  rw [ofMap, toJson, entriesToJson_eq, List.map_map]
  rfl

mutual

/-- A tree has no numbers. -/
theorem toJson_isProper : ∀ t : Tree, t.toJson.isProper = true
  | .text _ => rfl
  | .map es => entriesToJson_haveProper es

theorem entriesToJson_haveProper : ∀ es : List (String × Tree),
    Json.haveProper (entriesToJson es) = true
  | [] => rfl
  | (_, t) :: rest => by
    rw [entriesToJson, Json.haveProper, toJson_isProper t, entriesToJson_haveProper rest]
    rfl

end

/-- A map of texts is read as a table of texts. -/
theorem fits_ofMap (m : SortedMap String String) :
    Json.fits (.table .text) (ofMap m).toJson = true := by
  rw [toJson_ofMap, Json.fits, Json.valuesFit_iff]
  intro f hf
  obtain ⟨e, -, rfl⟩ := List.mem_map.1 hf
  rfl

end Tree

/-- A map of byte strings is read as a table of byte strings. -/
theorem ByteMap.fits_tree (m : ByteMap) :
    Json.fits (.table .bytes) (ByteMap.tree m).toJson = true := by
  rw [ByteMap.tree, Tree.toJson_ofMap, Json.fits, Json.valuesFit_iff]
  intro f hf
  obtain ⟨e, he, rfl⟩ := List.mem_map.1 hf
  obtain ⟨e, -, rfl⟩ := List.mem_map.1 he
  simp [Json.fits]

/-! ## The fields of a manifest -/

theorem Metadata.toJson_eq (m : Metadata) :
    m.tree.toJson = .object (("labels", (Tree.ofMap m.labels).toJson) ::
      (Json.field "name" (m.name.map .text) ++ Json.field "namespace" (m.ns.map .text) ++
        Json.field "resourceVersion" (m.version.map .text))) := by
  obtain ⟨name, ns, labels, version⟩ := m
  cases name <;> cases ns <;> cases version <;> rfl

theorem Secret.toJson_eq (s : Secret) :
    s.tree.toJson =
      .object ([("apiVersion", .text apiVersion), ("kind", .text Kind.secret.label)] ++
        Json.field "data" (s.data.map fun m => (ByteMap.tree m).toJson) ++
        [("metadata", s.metadata.tree.toJson), ("type", .text s.type)]) := by
  obtain ⟨metadata, type, data⟩ := s
  cases data <;> rfl

theorem ConfigMap.toJson_eq (c : ConfigMap) :
    c.tree.toJson =
      .object ([("apiVersion", .text apiVersion), ("kind", .text Kind.configMap.label)] ++
        Json.field "binaryData" (c.binaryData.map fun m => (ByteMap.tree m).toJson) ++
        Json.field "data" (c.data.map fun m => (Tree.ofMap m).toJson) ++
        [("metadata", c.metadata.tree.toJson)]) := by
  obtain ⟨metadata, data, binaryData⟩ := c
  cases data <;> cases binaryData <;> rfl

/-- A field that may be missing is as expected if its value is. -/
theorem Json.fitsField_field {shapes : List (String × Shape)} {name : String} {o : Option Json}
    (h : ∀ v, o = some v → fitsField shapes (name, v) = true) :
    ∀ f ∈ field name o, fitsField shapes f = true := by
  cases o with
  | none => exact fun _ hf => nomatch hf
  | some v =>
    intro f hf
    rw [List.mem_singleton.1 hf]
    exact h v rfl

theorem Metadata.fits_tree (m : Metadata) : Json.fits Schema.metadata m.tree.toJson = true := by
  rw [Metadata.toJson_eq, Storable.metadata_eq, Json.fits, Json.fieldsFit_iff]
  intro f hf
  simp only [List.mem_cons, List.mem_append] at hf
  rcases hf with rfl | (hf | hf) | hf
  · exact Tree.fits_ofMap m.labels
  all_goals
    refine Json.fitsField_field (fun v hv => ?_) f hf
    obtain ⟨s, -, rfl⟩ := Option.map_eq_some_iff.1 hv
    rfl

/-- What is sent for a manifest is an object of its kind. -/
theorem Manifest.storable_tree (m : Manifest) : Storable m.kind m.tree.toJson := by
  refine ⟨Tree.toJson_isProper _, ?_⟩
  cases m with
  | secret s =>
    rw [Manifest.tree, Manifest.kind, Secret.toJson_eq, Storable.keyObject_eq, Json.fits,
      Json.fieldsFit_iff]
    intro f hf
    simp only [List.mem_cons, List.mem_append, List.not_mem_nil, or_false] at hf
    rcases hf with ((rfl | rfl) | hf) | rfl | rfl
    · rfl
    · rfl
    · refine Json.fitsField_field (fun v hv => ?_) f hf
      obtain ⟨m, -, rfl⟩ := Option.map_eq_some_iff.1 hv
      exact ByteMap.fits_tree m
    · exact Metadata.fits_tree s.metadata
    · rfl
  | configMap c =>
    rw [Manifest.tree, Manifest.kind, ConfigMap.toJson_eq, Storable.keyObject_eq, Json.fits,
      Json.fieldsFit_iff]
    intro f hf
    simp only [List.mem_cons, List.mem_append, List.not_mem_nil, or_false] at hf
    rcases hf with (((rfl | rfl) | hf) | hf) | rfl
    · rfl
    · rfl
    · refine Json.fitsField_field (fun v hv => ?_) f hf
      obtain ⟨m, -, rfl⟩ := Option.map_eq_some_iff.1 hv
      exact ByteMap.fits_tree m
    · refine Json.fitsField_field (fun v hv => ?_) f hf
      obtain ⟨m, -, rfl⟩ := Option.map_eq_some_iff.1 hv
      exact Tree.fits_ofMap m
    · exact Metadata.fits_tree c.metadata

/-! ## What is read back -/

/-- What the server sets leaves all other fields as they are. -/
theorem field?_stamp {name : String} (h : name ≠ "metadata") (p : Place) (version : Nat)
    (created : String) (j : Json) :
    (Server.stamp p version created j).field? name = j.field? name := by
  have fields : j.field? name = Json.lookup name j.fields := by cases j <;> rfl
  rw [fields]
  exact Json.lookup_put_of_ne h _ _

/-- The table of a map is read as that map, each value written and read again. -/
theorem table_map {ν : Type} {f : Json → Bytes} {w : ν → Json} {name : String} {j : Json}
    {m : SortedMap String ν}
    (h : j.field? name = some (.object (m.entries.map fun e => (e.1, w e.2)))) :
    Received.table f name j = m.mapValues fun v => f (w v) := by
  rw [← SortedMap.ofList_entries (m.mapValues fun v => f (w v)), Received.table, h]
  simp [Json.fields, SortedMap.mapValues, Function.comp_def]

theorem table_none {f : Json → Bytes} {name : String} {j : Json} (h : j.field? name = none) :
    Received.table f name j = ∅ := by
  rw [Received.table, h]
  rfl

/-- A table of byte strings is read as the map that it was made from. -/
theorem table_bytes {j : Json} {name : String} {m : Option ByteMap}
    (h : j.field? name = m.map fun m => (ByteMap.tree m).toJson) :
    Received.table Received.bytesOf name j = m.getD ∅ := by
  cases m with
  | none => exact table_none h
  | some m =>
    have back :
        (fun bytes => Received.bytesOf (.text (String.ofList (Base64.encode bytes)))) = id := by
      funext bytes
      simp [Received.bytesOf]
    rw [Option.map_some, ByteMap.tree, Tree.toJson_ofMap] at h
    simp only [SortedMap.mapValues, List.map_map, Function.comp_def] at h
    rw [table_map (w := fun bytes => .text (String.ofList (Base64.encode bytes))) h, back,
      SortedMap.mapValues_id]
    rfl

/-- A table of texts is read as the bytes of the map that it was made from. -/
theorem table_texts {j : Json} {name : String} {m : Option (SortedMap String String)}
    (h : j.field? name = m.map fun m => (Tree.ofMap m).toJson) :
    Received.table Received.textBytesOf name j = (m.getD ∅).mapValues textBytes := by
  cases m with
  | none => exact table_none h
  | some m =>
    rw [Option.map_some, Tree.toJson_ofMap] at h
    exact table_map h

/-- The values that are read from an object are those of a manifest if it has the fields that are
sent for the manifest; what its metadata say makes no difference. -/
theorem dataOf_eq {m : Manifest} {j : Json}
    (same : ∀ name, name ≠ "metadata" → j.field? name = m.tree.toJson.field? name) :
    Received.dataOf m.kind j = m.contents := by
  cases m with
  | secret s =>
    refine table_bytes ?_
    rw [same _ (by decide), Manifest.tree, Secret.toJson_eq]
    exact Json.lookup_field (by simp) (by simp)
  | configMap c =>
    have texts : Received.table Received.textBytesOf "data" j =
        (c.data.getD ∅).mapValues textBytes := by
      refine table_texts ?_
      rw [same _ (by decide), Manifest.tree, ConfigMap.toJson_eq]
      refine Json.lookup_field ?_ (by simp)
      cases c.binaryData <;> simp [Json.field]
    have bytes : Received.table Received.bytesOf "binaryData" j = c.binaryData.getD ∅ := by
      refine table_bytes ?_
      rw [same _ (by decide), Manifest.tree, ConfigMap.toJson_eq, List.append_assoc]
      refine Json.lookup_field (by simp) ?_
      cases c.data <;> simp [Json.field]
    rw [Manifest.kind, Received.dataOf, texts, bytes]
    rfl

/-- The values that are read from what is held for a manifest are those of the manifest. -/
theorem dataOf_stamp (m : Manifest) (p : Place) (version : Nat) (created : String) :
    Received.dataOf m.kind (Server.stamp p version created m.tree.toJson) = m.contents :=
  dataOf_eq fun _ other => field?_stamp other p version created _

/-! ## What the metadata say -/

theorem metadataFields_tree (m : Manifest) :
    metadataFields m.tree.toJson = m.metadata.tree.toJson.fields := by
  cases m with
  | secret s =>
    obtain ⟨metadata, type, data⟩ := s
    cases data <;> rfl
  | configMap c =>
    obtain ⟨metadata, data, binaryData⟩ := c
    cases data <;> cases binaryData <;> rfl

/-- The name that is sent. -/
theorem metadataText_name (m : Manifest) :
    Server.metadataText "name" m.tree.toJson = m.metadata.name := by
  rw [metadataText_eq, metadataFields_tree, Metadata.toJson_eq]
  obtain ⟨name, ns, labels, version⟩ := m.metadata
  cases name <;> cases ns <;> cases version <;> rfl

/-- The namespace that is sent. -/
theorem metadataText_namespace (m : Manifest) :
    Server.metadataText "namespace" m.tree.toJson = m.metadata.ns := by
  rw [metadataText_eq, metadataFields_tree, Metadata.toJson_eq]
  obtain ⟨name, ns, labels, version⟩ := m.metadata
  cases name <;> cases ns <;> cases version <;> rfl

/-- The version that is sent. -/
theorem metadataText_version (m : Manifest) :
    Server.metadataText "resourceVersion" m.tree.toJson = m.metadata.version := by
  rw [metadataText_eq, metadataFields_tree, Metadata.toJson_eq]
  obtain ⟨name, ns, labels, version⟩ := m.metadata
  cases name <;> cases ns <;> cases version <;> rfl

/-- No time of creation is sent. -/
theorem metadataText_created (m : Manifest) :
    Server.metadataText "creationTimestamp" m.tree.toJson = none := by
  rw [metadataText_eq, metadataFields_tree, Metadata.toJson_eq]
  obtain ⟨name, ns, labels, version⟩ := m.metadata
  cases name <;> cases ns <;> cases version <;> rfl

/-- What a client takes out of an object that is as it was sent. -/
theorem Received.ofJson_tree (m : Manifest) :
    ofJson m.kind m.tree.toJson =
      ⟨m.metadata.name.getD "", m.metadata.ns.getD "", m.metadata.version, none, m.contents⟩ := by
  have name : metadataText "name" m.tree.toJson = m.metadata.name := metadataText_name m
  have ns : metadataText "namespace" m.tree.toJson = m.metadata.ns := metadataText_namespace m
  have version : metadataText "resourceVersion" m.tree.toJson = m.metadata.version :=
    metadataText_version m
  have created : metadataText "creationTimestamp" m.tree.toJson = none := metadataText_created m
  rw [ofJson, createdOf, name, ns, version, created, dataOf_eq fun _ _ => rfl]
  rfl

@[simp] theorem Manifest.replacing_kind (m : Manifest) (version : Option String) :
    (m.replacing version).kind = m.kind := by
  cases m <;> rfl

@[simp] theorem Manifest.replacing_metadata (m : Manifest) (version : Option String) :
    (m.replacing version).metadata = { m.metadata with version } := by
  cases m <;> rfl

@[simp] theorem Manifest.replacing_place (m : Manifest) (version : Option String) :
    (m.replacing version).place = m.place := by
  cases m <;> rfl

@[simp] theorem Manifest.replacing_contents (m : Manifest) (version : Option String) :
    (m.replacing version).contents = m.contents := by
  cases m <;> rfl

@[simp] theorem Manifest.replacing_replacing (m : Manifest) (version version' : Option String) :
    (m.replacing version).replacing version' = m.replacing version' := by
  cases m <;> rfl

/-- A manifest that replaces no version is not changed by saying so. -/
theorem Manifest.replacing_none {m : Manifest} (h : m.metadata.version = none) :
    m.replacing none = m := by
  cases m with
  | secret s =>
    obtain ⟨⟨name, ns, labels, version⟩, type, data⟩ := s
    cases h
    rfl
  | configMap c =>
    obtain ⟨⟨name, ns, labels, version⟩, data, binaryData⟩ := c
    cases h
    rfl

/-! ## What is held -/

/-- The object with more fields at the end of its metadata. -/
def Json.plusMetadata (more : List (String × Json)) (j : Json) : Json :=
  j.setField "metadata" (.object (metadataFields j ++ more))

/-- For a manifest that says where it belongs the server adds a version and a time, and nothing
else; the version that it replaces is not kept. -/
theorem stamp_replacing {m : Manifest} {ns name : String} {labels : SortedMap String String}
    (metadata : m.metadata = ⟨some name, some ns, labels, none⟩) (replaced : Option String)
    (version : Nat) (created : String) :
    Server.stamp m.place version created (m.replacing replaced).tree.toJson =
      m.tree.toJson.plusMetadata [("resourceVersion", .text (toString version)),
        ("creationTimestamp", .text created)] := by
  cases m with
  | secret s =>
    obtain ⟨md, type, data⟩ := s
    cases metadata
    cases data <;> cases replaced <;> rfl
  | configMap c =>
    obtain ⟨md, data, binaryData⟩ := c
    cases metadata
    cases data <;> cases binaryData <;> cases replaced <;> rfl

end MountKeys
