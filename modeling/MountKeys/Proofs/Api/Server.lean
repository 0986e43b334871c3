import MountKeys.Proofs.Api.Manifest
import MountKeys.Proofs.Timestamp

/-!
# What an API server holds

`Server.Sound` is the invariant of a server that clients can work with: every object that it holds
can be read as one of its kind.  A write of a storable object keeps it (`Sound.write`), because the
time that the server sets is a time, be it a new one or that of the object before.

`Server.applied` is the server after a manifest was written, with the object that is then held said
in full (`Manifest.held`).
-/

namespace MountKeys

/-- The object that a server holds for a manifest: the one that was sent, with a version and a time
of creation at the end of its metadata. -/
def Manifest.held (m : Manifest) (version : Nat) (created : String) : Json :=
  m.tree.toJson.plusMetadata [("resourceVersion", .text (toString version)),
    ("creationTimestamp", .text created)]

namespace Server

/-- The object at a place, if there is one, can be read as one of its kind. -/
def Readable (s : Server) (p : Place) : Prop :=
  ∀ j, s.objects.get? p = some j → Storable p.kind j

/-- Every object can be read as one of its kind. -/
def Sound (s : Server) : Prop :=
  ∀ p j, s.objects.get? p = some j → Storable p.kind j

/-- All that is held are JSON values, whatever they say. -/
def Proper (s : Server) : Prop :=
  ∀ p j, s.objects.get? p = some j → j.isProper = true

/-- In a sound server every place is readable. -/
theorem Sound.readable {s : Server} (sound : s.Sound) (p : Place) : s.Readable p :=
  sound p

theorem sound_empty : Server.empty.Sound :=
  fun _ _ h => nomatch h

/-- A time that the server gives out is a time. -/
theorem timeOf_isTime (n : Nat) : IsTime (timeOf n) := by
  have minute : n / 60 % 60 ≤ 59 := by omega
  have second : n % 60 ≤ 60 := by omega
  have valid : (⟨2026, 1, 1, 0, n / 60 % 60, n % 60⟩ : Timestamp).isValid = true := by
    simp [Timestamp.isValid, Timestamp.yearFits, Timestamp.daysIn, minute, second]
  have era : (0 : Int) ≤ 2026 ∧ (2026 : Int) ≤ 9999 := by decide
  rw [IsTime, timeOf, Timestamp.parse?_print valid era.1 era.2]
  rfl

variable {s : Server}

/-- The time of creation of an object is a time. -/
theorem Readable.createdAt {p : Place} (readable : s.Readable p) :
    IsTime (s.createdAt p none).1 := by
  rw [Server.createdAt]
  cases before : (s.objects.get? p).bind (metadataText "creationTimestamp") with
  | none => exact timeOf_isTime _
  | some created =>
    obtain ⟨j, hj, hcreated⟩ := Option.bind_eq_some_iff.1 before
    exact (readable j hj).isTime hcreated

/-- What a write holds, and all that it changes. -/
theorem write_eq (s : Server) (p : Place) (j : Json) (told : Option String) :
    s.write p j told =
      (stamp p (s.version + 1) (s.createdAt p told).1 j,
        { s with
          objects := s.objects.insert p (stamp p (s.version + 1) (s.createdAt p told).1 j)
          version := s.version + 1
          clock := (s.createdAt p told).2 }) := rfl

/-- A server that holds one more object that can be read is sound. -/
theorem Sound.insert (sound : s.Sound) {p : Place} {j : Json} (storable : Storable p.kind j)
    (version clock : Nat) :
    Sound { s with objects := s.objects.insert p j, version, clock } := by
  intro q k h
  rw [SortedMap.get?_insert] at h
  split at h
  next hq =>
    rw [hq, ← Option.some.inj h]
    exact storable
  next => exact sound q k h

/-- A write of a storable object keeps the server sound. -/
theorem Sound.write (sound : s.Sound) {p : Place} {j : Json} (storable : Storable p.kind j) :
    (s.write p j none).2.Sound := by
  have time : IsTime (s.createdAt p none).1 := (sound.readable p).createdAt
  exact sound.insert (storable.stamp time) _ _

/-- A server that holds fewer objects stays sound. -/
theorem Sound.of_objects (sound : s.Sound) {s' : Server}
    (h : ∀ p j, s'.objects.get? p = some j → s.objects.get? p = some j) : s'.Sound :=
  fun p j hj => sound p j (h p j hj)

/-- The server after a manifest was written. -/
def applied (s : Server) (m : Manifest) : Server :=
  { s with
    objects := s.objects.insert m.place (m.held (s.version + 1) (s.createdAt m.place none).1)
    version := s.version + 1
    clock := (s.createdAt m.place none).2 }

/-- A write of a manifest that says where it belongs. -/
theorem write_manifest {m : Manifest} {ns name : String} {labels : SortedMap String String}
    (metadata : m.metadata = ⟨some name, some ns, labels, none⟩) (replaced : Option String) :
    s.write m.place (m.replacing replaced).tree.toJson none =
      (m.held (s.version + 1) (s.createdAt m.place none).1, s.applied m) := by
  rw [write_eq, stamp_replacing metadata]
  rfl

/-! ## A manifest that was written -/

theorem applied_version (s : Server) (m : Manifest) : (s.applied m).version = s.version + 1 := rfl

theorem applied_get? (s : Server) (m : Manifest) (p : Place) :
    (s.applied m).objects.get? p =
      if p = m.place then some (m.held (s.version + 1) (s.createdAt m.place none).1)
      else s.objects.get? p :=
  SortedMap.get?_insert _ _ _ _

variable {m : Manifest} {ns name : String} {labels : SortedMap String String}
  (metadata : m.metadata = ⟨some name, some ns, labels, none⟩)
include metadata

theorem metadataFields_held (version : Nat) (created : String) :
    metadataFields (m.held version created) =
      [("labels", (Tree.ofMap labels).toJson), ("name", .text name), ("namespace", .text ns),
        ("resourceVersion", .text (toString version)), ("creationTimestamp", .text created)] := by
  cases m with
  | secret s =>
    obtain ⟨md, type, data⟩ := s
    cases metadata
    cases data <;> rfl
  | configMap c =>
    obtain ⟨md, data, binaryData⟩ := c
    cases metadata
    cases data <;> cases binaryData <;> rfl

/-- A manifest that is written once more is held from the same time on. -/
theorem createdAt_held {p : Place} {version : Nat} {created : String}
    (h : s.objects.get? p = some (m.held version created)) :
    s.createdAt p none = (created, s.clock) := by
  rw [Server.createdAt.eq_def, h, Option.bind_some, metadataText_eq, metadataFields_held metadata]
  rfl

/-- What is held for a manifest can be read as an object of its kind. -/
theorem held_storable (version : Nat) {created : String} (time : IsTime created) :
    Storable m.kind (m.held version created) := by
  have storable : Storable (m.replacing none).kind
      (stamp m.place version created (m.replacing none).tree.toJson) :=
    (m.replacing none).storable_tree.stamp time
  rw [stamp_replacing metadata none, Manifest.replacing_kind] at storable
  exact storable

/-- What could be read can be read after a manifest was written. -/
theorem Readable.applied {p : Place} (readable : s.Readable p) (here : s.Readable m.place) :
    (s.applied m).Readable p := by
  intro j hj
  rw [applied_get?] at hj
  split at hj
  next same =>
    rw [same, ← Option.some.inj hj]
    exact held_storable metadata _ here.createdAt
  next => exact readable j hj

/-- A server that writes a manifest where one can read holds JSON values. -/
theorem Proper.applied (proper : s.Proper) (here : s.Readable m.place) : (s.applied m).Proper := by
  intro p j hj
  rw [applied_get?] at hj
  split at hj
  next =>
    rw [← Option.some.inj hj]
    exact (held_storable metadata _ here.createdAt).proper
  next => exact proper p j hj

/-- What a client makes of an object that is held for a manifest. -/
theorem stored_held (version : Nat) (created : String) :
    (Received.ofJson m.kind (m.held version created)).stored =
      ⟨name, ns, m.contents, (Timestamp.parse? created.toList).map Timestamp.print⟩ := by
  have text (field : String) : Received.metadataText field (m.held version created) = _ :=
    metadataText_eq field _
  have stamped : stamp m.place version created m.tree.toJson = m.held version created := by
    have same := stamp_replacing metadata none version created
    rwa [Manifest.replacing_none (by rw [metadata])] at same
  have data : Received.dataOf m.kind (m.held version created) = m.contents :=
    stamped ▸ dataOf_stamp m m.place version created
  simp only [Received.ofJson, Received.stored, Received.createdOf, text, data,
    metadataFields_held metadata]
  rfl

end Server

end MountKeys
