import MountKeys.Proofs.Reconcile.Reached
import MountKeys.Proofs.Reconcile.Undisturbed

/-!
# Runs converge

From whatever was left behind, one run that nothing disturbs brings a cluster to hold its key pair,
and the same run once more changes nothing but versions: `converges`, for every cluster in memory
and for every API server that other clients and failed runs can leave.

* `Store.settled` and `Server.settled` are what the cluster is after both objects were written.  An
  object that is written replaces all of the one before it, so what was there before shows only in
  the times of creation.
* A cluster that is settled for a key pair stays as it is when the pair is written again.  In memory
  nothing changes (`Store.settled_again`), a server counts versions (`Server.Settled.again`).
-/

namespace MountKeys

open Reconcile

/-- What is read of a rendered object, stored at a time. -/
def Desired.storedAt (keys : KeyPair) (names : Names) (created : Kind → Option String)
    (kind : Kind) : Stored :=
  ⟨(names.place kind).name, names.ns, ((Desired.render keys names).object kind).contents,
    created kind⟩

/-! ## In memory -/

namespace Store

variable {s : Store} {keys : KeyPair} {names : Names}

theorem answer_apply (present : s.namespaces.contains names.ns = true) (kind : Kind) :
    answer (.apply ((Desired.render keys names).object kind)) s =
      (.ok (),
        s.put (names.place kind) ((Desired.render keys names).object kind).contents none) := by
  have here := Desired.render_place keys names kind
  rw [Manifest.place, Desired.render_ofName] at here
  simp only [answer, apply, Desired.render_ofName, present, if_true]
  exact congrArg (fun p => (Except.ok (), s.put p _ none)) here

/-- What is there once an object was put. -/
theorem put_get? (p q : Place) (data : ByteMap) :
    (s.put p data none).objects.get? q =
      if q = p then some ⟨p.name, p.ns, data, some (s.createdAt p none).1⟩
      else s.objects.get? q :=
  SortedMap.get?_insert _ _ _ _

/-- To put an object once more changes nothing. -/
theorem put_same {p : Place} {data : ByteMap} {created : String}
    (h : s.objects.get? p = some ⟨p.name, p.ns, data, some created⟩) :
    s.put p data none = s := by
  have time : s.createdAt p none = (created, s.clock) := by
    rw [createdAt, h]
    rfl
  rw [put, time]
  exact congrArg (fun objects => { s with objects }) (SortedMap.insert_get? h)

/-- The cluster with a namespace. -/
def withNamespace (s : Store) (ns : String) : Store :=
  if s.namespaces.contains ns then s else s.addNamespace ns

theorem withNamespace_contains (s : Store) (ns : String) :
    (s.withNamespace ns).namespaces.contains ns = true := by
  rw [withNamespace]
  split
  · assumption
  · exact s.addNamespace_contains ns

/-- The cluster after both objects were written. -/
def settled (s : Store) (keys : KeyPair) (names : Names) : Store :=
  let d := Desired.render keys names
  (s.put (names.place .secret) (d.object .secret).contents none).put (names.place .configMap)
    (d.object .configMap).contents none

/-- When each of the two objects was first stored. -/
def settledTime (s : Store) (keys : KeyPair) (names : Names) : Kind → String
  | .secret => (s.createdAt (names.place .secret) none).1
  | .configMap => ((s.put (names.place .secret)
      ((Desired.render keys names).object .secret).contents none).createdAt
      (names.place .configMap) none).1

/-- The cluster holds what is rendered for a key pair. -/
structure Settled (s : Store) (keys : KeyPair) (names : Names) (created : Kind → String) :
    Prop where
  hasNamespace : s.namespaces.contains names.ns = true
  object (kind : Kind) : s.objects.get? (names.place kind) =
    some (Desired.storedAt keys names (fun kind => some (created kind)) kind)

theorem settled_spec (keys : KeyPair) (present : s.namespaces.contains names.ns = true) :
    (s.settled keys names).Settled keys names (s.settledTime keys names) := by
  refine ⟨present, fun kind => ?_⟩
  rw [settled, put_get?, put_get?]
  cases kind <;> simp [Names.place_inj, Desired.storedAt, settledTime]

/-- What is settled stays as it is. -/
theorem settled_again {created : Kind → String} (h : s.Settled keys names created) :
    s.settled keys names = s := by
  have secret := h.object .secret
  have configMap := h.object .configMap
  rw [Desired.storedAt, ← Names.place_ns names .secret] at secret
  rw [Desired.storedAt, ← Names.place_ns names .configMap] at configMap
  rw [settled, put_same secret, put_same configMap]

/-- A cluster in memory does what a run asks. -/
theorem serves (s : Store) (keys : KeyPair) (names : Names) {created : Kind → String}
    (after : ((s.withNamespace names.ns).settled keys names).Settled keys names created) :
    ∃ between, Serves answer keys names (!s.namespaces.contains names.ns) s
      (s.withNamespace names.ns) between ((s.withNamespace names.ns).settled keys names)
      (Desired.storedAt keys names fun kind => some (created kind)) := by
  have present := s.withNamespace_contains names.ns
  refine ⟨_, ?_, fun missing => ?_, fun found => ?_, answer_apply present .secret,
    answer_apply (s := (s.withNamespace names.ns).put _ _ none) present .configMap,
    fun kind => ?_, fun _ => rfl⟩
  · rw [Bool.not_not]
    rfl
  · simp at missing
    simp [answer, withNamespace, missing]
  · simp at found
    simp [withNamespace, found]
  · exact congrArg (fun o => (Except.ok o, _)) (after.object kind)

/-- A cluster that is settled does so again, and stays as it is. -/
theorem Settled.serves {created : Kind → String} (h : s.Settled keys names created) :
    ∃ between, Serves answer keys names false s s between s
      (Desired.storedAt keys names fun kind => some (created kind)) := by
  have start : s.withNamespace names.ns = s := by simp [withNamespace, h.hasNamespace]
  have same := settled_again h
  have serves := s.serves keys names (by rwa [start, same])
  rwa [h.hasNamespace, start, same] at serves

end Store

/-! ## At an API server -/

namespace Server

variable {s : Server} {keys : KeyPair} {names : Names}

/-- The server with a namespace. -/
def withNamespace (s : Server) (ns : String) : Server :=
  if s.namespaces.contains ns then s else s.addNamespace ns

theorem withNamespace_contains (s : Server) (ns : String) :
    (s.withNamespace ns).namespaces.contains ns = true := by
  rw [withNamespace]
  split
  · assumption
  · simp [addNamespace, SortedMap.contains]

/-- A namespace that is there is not added. -/
theorem withNamespace_of_contains {ns : String} (present : s.namespaces.contains ns = true) :
    s.withNamespace ns = s := by
  rw [withNamespace, if_pos present]

theorem Readable.withNamespace {p : Place} (readable : s.Readable p) (ns : String) :
    (s.withNamespace ns).Readable p := by
  rw [Server.withNamespace]
  split
  · exact readable
  · exact readable

/-- The server after both objects were written. -/
def settled (s : Server) (keys : KeyPair) (names : Names) : Server :=
  let d := Desired.render keys names
  (s.applied (d.object .secret)).applied (d.object .configMap)

/-- The server holds what is rendered for a key pair, and nothing with it but a version and a time
of creation. -/
structure Settled (s : Server) (keys : KeyPair) (names : Names) (version : Kind → Nat)
    (created : Kind → String) : Prop where
  hasNamespace : s.namespaces.contains names.ns = true
  object (kind : Kind) : s.objects.get? (names.place kind) =
    some (((Desired.render keys names).object kind).held (version kind) (created kind))

/-- The server is as another one, apart from the objects that the names stand for. -/
structure SameElsewhere (s s' : Server) (names : Names) : Prop where
  namespaces : s.namespaces = s'.namespaces
  clock : s.clock = s'.clock
  objects (p : Place) (other : ∀ kind, p ≠ names.place kind) :
    s.objects.get? p = s'.objects.get? p

/-- The server holds what is rendered for a key pair and is as another one that did so, but for the
versions of the two objects. -/
def SameButVersions (s s' : Server) (keys : KeyPair) (names : Names) : Prop :=
  ∃ version version' created, s.Settled keys names version created ∧
    s'.Settled keys names version' created ∧ s.SameElsewhere s' names

/-- The version of each of the two objects after both were written. -/
def settledVersion (s : Server) : Kind → Nat
  | .secret => s.version + 1
  | .configMap => s.version + 2

/-- When each of the two objects was first stored. -/
def settledTime (s : Server) (keys : KeyPair) (names : Names) : Kind → String
  | .secret => (s.createdAt (names.place .secret) none).1
  | .configMap => ((s.applied ((Desired.render keys names).object .secret)).createdAt
      (names.place .configMap) none).1

theorem settled_spec (keys : KeyPair) (present : s.namespaces.contains names.ns = true) :
    (s.settled keys names).Settled keys names s.settledVersion (s.settledTime keys names) := by
  refine ⟨present, fun kind => ?_⟩
  rw [settled, applied_get?, applied_get?]
  cases kind <;> simp [Names.place_inj, applied_version, settledVersion, settledTime]

/-- What is settled stays as it is, but for the versions. -/
theorem Settled.again {version : Kind → Nat} {created : Kind → String}
    (h : s.Settled keys names version created) :
    (s.settled keys names).Settled keys names s.settledVersion created ∧
      (s.settled keys names).SameElsewhere s names := by
  have secretTime :=
    createdAt_held (Desired.render_ofName keys names .secret) (h.object .secret)
  have kept : (s.applied ((Desired.render keys names).object .secret)).objects.get?
      (names.place .configMap) = some (((Desired.render keys names).object .configMap).held
        (version .configMap) (created .configMap)) := by
    rw [applied_get?, Desired.render_place, if_neg (by simp [Names.place_inj]),
      h.object .configMap]
  have configMapTime := createdAt_held (Desired.render_ofName keys names .configMap) kept
  have times : s.settledTime keys names = created := by
    funext kind
    cases kind with
    | secret => exact congrArg Prod.fst secretTime
    | configMap => exact congrArg Prod.fst configMapTime
  refine ⟨times ▸ settled_spec keys h.hasNamespace, rfl, ?_, fun p other => ?_⟩
  · have clock : (s.applied ((Desired.render keys names).object .secret)).clock = s.clock := by
      rw [applied, Desired.render_place, secretTime]
    rw [settled, applied, Desired.render_place, configMapTime, clock]
  · rw [settled, applied_get?, applied_get?, Desired.render_place, Desired.render_place,
      if_neg (other _), if_neg (other _)]

/-- Both objects can be read after both were written. -/
theorem readable_settled (readable : ∀ kind, s.Readable (names.place kind)) (keys : KeyPair)
    (kind : Kind) : (s.settled keys names).Readable (names.place kind) := by
  have secret (kind : Kind) : (s.applied _).Readable (names.place kind) :=
    (readable kind).applied (Desired.render_ofName keys names .secret)
      (by rw [Desired.render_place]; exact readable .secret)
  exact (secret kind).applied (Desired.render_ofName keys names .configMap)
    (by rw [Desired.render_place]; exact secret .configMap)

section Serves

variable (valid : names.check = .ok ())
include valid

/-- A server that is asked for the namespace has it. -/
theorem houses (s : Server) :
    Houses (answer.through Client.call) names.ns (!s.namespaces.contains names.ns) s
      (s.withNamespace names.ns) where
  lookup := by
    rw [Bool.not_not]
    exact Client.call_namespaceExists (Names.check_plain valid).1 s
  creation missing := by
    have absent : s.namespaces.contains names.ns = false := by simpa using missing
    rw [Client.call_createNamespace absent]
    simp [withNamespace, absent]
  keeping found := withNamespace_of_contains (by simpa using found)

/-- A server that has the namespace takes each of the objects, if it can be read what was there. -/
theorem call_apply_render {kind : Kind} (readable : s.Readable (names.place kind)) (keys : KeyPair)
    (present : s.namespaces.contains names.ns = true) :
    answer.through Client.call (.apply ((Desired.render keys names).object kind)) s =
      (.ok (), s.applied ((Desired.render keys names).object kind)) :=
  Client.call_apply (Names.check_plain valid).1 (Desired.render_ofName keys names kind)
    (Names.place_plain valid kind) (by rwa [Desired.render_place]) present

/-- A client reads an object of the names. -/
theorem call_get_names (s : Server) (kind : Kind) :
    answer.through Client.call (.get (names.place kind)) s =
      (Client.shown s (names.place kind), s) := by
  have place : names.place kind = ⟨names.ns, kind, (names.place kind).name⟩ := by
    cases kind <;> rfl
  rw [place]
  exact Client.call_get (Names.check_plain valid).1 kind (Names.place_plain valid kind) s

/-- What is held for a rendered object is read as the object. -/
theorem call_get_render {kind : Kind} (readable : s.Readable (names.place kind)) {version : Nat}
    {created : String} (h : s.objects.get? (names.place kind) =
      some (((Desired.render keys names).object kind).held version created)) :
    answer.through Client.call (.get (names.place kind)) s =
      (.ok (some (Desired.storedAt keys names
        (fun _ => (Timestamp.parse? created.toList).map Timestamp.print) kind)), s) := by
  have stored := stored_held (Desired.render_ofName keys names kind) version created
  rw [Desired.object_kind] at stored
  rw [call_get_names valid, Client.shown_of_readable readable h, Names.place_kind, stored]
  rfl

/-- A server does what a run asks, if it can be read what is at the places of the objects. -/
theorem serves (readable : ∀ kind, s.Readable (names.place kind)) (keys : KeyPair)
    {version : Kind → Nat} {created : Kind → String}
    (after : ((s.withNamespace names.ns).settled keys names).Settled keys names version created) :
    ∃ between, Serves (answer.through Client.call) keys names
      (!s.namespaces.contains names.ns) s (s.withNamespace names.ns) between
      ((s.withNamespace names.ns).settled keys names)
      (Desired.storedAt keys names fun kind =>
        (Timestamp.parse? (created kind).toList).map Timestamp.print) := by
  have present := s.withNamespace_contains names.ns
  have start (kind : Kind) : (s.withNamespace names.ns).Readable (names.place kind) :=
    (readable kind).withNamespace names.ns
  have between := (start .configMap).applied (Desired.render_ofName keys names .secret)
    (by rw [Desired.render_place]; exact start .secret)
  have last := readable_settled start keys
  have houses := houses valid s
  exact ⟨_, houses.lookup, houses.creation, houses.keeping,
    call_apply_render valid (start .secret) keys present,
    call_apply_render valid between keys present,
    fun kind => call_get_render valid (last kind) (after.object kind), fun _ => rfl⟩

/-- A server that is settled does so again. -/
theorem Settled.serves (readable : ∀ kind, s.Readable (names.place kind)) {version : Kind → Nat}
    {created : Kind → String} (h : s.Settled keys names version created) :
    ∃ between, Serves (answer.through Client.call) keys names false s s between
      (s.settled keys names) (Desired.storedAt keys names fun kind =>
        (Timestamp.parse? (created kind).toList).map Timestamp.print) := by
  have start : s.withNamespace names.ns = s := withNamespace_of_contains h.hasNamespace
  have serves := Server.serves valid readable keys (start.symm ▸ h.again.1)
  rwa [h.hasNamespace, start] at serves

end Serves

end Server

namespace Reconcile

variable {keys : KeyPair} {names : Names}

/-! ## Two runs -/

/-- Of two runs in sequence with a cluster, the first ends well and leaves it holding the key pair.
The second reports the same but that it created no namespace, and leaves it `unchanged`. -/
def Converges {Ask σ : Type} (run : σ → Run Ask (Except RunError Report) σ)
    (h : Handler Call Call.Answer σ) (keys : KeyPair) (names : Names)
    (unchanged : σ → σ → Prop) (s : σ) : Prop :=
  let first := run s
  let again := run first.state
  ∃ report, EndsWell first report ∧ Holds h keys names first.state ∧
    EndsWell again { report with namespaceCreated := false } ∧ unchanged again.state first.state

/-- Two runs in sequence with a cluster in memory. -/
theorem memory_converges (valid : names.check = .ok ()) (s : Store) :
    Converges ((run keys names).run Store.answer) Store.answer keys names Eq s := by
  have settled := Store.settled_spec keys (s.withNamespace_contains names.ns)
  obtain ⟨between, serves⟩ := s.serves keys names settled
  obtain ⟨between', again⟩ := settled.serves
  obtain ⟨report, ends, state, holds, ends', state'⟩ := serves.twice again valid
  rw [Converges, state]
  exact ⟨report, ends, holds, ends', state'⟩

/-- A session with a server ends as the run does, for a client logs no warning of its own. -/
theorem EndsWell.session {σ : Type} {h : Handler Request (fun _ => Reply) σ} {s : σ}
    {report : Report}
    (ends : EndsWell ((run keys names).run (h.through Client.call) s) report) :
    EndsWell ((Client.session (run keys names)).run h s) report where
  value := (Dialogue.expand_run Client.call h (run keys names) s).1.trans ends.value
  quiet kind := by
    rw [List.any_eq_false]
    intro n hn
    rcases Dialogue.mem_expand_notices hn with hn | ⟨c, s', hn⟩
    · exact List.any_eq_false.1 (ends.quiet kind) n hn
    · obtain ⟨k, name, rfl | rfl⟩ := (Client.call_logs c).of_mem hn
      · exact Bool.false_ne_true
      · exact Bool.false_ne_true

/-- Two runs in sequence with an API server. -/
theorem server_converges (valid : names.check = .ok ()) {s : Server} (sound : s.Sound) :
    Converges ((Client.session (run keys names)).run Server.answer)
      (Server.answer.through Client.call) keys names
      (fun s s' => s.SameButVersions s' keys names) s := by
  have settled := Server.settled_spec keys (s.withNamespace_contains names.ns)
  have readable (kind : Kind) := sound.readable (names.place kind)
  have settledReadable :=
    Server.readable_settled (fun kind => (readable kind).withNamespace names.ns) keys
  obtain ⟨between, serves⟩ := Server.serves valid readable keys settled
  obtain ⟨between', again⟩ := settled.serves valid settledReadable
  obtain ⟨report, ends, state, holds, ends', state'⟩ := serves.twice again valid
  have session (s : Server) : ((Client.session (run keys names)).run Server.answer s).state = _ :=
    (Dialogue.expand_run Client.call Server.answer (run keys names) s).2
  rw [Converges, session, state, session, state']
  obtain ⟨settled', same⟩ := settled.again
  exact ⟨report, ends.session, holds, ends'.session, _, _, _, settled', settled, same⟩

/-- Whatever is there before, a run that nothing disturbs ends well, finds no drift and leaves the
namespace and both objects as they are rendered; the same run once more changes nothing but the
versions. -/
theorem converges (valid : names.check = .ok ()) :
    (∀ s : Store, Converges ((run keys names).run Store.answer) Store.answer keys names Eq s) ∧
    ∀ s : Server, s.Reached →
      Converges ((Client.session (run keys names)).run Server.answer)
        (Server.answer.through Client.call) keys names
        (fun s s' => s.SameButVersions s' keys names) s :=
  ⟨memory_converges valid, fun _ reached => server_converges valid reached.sound⟩

/-! ## A run over what others left -/

/-- A server without the ConfigMap, and with a Secret that another client filled. -/
def foreignServer : Server :=
  ((Server.empty.addNamespace "n").write ⟨"n", .secret, "s"⟩ (.object [
    ("apiVersion", .text "v1"), ("kind", .text "Secret"),
    ("data", .object [("extra", .text "AAEC")]), ("immutable", .null)]) none).2

theorem foreignServer_reached : foreignServer.Reached := by
  refine .write _ _ _ ?_ (.addNamespace "n" .empty)
  have storable : Storable .secret (.object [("apiVersion", .text "v1"), ("kind", .text "Secret"),
      ("data", .object [("extra", .text "AAEC")]), ("immutable", .null)]) :=
    ⟨by decide +kernel, by decide +kernel⟩
  exact storable.stamp (Server.timeOf_isTime _)

theorem converges_foreignServer :
    Names.check ⟨"n", "s", "c"⟩ = .ok () ∧ foreignServer.Reached ∧
      Converges ((run ⟨[1], [255]⟩ ⟨"n", "s", "c"⟩).run Store.answer) Store.answer ⟨[1], [255]⟩
        ⟨"n", "s", "c"⟩ Eq .empty ∧
      Converges ((Client.session (run ⟨[1], [255]⟩ ⟨"n", "s", "c"⟩)).run Server.answer)
        (Server.answer.through Client.call) ⟨[1], [255]⟩ ⟨"n", "s", "c"⟩
        (fun s s' => s.SameButVersions s' ⟨[1], [255]⟩ ⟨"n", "s", "c"⟩) foreignServer := by
  have valid : Names.check ⟨"n", "s", "c"⟩ = .ok () := rfl
  have ⟨memory, server⟩ := @converges ⟨[1], [255]⟩ ⟨"n", "s", "c"⟩ valid
  exact ⟨valid, foreignServer_reached, memory .empty, server _ foreignServer_reached⟩

end Reconcile

end MountKeys
