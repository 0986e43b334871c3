import MountKeys.Inspect
import MountKeys.Proofs.Reconcile.Converge

/-!
# Inspections and runs

An inspection compares the entries that this program names, one by one.  A run writes whole objects.
`inSync_iff_named_kept` says how the two go together: what is in sync are the objects whose named
entries a run would keep, and a run would keep all of them if they hold nothing else.

* `Reads` says what the calls of an inspection give, and `Reads.run` what it makes of that.
* `inSync_verdict` says when that is in sync: where both objects hold in the named entries what is
  rendered.
* `Serves.dataAt` says what is read after a run: what is rendered, whatever was there.
* `Reads.fitsRun` puts both together, once for all clusters.
-/

namespace MountKeys

/-! ## Named entries -/

/-- The entries of an object that this program names. -/
def Kind.namedEntries : Kind → List String
  | .secret => [privateKeyEntry, publicKeyEntry]
  | .configMap => [publicKeyEntry]

/-- Something holds for both kinds if it does for each. -/
theorem Kind.forall_iff {P : Kind → Prop} : (∀ kind, P kind) ↔ P .secret ∧ P .configMap :=
  ⟨fun h => ⟨h .secret, h .configMap⟩, fun h kind => by cases kind <;> simp [h]⟩

/-- Something holds for a kind if it does for one of the two. -/
theorem Kind.exists_iff {P : Kind → Prop} : (∃ kind, P kind) ↔ P .secret ∨ P .configMap :=
  ⟨fun ⟨kind, h⟩ => by cases kind <;> simp [h], fun h => h.elim (⟨_, ·⟩) (⟨_, ·⟩)⟩

namespace Desired

variable (keys : KeyPair) (names : Names)

/-- Nothing is rendered but the named entries. -/
theorem render_unnamed {kind : Kind} {key : String} (unnamed : key ∉ kind.namedEntries) :
    ((render keys names).object kind).contents.get? key = none := by
  cases kind with
  | secret =>
    simp only [Kind.namedEntries, List.mem_cons, List.not_mem_nil, or_false, not_or] at unnamed
    simp [render_secret_contents, SortedMap.ofList, unnamed]
  | configMap =>
    simp only [Kind.namedEntries, List.mem_cons, List.not_mem_nil, or_false] at unnamed
    simp [render_configMap_contents, SortedMap.ofList, unnamed]

/-- A map is what is rendered if its named entries are, and if it has no others. -/
theorem render_eq_iff {kind : Kind} {data : ByteMap} :
    ((render keys names).object kind).contents = data ↔
      (∀ key ∈ kind.namedEntries,
        ((render keys names).object kind).contents.get? key = data.get? key) ∧
      ∀ key ∉ kind.namedEntries, data.get? key = none := by
  constructor
  · rintro rfl
    exact ⟨fun _ _ => rfl, fun _ unnamed => render_unnamed keys names unnamed⟩
  · rintro ⟨named, others⟩
    refine SortedMap.ext fun key => ?_
    by_cases h : key ∈ kind.namedEntries
    · exact named key h
    · rw [others key h, render_unnamed keys names h]

end Desired

/-! ## What is read -/

section Read

variable {σ : Type} (h : Handler Call Call.Answer σ)

/-- The byte map of an object, as it is read; there is none if it cannot be read. -/
def Handler.dataAt (p : Place) (s : σ) : Option ByteMap :=
  match (h (.get p) s).1 with
  | .ok stored => stored.map Stored.data
  | .error _ => none

/-- One entry of an object, as it is read. -/
def Handler.valueAt (p : Place) (key : String) (s : σ) : Option Bytes :=
  (h.dataAt p s).bind fun data => data.get? key

/-- The namespace and both objects are there. -/
structure AllThere (names : Names) (s : σ) : Prop where
  hasNamespace : (h (.namespaceExists names.ns) s).1 = .ok true
  object (kind : Kind) : (h.dataAt (names.place kind) s).isSome = true

end Read

/-- What is read after a run that nothing disturbs is what is rendered. -/
theorem Reconcile.Serves.dataAt {σ : Type} {h : Handler Call Call.Answer σ} {keys : KeyPair}
    {names : Names} {missing : Bool} {s start between last : σ} {stored : Kind → Stored}
    (serves : Serves h keys names missing s start between last stored)
    (valid : names.check = .ok ()) (kind : Kind) :
    h.dataAt (names.place kind) ((Reconcile.run keys names).run h s).state =
      some ((Desired.render keys names).object kind).contents := by
  rw [(serves.run valid).2, Handler.dataAt, serves.reading]
  exact congrArg some (serves.data kind)

namespace Inspection

/-! ## When something is in sync -/

/-- A stored value is the same if there is a local one and it is this. -/
theorem compareKey_same {s : Stored} {key : String} {own : Option Bytes} :
    compareKey (some s) key own = .same ↔ ∃ value, own = some value ∧ s.data.get? key = own := by
  rw [compareKey, Option.bind_some]
  cases s.data.get? key with
  | none => cases own <;> simp
  | some value =>
    cases own with
    | none => simp
    | some mine =>
      dsimp only
      split <;> simp_all

/-- An object is in sync if it is there and holds a local value at every key. -/
theorem statusOf_isInSync {place : Place} {stored : Option Stored}
    {keys : List (String × Option Bytes)} :
    (statusOf place stored keys).isInSync = true ↔ ∃ s, stored = some s ∧
      ∀ k ∈ keys, ∃ value, k.2 = some value ∧ s.data.get? k.1 = k.2 := by
  cases stored with
  | none => simp [statusOf, ObjectStatus.isInSync]
  | some s => simp [statusOf, ObjectStatus.isInSync, compareKey_same]

variable {keys : KeyPair} {names : Names}

/-- What was read is in sync if both objects are there with the named entries that are rendered. -/
theorem ofStored_isInSync {found : Bool} {stored : Kind → Option Stored} :
    (ofStored names (some keys) found (stored .secret) (stored .configMap)).isInSync = true ↔
      found = true ∧ ∀ kind, ∃ s, stored kind = some s ∧ ∀ key ∈ kind.namedEntries,
        ((Desired.render keys names).object kind).contents.get? key = s.data.get? key := by
  rw [Kind.forall_iff]
  simp only [isInSync, ofStored, Bool.and_eq_true, and_assoc, statusOf_isInSync,
    Kind.namedEntries, List.forall_mem_cons, List.not_mem_nil, false_imp_iff, implies_true,
    and_true, Option.map_some, Desired.render_publicKey, Desired.render_privateKey]
  simp [eq_comm]

/-- That an inspection came to an end and found all in sync. -/
def FoundInSync (outcome : Except ClusterError Inspection) : Prop :=
  ∃ i, outcome = .ok i ∧ i.isInSync = true

/-- What comes of an inspection, by the answers to its calls. -/
def verdict (names : Names) (own : Option KeyPair) (found : Bool)
    (held : Kind → Except ClusterError (Option Stored)) : Except ClusterError Inspection :=
  if found then do
    let secret ← held .secret
    let configMap ← held .configMap
    return ofStored names own true secret configMap
  else return ofStored names own false none none

/-- An inspection finds all in sync if the namespace is there and both objects are, with the named
entries that are rendered. -/
theorem inSync_verdict {found : Bool} {held : Kind → Except ClusterError (Option Stored)} :
    FoundInSync (verdict names (some keys) found held) ↔
      found = true ∧ ∀ kind, ∃ s, held kind = .ok (some s) ∧ ∀ key ∈ kind.namedEntries,
        ((Desired.render keys names).object kind).contents.get? key = s.data.get? key := by
  cases found with
  | false =>
    have absent := @ofStored_isInSync keys names false fun _ => none
    simpa [FoundInSync, verdict, pure, Except.pure] using absent
  | true =>
    cases secret : held .secret with
    | error e => simp [FoundInSync, verdict, Kind.forall_iff, secret, bind, Except.bind]
    | ok storedSecret =>
      cases configMap : held .configMap with
      | error e =>
        simp [FoundInSync, verdict, Kind.forall_iff, secret, configMap, bind, Except.bind]
      | ok storedConfigMap =>
        have both := @ofStored_isInSync keys names true fun
          | .secret => storedSecret
          | .configMap => storedConfigMap
        simpa [FoundInSync, verdict, Kind.forall_iff, secret, configMap, bind, Except.bind, pure,
          Except.pure] using both

/-! ## An inspection -/

section Reads

variable {σ : Type} {h : Handler Call Call.Answer σ} {s : σ} {found : Bool}
  {held : Kind → Except ClusterError (Option Stored)}

/-- What the calls of an inspection are answered with, by a cluster that stays as it is. -/
structure Reads (h : Handler Call Call.Answer σ) (names : Names) (s : σ) (found : Bool)
    (held : Kind → Except ClusterError (Option Stored)) : Prop where
  lookup : h (.namespaceExists names.ns) s = (.ok found, s)
  reading (kind : Kind) : h (.get (names.place kind)) s = (held kind, s)

/-- An inspection comes to its verdict and changes nothing. -/
theorem Reads.run (reads : Reads h names s found held) (own : Option KeyPair) :
    ((Inspection.run names own).run h s).value = verdict names own found held ∧
      ((Inspection.run names own).run h s).state = s := by
  have lookup := reads.lookup
  cases found with
  | false => simp [Inspection.run, Session.namespaceExists, lookup, verdict, pure, Except.pure]
  | true =>
    have secret := reads.reading .secret
    have configMap := reads.reading .configMap
    cases heldSecret : held .secret <;> cases heldConfigMap : held .configMap <;>
      simp [Inspection.run, Session.namespaceExists, Session.get, lookup, secret, configMap,
        heldSecret, heldConfigMap, verdict, pure, Except.pure, bind, Except.bind]

theorem Reads.dataAt (reads : Reads h names s found held) {kind : Kind} {object : Option Stored}
    (answer : held kind = .ok object) :
    h.dataAt (names.place kind) s = object.map Stored.data := by
  rw [Handler.dataAt, reads.reading, answer]

/-- The namespace and both objects are there if the answers say so. -/
theorem Reads.allThere_iff (reads : Reads h names s found held) :
    AllThere h names s ↔ found = true ∧ ∀ kind, ∃ object, held kind = .ok (some object) := by
  constructor
  · rintro ⟨hasNamespace, object⟩
    rw [reads.lookup] at hasNamespace
    refine ⟨Except.ok.inj hasNamespace, fun kind => ?_⟩
    have there := object kind
    rw [Handler.dataAt, reads.reading] at there
    match answer : held kind with
    | .ok (some object) => exact ⟨object, rfl⟩
    | .ok none | .error _ => simp [answer] at there
  · rintro ⟨rfl, objects⟩
    refine ⟨by rw [reads.lookup], fun kind => ?_⟩
    obtain ⟨object, answer⟩ := objects kind
    rw [reads.dataAt answer]
    rfl

/-- An inspection finds all in sync if the namespace is there and both objects are, and what is read
of the named entries is what is rendered. -/
theorem Reads.inSync_iff (reads : Reads h names s found held) :
    FoundInSync (verdict names (some keys) found held) ↔ AllThere h names s ∧
      ∀ kind, ∀ key ∈ kind.namedEntries,
        ((Desired.render keys names).object kind).contents.get? key =
          h.valueAt (names.place kind) key s := by
  have value {kind : Kind} {object : Stored} (answer : held kind = .ok (some object))
      (key : String) : h.valueAt (names.place kind) key s = object.data.get? key := by
    rw [Handler.valueAt, reads.dataAt answer]
    rfl
  rw [inSync_verdict, reads.allThere_iff, and_assoc]
  refine and_congr_right fun _ => ?_
  rw [← forall_and]
  refine forall_congr' fun kind => ⟨?_, ?_⟩
  · rintro ⟨object, answer, same⟩
    exact ⟨⟨object, answer⟩, fun key named => by rw [value answer, same key named]⟩
  · rintro ⟨⟨object, answer⟩, same⟩
    exact ⟨object, answer, fun key named => by rw [same key named, value answer]⟩

end Reads

/-! ## An inspection and a run -/

section FitsRun

variable {Ask σ : Type} (inspect : σ → Run Ask (Except ClusterError Inspection) σ)
  (reconcile : σ → Run Ask (Except RunError Report) σ) (h : Handler Call Call.Answer σ)
  (names : Names) (s : σ)

/-- How an inspection against a key pair goes with a run that would write the pair.

The inspection changes nothing, and it comes to an end where the objects can be read.  What it finds
in sync are the objects whose named entries the run would keep.  The run would keep the objects as
they are if they are in sync and hold nothing else. -/
structure FitsRun : Prop where
  readsOnly : (inspect s).state = s
  reports : (∀ kind, ∃ object, (h (.get (names.place kind)) s).1 = .ok object) →
    ∃ i, (inspect s).value = .ok i
  inSync_iff : FoundInSync (inspect s).value ↔ AllThere h names s ∧
    ∀ kind, ∀ key ∈ kind.namedEntries,
      h.valueAt (names.place kind) key (reconcile s).state = h.valueAt (names.place kind) key s
  keeps_iff : (AllThere h names s ∧
      ∀ kind, h.dataAt (names.place kind) (reconcile s).state = h.dataAt (names.place kind) s) ↔
    FoundInSync (inspect s).value ∧
      ∀ kind, ∀ key ∉ kind.namedEntries, h.valueAt (names.place kind) key s = none

variable {inspect reconcile h names s} {found : Bool}
  {held : Kind → Except ClusterError (Option Stored)} {keys : KeyPair}

/-- An inspection goes with a run that leaves what is rendered wherever both objects were there. -/
theorem Reads.fitsRun (reads : Reads h names s found held)
    (value : (inspect s).value = verdict names (some keys) found held)
    (state : (inspect s).state = s)
    (settles : AllThere h names s → ∀ kind, h.dataAt (names.place kind) (reconcile s).state =
      some ((Desired.render keys names).object kind).contents) :
    FitsRun inspect reconcile h names s where
  readsOnly := state
  reports readable := by
    have answers (kind : Kind) : ∃ object, held kind = .ok object := by
      simpa only [reads.reading] using readable kind
    obtain ⟨secret, hsecret⟩ := answers .secret
    obtain ⟨configMap, hconfigMap⟩ := answers .configMap
    rw [value]
    cases found <;> simp [verdict, hsecret, hconfigMap, pure, Except.pure, bind, Except.bind]
  inSync_iff := by
    rw [value, reads.inSync_iff]
    refine and_congr_right fun there => forall_congr' fun kind => ?_
    have after (key : String) : h.valueAt (names.place kind) key (reconcile s).state = _ :=
      congrArg (·.bind fun data => data.get? key) (settles there kind)
    simp only [after, Option.bind_some]
  keeps_iff := by
    rw [value, reads.inSync_iff, and_assoc]
    refine and_congr_right fun there => ?_
    rw [← forall_and]
    refine forall_congr' fun kind => ?_
    obtain ⟨data, before⟩ := Option.isSome_iff_exists.1 (there.object kind)
    simp only [Handler.valueAt, settles there kind, before, Option.bind_some, Option.some.injEq]
    exact Desired.render_eq_iff keys names

/-- A cluster in memory is read as it is. -/
theorem memory_reads (s : Store) (names : Names) :
    Reads Store.answer names s (s.namespaces.contains names.ns)
      fun kind => .ok (s.objects.get? (names.place kind)) :=
  ⟨rfl, fun _ => rfl⟩

theorem memory_fitsRun (valid : names.check = .ok ()) (s : Store) (keys : KeyPair) :
    FitsRun ((Inspection.run names (some keys)).run Store.answer)
      ((Reconcile.run keys names).run Store.answer) Store.answer names s := by
  have reads := memory_reads s names
  obtain ⟨value, state⟩ := reads.run (some keys)
  obtain ⟨between, serves⟩ :=
    s.serves keys names (Store.settled_spec keys (s.withNamespace_contains names.ns))
  exact reads.fitsRun value state fun _ => serves.dataAt valid

/-- A server is read as it shows. -/
theorem server_reads (valid : names.check = .ok ()) (s : Server) :
    Reads (Server.answer.through Client.call) names s (s.namespaces.contains names.ns)
      fun kind => Client.shown s (names.place kind) :=
  ⟨Client.call_namespaceExists (Names.check_plain valid).1 s, Server.call_get_names valid s⟩

theorem server_fitsRun (valid : names.check = .ok ()) {s : Server} (proper : s.Proper)
    (keys : KeyPair) :
    FitsRun ((Client.session (Inspection.run names (some keys))).run Server.answer)
      ((Client.session (Reconcile.run keys names)).run Server.answer)
      (Server.answer.through Client.call) names s := by
  have reads := server_reads valid s
  have inspection := Dialogue.expand_run Client.call Server.answer
    (Inspection.run names (some keys)) s
  have reconciled := Dialogue.expand_run Client.call Server.answer (Reconcile.run keys names) s
  obtain ⟨value, state⟩ := reads.run (some keys)
  refine reads.fitsRun (inspection.1.trans value) (inspection.2.trans state) fun there => ?_
  have readable (kind : Kind) : s.Readable (names.place kind) := by
    obtain ⟨object, shown⟩ := (reads.allThere_iff.1 there).2 kind
    exact Client.readable_of_shown proper shown
  obtain ⟨between, serves⟩ := Server.serves valid readable keys
    (Server.settled_spec keys (s.withNamespace_contains names.ns))
  intro kind
  rw [← serves.dataAt valid kind]
  exact congrArg _ reconciled.2

/-- An inspection against a key pair and a run that would write it go together, with every cluster
in memory and with every API server, whatever they hold. -/
theorem inSync_iff_named_kept (valid : names.check = .ok ()) (keys : KeyPair) :
    (∀ s : Store, FitsRun ((Inspection.run names (some keys)).run Store.answer)
      ((Reconcile.run keys names).run Store.answer) Store.answer names s) ∧
    ∀ s : Server, s.Proper →
      FitsRun ((Client.session (Inspection.run names (some keys))).run Server.answer)
        ((Client.session (Reconcile.run keys names)).run Server.answer)
        (Server.answer.through Client.call) names s :=
  ⟨fun s => memory_fitsRun valid s keys, fun _ proper => server_fitsRun valid proper keys⟩

end FitsRun

/-! ## An entry too many -/

/-- A key pair. -/
def heldPair : KeyPair :=
  ⟨textBytes "PRIVATE-BYTES", textBytes "PUBLIC-BYTES"⟩

/-- A cluster that holds both objects as they are rendered, but for one more entry in the Secret. -/
def overfull : Store :=
  let keys := Desired.render heldPair .standard
  ((Store.empty.addNamespace "swlabpods").put (Names.standard.place .secret)
    (keys.secret.contents.insert "extra" (textBytes "x")) none).put
    (Names.standard.place .configMap) keys.configMap.contents none

theorem overfull_inSync :
    FoundInSync ((Inspection.run .standard (some heldPair)).run Store.answer overfull).value :=
  ⟨_, rfl, by decide +kernel⟩

/-- It is in sync, but a run would take the entry away: what is in sync need not stay as it is. -/
theorem inSync_not_iff_kept :
    Names.standard.check = .ok () ∧
      ¬(FoundInSync ((Inspection.run .standard (some heldPair)).run Store.answer overfull).value ↔
        AllThere Store.answer .standard overfull ∧ ∀ kind,
          Store.answer.dataAt (Names.standard.place kind)
              ((Reconcile.run heldPair .standard).run Store.answer overfull).state =
            Store.answer.dataAt (Names.standard.place kind) overfull) := by
  refine ⟨by decide +kernel, fun claimed => ?_⟩
  have kept := (claimed.1 overfull_inSync).2 .secret
  have changed : Store.answer.dataAt (Names.standard.place .secret)
      ((Reconcile.run heldPair .standard).run Store.answer overfull).state ≠
    Store.answer.dataAt (Names.standard.place .secret) overfull := by decide +kernel
  exact changed kept

/-- A server that holds both objects as they are rendered. -/
def fullServer : Server :=
  (Server.empty.addNamespace "swlabpods").settled heldPair .standard

theorem fullServer_proper : fullServer.Proper := by
  have readable (kind : Kind) : (Server.empty.addNamespace "swlabpods").Readable
      (Names.standard.place kind) := fun _ h => nomatch h
  have proper : (Server.empty.addNamespace "swlabpods").Proper := fun _ _ h => nomatch h
  have secret := Desired.render_ofName heldPair .standard .secret
  have configMap := Desired.render_ofName heldPair .standard .configMap
  exact (proper.applied secret (readable .secret)).applied configMap
    ((readable .configMap).applied secret (readable .secret))

/-- The extra entry makes no difference to the inspection, and of the named entries a run keeps
what is there. -/
theorem inSync_iff_named_kept_overfull :
    Names.standard.check = .ok () ∧ fullServer.Proper ∧
      (AllThere Store.answer .standard overfull ∧ ∀ kind, ∀ key ∈ kind.namedEntries,
        Store.answer.valueAt (Names.standard.place kind) key
            ((Reconcile.run heldPair .standard).run Store.answer overfull).state =
          Store.answer.valueAt (Names.standard.place kind) key overfull) ∧
      FitsRun ((Client.session (Inspection.run .standard (some heldPair))).run Server.answer)
        ((Client.session (Reconcile.run heldPair .standard)).run Server.answer)
        (Server.answer.through Client.call) .standard fullServer := by
  have valid : Names.standard.check = .ok () := by decide +kernel
  have ⟨memory, server⟩ := inSync_iff_named_kept valid heldPair
  exact ⟨valid, fullServer_proper, (memory overfull).inSync_iff.1 overfull_inSync,
    server fullServer fullServer_proper⟩

end Inspection

end MountKeys
