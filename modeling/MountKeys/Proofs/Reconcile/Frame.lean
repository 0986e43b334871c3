import MountKeys.Proofs.Api.Writes
import MountKeys.Proofs.Reconcile.Effects
import MountKeys.Proofs.Reconcile.Reached

/-!
# What a run leaves alone

A run works on one namespace and on one object of each kind in it.  `others_untouched` says that
nothing else changes, and that nothing is lost, whatever fails on the way and wherever the run
stops.  It is stated for both clusters: for a cluster in memory, and for an API server at the other
end of a connection.

* `Holdings` is what both clusters have in common, and `LeavesOthers` the frame.  It holds of no
  change, and of one change after another.
* A call has its effect at most (`Handler.ActsAtMost`), so a failed call may have had it.  The call
  that is the step is one of the plan: `LeavesOthers.of_acts`.
* A request says in its target and its body what it makes (`Request.writes?`, `Request.creates?`),
  and a server does no more (`Server.answer_leavesOthers`).  The requests for a call of the plan are
  about the names of the run (`call_fits`).
-/

namespace MountKeys

/-- What a cluster holds: namespaces, and objects as values of one type. -/
structure Holdings (ν : Type) where
  namespaces : SortedMap String Unit
  objects : SortedMap Place ν

/-- What a cluster in memory holds. -/
def Store.holdings (s : Store) : Holdings Stored :=
  ⟨s.namespaces, s.objects⟩

/-- What an API server holds. -/
def Server.holdings (s : Server) : Holdings Json :=
  ⟨s.namespaces, s.objects⟩

/-! ## The frame -/

/-- Between two states of a cluster nothing has happened outside of what the names stand for, and
nothing was lost. -/
structure LeavesOthers {ν : Type} (names : Names) (before after : Holdings ν) : Prop where
  /-- Any other namespace is there if it was. -/
  namespaces : ∀ ns, ns ≠ names.ns →
    after.namespaces.contains ns = before.namespaces.contains ns
  /-- Any other Secret and any other ConfigMap is as it was. -/
  objects : ∀ p, p ≠ names.place p.kind → after.objects.get? p = before.objects.get? p
  /-- No namespace is lost. -/
  keepsNamespaces : ∀ ns, before.namespaces.contains ns = true →
    after.namespaces.contains ns = true
  /-- No object is lost. -/
  keepsObjects : ∀ p, before.objects.contains p = true → after.objects.contains p = true
  /-- The namespaces are the same but for the one of the names. -/
  oneNamespace : after.namespaces = before.namespaces ∨
    after.namespaces = before.namespaces.insert names.ns ()

namespace LeavesOthers

variable {ν : Type} {names : Names} {before between after : Holdings ν}

/-- The namespace of the names was added or nothing, and the object of a kind was written or
nothing. -/
theorem of_effect
    (namespaces : after.namespaces = before.namespaces ∨
      after.namespaces = before.namespaces.insert names.ns ())
    (objects : after.objects = before.objects ∨
      ∃ kind v, after.objects = before.objects.insert (names.place kind) v) :
    LeavesOthers names before after where
  namespaces ns other := by
    rcases namespaces with same | added
    · rw [same]
    · rw [added, SortedMap.contains, SortedMap.get?_insert_of_ne _ _ other, SortedMap.contains]
  objects p other := by
    rcases objects with same | ⟨kind, v, written⟩
    · rw [same]
    · have elsewhere : p ≠ names.place kind := by
        rintro rfl
        exact other (by rw [Names.place_kind])
      rw [written, SortedMap.get?_insert_of_ne _ _ elsewhere]
  keepsNamespaces ns there := by
    rcases namespaces with same | added
    · rwa [same]
    · rw [added, SortedMap.contains, SortedMap.get?_insert]
      split
      · rfl
      · exact there
  keepsObjects p there := by
    rcases objects with same | ⟨kind, v, written⟩
    · rwa [same]
    · rw [written, SortedMap.contains, SortedMap.get?_insert]
      split
      · rfl
      · exact there
  oneNamespace := namespaces

theorem refl (names : Names) (holdings : Holdings ν) : LeavesOthers names holdings holdings :=
  .of_effect (.inl rfl) (.inl rfl)

/-- A change after another one. -/
theorem trans (first : LeavesOthers names before between)
    (second : LeavesOthers names between after) : LeavesOthers names before after where
  namespaces ns other := (second.namespaces ns other).trans (first.namespaces ns other)
  objects p other := (second.objects p other).trans (first.objects p other)
  keepsNamespaces ns there := second.keepsNamespaces ns (first.keepsNamespaces ns there)
  keepsObjects p there := second.keepsObjects p (first.keepsObjects p there)
  oneNamespace := by
    rcases first.oneNamespace with same | added <;> rcases second.oneNamespace with same' | added'
    · exact .inl (same'.trans same)
    · exact .inr (by rw [added', same])
    · exact .inr (by rw [same', added])
    · have again := SortedMap.insert_get? (SortedMap.get?_insert_self before.namespaces names.ns ())
      exact .inr (by rw [added', added, again])

end LeavesOthers

/-! ## Calls -/

/-- The calls of the handler have their effect on what the cluster holds, which is `view`, or none.
The answer need not say which. -/
def Handler.ActsAtMost {σ : Type} (h : Handler Call Call.Answer σ) (view : σ → Store) : Prop :=
  ∀ c s, view (h c s).2 = view s ∨ c.Acts (view s) (view (h c s).2)

/-- Calls that have their effect or fail have their effect at most. -/
theorem Handler.ActsOrFails.actsAtMost {σ : Type} {h : Handler Call Call.Answer σ}
    {view : σ → Store} (good : h.ActsOrFails view) : h.ActsAtMost view := by
  intro c s
  cases answer : (h c s).1 with
  | ok result => exact .inr (good.of_ok answer)
  | error cause => exact .inl (good.of_error answer)

/-- A write of an object changes the one at its place. -/
theorem Store.put_objects (s : Store) (p : Place) (data : ByteMap) (told : Option String) :
    (s.put p data told).objects =
      s.objects.insert p ⟨p.name, p.ns, data, some (s.createdAt p told).1⟩ := rfl

namespace Reconcile

variable {keys : KeyPair} {names : Names}

/-- A call of the plan leaves all else alone. -/
theorem acts_leavesOthers {missing : Bool} {c : Call} (planned : c ∈ plan keys names missing)
    {s s' : Store} (acts : c.Acts s s') : LeavesOthers names s.holdings s'.holdings := by
  rcases mem_plan planned with rfl | rfl | ⟨kind, rfl⟩ | ⟨kind, rfl⟩
  · cases acts
    exact .refl _ _
  · cases acts
    exact .of_effect (.inr rfl) (.inl rfl)
  · cases acts with
    | apply m _ told =>
      have written := Store.put_objects s ((Desired.render keys names).object kind).place
        ((Desired.render keys names).object kind).contents told
      rw [Desired.render_place] at written ⊢
      exact .of_effect (.inl rfl) (.inr ⟨kind, _, written⟩)
  · cases acts
    exact .refl _ _

/-- A run over a cluster in memory leaves all else alone. -/
theorem store_leavesOthers {σ : Type} {h : Handler Call Call.Answer σ} {view : σ → Store}
    (good : h.ActsAtMost view) (keys : KeyPair) (names : Names) (s : σ) :
    LeavesOthers names (view s).holdings (view ((run keys names).run h s).state).holdings := by
  have course := run_course (Dialogue.run_ends h (run keys names) s)
  have gives := Handler.run_gives h (run keys names) s
  cases valid : names.check with
  | error cause =>
    rw [(course.of_bad valid).2] at gives
    exact gives ▸ .refl _ _
  | ok u =>
    refine gives.keeps (P := fun s' => LeavesOthers names (view s).holdings (view s').holdings)
      (fun t ht s' soFar _ => ?_) (.refl _ _)
    have planned := (course.law valid).planned.subset (List.mem_map_of_mem ht)
    rcases good t.1 s' with same | acts
    · rwa [same]
    · exact soFar.trans (acts_leavesOthers planned acts)

end Reconcile

/-! ## Requests -/

/-- The namespace that a request creates if it is carried out. -/
def Request.creates? (q : Request) : Option String :=
  match q.method, Server.Route.ofTarget? q.target with
  | .post, some .namespaces => some ((Server.metadataText "name" (Server.bodyOf q)).getD "")
  | _, _ => none

/-- What a request makes, if anything, is something that the names stand for. -/
structure Request.Fits (names : Names) (q : Request) : Prop where
  creates : q.creates? = none ∨ q.creates? = some names.ns
  writes : q.writes? = none ∨ ∃ kind, q.writes? = some (names.place kind)

/-- A request that reads fits any names. -/
theorem Request.fits_get (names : Names) (target : String) (body : Option Bytes) :
    Request.Fits names ⟨.get, target, body⟩ where
  creates := .inl (by rw [creates?])
  writes := .inl (Request.writes?_get target body)

namespace Server

/-- What a request does to the namespaces of a server: it adds the one that it creates, or
nothing. -/
theorem answer_namespaces {q : Request} {s s' : Server} {a : Reply} (h : answer q s = (a, s')) :
    s'.namespaces = s.namespaces ∨
      ∃ ns, q.creates? = some ns ∧ s'.namespaces = s.namespaces.insert ns () := by
  rw [answer] at h
  split at h
  next method route =>
    rw [postNamespace] at h
    split at h
    · cases h
      exact .inl rfl
    · cases h
      exact .inr ⟨_, by rw [Request.creates?, method, route], rfl⟩
  next =>
    rw [postObject] at h
    split at h
    · cases h
      exact .inl rfl
    split at h <;> cases h <;> exact .inl rfl
  next => split at h <;> cases h <;> exact .inl rfl
  next => split at h <;> cases h <;> exact .inl rfl
  next =>
    rw [putObject] at h
    split at h
    · cases h
      exact .inl rfl
    dsimp only at h
    split at h <;> cases h <;> exact .inl rfl
  next =>
    cases h
    exact .inl rfl

/-- An object that was written is one that the request writes. -/
theorem answer_objects {q : Request} {s s' : Server} {a : Reply} (h : answer q s = (a, s')) :
    s'.objects = s.objects ∨
      ∃ p j, q.writes? = some p ∧ s'.objects = s.objects.insert p j := by
  rcases answer_effect h with ⟨-, same, -⟩ | ⟨p, j, written, inserted, -⟩
  · exact .inl same
  · rw [writtenIn?] at written
    split at written
    · exact .inr ⟨p, j, written, inserted⟩
    · cases written

/-- A request that fits the names leaves all else alone. -/
theorem answer_leavesOthers {names : Names} {q : Request} (fits : q.Fits names) (s : Server) :
    LeavesOthers names s.holdings (answer q s).2.holdings := by
  refine .of_effect ?_ ?_
  · rcases answer_namespaces (rfl : answer q s = _) with same | ⟨ns, creates, added⟩
    · exact .inl same
    · rcases fits.creates with none | some
      · exact nomatch none.symm.trans creates
      · obtain rfl := Option.some.inj (some.symm.trans creates)
        exact .inr added
  · rcases answer_objects (rfl : answer q s = _) with same | ⟨p, j, writes, inserted⟩
    · exact .inl same
    · rcases fits.writes with none | ⟨kind, some⟩
      · exact nomatch none.symm.trans writes
      · obtain rfl := Option.some.inj (some.symm.trans writes)
        exact .inr ⟨kind, j, inserted⟩

end Server

namespace Client

/-- A request to create the namespace of the names fits them. -/
theorem fits_createNamespace (names : Names) :
    Request.Fits names ⟨.post, Request.namespacesPath ++ Request.writerQuery,
      some (bodyOf (namespaceTree names.ns))⟩ where
  creates := .inr (by simp only [Request.creates?, Server.ofTarget?_namespaces, bodyOf_tree]; rfl)
  writes := .inl (by simp only [Request.writes?, Server.ofTarget?_namespaces])

variable {names : Names} (valid : names.check = .ok ()) (keys : KeyPair) (kind : Kind)
include valid

/-- A request to create a rendered object fits the names that it was rendered for. -/
theorem fits_createRequest :
    (createRequest ((Desired.render keys names).object kind) names.ns).Fits names := by
  have plain := (Names.check_plain valid).1
  have metadata := Desired.render_ofName keys names kind
  have writes := createRequest_writes? plain metadata none
  rw [Manifest.replacing_none (by rw [metadata]), Desired.render_place] at writes
  refine ⟨.inl ?_, .inr ⟨kind, writes⟩⟩
  simp only [Request.creates?, createRequest, Server.ofTarget?_collection plain]

/-- A request to replace what stands at a place by the object that was rendered for it fits the
names. -/
theorem fits_replaceRequest (version : Option String) :
    (replaceRequest (((Desired.render keys names).object kind).replacing version)
      (names.place kind)).Fits names := by
  have writes := replaceRequest_writes? (Names.check_plain valid).1
    (Desired.render_ofName keys names kind) (Names.place_plain valid kind) version
  rw [Desired.render_place] at writes
  exact ⟨.inl (by rw [Request.creates?, replaceRequest]), .inr ⟨kind, writes⟩⟩

end Client

namespace Reconcile

/-- The requests for a call of the plan fit the names. -/
theorem call_fits {keys : KeyPair} {names : Names} (valid : names.check = .ok ()) {c : Call}
    {missing : Bool} (planned : c ∈ plan keys names missing) :
    (Client.call c).AsksOnly (Request.Fits names) := by
  have reading (target : String) := Request.fits_get names target none
  rcases mem_plan planned with rfl | rfl | ⟨kind, rfl⟩ | ⟨kind, rfl⟩
  · exact Client.namespaceExists_asks reading names.ns
  · exact Client.createNamespace_asks (Client.fits_createNamespace names)
  · have here : (⟨names.ns, ((Desired.render keys names).object kind).kind,
        (names.place kind).name⟩ : Place) = names.place kind := by
      rw [Desired.object_kind]
      cases kind <;> rfl
    refine Client.apply_asks (Desired.render_ofName keys names kind) (Names.check_plain valid).1
      (Names.place_plain valid kind) (Client.fits_createRequest valid keys kind) (reading _) ?_
    rw [here]
    exact Client.fits_replaceRequest valid keys kind
  · exact Client.get_asks reading _

/-- A run over a connection to an API server leaves all else alone. -/
theorem server_leavesOthers {τ : Type} {h : Handler Request (fun _ => Reply) (τ × Server)}
    (unreliable : Unreliable h) (keys : KeyPair) (names : Names) (t : τ) (s : Server) :
    LeavesOthers names s.holdings
      ((Client.session (run keys names)).run h (t, s)).state.2.holdings := by
  have step : ∀ q (ts : τ × Server), q.Fits names → LeavesOthers names s.holdings ts.2.holdings →
      LeavesOthers names s.holdings (h q ts).2.2.holdings := by
    intro q ⟨t', s'⟩ fits soFar
    rcases unreliable q t' s' with same | done
    · rwa [same]
    · rw [done]
      exact soFar.trans (Server.answer_leavesOthers fits s')
  rw [Client.session, (Dialogue.expand_run Client.call h (run keys names) (t, s)).2]
  have course := run_course (Dialogue.run_ends (h.through Client.call) (run keys names) (t, s))
  have gives := Handler.run_gives (h.through Client.call) (run keys names) (t, s)
  cases valid : names.check with
  | error cause =>
    rw [(course.of_bad valid).2] at gives
    exact gives ▸ .refl _ _
  | ok u =>
    refine gives.keeps (P := fun ts => LeavesOthers names s.holdings ts.2.holdings)
      (fun t ht ts soFar _ => ?_) (.refl _ _)
    have planned := (course.law valid).planned.subset (List.mem_map_of_mem ht)
    exact (call_fits valid planned).keeps step soFar

/-! ## Both clusters -/

/-- A run leaves all but its own namespace and its own two objects alone and loses nothing, whatever
fails on the way: over a cluster in memory whose calls have their effect or none, and over a
connection to an API server that loses requests and answers. -/
theorem others_untouched (keys : KeyPair) (names : Names) :
    (∀ (σ : Type) (h : Handler Call Call.Answer σ) (view : σ → Store), h.ActsAtMost view →
      ∀ s, LeavesOthers names (view s).holdings
        (view ((run keys names).run h s).state).holdings) ∧
    (∀ (τ : Type) (h : Handler Request (fun _ => Reply) (τ × Server)), Unreliable h →
      ∀ t s, LeavesOthers names s.holdings
        ((Client.session (run keys names)).run h (t, s)).state.2.holdings) :=
  ⟨fun _ _ _ good s => store_leavesOthers good keys names s,
    fun _ _ unreliable t s => server_leavesOthers unreliable keys names t s⟩

/-! ## Writes without an answer -/

/-- A cluster in memory that applies objects and says that it did not. -/
def silentStore : Handler Call Call.Answer Store
  | .apply m, s => (.error (.transport "timeout"), (s.apply m).2)
  | c, s => Store.answer c s

theorem silentStore_actsAtMost : silentStore.ActsAtMost id := by
  intro c s
  have same : (silentStore c s).2 = (Store.answer c s).2 := by cases c <;> rfl
  rw [same]
  exact Store.answer_actsOrFails.actsAtMost c s

/-- A connection that loses the answers to the requests that write objects. -/
def silentServer : Handler Request (fun _ => Reply) (Unit × Server) := fun q (t, s) =>
  (if q.writes?.isSome then .failed "timeout" else (Server.answer q s).1, t, (Server.answer q s).2)

theorem silentServer_unreliable : Unreliable silentServer :=
  fun _ _ _ => .inr rfl

/-- A Secret of another namespace, with the name that the run uses for both of its objects. -/
def foreignSecret : Place :=
  ⟨"m", .secret, "s"⟩

/-- The run has written its Secret, which it does not know, and the other one is still there. -/
theorem others_untouched_silent :
    silentStore.ActsAtMost id ∧ Unreliable silentServer ∧
      let names : Names := ⟨"n", "s", "s"⟩
      let store := (Store.empty.addNamespace "m").put foreignSecret ∅ none
      let after := ((run ⟨[1], [2]⟩ names).run silentStore store).state
      let server := (Server.empty.addNamespace "m").hold foreignSecret ∅ ∅ none
      let after' := ((Client.session (run ⟨[1], [2]⟩ names)).run silentServer ((), server)).state.2
      (LeavesOthers names store.holdings after.holdings ∧
        after.objects.contains (names.place .secret) = true ∧
        after.objects.contains foreignSecret = true) ∧
      LeavesOthers names server.holdings after'.holdings ∧
        after'.objects.contains (names.place .secret) = true ∧
        after'.objects.contains foreignSecret = true := by
  refine ⟨silentStore_actsAtMost, silentServer_unreliable, ?_⟩
  intro names store after server after'
  have frame := (others_untouched ⟨[1], [2]⟩ names).1 Store silentStore id
    silentStore_actsAtMost store
  have frame' := (others_untouched ⟨[1], [2]⟩ names).2 Unit silentServer
    silentServer_unreliable () server
  exact ⟨⟨frame, by decide +kernel, frame.keepsObjects foreignSecret (by decide +kernel)⟩,
    frame', by decide +kernel, frame'.keepsObjects foreignSecret (by decide +kernel)⟩

end Reconcile

end MountKeys
