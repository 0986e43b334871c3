import MountKeys.Api.Canned
import MountKeys.Proofs.Api.Writes
import MountKeys.Proofs.Reconcile.Calls

/-!
# Runs and faults

Requests of a run can be lost or refused at any time, and a refusal can be forged: one that says
that an object is there sends a client from creating to replacing.  This module shows that the
objects stay whole and that the run tells the truth about them: `writes_whole_and_told`.

* `Leaves` says what may come of some turns: what they did not write is as before, and what they
  wrote is the rendered object.
* `call_leaves` is the step, one call of the plan.  What it says that it applied is what its
  requests wrote.
* `turns_leave` carries it over to all calls of a run, and `CallLaw` says what the error lists.
-/

namespace MountKeys

/-- Where an object stands that a run wrote. -/
def Applied.place (a : Applied) : Place :=
  ⟨a.ns, a.kind, a.name⟩

namespace Reconcile

/-- What comes of turns in which the objects at some places were written: these are the rendered
ones, and all others are as they were. -/
structure Leaves (keys : KeyPair) (names : Names) (s s' : Server) (writes : List Place) : Prop where
  proper : s'.Proper
  untouched : ∀ p, p ∉ writes → s'.objects.get? p = s.objects.get? p
  written : ∀ kind, names.place kind ∈ writes → ∃ version created,
    s'.objects.get? (names.place kind) =
      some (((Desired.render keys names).object kind).held version created)

namespace Leaves

variable {keys : KeyPair} {names : Names} {s s₁ s' : Server} {writes writes' : List Place}

/-- Where nothing is written all objects are as they were. -/
theorem of_objects (proper : s.Proper) (same : s'.objects = s.objects) :
    Leaves keys names s s' [] where
  proper p j hj := proper p j (same ▸ hj)
  untouched p _ := by rw [same]
  written kind h := nomatch h

/-- Turns after others. -/
theorem trans (first : Leaves keys names s s₁ writes) (rest : Leaves keys names s₁ s' writes') :
    Leaves keys names s s' (writes ++ writes') where
  proper := rest.proper
  untouched p hp := by
    rw [List.mem_append, not_or] at hp
    rw [rest.untouched p hp.2, first.untouched p hp.1]
  written kind hkind := by
    by_cases later : names.place kind ∈ writes'
    · exact rest.written kind later
    · have earlier := (List.mem_append.1 hkind).resolve_right later
      rw [rest.untouched _ later]
      exact first.written kind earlier

/-- A rendered object that was written. -/
theorem of_applied (proper : s.Proper) {kind : Kind}
    (readable : s.Readable (names.place kind)) :
    Leaves keys names s (s.applied ((Desired.render keys names).object kind))
      [names.place kind] where
  proper := proper.applied (Desired.render_ofName keys names kind)
    (by rwa [Desired.render_place])
  untouched p hp := by
    rw [Server.applied_get?, Desired.render_place, if_neg (by simpa using hp)]
  written kind' hkind' := by
    obtain rfl := Names.place_inj.1 (List.mem_singleton.1 hkind')
    rw [Server.applied_get?, Desired.render_place, if_pos rfl]
    exact ⟨_, _, rfl⟩

end Leaves

section Faults

variable {σ : Type} {h : Handler Request (fun _ => Reply) σ} {view : σ → Server}
  (good : h.AnswersOrFails view) {keys : KeyPair} {names : Names}
  (valid : names.check = .ok ())
include good valid

/-- A rendered object is applied as a whole or not at all, and the answer says which. -/
theorem apply_leaves (kind : Kind) {s : σ} (proper : (view s).Proper) :
    let call := Client.call (.apply ((Desired.render keys names).object kind))
    let r := call.run h s
    let writes := writesIn (call.turns h s)
    writes = (appliedIn [applyTurn keys names kind r.value]).map Applied.place ∧
      Leaves keys names (view s) (view r.state) writes := by
  intro call r writes
  have metadata := Desired.render_ofName keys names kind
  have outcome := Client.apply_writesOrFails good (Names.check_plain valid).1 metadata
    (Names.place_plain valid kind) none proper
  rw [Manifest.replacing_none (by rw [metadata])] at outcome
  change Client.WritesOrFails view _ s r.state (call.turns h s) r.value at outcome
  cases value : r.value with
  | error e =>
    rw [value] at outcome
    rw [show writes = [] from outcome.1, outcome.2]
    exact ⟨rfl, .of_objects proper rfl⟩
  | ok done =>
    rw [value] at outcome
    obtain ⟨written, state, readable⟩ := outcome
    rw [Desired.render_place] at written readable
    rw [show writes = [names.place kind] from written, state]
    have told : appliedIn [applyTurn keys names kind (.ok done)] =
        [Reconcile.written names kind] := by
      simp only [appliedIn, applyTurn, List.filterMap_cons, List.filterMap_nil, appliedOf_render]
    rw [told]
    refine ⟨?_, .of_applied proper readable⟩
    cases kind <;> rfl

/-- What a call of a run says that it applied is what its requests wrote, and as a whole. -/
theorem call_leaves {c : Call} {missing : Bool} (planned : c ∈ plan keys names missing) {s : σ}
    (proper : (view s).Proper) :
    let r := (Client.call c).run h s
    let writes := writesIn ((Client.call c).turns h s)
    writes = (appliedIn [⟨c, r.value⟩]).map Applied.place ∧
      Leaves keys names (view s) (view r.state) writes := by
  intro r writes
  have idle (nothing : appliedIn [⟨c, r.value⟩] = [])
      (asks : (Client.call c).AsksOnly fun q => q.writes? = none) :
      writes = (appliedIn [⟨c, r.value⟩]).map Applied.place ∧
        Leaves keys names (view s) (view r.state) writes := by
    obtain ⟨unwritten, objects⟩ := asks.unwritten good s
    rw [nothing, show writes = [] from unwritten]
    exact ⟨rfl, .of_objects proper objects⟩
  have reading (target : String) : Request.writes? ⟨.get, target, none⟩ = none :=
    Request.writes?_get target none
  rcases mem_plan planned with rfl | rfl | ⟨kind, rfl⟩ | ⟨kind, rfl⟩
  · exact idle rfl (Client.namespaceExists_asks reading names.ns)
  · refine idle rfl (Client.createNamespace_asks ?_)
    simp only [Request.writes?, Server.ofTarget?_namespaces]
  · exact apply_leaves good valid kind proper
  · exact idle rfl (Client.get_asks reading _)

/-- What the calls of a run say that they applied is what their requests wrote, and as a whole. -/
theorem turns_leave {ts : List CallTurn} {missing : Bool}
    (planned : ∀ t ∈ ts, t.1 ∈ plan keys names missing) {s s' : σ} (proper : (view s).Proper)
    (gives : (h.through Client.call).Gives s ts s') :
    let writes := writesIn (h.inner Client.call s ts)
    writes = (appliedIn ts).map Applied.place ∧ Leaves keys names (view s) (view s') writes := by
  induction ts generalizing s with
  | nil =>
    obtain rfl := gives
    exact ⟨rfl, .of_objects proper rfl⟩
  | cons t rest ih =>
    obtain ⟨c, answer⟩ := t
    obtain ⟨mid, asked, gives⟩ := Handler.gives_cons.1 gives
    obtain ⟨rfl, rfl⟩ := Prod.mk.inj asked
    have first := call_leaves good valid (planned _ List.mem_cons_self) proper
    have last := ih (fun t ht => planned t (List.mem_cons_of_mem _ ht)) first.2.proper gives
    rw [Handler.inner, writesIn_append]
    refine ⟨?_, first.2.trans last.2⟩
    rw [first.1, last.1, ← List.map_append, ← appliedIn_append]
    rfl

/-- Whatever is lost or refused on the way, a run leaves every object as it was or, if its requests
wrote it, as the rendered object with a version and a time.  A run that ends well wrote both
objects, an error about an object lists those that the run wrote, and after any other error none
was. -/
theorem writes_whole_and_told {s : σ} (proper : (view s).Proper) :
    let exchange := Client.session (run keys names)
    let r := exchange.run h s
    let writes := writesIn (exchange.turns h s)
    (∀ p, p ∉ writes → (view r.state).objects.get? p = (view s).objects.get? p) ∧
      (∀ kind, names.place kind ∈ writes → ∃ version created,
        (view r.state).objects.get? (names.place kind) =
          some (((Desired.render keys names).object kind).held version created)) ∧
      match r.value with
      | .ok _ => writes = [names.place .secret, names.place .configMap]
      | .error (.applyFailed _ _ applied _) | .error (.verificationFailed _ _ applied _) =>
        applied.map Applied.place = writes
      | .error _ => writes = [] := by
  intro exchange r writes
  have value : r.value = ((run keys names).run (h.through Client.call) s).value :=
    (Dialogue.expand_run Client.call h (run keys names) s).1
  have state : r.state = ((run keys names).run (h.through Client.call) s).state :=
    (Dialogue.expand_run Client.call h (run keys names) s).2
  have turns : exchange.turns h s = h.inner Client.call s _ :=
    Dialogue.expand_turns Client.call h (run keys names) s
  have course := run_course (Dialogue.run_ends (h.through Client.call) (run keys names) s)
  have gives := Handler.run_gives (h.through Client.call) (run keys names) s
  have law := course.law valid
  have ⟨told, leaves⟩ := turns_leave good valid
    (fun t ht => law.planned.subset (List.mem_map_of_mem ht)) proper gives
  rw [← turns] at told leaves
  rw [← state] at leaves
  refine ⟨leaves.untouched, leaves.written, ?_⟩
  rw [value, show writes = (appliedIn _).map Applied.place from told]
  generalize ((run keys names).run (h.through Client.call) s).value = v at course law ⊢
  cases v with
  | ok report =>
    rw [course.applied_of_ok]
    rfl
  | error e =>
    have lists := law.applied e rfl
    cases e <;> simp only [RunError.applied] at lists <;> simp [← lists]

end Faults

/-! ## A forged refusal -/

/-- A server behind faults that are known beforehand, one for each request: it answers where there
is none, and where the fault is no refusal. -/
def faulty : Handler Request (fun _ => Reply) (List (Option Canned) × Server)
  | q, (some fault :: rest, s) =>
    if (fault.reply q).isAccepted then ((Server.answer q s).1, rest, (Server.answer q s).2)
    else (fault.reply q, rest, s)
  | q, (faults, s) => ((Server.answer q s).1, faults.tail, (Server.answer q s).2)

theorem faulty_answersOrFails : faulty.AnswersOrFails Prod.snd := by
  rintro q ⟨faults, s⟩
  match faults with
  | [] | none :: rest => exact .inl rfl
  | some fault :: rest =>
    cases accepted : (fault.reply q).isAccepted with
    | true => exact .inl (by simp [faulty, accepted])
    | false => exact .inr (by simp [faulty, accepted])

/-- That the ConfigMap is there already, which it is not: it is said when the ConfigMap is to be
created. -/
def forgedTaken : List (Option Canned) :=
  [none, none, none, some (.refusal 409 "AlreadyExists" "")]

/-- The run wrote the Secret and says so.  It did not write the ConfigMap, although it was told that
there is one and went on to replace it. -/
theorem writes_whole_and_told_forged :
    faulty.AnswersOrFails Prod.snd ∧ Names.check ⟨"n", "s", "c"⟩ = .ok () ∧
      Server.empty.Proper ∧
      let r := (Client.session (run ⟨[1], [2]⟩ ⟨"n", "s", "c"⟩)).run faulty (forgedTaken, .empty)
      (∃ version created, r.state.2.objects.get? ⟨"n", .secret, "s"⟩ =
        some (((Desired.render ⟨[1], [2]⟩ ⟨"n", "s", "c"⟩).object .secret).held version created)) ∧
      r.state.2.objects.get? ⟨"n", .configMap, "c"⟩ = none ∧
      ∃ e, r.value = .error e ∧ e.applied.map Applied.place = [⟨"n", .secret, "s"⟩] := by
  have valid : Names.check ⟨"n", "s", "c"⟩ = .ok () := rfl
  have proper : Server.empty.Proper := fun _ _ h => nomatch h
  have secretOnly : writesIn ((Client.session (run ⟨[1], [2]⟩ ⟨"n", "s", "c"⟩)).turns faulty
      (forgedTaken, .empty)) = [⟨"n", .secret, "s"⟩] := by decide +kernel
  have key := @writes_whole_and_told _ faulty Prod.snd faulty_answersOrFails ⟨[1], [2]⟩
    ⟨"n", "s", "c"⟩ valid (forgedTaken, .empty) proper
  dsimp only at key
  rw [secretOnly] at key
  refine ⟨faulty_answersOrFails, valid, proper, ?_⟩
  revert key
  generalize (Client.session (run ⟨[1], [2]⟩ ⟨"n", "s", "c"⟩)).run faulty (forgedTaken, .empty) = r
  rintro ⟨untouched, written, told⟩
  refine ⟨written .secret List.mem_cons_self, untouched _ (by decide), ?_⟩
  cases outcome : r.value with
  | ok report =>
    rw [outcome] at told
    exact nomatch told
  | error e =>
    rw [outcome] at told
    refine ⟨e, rfl, ?_⟩
    cases e with
    | applyFailed | verificationFailed => exact told
    | invalidNames | missingKey | namespaceFailed => exact nomatch told

end Reconcile

end MountKeys
