import MountKeys.Cluster.Memory
import MountKeys.Proofs.Reconcile.Calls

/-!
# What a run does to a cluster

A run is looked at here from the side of the cluster.  `Call.Acts` is what a call does to a cluster
when it succeeds, and a handler that `ActsOrFails` does that or nothing, and says which.  Such a
handler may refuse any call at any time, so statements about it cover every pattern of failures.

The main result is about runs that fail and do not call themselves partial.
`untouched_iff_of_not_partial` says when the cluster is as it was before such a run: unless the run
created the namespace and its Secret was refused.
-/

namespace MountKeys

/-- `c.Acts s s'`: a call that succeeds takes the cluster from `s` to `s'`.  Which time of creation
an object gets is left open. -/
inductive Call.Acts : Call → Store → Store → Prop
  | namespaceExists (ns : String) (s : Store) : Acts (.namespaceExists ns) s s
  | createNamespace {ns : String} {s : Store} (absent : s.namespaces.contains ns = false) :
    Acts (.createNamespace ns) s (s.addNamespace ns)
  | apply (m : Manifest) (s : Store) (told : Option String) :
    Acts (.apply m) s (s.put m.place m.contents told)
  | get (p : Place) (s : Store) : Acts (.get p) s s

/-- The calls of the handler have their effect on what the cluster holds, which is `view`, or they
fail and have none. -/
def Handler.ActsOrFails {σ : Type} (h : Handler Call Call.Answer σ) (view : σ → Store) : Prop :=
  ∀ c s,
    match (h c s).1 with
    | .ok _ => c.Acts (view s) (view (h c s).2)
    | .error _ => view (h c s).2 = view s

namespace Handler.ActsOrFails

variable {σ : Type} {h : Handler Call Call.Answer σ} {view : σ → Store}

/-- A turn in which the call failed left the cluster as it was. -/
theorem of_error (good : h.ActsOrFails view) {c : Call} {s : σ} {cause : ClusterError}
    (failed : (h c s).1 = .error cause) : view (h c s).2 = view s := by
  have := good c s
  rw [failed] at this
  exact this

/-- A turn in which the call succeeded did what the call does. -/
theorem of_ok (good : h.ActsOrFails view) {c : Call} {s : σ} {result : c.Result}
    (fine : (h c s).1 = .ok result) : c.Acts (view s) (view (h c s).2) := by
  have := good c s
  rw [fine] at this
  exact this

/-- To ask whether the namespace exists changes nothing. -/
theorem of_namespaceExists (good : h.ActsOrFails view) (ns : String) (s : σ) :
    view (h (.namespaceExists ns) s).2 = view s := by
  cases answer : (h (.namespaceExists ns) s).1 with
  | error cause => exact good.of_error answer
  | ok found =>
    have acts := good.of_ok answer
    generalize view (h (.namespaceExists ns) s).2 = s' at acts
    cases acts
    rfl

/-- A handler with other failures in front of it still acts or fails. -/
theorem overriding (good : h.ActsOrFails view) {told : (c : Call) → Option c.Answer}
    (failures : ∀ c answer, told c = some answer → ∃ cause, answer = .error cause) :
    (Handler.overriding told h).ActsOrFails view := by
  intro c s
  cases answer : told c with
  | none =>
    have same : Handler.overriding told h c s = h c s := by rw [Handler.overriding, answer]
    rw [same]
    exact good c s
  | some answer' =>
    obtain ⟨cause, rfl⟩ := failures c answer' answer
    have same : Handler.overriding told h c s = (.error cause, s) := by
      rw [Handler.overriding, answer]
    rw [same]

end Handler.ActsOrFails

namespace Store

/-- A namespace that was added is there. -/
theorem addNamespace_contains (s : Store) (ns : String) :
    (s.addNamespace ns).namespaces.contains ns = true := by
  simp [addNamespace, SortedMap.contains]

/-- Adding a namespace that is not there changes the cluster. -/
theorem addNamespace_ne (s : Store) {ns : String} (absent : s.namespaces.contains ns = false) :
    s.addNamespace ns ≠ s := fun h => by
  have := s.addNamespace_contains ns
  rw [h, absent] at this
  exact nomatch this

/-- The cluster in memory acts or fails. -/
theorem answer_actsOrFails : Store.answer.ActsOrFails id := by
  intro c s
  match c with
  | .namespaceExists ns => exact .namespaceExists ns s
  | .createNamespace ns =>
    cases present : s.namespaces.contains ns with
    | true => simp [answer, present]
    | false => simpa [answer, present] using Call.Acts.createNamespace present
  | .get p => exact .get p s
  | .apply m =>
    simp only [answer, apply]
    cases hns : m.metadata.ns with
    | none => rfl
    | some ns =>
      cases hname : m.metadata.name with
      | none => rfl
      | some name =>
        have here : m.place = ⟨ns, m.kind, name⟩ := by simp [Manifest.place, hns, hname]
        cases present : s.namespaces.contains ns with
        | true => simpa [present, here] using Call.Acts.apply m s none
        | false => simp [present]

end Store

namespace Reconcile

/-- What the part of a run about the namespace did: it created the namespace or nothing. -/
theorem NamespaceCourse.effect {σ : Type} {h : Handler Call Call.Answer σ} {view : σ → Store}
    (good : h.ActsOrFails view) {ns : String} {ts : List CallTurn} {notes : List Notice}
    {v : Except RunError Bool} (course : NamespaceCourse ns ts notes v) {s s' : σ}
    (gives : h.Gives s ts s') :
    (v = .ok true ∧ (view s).namespaces.contains ns = false ∧
      view s' = (view s).addNamespace ns) ∨ (v ≠ .ok true ∧ view s' = view s) := by
  cases course with
  | lookupFailed cause =>
    obtain ⟨_, rfl⟩ := gives
    exact .inr ⟨by simp, good.of_namespaceExists ns s⟩
  | found =>
    obtain ⟨_, rfl⟩ := gives
    exact .inr ⟨by simp, good.of_namespaceExists ns s⟩
  | created =>
    obtain ⟨_, made, rfl⟩ := gives
    have acts := good.of_ok made.symm
    rw [good.of_namespaceExists ns s] at acts
    generalize view (h (.createNamespace ns) _).2 = last at acts ⊢
    cases acts with
    | createNamespace absent => exact .inl ⟨rfl, absent, rfl⟩
  | createdElsewhere _ =>
    obtain ⟨_, refused, rfl⟩ := gives
    refine .inr ⟨by simp, ?_⟩
    exact (good.of_error refused.symm).trans (good.of_namespaceExists ns s)
  | refused _ =>
    obtain ⟨_, refused, rfl⟩ := gives
    refine .inr ⟨by simp, ?_⟩
    exact (good.of_error refused.symm).trans (good.of_namespaceExists ns s)

/-- What a run did that failed and does not call itself partial. -/
theorem RunCourse.effect_of_not_partial {σ : Type} {h : Handler Call Call.Answer σ}
    {view : σ → Store} (good : h.ActsOrFails view) {keys : KeyPair} {names : Names}
    {ts : List CallTurn} {notes : List Notice} {e : RunError}
    (course : RunCourse keys names ts notes (.error e)) (complete : e.isPartial = false) {s s' : σ}
    (gives : h.Gives s ts s') :
    ((⟨.createNamespace names.ns, .ok ()⟩ : CallTurn) ∉ ts ∧ view s' = view s) ∨
      ((⟨.createNamespace names.ns, .ok ()⟩ : CallTurn) ∈ ts ∧
        (view s).namespaces.contains names.ns = false ∧
        view s' = (view s).addNamespace names.ns ∧
        ∃ cause, e = .applyFailed .secret names.secret [] cause) := by
  cases course with
  | invalid bad => exact .inl ⟨by simp, gives ▸ rfl⟩
  | noNamespace _ start =>
    rcases start.effect good gives with ⟨hv, _⟩ | ⟨_, same⟩
    · cases hv
    · refine .inl ⟨?_, same⟩
      cases start <;> simp
  | @secretRefused ts notes created _ start cause =>
    obtain ⟨m, hm, refused, rfl⟩ := Handler.gives_append.1 gives
    have last := good.of_error refused.symm
    have other : (⟨.createNamespace names.ns, .ok ()⟩ : CallTurn) ≠
        applyTurn keys names .secret (.error cause) := by simp [applyTurn]
    rw [List.mem_append, List.mem_singleton, or_iff_left other, ← start.created_iff, last]
    rcases start.effect good hm with ⟨hv, absent, same⟩ | ⟨hv, same⟩
    · cases hv
      exact .inr ⟨rfl, absent, same, cause, rfl⟩
    · exact .inl ⟨fun h => hv (congrArg Except.ok h), same⟩
  | configMapRefused | secretMissed | configMapMissed =>
    cases complete

/-- After a run that failed and does not call itself partial the cluster is as before, except where
the run created the namespace.  That happens when its Secret was refused after that. -/
theorem untouched_iff_of_not_partial {σ : Type} {h : Handler Call Call.Answer σ}
    {view : σ → Store} (good : h.ActsOrFails view) {keys : KeyPair} {names : Names} {s : σ}
    {e : RunError} (failed : ((run keys names).run h s).value = .error e)
    (complete : e.isPartial = false) :
    let r := (run keys names).run h s
    let created := (⟨.createNamespace names.ns, .ok ()⟩ : CallTurn) ∈ (run keys names).turns h s
    (view r.state = view s ↔ ¬ created) ∧
      (created → view r.state = (view s).addNamespace names.ns ∧
        ∃ cause, e = .applyFailed .secret names.secret [] cause) := by
  intro r created
  have course := run_course (failed ▸ Dialogue.run_ends h (run keys names) s)
  rcases course.effect_of_not_partial good complete (Handler.run_gives h (run keys names) s) with
    ⟨not_created, same⟩ | ⟨is_created, absent, added, cause⟩
  · exact ⟨⟨fun _ => not_created, fun _ => same⟩, fun h => absurd h not_created⟩
  · have changed : view r.state ≠ view s := added ▸ Store.addNamespace_ne _ absent
    exact ⟨⟨fun h => absurd h changed, fun h => absurd is_created h⟩, fun _ => ⟨added, cause⟩⟩

/-! ## A run that is not called partial and leaves a namespace -/

/-- Refuse to write any object. -/
def refuseObjects : (c : Call) → Option c.Answer
  | .apply _ => some (.error (.usual 403 "forbidden"))
  | _ => none

theorem refuseObjects_failures (c : Call) (answer : c.Answer) (h : refuseObjects c = some answer) :
    ∃ cause, answer = .error cause := by
  cases c with
  | apply m => exact ⟨_, (Option.some.inj h).symm⟩
  | namespaceExists | createNamespace | get => exact nomatch h

/-- A cluster without anything, that takes a namespace but no objects. -/
def noObjects : Handler Call Call.Answer Store :=
  .overriding refuseObjects Store.answer

theorem noObjects_actsOrFails : noObjects.ActsOrFails id :=
  Store.answer_actsOrFails.overriding refuseObjects_failures

/-- The run against it fails, is not called partial, and has changed the cluster. -/
theorem not_partial_but_touched :
    ∃ (keys : KeyPair) (names : Names) (s : Store) (e : RunError),
      noObjects.ActsOrFails id ∧ ((run keys names).run noObjects s).value = .error e ∧
        e.isPartial = false ∧ ((run keys names).run noObjects s).state ≠ s :=
  ⟨⟨[1], [2]⟩, ⟨"n", "s", "c"⟩, .empty,
    .applyFailed .secret "s" [] (.usual 403 "forbidden"), noObjects_actsOrFails, rfl, rfl,
    Store.empty.addNamespace_ne (rfl : Store.empty.namespaces.contains "n" = false)⟩

theorem untouched_iff_of_not_partial_noObjects :
    noObjects.ActsOrFails id ∧
      ((run ⟨[1], [2]⟩ ⟨"n", "s", "c"⟩).run noObjects .empty).value =
        .error (.applyFailed .secret "s" [] (.usual 403 "forbidden")) ∧
      ((run ⟨[1], [2]⟩ ⟨"n", "s", "c"⟩).run noObjects .empty).state =
        Store.empty.addNamespace "n" := by
  have failed : ((run ⟨[1], [2]⟩ ⟨"n", "s", "c"⟩).run noObjects .empty).value =
      .error (.applyFailed .secret "s" [] (.usual 403 "forbidden")) := rfl
  refine ⟨noObjects_actsOrFails, failed, ?_⟩
  exact ((untouched_iff_of_not_partial noObjects_actsOrFails failed rfl).2
    (List.mem_cons_of_mem _ List.mem_cons_self)).1

end Reconcile

end MountKeys
