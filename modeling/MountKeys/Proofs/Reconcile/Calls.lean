import MountKeys.Proofs.Reconcile.Course

/-!
# Calls, outcome and error of a run

A run makes its calls in a fixed order and stops at the first one that fails.  `CallLaw` states what
that means for the calls that are made, for the outcome, and for the error: which call it blames and
what it says was written before.  `calls_outcome_error` shows that every run obeys the law, whatever
the cluster answers.

`Call.fails` says which answers are failures.  Two of them are not what they look like: a namespace
that another client created first is no failure, and an object that is absent when it is read back
is one.
-/

namespace MountKeys

/-- Whether a run fails with this answer to the call. -/
def Call.fails : (c : Call) → c.Answer → Bool
  | .namespaceExists _, .ok _ => false
  | .namespaceExists _, .error _ => true
  | .createNamespace _, .ok _ => false
  | .createNamespace _, .error cause => !cause.isAlreadyExists
  | .apply _, .ok _ => false
  | .apply _, .error _ => true
  | .get _, .ok found => found.isNone
  | .get _, .error _ => true

/-- The objects that the calls in some turns wrote, in order. -/
def appliedIn (ts : List CallTurn) : List Applied :=
  ts.filterMap fun
    | ⟨.apply m, .ok ()⟩ => some (Reconcile.appliedOf m)
    | _ => none

theorem appliedIn_append (ts ts' : List CallTurn) :
    appliedIn (ts ++ ts') = appliedIn ts ++ appliedIn ts' :=
  List.filterMap_append

/-- `e.Blames applied t`: the error names the call of the turn `t` and carries the cause that the
answer gives, and it says that `applied` was written before. -/
inductive RunError.Blames (applied : List Applied) : RunError → CallTurn → Prop
  | lookup (ns : String) (cause : ClusterError) :
    Blames applied (.namespaceFailed ns cause) ⟨.namespaceExists ns, .error cause⟩
  | creation (ns : String) (cause : ClusterError) :
    Blames applied (.namespaceFailed ns cause) ⟨.createNamespace ns, .error cause⟩
  | application (m : Manifest) (cause : ClusterError) :
    Blames applied (.applyFailed m.kind (m.metadata.name.getD "") applied cause)
      ⟨.apply m, .error cause⟩
  | reading (p : Place) (cause : ClusterError) :
    Blames applied (.verificationFailed p.kind p.name applied (some cause))
      ⟨.get p, .error cause⟩
  | absence (p : Place) :
    Blames applied (.verificationFailed p.kind p.name applied none) ⟨.get p, .ok none⟩

namespace Reconcile

/-! ## The order of the calls -/

/-- Whether the first answer was that there is no namespace. -/
def findsNone : List CallTurn → Bool
  | ⟨.namespaceExists _, .ok false⟩ :: _ => true
  | _ => false

/-- The calls by which a run has its namespace made. -/
def namespacePlan (ns : String) (missing : Bool) : List Call :=
  .namespaceExists ns :: if missing then [.createNamespace ns] else []

/-- The calls by which a run writes both objects and reads them back. -/
def objectPlan (keys : KeyPair) (names : Names) : List Call :=
  [.apply ((Desired.render keys names).object .secret),
    .apply ((Desired.render keys names).object .configMap),
    .get (names.place .secret), .get (names.place .configMap)]

/-- The calls of a run that nothing stops. -/
def plan (keys : KeyPair) (names : Names) (missing : Bool) : List Call :=
  namespacePlan names.ns missing ++ objectPlan keys names

/-- The calls of a plan. -/
theorem mem_plan {keys : KeyPair} {names : Names} {missing : Bool} {c : Call}
    (h : c ∈ plan keys names missing) :
    c = .namespaceExists names.ns ∨ c = .createNamespace names.ns ∨
      (∃ kind, c = .apply ((Desired.render keys names).object kind)) ∨
      ∃ kind, c = .get (names.place kind) := by
  simp only [plan, namespacePlan, objectPlan, List.mem_append, List.mem_cons, List.not_mem_nil,
    or_false] at h
  rcases h with (rfl | h) | rfl | rfl | rfl | rfl
  · exact .inl rfl
  · cases missing with
    | true => exact .inr (.inl (List.mem_singleton.1 h))
    | false => exact nomatch h
  · exact .inr (.inr (.inl ⟨.secret, rfl⟩))
  · exact .inr (.inr (.inl ⟨.configMap, rfl⟩))
  · exact .inr (.inr (.inr ⟨.secret, rfl⟩))
  · exact .inr (.inr (.inr ⟨.configMap, rfl⟩))

/-- No call is made twice. -/
theorem plan_nodup (keys : KeyPair) (names : Names) (missing : Bool) :
    (plan keys names missing).Nodup := by
  cases missing <;> simp [plan, namespacePlan, objectPlan, Desired.object, Names.place]

/-! ## The law -/

/-- What the calls of a run and their answers say about its outcome. -/
structure CallLaw (keys : KeyPair) (names : Names) (ts : List CallTurn)
    (value : Except RunError Report) : Prop where
  /-- The calls are the first ones of the plan, in its order. -/
  planned : ts.map Sigma.fst <+: plan keys names (findsNone ts)
  /-- Each call is made once at most. -/
  once : (ts.map Sigma.fst).Nodup
  /-- The namespace is created only after the answer that there is none, and then always. -/
  creates : .createNamespace names.ns ∈ ts.map Sigma.fst ↔ findsNone ts = true
  /-- No call is made after one that failed. -/
  stops : ∀ t ∈ ts.dropLast, t.1.fails t.2 = false
  /-- Where no call fails, all calls are made. -/
  finishes : (∀ t ∈ ts, t.1.fails t.2 = false) → ts.map Sigma.fst = plan keys names (findsNone ts)
  /-- The run succeeds where no call fails, and only there. -/
  ok_iff : (∃ report, value = .ok report) ↔ ∀ t ∈ ts, t.1.fails t.2 = false
  /-- The error is that of the last call, which failed. -/
  blames : ∀ e, value = .error e →
    ∃ t, ts.getLast? = some t ∧ t.1.fails t.2 = true ∧ e.Blames (appliedIn ts) t
  /-- The error lists what the run wrote. -/
  applied : ∀ e, value = .error e → e.applied = appliedIn ts
  /-- The report tells what the answers were. -/
  reports : ∀ report, value = .ok report →
    report.names = names ∧ report.fingerprint = keys.fingerprint? ∧
      (report.namespaceCreated = true ↔
        (⟨.createNamespace names.ns, .ok ()⟩ : CallTurn) ∈ ts) ∧
      ∃ secret configMap : Stored,
        (⟨.get (names.place .secret), .ok (some secret)⟩ : CallTurn) ∈ ts ∧
        (⟨.get (names.place .configMap), .ok (some configMap)⟩ : CallTurn) ∈ ts ∧
        report.secretCreated = secret.created ∧ report.configMapCreated = configMap.created

section Law

variable {keys : KeyPair} {names : Names} {ts : List CallTurn}

/-- A run that stops at a failed call obeys the law. -/
theorem CallLaw.of_failure {init : List CallTurn} {t : CallTurn} (rest : List Call) {e : RunError}
    (calls : (init ++ [t]).map Sigma.fst ++ rest = plan keys names (findsNone (init ++ [t])))
    (creates : .createNamespace names.ns ∈ (init ++ [t]).map Sigma.fst ↔
      findsNone (init ++ [t]) = true)
    (fine : ∀ u ∈ init, u.1.fails u.2 = false) (failed : t.1.fails t.2 = true)
    (blames : e.Blames (appliedIn init) t) (applied : e.applied = appliedIn init) :
    CallLaw keys names (init ++ [t]) (.error e) := by
  have nothing : appliedIn (init ++ [t]) = appliedIn init := by
    rw [appliedIn_append]
    cases blames <;> simp [appliedIn]
  have bad : ¬ ∀ u ∈ init ++ [t], u.1.fails u.2 = false := fun h => by
    have := h t (by simp)
    simp [failed] at this
  refine ⟨⟨rest, calls⟩, ?_, creates, ?_, ?_, ?_, ?_, ?_, ?_⟩
  · exact (List.nodup_append.1 (calls ▸ plan_nodup keys names _)).1
  · simpa using fine
  · exact fun h => absurd h bad
  · exact ⟨fun ⟨_, h⟩ => (nomatch h), fun h => absurd h bad⟩
  · intro _ h
    cases h
    exact ⟨t, by simp, failed, nothing.symm ▸ blames⟩
  · intro _ h
    cases h
    exact nothing.symm ▸ applied
  · exact fun _ h => (nomatch h)

/-- A run that makes all its calls obeys the law. -/
theorem CallLaw.of_success {report : Report}
    (calls : ts.map Sigma.fst = plan keys names (findsNone ts))
    (fine : ∀ t ∈ ts, t.1.fails t.2 = false)
    (reports : report.names = names ∧ report.fingerprint = keys.fingerprint? ∧
      (report.namespaceCreated = true ↔
        (⟨.createNamespace names.ns, .ok ()⟩ : CallTurn) ∈ ts) ∧
      ∃ secret configMap : Stored,
        (⟨.get (names.place .secret), .ok (some secret)⟩ : CallTurn) ∈ ts ∧
        (⟨.get (names.place .configMap), .ok (some configMap)⟩ : CallTurn) ∈ ts ∧
        report.secretCreated = secret.created ∧ report.configMapCreated = configMap.created) :
    CallLaw keys names ts (.ok report) := by
  refine ⟨calls ▸ List.prefix_rfl, calls ▸ plan_nodup keys names _, ?_, ?_, fun _ => calls,
    ⟨fun _ => fine, fun _ => ⟨report, rfl⟩⟩, fun _ h => (nomatch h), fun _ h => (nomatch h), ?_⟩
  · rw [calls]
    cases findsNone ts <;> simp [plan, namespacePlan, objectPlan]
  · exact fun t ht => fine t (List.dropLast_subset ts ht)
  · intro _ h
    cases h
    exact reports

end Law

/-! ## The turns about the namespace -/

namespace NamespaceCourse

variable {ns : String} {ts : List CallTurn} {notes : List Notice} {v : Except RunError Bool}

theorem calls (h : NamespaceCourse ns ts notes v) :
    ts.map Sigma.fst = namespacePlan ns (findsNone ts) := by
  cases h <;> rfl

theorem findsNone_append (h : NamespaceCourse ns ts notes v) (ts' : List CallTurn) :
    findsNone (ts ++ ts') = findsNone ts := by
  cases h <;> rfl

theorem appliedIn_eq (h : NamespaceCourse ns ts notes v) : appliedIn ts = [] := by
  cases h <;> rfl

/-- Where the namespace is there in the end, no call failed. -/
theorem fine {created : Bool} (h : NamespaceCourse ns ts notes (.ok created)) :
    ∀ t ∈ ts, t.1.fails t.2 = false := by
  cases h with
  | found => simp [Call.fails]
  | created => simp [Call.fails]
  | createdElsewhere exists_ => simp [Call.fails, exists_]

/-- A run created the namespace where the call to do so succeeded. -/
theorem created_iff {created : Bool} (h : NamespaceCourse ns ts notes (.ok created)) :
    created = true ↔ (⟨.createNamespace ns, .ok ()⟩ : CallTurn) ∈ ts := by
  cases h <;> simp

/-- Where there is no namespace in the end, it is the fault of the last call. -/
theorem failed {e : RunError} (h : NamespaceCourse ns ts notes (.error e)) :
    ∃ init t, ts = init ++ [t] ∧ (∀ u ∈ init, u.1.fails u.2 = false) ∧ t.1.fails t.2 = true ∧
      e.Blames (appliedIn init) t ∧ e.applied = appliedIn init := by
  cases h with
  | lookupFailed cause => exact ⟨[], _, rfl, by simp, rfl, .lookup _ _, rfl⟩
  | @refused cause other =>
    exact ⟨[⟨.namespaceExists ns, .ok false⟩], ⟨.createNamespace ns, .error cause⟩, rfl,
      by simp [Call.fails], by simp [Call.fails, other], .creation _ _, rfl⟩

end NamespaceCourse

/-! ## Runs obey the law -/

section Runs

variable {keys : KeyPair} {names : Names} {ts : List CallTurn} {notes : List Notice}

/-- With the namespace there, further turns that follow the plan up to a failed call are those of a
run that obeys the law. -/
theorem NamespaceCourse.law_of_failure {created : Bool}
    (start : NamespaceCourse names.ns ts notes (.ok created)) (more : List CallTurn) (t : CallTurn)
    (rest : List Call) {e : RunError}
    (calls : (more ++ [t]).map Sigma.fst ++ rest = objectPlan keys names)
    (fine : ∀ u ∈ more, u.1.fails u.2 = false) (failed : t.1.fails t.2 = true)
    (blames : e.Blames (appliedIn more) t) (applied : e.applied = appliedIn more) :
    CallLaw keys names (ts ++ (more ++ [t])) (.error e) := by
  have same : findsNone (ts ++ more ++ [t]) = findsNone ts := by
    rw [List.append_assoc, start.findsNone_append]
  have made : (ts ++ more ++ [t]).map Sigma.fst =
      namespacePlan names.ns (findsNone ts) ++ (more ++ [t]).map Sigma.fst := by
    rw [List.append_assoc, List.map_append, start.calls]
  have only : appliedIn (ts ++ more) = appliedIn more := by
    rw [appliedIn_append, start.appliedIn_eq, List.nil_append]
  rw [← List.append_assoc]
  refine .of_failure rest ?_ ?_ ?_ failed (only.symm ▸ blames) (only.symm ▸ applied)
  · rw [made, same, plan, ← calls, List.append_assoc]
  · have absent : .createNamespace names.ns ∉ (more ++ [t]).map Sigma.fst := fun h => by
      have := calls ▸ List.mem_append_left rest h
      simp [objectPlan] at this
    rw [made, same, List.mem_append, or_iff_left absent]
    cases findsNone ts <;> simp [namespacePlan]
  · intro u hu
    rcases List.mem_append.1 hu with hu | hu
    · exact start.fine u hu
    · exact fine u hu

/-- What a run wrote when both objects were applied. -/
theorem appliedIn_applyTurns :
    appliedIn [applyTurn keys names .secret (.ok ()), applyTurn keys names .configMap (.ok ())] =
      [written names .secret, written names .configMap] := by
  simp only [appliedIn, applyTurn, List.filterMap_cons, List.filterMap_nil, appliedOf_render]

/-- The error of a refused object blames the turn in which it was applied. -/
theorem blames_applyTurn (applied : List Applied) (kind : Kind) (cause : ClusterError) :
    (RunError.applyFailed kind (names.place kind).name applied cause).Blames applied
      (applyTurn keys names kind (.error cause)) := by
  have h : RunError.Blames applied _ _ :=
    .application ((Desired.render keys names).object kind) cause
  rw [Desired.render_metadata, Desired.object_kind] at h
  exact h

/-- The error of a missed object blames the turn in which it was read. -/
theorem blames_readTurn (applied : List Applied) (kind : Kind) (cause : Option ClusterError) :
    (RunError.verificationFailed kind (names.place kind).name applied cause).Blames applied
      (readTurn names kind (missAnswer cause)) := by
  cases cause with
  | none =>
    have h : RunError.Blames applied _ _ := .absence (names.place kind)
    rw [Names.place_kind] at h
    exact h
  | some cause =>
    have h : RunError.Blames applied _ _ := .reading (names.place kind) cause
    rw [Names.place_kind] at h
    exact h

/-- A reading that finds nothing is a failure. -/
theorem readTurn_fails (kind : Kind) (cause : Option ClusterError) :
    Call.fails (.get (names.place kind)) (missAnswer cause) = true := by
  cases cause <;> rfl

theorem RunCourse.law {v : Except RunError Report} (h : RunCourse keys names ts notes v)
    (good : names.check = .ok ()) : CallLaw keys names ts v := by
  cases h with
  | invalid bad => exact nomatch good.symm.trans bad
  | noNamespace _ start =>
    have calls := start.calls
    obtain ⟨init, t, rfl, fine, failed, blames, applied⟩ := start.failed
    refine .of_failure _ (by rw [calls]; rfl) ?_ fine failed blames applied
    rw [calls]
    cases findsNone (init ++ [t]) <;> simp [namespacePlan]
  | secretRefused _ start cause =>
    exact start.law_of_failure [] _ _ rfl (by simp) rfl (blames_applyTurn [] .secret cause) rfl
  | configMapRefused _ start cause =>
    exact start.law_of_failure [applyTurn keys names .secret (.ok ())] _ _ rfl
      (by simp [applyTurn, Call.fails]) rfl (blames_applyTurn _ .configMap cause) rfl
  | secretMissed _ start cause =>
    refine start.law_of_failure
      [applyTurn keys names .secret (.ok ()), applyTurn keys names .configMap (.ok ())]
      (readTurn names .secret (missAnswer cause)) [.get (names.place .configMap)] rfl
      (by simp [applyTurn, Call.fails]) (readTurn_fails .secret cause) ?_ ?_
    · rw [appliedIn_applyTurns]
      exact blames_readTurn _ .secret cause
    · rw [appliedIn_applyTurns]
      rfl
  | configMapMissed _ start secret cause =>
    have only : appliedIn [applyTurn keys names .secret (.ok ()),
        applyTurn keys names .configMap (.ok ()), readTurn names .secret (.ok (some secret))] =
        [written names .secret, written names .configMap] := appliedIn_applyTurns
    refine start.law_of_failure
      [applyTurn keys names .secret (.ok ()), applyTurn keys names .configMap (.ok ()),
        readTurn names .secret (.ok (some secret))]
      (readTurn names .configMap (missAnswer cause)) [] rfl
      (by simp [applyTurn, readTurn, Call.fails]) (readTurn_fails .configMap cause) ?_ ?_
    · rw [only]
      exact blames_readTurn _ .configMap cause
    · rw [only]
      rfl
  | done _ start secret configMap =>
    have fine : ∀ t ∈ [applyTurn keys names .secret (.ok ()),
        applyTurn keys names .configMap (.ok ()), readTurn names .secret (.ok (some secret)),
        readTurn names .configMap (.ok (some configMap))], t.1.fails t.2 = false := by
      simp [applyTurn, readTurn, Call.fails]
    refine .of_success ?_ ?_ ⟨rfl, rfl, ?_, secret, configMap, ?_, ?_, rfl, rfl⟩
    · rw [start.findsNone_append, List.map_append, start.calls]
      rfl
    · intro t ht
      rcases List.mem_append.1 ht with ht | ht
      · exact start.fine t ht
      · exact fine t ht
    · rw [start.created_iff, List.mem_append]
      simp [applyTurn, readTurn]
    · simp [readTurn]
    · simp [readTurn]

/-- A run that ends well wrote both objects. -/
theorem RunCourse.applied_of_ok {report : Report}
    (h : RunCourse keys names ts notes (.ok report)) :
    appliedIn ts = [written names .secret, written names .configMap] := by
  cases h with
  | done _ start secret configMap =>
    rw [appliedIn_append, start.appliedIn_eq, List.nil_append]
    exact appliedIn_applyTurns

/-- With names that are refused nothing is asked. -/
theorem RunCourse.of_bad {v : Except RunError Report} (h : RunCourse keys names ts notes v)
    {cause : Names.Invalid} (bad : names.check = .error cause) :
    v = .error (.invalidNames cause) ∧ ts = [] := by
  cases h with
  | invalid bad' =>
    cases bad.symm.trans bad'
    exact ⟨rfl, rfl⟩
  | noNamespace good | secretRefused good | configMapRefused good | secretMissed good
  | configMapMissed good | done good => exact nomatch good.symm.trans bad

end Runs

/-- Whatever the cluster answers, the calls of a run, its outcome and its error correspond.  Names
that are refused end the run before the first call; otherwise `CallLaw` holds of the calls that were
made, with the answers that the cluster gave. -/
theorem calls_outcome_error {σ : Type} (h : Handler Call Call.Answer σ) (s : σ) (keys : KeyPair)
    (names : Names) :
    let r := (run keys names).run h s
    let ts := (run keys names).turns h s
    r.asked = ts.map Sigma.fst ∧ h.Gives s ts r.state ∧
      match names.check with
      | .error cause => r.value = .error (.invalidNames cause) ∧ ts = []
      | .ok () => CallLaw keys names ts r.value := by
  refine ⟨Dialogue.run_asked h _ s, Handler.run_gives h _ s, ?_⟩
  have course := run_course (Dialogue.run_ends h (run keys names) s)
  split
  next bad => exact course.of_bad bad
  next good => exact course.law good

end Reconcile

end MountKeys
