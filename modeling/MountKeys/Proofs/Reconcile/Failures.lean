import MountKeys.Cluster.Memory
import MountKeys.Proofs.Api.Client
import MountKeys.Proofs.Reconcile.Calls

/-!
# What is logged of a run that fails

A run that fails logs one error, last of all, about the call that failed, and a run that succeeds
logs none.  One failure is the exception: where the lookup of the namespace fails, the run ends
without any error in its log.  `RunCourse.logged` finds this on each course of a run, and
`failures_logged_unless_lookup` states it whoever answers.

The same holds of the log of a run whose calls are put as requests to a server, with what the client
logs about them in between.  A client logs no errors of its own (`Client.call_logs`), so the errors
are those of the run (`Dialogue.filter_expand_notices`); and a run that logs an error does nothing
more (`run_failsAtError`), so neither does the client for it.
-/

namespace MountKeys

/-! ## Errors in a log -/

/-- Whether a notice is an error. -/
def Notice.isError (n : Notice) : Bool :=
  n.level == .error

/-- The errors among some notices. -/
def errorsAmong (notes : List Notice) : List Notice :=
  notes.filter Notice.isError

/-- `n.TellsOf t`: the notice says that the call of the turn `t` failed, and why. -/
inductive Notice.TellsOf : Notice → CallTurn → Prop
  | lookup (ns : String) (cause : ClusterError) :
    TellsOf (.namespaceFailed ns cause) ⟨.namespaceExists ns, .error cause⟩
  | creation (ns : String) (cause : ClusterError) :
    TellsOf (.namespaceFailed ns cause) ⟨.createNamespace ns, .error cause⟩
  | application (m : Manifest) (cause : ClusterError) :
    TellsOf (.applyFailed m.kind (m.metadata.ns.getD "") (m.metadata.name.getD "") cause)
      ⟨.apply m, .error cause⟩
  | reading (p : Place) (cause : ClusterError) :
    TellsOf (.readFailed p.kind p.ns p.name cause) ⟨.get p, .error cause⟩
  | absence (p : Place) : TellsOf (.lost p.kind p.ns p.name) ⟨.get p, .ok none⟩

/-- The last notice is an error about the turn, and it is the only error. -/
def LoggedLast (notes : List Notice) (t : CallTurn) : Prop :=
  ∃ init n, notes = init ++ [n] ∧ n.isError = true ∧ n.TellsOf t ∧ errorsAmong init = []

/-- No notice follows an error. -/
def EndsAtError (notes : List Notice) : Prop :=
  (∀ n ∈ notes, ¬n.isError = true) ∨
    ∃ init n, notes = init ++ [n] ∧ n.isError = true ∧ ∀ m ∈ init, ¬m.isError = true

/-- Whether the call looks for the namespace. -/
def Call.isLookup : Call → Bool
  | .namespaceExists _ => true
  | _ => false

theorem errorsAmong_append (notes notes' : List Notice) :
    errorsAmong (notes ++ notes') = errorsAmong notes ++ errorsAmong notes' :=
  List.filter_append notes notes'

/-- What is logged last is logged. -/
theorem LoggedLast.errors_ne_nil {notes : List Notice} {t : CallTurn} (h : LoggedLast notes t) :
    errorsAmong notes ≠ [] := by
  obtain ⟨init, n, rfl, error, -, -⟩ := h
  simp [errorsAmong, error]

/-- A log with the same errors tells the same if no notice follows its errors. -/
theorem LoggedLast.of_same {notes notes' : List Notice} {t : CallTurn} (h : LoggedLast notes t)
    (same : errorsAmong notes' = errorsAmong notes) (stops : EndsAtError notes') :
    LoggedLast notes' t := by
  obtain ⟨init, n, rfl, error, tells, others⟩ := h
  have only : errorsAmong notes' = [n] := by
    rw [same, errorsAmong_append, others, List.nil_append]
    exact List.filter_cons_of_pos error
  rcases stops with none | ⟨init', n', rfl, error', others'⟩
  · exact nomatch only.symm.trans (List.filter_eq_nil_iff.2 none)
  · have quiet : errorsAmong init' = [] := List.filter_eq_nil_iff.2 others'
    have last : errorsAmong (init' ++ [n']) = [n'] := by
      rw [errorsAmong_append, quiet, List.nil_append]
      exact List.filter_cons_of_pos error'
    obtain rfl := List.singleton_inj.1 (last.symm.trans only)
    exact ⟨init', n', rfl, error, tells, quiet⟩

namespace Reconcile

/-! ## The courses -/

section Courses

variable {keys : KeyPair} {names : Names} {ts : List CallTurn} {notes : List Notice}

/-- Where the namespace is there in the end, no error is logged. -/
theorem NamespaceCourse.quiet {ns : String} {created : Bool}
    (course : NamespaceCourse ns ts notes (.ok created)) : errorsAmong notes = [] := by
  cases course <;> rfl

/-- Where it is not, the creation that failed is logged, and a lookup that failed is not. -/
theorem NamespaceCourse.logged {ns : String} {e : RunError} {t : CallTurn}
    (course : NamespaceCourse ns ts notes (.error e)) (last : ts.getLast? = some t) :
    if t.1.isLookup then notes = [] else LoggedLast notes t := by
  cases course with
  | lookupFailed cause =>
    obtain rfl := Option.some.inj last
    rfl
  | @refused cause _ =>
    obtain rfl := Option.some.inj last
    exact ⟨[], _, rfl, rfl, .creation ns cause, rfl⟩

theorem keyNotice_not_isError (fingerprint : Option String) :
    (keyNotice fingerprint).isError = false := by
  cases fingerprint <;> rfl

theorem errorsAmong_keyNotice (fingerprint : Option String) (notes : List Notice) :
    errorsAmong (keyNotice fingerprint :: notes) = errorsAmong notes :=
  List.filter_cons_of_neg (by simp [keyNotice_not_isError])

theorem foundNotices_quiet (keys : KeyPair) (names : Names) (kind : Kind) (stored : Stored) :
    errorsAmong (foundNotices keys names kind stored) = [] := by
  rw [foundNotices, driftNotices]
  split <;> rfl

/-- The notice about a reading that finds nothing is an error about that reading. -/
theorem missNotice_tellsOf (names : Names) (kind : Kind) (cause : Option ClusterError) :
    (missNotice names kind cause).isError = true ∧
      (missNotice names kind cause).TellsOf (readTurn names kind (missAnswer cause)) := by
  have place : names.ns = (names.place kind).ns := (names.place_ns kind).symm
  have sort : kind = (names.place kind).kind := (names.place_kind kind).symm
  cases cause with
  | none =>
    refine ⟨rfl, ?_⟩
    have h := Notice.TellsOf.absence (names.place kind)
    rwa [← place, ← sort] at h
  | some cause =>
    refine ⟨rfl, ?_⟩
    have h := Notice.TellsOf.reading (names.place kind) cause
    rwa [← place, ← sort] at h

/-- The notice about an object that is refused tells of that. -/
theorem applyFailed_tellsOf (keys : KeyPair) (names : Names) (kind : Kind) (cause : ClusterError) :
    (Notice.applyFailed kind names.ns (names.place kind).name cause).TellsOf
      (applyTurn keys names kind (.error cause)) := by
  have h := Notice.TellsOf.application ((Desired.render keys names).object kind) cause
  rwa [Desired.render_metadata, Desired.object_kind] at h

/-- A run that has its namespace and logs one more error, at its end, logs that error last. -/
theorem NamespaceCourse.loggedLast {created : Bool} {n : Notice} {t : CallTurn}
    (start : NamespaceCourse names.ns ts notes (.ok created)) (before : List Notice)
    (quiet : errorsAmong before = []) (error : n.isError = true) (tells : n.TellsOf t) :
    LoggedLast (keyNotice keys.fingerprint? :: (notes ++ (before ++ [n]))) t := by
  refine ⟨keyNotice keys.fingerprint? :: (notes ++ before), n, by simp, error, tells, ?_⟩
  rw [errorsAmong_keyNotice, errorsAmong_append, start.quiet, quiet, List.nil_append]

/-- A run that fails logs the failure of its last call, unless that was to look for the
namespace. -/
theorem RunCourse.logged {e : RunError} {t : CallTurn}
    (course : RunCourse keys names ts notes (.error e)) (last : ts.getLast? = some t) :
    if t.1.isLookup then errorsAmong notes = [] else LoggedLast notes t := by
  cases course with
  | invalid bad => exact nomatch last
  | noNamespace _ start =>
    have logged := start.logged last
    split at logged
    next lookup => rw [if_pos lookup, errorsAmong_keyNotice, logged]; rfl
    next lookup =>
      rw [if_neg lookup]
      obtain ⟨init, n, rfl, error, tells, quiet⟩ := logged
      exact ⟨_ :: init, n, rfl, error, tells, (errorsAmong_keyNotice _ init).trans quiet⟩
  | secretRefused _ start cause =>
    rw [List.getLast?_append] at last
    obtain rfl := Option.some.inj last
    exact start.loggedLast [] rfl rfl (applyFailed_tellsOf keys names .secret cause)
  | configMapRefused _ start cause =>
    rw [List.getLast?_append] at last
    obtain rfl := Option.some.inj last
    exact start.loggedLast [appliedNotice names .secret] rfl rfl
      (applyFailed_tellsOf keys names .configMap cause)
  | secretMissed _ start cause =>
    rw [List.getLast?_append] at last
    obtain rfl := Option.some.inj last
    obtain ⟨error, tells⟩ := missNotice_tellsOf names .secret cause
    exact start.loggedLast [appliedNotice names .secret, appliedNotice names .configMap] rfl error
      tells
  | configMapMissed _ start secret cause =>
    rw [List.getLast?_append] at last
    obtain rfl := Option.some.inj last
    obtain ⟨error, tells⟩ := missNotice_tellsOf names .configMap cause
    rw [← List.append_assoc _ (foundNotices keys names .secret secret)]
    exact start.loggedLast
      ([appliedNotice names .secret, appliedNotice names .configMap] ++
        foundNotices keys names .secret secret)
      (foundNotices_quiet keys names .secret secret) error tells

/-- A run that succeeds logs no error. -/
theorem RunCourse.quiet {report : Report} (course : RunCourse keys names ts notes (.ok report)) :
    errorsAmong notes = [] := by
  cases course with
  | done _ start secret configMap =>
    simp only [errorsAmong_keyNotice, errorsAmong_append, start.quiet, foundNotices_quiet,
      List.nil_append, List.append_nil]
    rfl

end Courses

/-! ## An error ends a run -/

/-- After an error in its log a part of a run does nothing more, and fails. -/
def FailsAtError {α : Type} (d : Session (Except RunError α)) : Prop :=
  d.StopsAt (fun n => n.isError = true) fun v => ∃ e, v = .error e

section Stops

variable {α β : Type}

/-- A part of a run that fails is the end of it. -/
theorem FailsAtError.bind {d : Session (Except RunError α)}
    {f : Except RunError α → Session (Except RunError β)} (hd : FailsAtError d)
    (stop : ∀ e, f (.error e) = .done (.error e)) (hf : ∀ a, FailsAtError (f (.ok a))) :
    FailsAtError (d.bind f) := by
  refine Dialogue.StopsAt.bind hd ?_ fun v => ?_
  · rintro _ ⟨e, rfl⟩
    exact ⟨_, stop e, e, rfl⟩
  · cases v with
    | error e => exact stop e ▸ .done _
    | ok a => exact hf a

theorem ensureNamespace_failsAtError (ns : String) : FailsAtError (ensureNamespace ns) := by
  refine .ask fun answer => ?_
  cases answer with
  | error cause => exact .done _
  | ok found =>
    cases found with
    | true => exact .note Bool.false_ne_true (.done _)
    | false =>
      refine .ask fun answer => ?_
      cases answer with
      | ok made => exact .note Bool.false_ne_true (.done _)
      | error cause =>
        cases exists_ : cause.isAlreadyExists with
        | true => simpa [exists_] using .note Bool.false_ne_true (.done _)
        | false => simpa [exists_] using .last ⟨_, rfl⟩

theorem applyOne_failsAtError (m : Manifest) (before : List Applied) :
    FailsAtError (applyOne m before) := by
  refine .ask fun answer => ?_
  cases answer with
  | error cause => exact .last ⟨_, rfl⟩
  | ok made => exact .note Bool.false_ne_true (.done _)

theorem applyDesired_failsAtError (desired : Desired) : FailsAtError (applyDesired desired) :=
  (applyOne_failsAtError _ _).bind (fun _ => rfl) fun _ => applyOne_failsAtError _ _

theorem readBack_failsAtError (kind : Kind) (names : Names) (applied : List Applied) :
    FailsAtError (readBack kind names applied) := by
  refine .ask fun answer => ?_
  cases answer with
  | error cause => exact .last ⟨_, rfl⟩
  | ok found =>
    cases found with
    | none => exact .last ⟨_, rfl⟩
    | some stored => exact .note Bool.false_ne_true (.done _)

/-- A warning is no error. -/
theorem warnOnDrift_logs (kind : Kind) (stored : Stored) (expected : ByteMap) :
    (warnOnDrift kind stored expected).LogsOnly fun n => ¬n.isError = true := by
  rw [warnOnDrift]
  split
  · exact .done _
  · exact .note Bool.false_ne_true (.done _)

theorem verify_failsAtError (names : Names) (desired : Desired) (applied : List Applied) :
    FailsAtError (verify names desired applied) := by
  refine (readBack_failsAtError _ _ _).bind (fun _ => rfl) fun secret => ?_
  refine (warnOnDrift_logs _ _ _).bind_stopsAt fun _ => ?_
  refine (readBack_failsAtError _ _ _).bind (fun _ => rfl) fun configMap => ?_
  exact (warnOnDrift_logs _ _ _).bind_stopsAt fun _ => .done _

/-- After an error in its log a run does nothing more, and fails. -/
theorem run_failsAtError (keys : KeyPair) (names : Names) : FailsAtError (run keys names) := by
  rw [run]
  split
  · exact .done _
  refine .note (by simp [keyNotice_not_isError]) ?_
  refine (ensureNamespace_failsAtError _).bind (fun _ => rfl) fun created => ?_
  refine (applyDesired_failsAtError _).bind (fun _ => rfl) fun applied => ?_
  refine (verify_failsAtError _ _ _).bind (fun _ => rfl) fun found => ?_
  exact .note Bool.false_ne_true (.done _)

end Stops

/-! ## Runs -/

/-- What the log of a run says of how the run went: of its turns and of what it ended in. -/
structure FailureLaw (ts : List CallTurn) (notes : List Notice) (value : Except RunError Report) :
    Prop where
  /-- A run that succeeds logs no error. -/
  quiet : ∀ report, value = .ok report → errorsAmong notes = []
  /-- A run fails with its last call.  Exactly if that was not to look for the namespace, the
  failure is the last notice and the only error; otherwise there is no error. -/
  failed : ∀ e, value = .error e →
    ∃ t, ts.getLast? = some t ∧ t.1.fails t.2 = true ∧ e.Blames (appliedIn ts) t ∧
      (LoggedLast notes t ↔ t.1.isLookup = false) ∧
      (t.1.isLookup = true → errorsAmong notes = [])

section Law

variable {keys : KeyPair} {names : Names} {ts : List CallTurn} {notes notes' : List Notice}
  {value : Except RunError Report}

theorem RunCourse.failureLaw (course : RunCourse keys names ts notes value)
    (good : names.check = .ok ()) : FailureLaw ts notes value where
  quiet report ends := (ends ▸ course).quiet
  failed e ends := by
    obtain ⟨t, last, fails, blames⟩ := (course.law good).blames e ends
    have logged := (ends ▸ course).logged last
    refine ⟨t, last, fails, blames, ?_⟩
    cases lookup : t.1.isLookup with
    | true =>
      simp only [lookup, if_true] at logged
      exact ⟨⟨fun h => absurd logged h.errors_ne_nil, nofun⟩, fun _ => logged⟩
    | false =>
      simp only [lookup, Bool.false_eq_true, if_false] at logged
      exact ⟨⟨fun _ => rfl, fun _ => logged⟩, nofun⟩

/-- The law says the same of any log with the same errors that nothing follows. -/
theorem FailureLaw.of_same (law : FailureLaw ts notes value)
    (same : errorsAmong notes' = errorsAmong notes) (stops : EndsAtError notes') :
    FailureLaw ts notes' value where
  quiet report ends := same.trans (law.quiet report ends)
  failed e ends := by
    obtain ⟨t, last, fails, blames, logged, silent⟩ := law.failed e ends
    refine ⟨t, last, fails, blames, ⟨fun h => ?_, fun other => ?_⟩, fun lookup => ?_⟩
    · rw [Bool.eq_false_iff]
      exact fun lookup => h.errors_ne_nil (same.trans (silent lookup))
    · exact (logged.2 other).of_same same stops
    · exact same.trans (silent lookup)

end Law

/-- The failure of a run is logged, by one error and last, exactly if it was not the lookup of the
namespace that failed; a run that succeeds logs no error.  So it is whoever answers the calls, and
with what a client logs about them, whoever answers its requests. -/
theorem failures_logged_unless_lookup (keys : KeyPair) {names : Names}
    (good : names.check = .ok ()) :
    (∀ {σ : Type} (h : Handler Call Call.Answer σ) (s : σ),
      let r := (run keys names).run h s
      FailureLaw ((run keys names).turns h s) r.notices r.value) ∧
    ∀ {σ : Type} (h : Handler Request (fun _ => Reply) σ) (s : σ),
      let r := (Client.session (run keys names)).run h s
      FailureLaw ((run keys names).turns (h.through Client.call) s) r.notices r.value := by
  have law {σ : Type} (h : Handler Call Call.Answer σ) (s : σ) :
      FailureLaw ((run keys names).turns h s) ((run keys names).run h s).notices
        ((run keys names).run h s).value :=
    (run_course (Dialogue.run_ends h _ s)).failureLaw good
  refine ⟨law, fun h s => ?_⟩
  intro r
  have parts (c : Call) : (Client.call c).LogsOnly fun n => ¬n.isError = true :=
    (Client.call_logs c).mono fun n announces => by
      obtain ⟨kind, name, rfl | rfl⟩ := announces <;> exact nofun
  have value : r.value = ((run keys names).run (h.through Client.call) s).value :=
    (Dialogue.expand_run Client.call h _ s).1
  have same : errorsAmong r.notices =
      errorsAmong ((run keys names).run (h.through Client.call) s).notices :=
    Dialogue.filter_expand_notices parts h s
  have stops : EndsAtError r.notices :=
    ((run_failsAtError keys names).expand parts).of_leads (Dialogue.run_ends h _ s)
  rw [value]
  exact (law (h.through Client.call) s).of_same same stops

/-! ## A failure that is not logged -/

/-- The cluster in memory, where the calls in question are forbidden. -/
def forbidding (which : Call → Bool) : Handler Call Call.Answer Store :=
  .overriding (fun c => if which c then some (.error (.usual 403 "forbidden")) else none)
    Store.answer

/-- A run that may not look for its namespace fails, and there is no error in its log. -/
theorem lookup_failure_unlogged :
    let r := (run ⟨[1], [2]⟩ .standard).run (forbidding Call.isLookup) .empty
    Names.standard.check = .ok () ∧
      r.value = .error (.namespaceFailed "swlabpods" (.usual 403 "forbidden")) ∧
      r.notices = [.noFingerprint] ∧ ∀ n ∈ r.notices, n.level ≠ .error := by
  decide

/-- A run that may only look for its namespace says last that it may not create it. -/
theorem failures_logged_unless_lookup_forbidden :
    let r := (run ⟨[1], [2]⟩ .standard).run (forbidding fun c => !c.isLookup) .empty
    Names.standard.check = .ok () ∧
      r.value = .error (.namespaceFailed "swlabpods" (.usual 403 "forbidden")) ∧
      LoggedLast r.notices
        ⟨.createNamespace "swlabpods", .error (.usual 403 "forbidden")⟩ := by
  intro r
  have good : Names.standard.check = .ok () := by decide
  have fails : r.value = .error (.namespaceFailed "swlabpods" (.usual 403 "forbidden")) := rfl
  refine ⟨good, fails, ?_⟩
  obtain ⟨t, last, -, -, logged, -⟩ :=
    ((failures_logged_unless_lookup ⟨[1], [2]⟩ good).1 _ _).failed _ fails
  obtain rfl := Option.some.inj last
  exact logged.2 rfl

end Reconcile

end MountKeys
