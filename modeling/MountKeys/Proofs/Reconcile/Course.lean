import MountKeys.Proofs.Dialogue
import MountKeys.Proofs.Render
import MountKeys.Reconcile

/-!
# The courses of a run

What a run can do, said once: `RunCourse` lists its courses, each with the turns that it has, the
notices that it logs and the outcome that it ends in.  `run_course` shows that there are no others,
whoever answers.  Everything that is proved about all runs is read off this list.

`NamespaceCourse` is the same for the part of a run that has the namespace made.
-/

namespace MountKeys

/-- A call on the cluster with the answer that it got. -/
abbrev CallTurn := Turn Call Call.Answer

namespace Reconcile

/-! ## Having the namespace -/

/-- What `ensureNamespace` can do. -/
inductive NamespaceCourse (ns : String) :
    List CallTurn → List Notice → Except RunError Bool → Prop
  | lookupFailed (cause : ClusterError) :
    NamespaceCourse ns [⟨.namespaceExists ns, .error cause⟩] []
      (.error (.namespaceFailed ns cause))
  | found :
    NamespaceCourse ns [⟨.namespaceExists ns, .ok true⟩] [.namespaceExists ns] (.ok false)
  | created :
    NamespaceCourse ns [⟨.namespaceExists ns, .ok false⟩, ⟨.createNamespace ns, .ok ()⟩]
      [.namespaceCreated ns] (.ok true)
  | createdElsewhere {cause : ClusterError} (exists_ : cause.isAlreadyExists = true) :
    NamespaceCourse ns [⟨.namespaceExists ns, .ok false⟩, ⟨.createNamespace ns, .error cause⟩]
      [.namespaceCreatedElsewhere ns] (.ok false)
  | refused {cause : ClusterError} (other : cause.isAlreadyExists = false) :
    NamespaceCourse ns [⟨.namespaceExists ns, .ok false⟩, ⟨.createNamespace ns, .error cause⟩]
      [.namespaceFailed ns cause] (.error (.namespaceFailed ns cause))

theorem ensureNamespace_course {ns : String} {ts : List CallTurn} {notes : List Notice}
    {v : Except RunError Bool} (h : (ensureNamespace ns).Ends ts notes v) :
    NamespaceCourse ns ts notes v := by
  simp only [ensureNamespace, Session.namespaceExists, Dialogue.bind_eq, Dialogue.send_bind,
    Dialogue.ask_ends] at h
  obtain ⟨answer, ts, rfl, h⟩ := h
  cases answer with
  | error cause =>
    obtain ⟨rfl, rfl, rfl⟩ := Dialogue.done_ends.1 h
    exact .lookupFailed cause
  | ok found =>
    cases found with
    | true =>
      obtain ⟨rfl, rfl, rfl⟩ := Dialogue.note_done_ends.1 h
      exact .found
    | false =>
      simp only [Session.createNamespace, Dialogue.send_bind, Dialogue.ask_ends] at h
      obtain ⟨answer, ts, rfl, h⟩ := h
      cases answer with
      | ok made =>
        obtain ⟨rfl, rfl, rfl⟩ := Dialogue.note_done_ends.1 h
        exact .created
      | error cause =>
        dsimp only at h
        split at h
        next hcause =>
          obtain ⟨rfl, rfl, rfl⟩ := Dialogue.note_done_ends.1 h
          exact .createdElsewhere hcause
        next hcause =>
          obtain ⟨rfl, rfl, rfl⟩ := Dialogue.note_done_ends.1 h
          exact .refused (by simpa using hcause)

/-! ## The turns and notices of a run -/

/-- The turn in which a run applies the object of a kind. -/
def applyTurn (keys : KeyPair) (names : Names) (kind : Kind)
    (answer : Except ClusterError Unit) : CallTurn :=
  ⟨.apply ((Desired.render keys names).object kind), answer⟩

/-- The turn in which a run reads the object of a kind. -/
def readTurn (names : Names) (kind : Kind) (answer : Except ClusterError (Option Stored)) :
    CallTurn :=
  ⟨.get (names.place kind), answer⟩

/-- How a run refers to the object of a kind that it wrote. -/
def written (names : Names) (kind : Kind) : Applied :=
  ⟨kind, names.ns, (names.place kind).name⟩

/-- That the object of a kind was applied. -/
def appliedNotice (names : Names) (kind : Kind) : Notice :=
  .applied kind names.ns (names.place kind).name

/-- The answer to a reading that finds nothing: the cause of a failure, or none where there was no
object. -/
def missAnswer : Option ClusterError → Except ClusterError (Option Stored)
  | some cause => .error cause
  | none => .ok none

/-- What is logged about a reading that finds nothing. -/
def missNotice (names : Names) (kind : Kind) : Option ClusterError → Notice
  | some cause => .readFailed kind names.ns (names.place kind).name cause
  | none => .lost kind names.ns (names.place kind).name

/-- The warning about an object that was read back, if it is not as expected. -/
def driftNotices (kind : Kind) (stored : Stored) (expected : ByteMap) : List Notice :=
  if stored.data = expected then [] else [.drifted kind stored.ns stored.name stored.data.keys]

/-- What is logged about an object of a kind that was found. -/
def foundNotices (keys : KeyPair) (names : Names) (kind : Kind) (stored : Stored) : List Notice :=
  .verified kind names.ns (names.place kind).name stored.created ::
    driftNotices kind stored ((Desired.render keys names).object kind).contents

/-! ## Applying -/

section Applying

variable {keys : KeyPair} {names : Names} {ts : List CallTurn} {notes : List Notice}

/-- A rendered object is reported under the names that it was rendered for. -/
theorem appliedOf_render (kind : Kind) :
    appliedOf ((Desired.render keys names).object kind) = written names kind := by
  rw [appliedOf, Desired.render_metadata, Desired.object_kind]
  rfl

theorem applyOne_course (kind : Kind) {before : List Applied}
    {v : Except RunError (List Applied)}
    (h : (applyOne ((Desired.render keys names).object kind) before).Ends ts notes v) :
    (∃ cause, ts = [applyTurn keys names kind (.error cause)] ∧
      notes = [.applyFailed kind names.ns (names.place kind).name cause] ∧
      v = .error (.applyFailed kind (names.place kind).name before cause)) ∨
    (ts = [applyTurn keys names kind (.ok ())] ∧ notes = [appliedNotice names kind] ∧
      v = .ok (before ++ [written names kind])) := by
  simp only [applyOne, Session.apply, Dialogue.bind_eq, Dialogue.send_bind, Dialogue.ask_ends,
    appliedOf_render] at h
  obtain ⟨answer, ts', rfl, h⟩ := h
  cases answer with
  | error cause =>
    obtain ⟨rfl, rfl, rfl⟩ := Dialogue.note_done_ends.1 h
    exact .inl ⟨cause, rfl, rfl, rfl⟩
  | ok done =>
    obtain ⟨rfl, rfl, rfl⟩ := Dialogue.note_done_ends.1 h
    exact .inr ⟨rfl, rfl, rfl⟩

theorem applyDesired_course {v : Except RunError (List Applied)}
    (h : (applyDesired (Desired.render keys names)).Ends ts notes v) :
    (∃ cause, ts = [applyTurn keys names .secret (.error cause)] ∧
      notes = [.applyFailed .secret names.ns names.secret cause] ∧
      v = .error (.applyFailed .secret names.secret [] cause)) ∨
    (∃ cause, ts = [applyTurn keys names .secret (.ok ()),
        applyTurn keys names .configMap (.error cause)] ∧
      notes = [appliedNotice names .secret,
        .applyFailed .configMap names.ns names.configMap cause] ∧
      v = .error (.applyFailed .configMap names.configMap [written names .secret] cause)) ∨
    (ts = [applyTurn keys names .secret (.ok ()), applyTurn keys names .configMap (.ok ())] ∧
      notes = [appliedNotice names .secret, appliedNotice names .configMap] ∧
      v = .ok [written names .secret, written names .configMap]) := by
  obtain ⟨ts₁, notes₁, first, ts₂, notes₂, hSecret, hConfigMap, rfl, rfl⟩ :=
    Dialogue.bind_ends.1 h
  rcases applyOne_course .secret hSecret with ⟨cause, rfl, rfl, rfl⟩ | ⟨rfl, rfl, rfl⟩
  · obtain ⟨rfl, rfl, rfl⟩ := Dialogue.done_ends.1 hConfigMap
    exact .inl ⟨cause, rfl, rfl, rfl⟩
  rcases applyOne_course .configMap hConfigMap with
    ⟨cause, rfl, rfl, rfl⟩ | ⟨rfl, rfl, rfl⟩
  · exact .inr (.inl ⟨cause, rfl, rfl, rfl⟩)
  · exact .inr (.inr ⟨rfl, rfl, rfl⟩)

end Applying

/-! ## Reading back -/

section Reading

variable {keys : KeyPair} {names : Names} {applied : List Applied} {ts : List CallTurn}
  {notes : List Notice}

theorem readBack_course {kind : Kind} {v : Except RunError Stored}
    (h : (readBack kind names applied).Ends ts notes v) :
    (∃ cause, ts = [readTurn names kind (missAnswer cause)] ∧
      notes = [missNotice names kind cause] ∧
      v = .error (.verificationFailed kind (names.place kind).name applied cause)) ∨
    (∃ stored, ts = [readTurn names kind (.ok (some stored))] ∧
      notes = [.verified kind names.ns (names.place kind).name stored.created] ∧
      v = .ok stored) := by
  simp only [readBack, Session.get, Dialogue.bind_eq, Dialogue.send_bind, Dialogue.ask_ends,
    Names.place_ns] at h
  obtain ⟨answer, ts', rfl, h⟩ := h
  cases answer with
  | error cause =>
    obtain ⟨rfl, rfl, rfl⟩ := Dialogue.note_done_ends.1 h
    exact .inl ⟨some cause, rfl, rfl, rfl⟩
  | ok found =>
    cases found with
    | none =>
      obtain ⟨rfl, rfl, rfl⟩ := Dialogue.note_done_ends.1 h
      exact .inl ⟨none, rfl, rfl, rfl⟩
    | some stored =>
      obtain ⟨rfl, rfl, rfl⟩ := Dialogue.note_done_ends.1 h
      exact .inr ⟨stored, rfl, rfl, rfl⟩

/-- To compare an object with what is expected is to log the warning about it, if there is one. -/
theorem warnOnDrift_eq (kind : Kind) (stored : Stored) (expected : ByteMap) :
    warnOnDrift kind stored expected = Dialogue.logAll (driftNotices kind stored expected) := by
  rw [warnOnDrift, driftNotices]
  split <;> rfl

theorem warnOnDrift_bind_ends {kind : Kind} {stored : Stored} {expected : ByteMap} {α : Type}
    {next : Unit → Session α} {a : α} :
    ((warnOnDrift kind stored expected).bind next).Ends ts notes a ↔
      ∃ rest, notes = driftNotices kind stored expected ++ rest ∧ (next ()).Ends ts rest a := by
  rw [warnOnDrift, driftNotices]
  split <;> simp

theorem verify_course {v : Except RunError (Stored × Stored)}
    (h : (verify names (Desired.render keys names) applied).Ends ts notes v) :
    (∃ cause, ts = [readTurn names .secret (missAnswer cause)] ∧
      notes = [missNotice names .secret cause] ∧
      v = .error (.verificationFailed .secret names.secret applied cause)) ∨
    (∃ secret cause, ts = [readTurn names .secret (.ok (some secret)),
        readTurn names .configMap (missAnswer cause)] ∧
      notes = foundNotices keys names .secret secret ++ [missNotice names .configMap cause] ∧
      v = .error (.verificationFailed .configMap names.configMap applied cause)) ∨
    (∃ secret configMap, ts = [readTurn names .secret (.ok (some secret)),
        readTurn names .configMap (.ok (some configMap))] ∧
      notes = foundNotices keys names .secret secret ++
        foundNotices keys names .configMap configMap ∧
      v = .ok (secret, configMap)) := by
  obtain ⟨ts₁, notes₁, secret, ts₂, notes₂, hSecret, hRest, rfl, rfl⟩ := Dialogue.bind_ends.1 h
  rcases readBack_course hSecret with ⟨cause, rfl, rfl, rfl⟩ | ⟨secret, rfl, rfl, rfl⟩
  · obtain ⟨rfl, rfl, rfl⟩ := Dialogue.done_ends.1 hRest
    exact .inl ⟨cause, rfl, rfl, rfl⟩
  obtain ⟨notes₃, rfl, hNext⟩ := warnOnDrift_bind_ends.1 hRest
  obtain ⟨ts₁, notes₁, configMap, ts₂, notes₂, hConfigMap, hLast, rfl, rfl⟩ :=
    Dialogue.bind_ends.1 hNext
  rcases readBack_course hConfigMap with ⟨cause, rfl, rfl, rfl⟩ | ⟨configMap, rfl, rfl, rfl⟩
  · obtain ⟨rfl, rfl, rfl⟩ := Dialogue.done_ends.1 hLast
    exact .inr (.inl ⟨secret, cause, rfl, rfl, rfl⟩)
  obtain ⟨notes₃, rfl, hDone⟩ := warnOnDrift_bind_ends.1 hLast
  obtain ⟨rfl, rfl, rfl⟩ := Dialogue.done_ends.1 hDone
  refine .inr (.inr ⟨secret, configMap, rfl, ?_, rfl⟩)
  rw [List.append_nil]
  rfl

end Reading

/-! ## A whole run -/

/-- What a run can do: after the namespace it applies both objects and then reads both, up to the
first failure. -/
inductive RunCourse (keys : KeyPair) (names : Names) :
    List CallTurn → List Notice → Except RunError Report → Prop
  | invalid {cause : Names.Invalid} (bad : names.check = .error cause) :
    RunCourse keys names [] [] (.error (.invalidNames cause))
  | noNamespace {ts : List CallTurn} {notes : List Notice} {e : RunError}
      (good : names.check = .ok ()) (start : NamespaceCourse names.ns ts notes (.error e)) :
    RunCourse keys names ts (keyNotice keys.fingerprint? :: notes) (.error e)
  | secretRefused {ts : List CallTurn} {notes : List Notice} {created : Bool}
      (good : names.check = .ok ()) (start : NamespaceCourse names.ns ts notes (.ok created))
      (cause : ClusterError) :
    RunCourse keys names (ts ++ [applyTurn keys names .secret (.error cause)])
      (keyNotice keys.fingerprint? :: (notes ++
        [.applyFailed .secret names.ns names.secret cause]))
      (.error (.applyFailed .secret names.secret [] cause))
  | configMapRefused {ts : List CallTurn} {notes : List Notice} {created : Bool}
      (good : names.check = .ok ()) (start : NamespaceCourse names.ns ts notes (.ok created))
      (cause : ClusterError) :
    RunCourse keys names
      (ts ++ [applyTurn keys names .secret (.ok ()),
        applyTurn keys names .configMap (.error cause)])
      (keyNotice keys.fingerprint? :: (notes ++ [appliedNotice names .secret,
        .applyFailed .configMap names.ns names.configMap cause]))
      (.error (.applyFailed .configMap names.configMap [written names .secret] cause))
  | secretMissed {ts : List CallTurn} {notes : List Notice} {created : Bool}
      (good : names.check = .ok ()) (start : NamespaceCourse names.ns ts notes (.ok created))
      (cause : Option ClusterError) :
    RunCourse keys names
      (ts ++ [applyTurn keys names .secret (.ok ()), applyTurn keys names .configMap (.ok ()),
        readTurn names .secret (missAnswer cause)])
      (keyNotice keys.fingerprint? :: (notes ++ ([appliedNotice names .secret,
        appliedNotice names .configMap] ++ [missNotice names .secret cause])))
      (.error (.verificationFailed .secret names.secret
        [written names .secret, written names .configMap] cause))
  | configMapMissed {ts : List CallTurn} {notes : List Notice} {created : Bool}
      (good : names.check = .ok ()) (start : NamespaceCourse names.ns ts notes (.ok created))
      (secret : Stored) (cause : Option ClusterError) :
    RunCourse keys names
      (ts ++ [applyTurn keys names .secret (.ok ()), applyTurn keys names .configMap (.ok ()),
        readTurn names .secret (.ok (some secret)),
        readTurn names .configMap (missAnswer cause)])
      (keyNotice keys.fingerprint? :: (notes ++ ([appliedNotice names .secret,
        appliedNotice names .configMap] ++ (foundNotices keys names .secret secret ++
        [missNotice names .configMap cause]))))
      (.error (.verificationFailed .configMap names.configMap
        [written names .secret, written names .configMap] cause))
  | done {ts : List CallTurn} {notes : List Notice} {created : Bool}
      (good : names.check = .ok ()) (start : NamespaceCourse names.ns ts notes (.ok created))
      (secret configMap : Stored) :
    RunCourse keys names
      (ts ++ [applyTurn keys names .secret (.ok ()), applyTurn keys names .configMap (.ok ()),
        readTurn names .secret (.ok (some secret)),
        readTurn names .configMap (.ok (some configMap))])
      (keyNotice keys.fingerprint? :: (notes ++ ([appliedNotice names .secret,
        appliedNotice names .configMap] ++ (foundNotices keys names .secret secret ++
        foundNotices keys names .configMap configMap ++ [.reconciled names]))))
      (.ok ⟨names, created, secret.created, configMap.created, keys.fingerprint?⟩)

/-- A run takes one of its courses. -/
theorem run_course {keys : KeyPair} {names : Names} {ts : List CallTurn} {notes : List Notice}
    {v : Except RunError Report} (h : (run keys names).Ends ts notes v) :
    RunCourse keys names ts notes v := by
  rw [run] at h
  split at h
  next cause bad =>
    obtain ⟨rfl, rfl, rfl⟩ := Dialogue.done_ends.1 h
    exact .invalid bad
  next good =>
    simp only [Dialogue.bind_eq, Dialogue.log_bind] at h
    obtain ⟨notes₀, rfl, hNamespace⟩ := Dialogue.note_ends.1 h
    obtain ⟨ts₁, notes₁, made, ts₂, notes₂, hMade, hRest, rfl, rfl⟩ :=
      Dialogue.bind_ends.1 hNamespace
    have start := ensureNamespace_course hMade
    cases made with
    | error e =>
      obtain ⟨rfl, rfl, rfl⟩ := Dialogue.done_ends.1 hRest
      rw [List.append_nil, List.append_nil]
      exact .noNamespace good start
    | ok created =>
      obtain ⟨ts₃, notes₃, applied, ts₄, notes₄, hApply, hVerify, rfl, rfl⟩ :=
        Dialogue.bind_ends.1 hRest
      rcases applyDesired_course hApply with
        ⟨cause, rfl, rfl, rfl⟩ | ⟨cause, rfl, rfl, rfl⟩ | ⟨rfl, rfl, rfl⟩
      · obtain ⟨rfl, rfl, rfl⟩ := Dialogue.done_ends.1 hVerify
        exact .secretRefused good start cause
      · obtain ⟨rfl, rfl, rfl⟩ := Dialogue.done_ends.1 hVerify
        exact .configMapRefused good start cause
      obtain ⟨ts₅, notes₅, found, ts₆, notes₆, hFound, hLast, rfl, rfl⟩ :=
        Dialogue.bind_ends.1 hVerify
      rcases verify_course hFound with
        ⟨cause, rfl, rfl, rfl⟩ | ⟨secret, cause, rfl, rfl, rfl⟩ | ⟨secret, configMap, rfl, rfl, rfl⟩
      · obtain ⟨rfl, rfl, rfl⟩ := Dialogue.done_ends.1 hLast
        exact .secretMissed good start cause
      · obtain ⟨rfl, rfl, rfl⟩ := Dialogue.done_ends.1 hLast
        rw [List.append_nil (foundNotices keys names .secret secret ++ _)]
        exact .configMapMissed good start secret cause
      · obtain ⟨rfl, rfl, rfl⟩ := Dialogue.note_done_ends.1 hLast
        exact .done good start secret configMap

end Reconcile

end MountKeys
