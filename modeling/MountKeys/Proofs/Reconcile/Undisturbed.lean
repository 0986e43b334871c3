import MountKeys.Proofs.Reconcile.Concurrent

/-!
# A run that nothing disturbs

`Serves` says what a cluster answers to a run when every call succeeds and nobody else writes.  Then
the run makes all calls of its plan and ends well (`Serves.run`).  If another such run follows, the
cluster holds the key pair in between (`Serves.twice`).  The parts of a run come first, each as the
run that it then is.
-/

namespace MountKeys.Reconcile

/-- A run that ended well with a report and found both objects as it had written them. -/
structure EndsWell {Ask σ : Type} (r : Run Ask (Except RunError Report) σ) (report : Report) :
    Prop where
  value : r.value = .ok report
  quiet : ∀ kind, r.notices.any (Notice.warnsOfDrift kind) = false

/-- The answers to one who has a namespace made from a cluster that does what it is asked: it goes
from `s` to `start`, which has the namespace. -/
structure Houses {σ : Type} (h : Handler Call Call.Answer σ) (ns : String) (missing : Bool)
    (s start : σ) : Prop where
  lookup : h (.namespaceExists ns) s = (.ok (!missing), s)
  creation : missing = true → h (.createNamespace ns) s = (.ok (), start)
  keeping : missing = false → start = s

/-- The answers to a run from a cluster that does what it is asked: it goes from `s` over `start`,
which has the namespace, and `between`, which has the Secret, to `last`, which holds `stored`. -/
structure Serves {σ : Type} (h : Handler Call Call.Answer σ) (keys : KeyPair) (names : Names)
    (missing : Bool) (s start between last : σ) (stored : Kind → Stored) : Prop where
  lookup : h (.namespaceExists names.ns) s = (.ok (!missing), s)
  creation : missing = true → h (.createNamespace names.ns) s = (.ok (), start)
  keeping : missing = false → start = s
  secret : h (.apply ((Desired.render keys names).object .secret)) start = (.ok (), between)
  configMap : h (.apply ((Desired.render keys names).object .configMap)) between = (.ok (), last)
  reading : ∀ kind, h (.get (names.place kind)) last = (.ok (some (stored kind)), last)
  data : ∀ kind, (stored kind).data = ((Desired.render keys names).object kind).contents

/-- A cluster that has the namespace and gives the keys of a pair, and no others, when the objects
are read. -/
structure Holds {σ : Type} (h : Handler Call Call.Answer σ) (keys : KeyPair) (names : Names)
    (s : σ) : Prop where
  hasNamespace : (h (.namespaceExists names.ns) s).1 = .ok true
  secret : ∃ stored, (h (.get (names.place .secret)) s).1 = .ok (some stored) ∧
    stored.data =
      .ofList [(privateKeyEntry, keys.privateKey), (publicKeyEntry, keys.publicKey)]
  configMap : ∃ stored, (h (.get (names.place .configMap)) s).1 = .ok (some stored) ∧
    stored.data = .ofList [(publicKeyEntry, keys.publicKey)]

section Serves

variable {σ : Type} {h : Handler Call Call.Answer σ} {keys : KeyPair} {names : Names}
  {missing : Bool} {s start between last : σ} {stored : Kind → Stored}

/-- The namespace is there afterwards. -/
theorem Houses.run {ns : String} (houses : Houses h ns missing s start) :
    (ensureNamespace ns).run h s =
      ⟨.ok missing, [if missing then .namespaceCreated ns else .namespaceExists ns],
        namespacePlan ns missing, start⟩ := by
  have lookup := houses.lookup
  cases missing with
  | true =>
    have creation := houses.creation rfl
    simp [Reconcile.ensureNamespace, Session.namespaceExists, Session.createNamespace, lookup,
      creation, namespacePlan]
  | false =>
    have keeping := houses.keeping rfl
    simp [Reconcile.ensureNamespace, Session.namespaceExists, lookup, keeping, namespacePlan]

theorem Serves.ensureNamespace (serves : Serves h keys names missing s start between last stored) :
    (ensureNamespace names.ns).run h s =
      ⟨.ok missing, [if missing then .namespaceCreated names.ns else .namespaceExists names.ns],
        namespacePlan names.ns missing, start⟩ :=
  Houses.run ⟨serves.lookup, serves.creation, serves.keeping⟩

/-- An object that is applied is written. -/
theorem applyOne_run {kind : Kind} {s' : σ}
    (answer : h (.apply ((Desired.render keys names).object kind)) s = (.ok (), s'))
    (before : List Applied) :
    (applyOne ((Desired.render keys names).object kind) before).run h s =
      ⟨.ok (before ++ [written names kind]), [appliedNotice names kind],
        [.apply ((Desired.render keys names).object kind)], s'⟩ := by
  simp [applyOne, Session.apply, answer, appliedOf_render, appliedNotice, written]

/-- An object that is refused ends the run. -/
theorem applyOne_refused {kind : Kind} {cause : ClusterError} {s' : σ}
    (answer : h (.apply ((Desired.render keys names).object kind)) s = (.error cause, s'))
    (before : List Applied) :
    (applyOne ((Desired.render keys names).object kind) before).run h s =
      ⟨.error (.applyFailed kind (names.place kind).name before cause),
        [.applyFailed kind names.ns (names.place kind).name cause],
        [.apply ((Desired.render keys names).object kind)], s'⟩ := by
  simp [applyOne, Session.apply, answer, appliedOf_render, written]

/-- Both objects are written. -/
theorem Serves.applyDesired (serves : Serves h keys names missing s start between last stored) :
    (applyDesired (Desired.render keys names)).run h start =
      ⟨.ok [written names .secret, written names .configMap],
        [appliedNotice names .secret, appliedNotice names .configMap],
        [.apply ((Desired.render keys names).object .secret),
          .apply ((Desired.render keys names).object .configMap)], last⟩ := by
  have secret := applyOne_run serves.secret []
  have configMap := applyOne_run serves.configMap [written names .secret]
  simp only [Desired.object] at secret configMap
  simp [Reconcile.applyDesired, Dialogue.run_bind, secret, configMap, Desired.object]

/-- An object that is there is read. -/
theorem readBack_run {kind : Kind} {object : Stored} {s' : σ}
    (answer : h (.get (names.place kind)) s = (.ok (some object), s')) (applied : List Applied) :
    (readBack kind names applied).run h s =
      ⟨.ok object, [.verified kind names.ns (names.place kind).name object.created],
        [.get (names.place kind)], s'⟩ := by
  simp [readBack, Session.get, answer]

/-- Both objects are there, are read, and are compared with what they should hold. -/
theorem verify_run {secret configMap : Stored} {s' s'' : σ}
    (hSecret : h (.get (names.place .secret)) s = (.ok (some secret), s'))
    (hConfigMap : h (.get (names.place .configMap)) s' = (.ok (some configMap), s''))
    (desired : Desired) (applied : List Applied) :
    (verify names desired applied).run h s =
      ⟨.ok (secret, configMap),
        .verified .secret names.ns names.secret secret.created ::
            driftNotices .secret secret (desired.object .secret).contents ++
          .verified .configMap names.ns names.configMap configMap.created ::
            driftNotices .configMap configMap (desired.object .configMap).contents,
        [.get (names.place .secret), .get (names.place .configMap)], s''⟩ := by
  simp [Reconcile.verify, Dialogue.run_bind, readBack_run hSecret, readBack_run hConfigMap,
    warnOnDrift_eq, Names.place, Desired.object, Manifest.contents]

/-- Both objects are read and found as they were written. -/
theorem Serves.verify (serves : Serves h keys names missing s start between last stored)
    (applied : List Applied) :
    (verify names (Desired.render keys names) applied).run h last =
      ⟨.ok (stored .secret, stored .configMap),
        [.verified .secret names.ns names.secret (stored .secret).created,
          .verified .configMap names.ns names.configMap (stored .configMap).created],
        [.get (names.place .secret), .get (names.place .configMap)], last⟩ := by
  rw [verify_run (serves.reading .secret) (serves.reading .configMap), driftNotices, driftNotices,
    if_pos (serves.data .secret), if_pos (serves.data .configMap)]
  rfl

/-- A run ends well with a cluster that does what it is asked. -/
theorem Serves.run (serves : Serves h keys names missing s start between last stored)
    (valid : names.check = .ok ()) :
    let r := (run keys names).run h s
    EndsWell r ⟨names, missing, (stored .secret).created, (stored .configMap).created,
      keys.fingerprint?⟩ ∧ r.state = last := by
  have course : (Reconcile.run keys names).run h s =
      ⟨.ok ⟨names, missing, (stored .secret).created, (stored .configMap).created,
          keys.fingerprint?⟩,
        [keyNotice keys.fingerprint?,
          if missing then .namespaceCreated names.ns else .namespaceExists names.ns,
          appliedNotice names .secret, appliedNotice names .configMap,
          .verified .secret names.ns names.secret (stored .secret).created,
          .verified .configMap names.ns names.configMap (stored .configMap).created,
          .reconciled names],
        plan keys names missing, last⟩ := by
    simp [Reconcile.run, valid, Dialogue.run_bind, serves.ensureNamespace, serves.applyDesired,
      serves.verify, plan, objectPlan]
  rw [course]
  refine ⟨⟨rfl, fun kind => ?_⟩, rfl⟩
  rw [List.any_cons, warns_keyNotice]
  cases missing <;> rfl

section Refused

variable {cause : ClusterError} (valid : names.check = .ok ())
  (houses : Houses h names.ns missing s start)
include valid houses

/-- A run ends where its Secret is refused. -/
theorem run_refused_secret
    (refused : h (.apply ((Desired.render keys names).object .secret)) start =
      (.error cause, last)) :
    let r := (Reconcile.run keys names).run h s
    r.value = .error (.applyFailed .secret (names.place .secret).name [] cause) ∧
      r.state = last := by
  have secret := applyOne_refused refused []
  simp only [Desired.object] at secret
  simp [Reconcile.run, valid, Dialogue.run_bind, houses.run, Reconcile.applyDesired, secret]

/-- A run ends where its ConfigMap is refused, after the Secret was written. -/
theorem run_refused_configMap
    (secret : h (.apply ((Desired.render keys names).object .secret)) start = (.ok (), between))
    (refused : h (.apply ((Desired.render keys names).object .configMap)) between =
      (.error cause, last)) :
    let r := (Reconcile.run keys names).run h s
    r.value = .error (.applyFailed .configMap (names.place .configMap).name
        [written names .secret] cause) ∧
      r.state = last := by
  have first := applyOne_run secret []
  have second := applyOne_refused refused [written names .secret]
  simp only [Desired.object] at first second
  simp [Reconcile.run, valid, Dialogue.run_bind, houses.run, Reconcile.applyDesired, first, second]

end Refused

/-- A cluster that does what two runs in sequence ask holds the key pair after the first one, and
the second one reports the same but that it created no namespace. -/
theorem Serves.twice {between' last' : σ}
    (serves : Serves h keys names missing s start between last stored)
    (again : Serves h keys names false last last between' last' stored)
    (valid : names.check = .ok ()) :
    let first := (Reconcile.run keys names).run h s
    let second := (Reconcile.run keys names).run h last
    ∃ report, EndsWell first report ∧ first.state = last ∧ Holds h keys names last ∧
      EndsWell second { report with namespaceCreated := false } ∧ second.state = last' := by
  obtain ⟨ends, state⟩ := serves.run valid
  obtain ⟨ends', state'⟩ := again.run valid
  refine ⟨_, ends, state, ⟨?_, ?_, ?_⟩, ends', state'⟩
  · rw [again.lookup]
    rfl
  · refine ⟨stored .secret, by rw [serves.reading], ?_⟩
    rw [serves.data, Desired.render_secret_contents]
  · refine ⟨stored .configMap, by rw [serves.reading], ?_⟩
    rw [serves.data, Desired.render_configMap_contents]

end Serves

end MountKeys.Reconcile
