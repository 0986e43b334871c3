import MountKeys.Command
import MountKeys.Proofs.Inspect

/-!
# The verdict of a status

A status reads up to three things, compares them with the local keys, prints what it found and exits
with a code.  The verdict is drawn twice on the way, once for the last line and once for the code,
and the two ask in different orders.  `status_verdict` says that both are exact and agree.

* `Inspection.Course` lists what an inspection can do, whoever answers.  `ReadLaw` is what all of
  that has in common: which calls there are, and which error is returned.
* `VerdictLaw` says what the two predicates of an inspection mean by what was read.  They exclude
  each other, because one needs local keys and the other none.
* `StatusLaw` says how the last line and the exit code follow from them.
-/

namespace MountKeys

namespace Inspection

/-! ## What an inspection can do -/

/-- What an inspection can do: it looks for the namespace and then reads both objects, up to the
first failure. -/
inductive Course (names : Names) (own : Option KeyPair) :
    List CallTurn → List Notice → Except ClusterError Inspection → Prop
  | lookupFailed (cause : ClusterError) :
    Course names own [⟨.namespaceExists names.ns, .error cause⟩] [] (.error cause)
  | absent :
    Course names own [⟨.namespaceExists names.ns, .ok false⟩] [.readsSkipped names.ns]
      (.ok (ofStored names own false none none))
  | secretFailed (cause : ClusterError) :
    Course names own
      [⟨.namespaceExists names.ns, .ok true⟩, ⟨.get (names.place .secret), .error cause⟩] []
      (.error cause)
  | configMapFailed (secret : Option Stored) (cause : ClusterError) :
    Course names own
      [⟨.namespaceExists names.ns, .ok true⟩, ⟨.get (names.place .secret), .ok secret⟩,
        ⟨.get (names.place .configMap), .error cause⟩] [] (.error cause)
  | read (secret configMap : Option Stored) :
    Course names own
      [⟨.namespaceExists names.ns, .ok true⟩, ⟨.get (names.place .secret), .ok secret⟩,
        ⟨.get (names.place .configMap), .ok configMap⟩] []
      (.ok (ofStored names own true secret configMap))

variable {names : Names} {own : Option KeyPair} {ts : List CallTurn} {notes : List Notice}
  {value : Except ClusterError Inspection}

/-- An inspection takes one of its courses. -/
theorem run_course (h : (run names own).Ends ts notes value) : Course names own ts notes value := by
  simp only [run, Session.namespaceExists, Session.get, Dialogue.bind_eq, Dialogue.send_bind,
    Dialogue.ask_ends] at h
  obtain ⟨answer, ts, rfl, h⟩ := h
  rcases answer with cause | _ | _
  · obtain ⟨rfl, rfl, rfl⟩ := Dialogue.done_ends.1 h
    exact .lookupFailed cause
  · obtain ⟨rfl, rfl, rfl⟩ := Dialogue.note_done_ends.1 h
    exact .absent
  · obtain ⟨answer, ts, rfl, hsecret⟩ := Dialogue.ask_ends.1 h
    cases answer with
    | error cause =>
      obtain ⟨rfl, rfl, rfl⟩ := Dialogue.done_ends.1 hsecret
      exact .secretFailed cause
    | ok secret =>
      obtain ⟨answer, ts, rfl, hconfigMap⟩ := Dialogue.ask_ends.1 hsecret
      cases answer with
      | error cause =>
        obtain ⟨rfl, rfl, rfl⟩ := Dialogue.done_ends.1 hconfigMap
        exact .configMapFailed secret cause
      | ok configMap =>
        obtain ⟨rfl, rfl, rfl⟩ := Dialogue.done_ends.1 hconfigMap
        exact .read secret configMap

/-- An inspection asks for nothing but what it reads. -/
theorem run_asks (names : Names) (own : Option KeyPair) :
    (run names own).AsksOnly fun c =>
      c = .namespaceExists names.ns ∨ ∃ kind, c = .get (names.place kind) := by
  simp only [run, Session.namespaceExists, Session.get, Dialogue.bind_eq, Dialogue.send_bind]
  refine .ask (.inl rfl) fun answer => ?_
  rcases answer with cause | _ | _
  · exact .done _
  · exact .note (.done _)
  · refine .ask (.inr ⟨.secret, rfl⟩) fun answer => ?_
    cases answer with
    | error cause => exact .done _
    | ok secret =>
      refine .ask (.inr ⟨.configMap, rfl⟩) fun answer => ?_
      cases answer <;> exact .done _

/-! ## Which calls there are -/

/-- The calls of an inspection that nothing stops. -/
def reads (names : Names) : List Call :=
  [.namespaceExists names.ns, .get (names.place .secret), .get (names.place .configMap)]

/-- What the calls of an inspection and their answers say about its outcome. -/
structure ReadLaw (names : Names) (ts : List CallTurn)
    (value : Except ClusterError Inspection) : Prop where
  /-- The calls are the first ones of three that only read, in their order. -/
  planned : ts.map Sigma.fst <+: reads names
  /-- Each call is made once at most. -/
  once : (ts.map Sigma.fst).Nodup
  /-- The namespace is always looked for. -/
  looks : .namespaceExists names.ns ∈ ts.map Sigma.fst
  /-- The Secret is read if the namespace is there. -/
  readsSecret : .get (names.place .secret) ∈ ts.map Sigma.fst ↔
    (⟨.namespaceExists names.ns, .ok true⟩ : CallTurn) ∈ ts
  /-- The ConfigMap is read if the Secret was. -/
  readsConfigMap : .get (names.place .configMap) ∈ ts.map Sigma.fst ↔
    ∃ secret, (⟨.get (names.place .secret), .ok secret⟩ : CallTurn) ∈ ts
  /-- No call is made after one that failed. -/
  stops : ∀ t ∈ ts.dropLast, ∃ result, t.2 = .ok result
  /-- The error is that of the last call. -/
  error_iff : ∀ e, value = .error e ↔ ∃ t, ts.getLast? = some t ∧ t.2 = .error e

theorem reads_nodup (names : Names) : (reads names).Nodup := by
  simp [reads, Names.place]

theorem Course.readLaw (h : Course names own ts notes value) : ReadLaw names ts value := by
  have planned : ts.map Sigma.fst <+: reads names := by
    cases h with
    | lookupFailed | absent => exact ⟨[.get _, .get _], rfl⟩
    | secretFailed => exact ⟨[.get _], rfl⟩
    | configMapFailed | read => exact ⟨[], rfl⟩
  refine ⟨planned, (reads_nodup names).sublist planned.sublist, ?_, ?_, ?_, ?_, ?_⟩
  · cases h <;> simp
  · cases h <;> simp
  · cases h <;> simp [Names.place]
  · cases h <;> simp
  · cases h <;> simp [eq_comm]

/-! ## What the verdict means -/

/-- The answers gave an object at a place, with a value for a key. -/
def Holds (ts : List CallTurn) (p : Place) (key : String) (value : Bytes) : Prop :=
  ∃ stored : Stored, (⟨.get p, .ok (some stored)⟩ : CallTurn) ∈ ts ∧
    stored.data.get? key = some value

/-- What the two predicates of an inspection say about the answers and the local keys. -/
structure VerdictLaw (names : Names) (own : Option KeyPair) (ts : List CallTurn)
    (i : Inspection) : Prop where
  ns_eq : i.ns = names.ns
  inSync_iff : i.isInSync = true ↔ ∃ keys, own = some keys ∧
    (⟨.namespaceExists names.ns, .ok true⟩ : CallTurn) ∈ ts ∧
    Holds ts (names.place .secret) privateKeyEntry keys.privateKey ∧
    Holds ts (names.place .secret) publicKeyEntry keys.publicKey ∧
    Holds ts (names.place .configMap) publicKeyEntry keys.publicKey
  existenceOnly_iff : i.isExistenceOnly = true ↔ own = none ∧
    ((∃ value, Holds ts (names.place .secret) privateKeyEntry value) ∨
      (∃ value, Holds ts (names.place .secret) publicKeyEntry value) ∨
      ∃ value, Holds ts (names.place .configMap) publicKeyEntry value)

/-- The two predicates never hold together. -/
theorem VerdictLaw.exclusive {i : Inspection} (law : VerdictLaw names own ts i)
    (inSync : i.isInSync = true) : i.isExistenceOnly = false := by
  obtain ⟨keys, given, -⟩ := law.inSync_iff.1 inSync
  refine Bool.eq_false_iff.2 fun existenceOnly => ?_
  exact nomatch given.symm.trans (law.existenceOnly_iff.1 existenceOnly).1

/-- A stored value is unchecked if there is one and no local one. -/
theorem compareKey_unchecked {stored : Option Stored} {key : String} {mine : Option Bytes} :
    compareKey stored key mine = .unchecked ↔
      mine = none ∧ ∃ value, (stored.bind fun s => s.data.get? key) = some value := by
  rw [compareKey]
  cases stored.bind fun s => s.data.get? key with
  | none => simp
  | some value =>
    cases mine with
    | none => simp
    | some mine =>
      dsimp only
      split <;> simp

section Read

variable {secret configMap : Option Stored} {key : String} {value : Bytes}

/-- What the answers hold of the Secret is what was read of it. -/
theorem holds_secret :
    Holds [⟨.namespaceExists names.ns, .ok true⟩, ⟨.get (names.place .secret), .ok secret⟩,
        ⟨.get (names.place .configMap), .ok configMap⟩] (names.place .secret) key value ↔
      (secret.bind fun s => s.data.get? key) = some value := by
  rw [Option.bind_eq_some_iff]
  simp [Holds, Names.place, eq_comm]

/-- What the answers hold of the ConfigMap is what was read of it. -/
theorem holds_configMap :
    Holds [⟨.namespaceExists names.ns, .ok true⟩, ⟨.get (names.place .secret), .ok secret⟩,
        ⟨.get (names.place .configMap), .ok configMap⟩] (names.place .configMap) key value ↔
      (configMap.bind fun s => s.data.get? key) = some value := by
  rw [Option.bind_eq_some_iff]
  simp [Holds, Names.place, eq_comm]

/-- An object with the local values at the keys that were compared is in sync. -/
theorem statusOf_some_isInSync {place : Place} {stored : Option Stored}
    {keys : List (String × Bytes)} (compared : keys ≠ []) :
    (statusOf place stored (keys.map fun k => (k.1, some k.2))).isInSync = true ↔
      ∀ k ∈ keys, (stored.bind fun s => s.data.get? k.1) = some k.2 := by
  rw [statusOf_isInSync]
  cases stored with
  | none =>
    obtain ⟨k, hk⟩ := List.exists_mem_of_ne_nil keys compared
    simpa using ⟨k.1, k.2, hk⟩
  | some s =>
    simp only [Option.some.injEq, exists_eq_left', List.forall_mem_map, Option.bind_some]

/-- An object has an unchecked value if there is no local one for a key that it holds. -/
theorem statusOf_hasUnchecked {place : Place} {stored : Option Stored}
    {keys : List (String × Option Bytes)} :
    (statusOf place stored keys).hasUnchecked = true ↔ ∃ k ∈ keys, k.2 = none ∧
      ∃ value, (stored.bind fun s => s.data.get? k.1) = some value := by
  simp [statusOf, ObjectStatus.hasUnchecked, compareKey_unchecked]

end Read

/-- The verdict of an inspection that reads what there is. -/
theorem Course.verdictLaw {i : Inspection} (h : Course names own ts notes (.ok i)) :
    VerdictLaw names own ts i := by
  generalize hvalue : (Except.ok i : Except ClusterError Inspection) = value at h
  cases h with
  | lookupFailed | secretFailed | configMapFailed => exact nomatch hvalue
  | absent =>
    cases hvalue
    refine ⟨rfl, ?_, ?_⟩
    · simp [isInSync, ofStored]
    · simp [isExistenceOnly, ofStored, statusOf, ObjectStatus.hasUnchecked, compareKey, Holds]
  | read secret configMap =>
    cases hvalue
    have inSecret := @holds_secret names secret configMap
    have inConfigMap := @holds_configMap names secret configMap
    refine ⟨rfl, ?_, ?_⟩
    · cases own with
      | none => simp [isInSync, ofStored, statusOf_isInSync]
      | some keys =>
        have both := @statusOf_some_isInSync (names.place .secret) secret
          [(privateKeyEntry, keys.privateKey), (publicKeyEntry, keys.publicKey)] (by simp)
        have one := @statusOf_some_isInSync (names.place .configMap) configMap
          [(publicKeyEntry, keys.publicKey)] (by simp)
        simp only [List.map_cons, List.map_nil, List.forall_mem_cons, List.not_mem_nil,
          false_imp_iff, implies_true, and_true] at both one
        simp [isInSync, ofStored, both, one, inSecret, inConfigMap, and_assoc]
    · cases own with
      | none =>
        simp [isExistenceOnly, ofStored, statusOf_hasUnchecked, inSecret, inConfigMap, or_assoc]
      | some keys => simp [isExistenceOnly, ofStored, statusOf_hasUnchecked]

end Inspection

/-! ## What is printed -/

/-- The last of the lines that a text consists of. -/
def lastLine (text : String) : String :=
  String.ofList ((text.toList.reverse.drop 1).takeWhile (· != '\n')).reverse

theorem printed_snoc (ls : List String) (l : String) :
    (printed (ls ++ [l])).toList = (printed ls).toList ++ l.toList ++ ['\n'] := by
  simp [printed, String.toList_join]

/-- What lines were printed ends with a line break, if there were any. -/
theorem printed_reverse (ls : List String) :
    (printed ls).toList.reverse = [] ∨ ∃ cs, (printed ls).toList.reverse = '\n' :: cs := by
  rcases List.eq_nil_or_concat ls with rfl | ⟨ls, l, rfl⟩
  · exact .inl rfl
  · rw [List.concat_eq_append, printed_snoc]
    exact .inr ⟨_, by rw [List.reverse_append]; rfl⟩

/-- The last line that is printed is the last of the lines. -/
theorem lastLine_printed (ls : List String) {l : String} (oneLine : '\n' ∉ l.toList) :
    lastLine (printed (ls ++ [l])) = l := by
  have before : (printed ls).toList.reverse.takeWhile (· != '\n') = [] := by
    rcases printed_reverse ls with none | ⟨cs, some⟩
    · rw [none]
      rfl
    · rw [some, List.takeWhile_cons_of_neg (by decide)]
  have own : ∀ c ∈ l.toList.reverse, (c != '\n') = true := by
    intro c hc
    simp only [bne_iff_ne, ne_eq]
    rintro rfl
    exact oneLine (List.mem_reverse.1 hc)
  rw [lastLine, printed_snoc, List.reverse_append, List.reverse_append]
  change String.ofList ((l.toList.reverse ++ _).takeWhile _).reverse = l
  rw [List.takeWhile_append_of_pos own, before, List.append_nil, List.reverse_reverse,
    String.ofList_toList]

namespace Command

/-! ## The last line and the exit code -/

/-- Why a status fails that had nothing to compare with. -/
def notCompared (ns : String) : Failure :=
  .plain ("Local key files not found; could not compare the cluster contents " ++
    s!"in namespace '{ns}'")

/-- Why a status fails that found something missing or different. -/
def notInSync (ns : String) : Failure :=
  .plain (s!"SSH key resources in namespace '{ns}' are missing or out of " ++
    "date. Run 'sshfs-keysync apply' to fix.")

/-- How the last line and the exit code of a status go with its inspection and with each other. -/
structure StatusLaw (i : Inspection) (o : Outcome) : Prop where
  exit_iff : o.exitCode = 0 ↔ i.isInSync = true
  inSync_iff : lastLine o.stdout = "✅ In sync" ↔ o.exitCode = 0
  existenceOnly_iff : lastLine o.stdout =
      "⚠️  Existence only: local key files not found, contents not compared" ↔
    o = .failure o.stdout (notCompared i.ns)
  outOfSync_iff : lastLine o.stdout = "✗ Out of sync" ↔ o = .failure o.stdout (notInSync i.ns)

/-- The two failures are told apart by what is printed about them. -/
theorem notCompared_text_ne (ns : String) : (notCompared ns).text ≠ (notInSync ns).text := by
  intro h
  have starts := congrArg (fun text : String => text.toList.take 8) h
  simp [Failure.text, notCompared, notInSync, Failure.plain, toString] at starts

/-- A verdict is one line. -/
theorem verdictLine_oneLine (i : Inspection) : '\n' ∉ (verdictLine i).toList := by
  rw [verdictLine]
  split
  · decide
  split <;> decide

/-- The last line of a status is the verdict. -/
theorem lastLine_statusLines (i : Inspection) :
    lastLine (printed (statusLines i)) = verdictLine i := by
  have ends (l : List String) : l ++ ["", verdictLine i] = (l ++ [""]) ++ [verdictLine i] := by simp
  rw [statusLines, ends, lastLine_printed _ (verdictLine_oneLine i)]

/-- The outcome of a status obeys the law, because its inspection has at most one of the two
properties. -/
theorem statusLaw {i : Inspection} (exclusive : i.isInSync = true → i.isExistenceOnly = false) :
    StatusLaw i (statusOutcome i) := by
  have line := lastLine_statusLines i
  have different := notCompared_text_ne i.ns
  cases inSync : i.isInSync with
  | true =>
    have ends : statusOutcome i = .success (printed (statusLines i)) := by
      simp [statusOutcome, inSync, exclusive inSync]
    rw [verdictLine, inSync, if_pos rfl] at line
    rw [ends]
    constructor <;> simp [Outcome.success, Outcome.failure, line, inSync]
  | false =>
    cases existenceOnly : i.isExistenceOnly with
    | true =>
      have ends : statusOutcome i = .failure (printed (statusLines i)) (notCompared i.ns) := by
        simp [statusOutcome, existenceOnly, notCompared]
      rw [verdictLine, inSync, existenceOnly, if_neg Bool.false_ne_true, if_pos rfl] at line
      rw [ends]
      constructor <;> simp [Outcome.failure, line, inSync, different]
    | false =>
      have ends : statusOutcome i = .failure (printed (statusLines i)) (notInSync i.ns) := by
        simp [statusOutcome, existenceOnly, inSync, notInSync]
      rw [verdictLine, inSync, existenceOnly, if_neg Bool.false_ne_true,
        if_neg Bool.false_ne_true] at line
      rw [ends]
      constructor <;> simp [Outcome.failure, line, inSync, different.symm]

/-! ## A whole status -/

/-- What comes of an inspection that came to an end or failed. -/
def statusEnd : Except ClusterError Inspection → Outcome
  | .error e => .failure "" (.plain e.message)
  | .ok i => statusOutcome i

/-- With good names and a cluster to talk to, a status is an inspection against the keys that could
be loaded, after something was logged about them. -/
theorem runStatus_eq {task : Task} {config : Kubeconfig} (valid : task.names.check = .ok ())
    (connects : config.connect task.context = .ok ()) (files : Files) :
    ∃ notices, runStatus task files config = (Dialogue.logAll notices).bind fun _ =>
      (Inspection.run task.names ((task.keyFiles.load files).toOption.map Prod.fst)).bind fun r =>
        .done (statusEnd r) := by
  rw [runStatus, valid]
  cases loaded : task.keyFiles.load files with
  | error e =>
    simp only [connects]
    refine ⟨[.comparisonSkipped e], congrArg (Dialogue.bind _) (funext fun _ => ?_)⟩
    refine congrArg (Dialogue.bind _) (funext fun r => ?_)
    cases r <;> rfl
  | ok pair =>
    obtain ⟨keys, notices⟩ := pair
    simp only [connects]
    refine ⟨notices, congrArg (Dialogue.bind _) (funext fun _ => ?_)⟩
    refine congrArg (Dialogue.bind _) (funext fun r => ?_)
    cases r <;> rfl

/-- A status that is put to an API server sends no requests but to get something. -/
theorem session_runStatus_asks {task : Task} {config : Kubeconfig}
    (valid : task.names.check = .ok ()) (connects : config.connect task.context = .ok ())
    (files : Files) :
    (Client.session (runStatus task files config)).AsksOnly fun q => q.method = .get := by
  obtain ⟨notices, told⟩ := runStatus_eq valid connects files
  rw [told]
  have reads := Dialogue.AsksOnly.bind (Inspection.run_asks task.names
    ((task.keyFiles.load files).toOption.map Prod.fst)) fun r => .done (statusEnd r)
  refine ((Dialogue.logAll_asks notices).bind fun _ => reads).expand ?_
  rintro c (rfl | ⟨kind, rfl⟩)
  · exact Client.namespaceExists_asks (fun _ => rfl) task.names.ns
  · exact Client.get_asks (fun _ => rfl) _

/-- With good names and a cluster to talk to, whatever the cluster answers and whatever came of
loading the local keys: a status makes the calls of an inspection, which only read, and returns its
first error.  Where there is none, the verdict is exact, and the last line and the exit code go with
it and with each other. -/
theorem status_verdict {task : Task} {config : Kubeconfig} (valid : task.names.check = .ok ())
    (connects : config.connect task.context = .ok ()) (files : Files) {σ : Type}
    (h : Handler Call Call.Answer σ) (s : σ) :
    let own := (task.keyFiles.load files).toOption.map Prod.fst
    let inspection := Inspection.run task.names own
    let ts := inspection.turns h s
    let r := inspection.run h s
    let status := (runStatus task files config).run h s
    (r.asked = ts.map Sigma.fst ∧ h.Gives s ts r.state ∧ status.asked = r.asked ∧
      status.state = r.state) ∧
    Inspection.ReadLaw task.names ts r.value ∧
    (∀ (τ : Type) (server : Handler Request (fun _ => Reply) τ) (t : τ),
      ∀ q ∈ ((Client.session (runStatus task files config)).run server t).asked,
        q.method = .get) ∧
    match r.value with
    | .error e => status.value = .failure "" (.plain e.message)
    | .ok i => Inspection.VerdictLaw task.names own ts i ∧
      ¬(i.isInSync = true ∧ i.isExistenceOnly = true) ∧ StatusLaw i status.value := by
  intro own inspection ts r status
  have course := Inspection.run_course (Dialogue.run_ends h inspection s)
  have told : status.asked = r.asked ∧ status.state = r.state ∧
      status.value = statusEnd r.value := by
    obtain ⟨notices, same⟩ := runStatus_eq valid connects files
    simp only [status, same, Dialogue.run_bind, Dialogue.run_logAll, Dialogue.run_done,
      List.append_nil, List.nil_append]
    exact ⟨rfl, rfl, rfl⟩
  refine ⟨⟨Dialogue.run_asked h inspection s, Handler.run_gives h inspection s, told.1, told.2.1⟩,
    course.readLaw, ?_, ?_⟩
  · intro τ server t q hq
    rw [Dialogue.run_asked] at hq
    obtain ⟨turn, hturn, rfl⟩ := List.mem_map.1 hq
    exact (session_runStatus_asks valid connects files).of_leads
      (Dialogue.run_ends server _ t) turn hturn
  · rw [told.2.2]
    change match r.value with | .error e => _ | .ok i => _
    have course : Inspection.Course task.names own ts r.notices r.value := course
    generalize r.value = value at course
    cases value with
    | error e => exact rfl
    | ok i =>
      have law := course.verdictLaw
      refine ⟨law, fun both => ?_, statusLaw law.exclusive⟩
      exact nomatch (law.exclusive both.1).symm.trans both.2

/-! ## A status with nothing amiss -/

/-- A status with the standard names. -/
def heldTask : Task :=
  ⟨.standard, ⟨.ofText "key", .ofText "key.pub"⟩, none⟩

/-- The files of the key pair that the cluster holds. -/
def heldFiles : Files := fun path =>
  if path = .ofText "key" then .ok ⟨0o600, Inspection.heldPair.privateKey⟩
  else .ok ⟨0o600, Inspection.heldPair.publicKey⟩

/-- Against the cluster that holds the pair and one entry more, the status ends well and says so. -/
theorem status_verdict_held :
    heldTask.names.check = .ok () ∧
      Kubeconfig.connect (.contexts []) heldTask.context = .ok () ∧
      let status := (runStatus heldTask heldFiles (.contexts [])).run Store.answer
        Inspection.overfull
      status.state = Inspection.overfull ∧ status.value.exitCode = 0 ∧
        lastLine status.value.stdout = "✅ In sync" := by
  have valid : heldTask.names.check = .ok () := by decide +kernel
  have connects : Kubeconfig.connect (.contexts []) heldTask.context = .ok () := rfl
  have own : (heldTask.keyFiles.load heldFiles).toOption.map Prod.fst =
      some Inspection.heldPair := by decide +kernel
  have key := status_verdict valid connects heldFiles Store.answer Inspection.overfull
  obtain ⟨i, found, inSync⟩ := Inspection.overfull_inSync
  change ((Inspection.run heldTask.names _).run Store.answer Inspection.overfull).value = _ at found
  dsimp only at key
  rw [own, found] at key
  obtain ⟨⟨-, -, -, state⟩, -, -, -, -, law⟩ := key
  have unchanged := (Inspection.memory_reads Inspection.overfull .standard).run
    (some Inspection.heldPair)
  have fine := law.exit_iff.2 inSync
  exact ⟨valid, connects, state.trans unchanged.2, fine, law.inSync_iff.2 fine⟩

end Command

end MountKeys
