import MountKeys.Proofs.Reconcile.Course

/-!
# What a run gives away of the private key

Two runs for key pairs that differ in the private key only are looked at side by side, against
platforms that give the same answers.  `private_key_unseen` says that one cannot tell them apart
by what they call, report or log, but for one warning: a run warns if the Secret that it reads back
is not what it wrote, and so it says whether the platform gave back the private key.

* `Manifest.redacted` leaves the private key out.  `AnswersAlike` says that calls which are the same
  without it were answered in the same way.
* `Twin` relates two dialogues that agree but for that.  It is closed under what a run is made of,
  and `Twin.unseen` carries it over from the dialogues to whole runs of them.
* `twin_run` goes through the parts of a run: the private key is in the Secret that is applied, and
  in the map that it is compared with.
-/

namespace MountKeys

/-! ## Without the private key -/

/-- The manifest without the private key. -/
def Manifest.redacted : Manifest → Manifest
  | .secret s => .secret { s with data := s.data.map fun m => m.erase privateKeyEntry }
  | .configMap c => .configMap c

/-- The call without the private key. -/
def Call.redacted : Call → Call
  | .apply m => .apply m.redacted
  | c => c

/-- The turn without the private key in its call. -/
def CallTurn.redacted : CallTurn → CallTurn
  | ⟨.apply m, answer⟩ => ⟨.apply m.redacted, answer⟩
  | t => t

/-- Of two lists of turns, the calls that stand at the same position and are the same without the
private key were answered in the same way. -/
def AnswersAlike (ts ts' : List CallTurn) : Prop :=
  ∀ p ∈ ts.zip ts', p.1.1.redacted = p.2.1.redacted →
    CallTurn.redacted p.1 = CallTurn.redacted p.2

/-- Whether it is the warning that the Secret is not what was applied. -/
def Notice.warnsOfSecret : Notice → Bool
  | .drifted .secret _ _ _ => true
  | _ => false

theorem CallTurn.redacted_fst (t : CallTurn) : (CallTurn.redacted t).1 = t.1.redacted := by
  obtain ⟨c, answer⟩ := t
  cases c <;> rfl

/-- The same call with the same answer, but for the private key, was answered in the same way. -/
theorem CallTurn.redacted_inj {c : Call} {answer answer' : c.Answer}
    (h : CallTurn.redacted ⟨c, answer⟩ = CallTurn.redacted ⟨c, answer'⟩) : answer = answer' := by
  cases c <;> simpa [CallTurn.redacted] using h

/-- Two calls that are the same without the private key are the same, or both apply something. -/
theorem Call.redacted_eq {c c' : Call} (h : c.redacted = c'.redacted) :
    c = c' ∨ ∃ m m', c = .apply m ∧ c' = .apply m' ∧ m.redacted = m'.redacted := by
  cases c <;> cases c' <;> simp_all [Call.redacted]

theorem answersAlike_cons {t t' : CallTurn} {ts ts' : List CallTurn} :
    AnswersAlike (t :: ts) (t' :: ts') ↔
      (t.1.redacted = t'.1.redacted → CallTurn.redacted t = CallTurn.redacted t') ∧
        AnswersAlike ts ts' := by
  rw [AnswersAlike, List.zip_cons_cons, List.forall_mem_cons, AnswersAlike]

/-- What is rendered is the same for two key pairs that differ in the private key only, once that
is left out. -/
theorem Desired.render_redacted {keys keys' : KeyPair} (same : keys.publicKey = keys'.publicKey)
    (names : Names) (kind : Kind) :
    ((render keys names).object kind).redacted = ((render keys' names).object kind).redacted := by
  cases kind with
  | secret =>
    have entries : ((SortedMap.ofList [(privateKeyEntry, keys.privateKey),
          (publicKeyEntry, keys.publicKey)]).erase privateKeyEntry : ByteMap) =
        (SortedMap.ofList [(privateKeyEntry, keys'.privateKey),
          (publicKeyEntry, keys'.publicKey)]).erase privateKeyEntry := by
      refine SortedMap.ext fun k => ?_
      rw [SortedMap.get?_erase, SortedMap.get?_erase]
      split
      next => rfl
      next other => simp [SortedMap.ofList, SortedMap.get?_insert, other, same]
    simp only [object, render, secretOf, Manifest.redacted, Option.map_some, entries]
  | configMap =>
    simp only [object, render, configMapOf, same]

theorem Desired.render_configMap {keys keys' : KeyPair} (same : keys.publicKey = keys'.publicKey)
    (names : Names) : (render keys names).configMap = (render keys' names).configMap := by
  simp only [render, configMapOf, same]

/-- Two lists of notices are the same but for one warning that the Secret is not what was applied,
which either may have at the same point. -/
def SameButWarning (notes notes' : List Notice) : Prop :=
  ∃ before after warning warned warned',
    notes = before ++ warned ++ after ∧ notes' = before ++ warned' ++ after ∧
      (warned = [] ∨ warned = [warning]) ∧ (warned' = [] ∨ warned' = [warning]) ∧
      warning.warnsOfSecret = true ∧ ∀ n ∈ before ++ after, n.warnsOfSecret = false

/-- Lists without the warning are the same but for it if they are the same. -/
theorem SameButWarning.refl {notes : List Notice} (quiet : ∀ n ∈ notes, n.warnsOfSecret = false) :
    SameButWarning notes notes :=
  ⟨notes, [], .drifted .secret "" "" [], [], [], by simp, by simp, .inl rfl, .inl rfl, rfl,
    by simpa using quiet⟩

theorem SameButWarning.cons {n : Notice} {notes notes' : List Notice}
    (quiet : n.warnsOfSecret = false) (h : SameButWarning notes notes') :
    SameButWarning (n :: notes) (n :: notes') := by
  obtain ⟨before, after, warning, warned, warned', rfl, rfl, one, one', telling, rest⟩ := h
  exact ⟨n :: before, after, warning, warned, warned', rfl, rfl, one, one', telling,
    List.forall_mem_cons.2 ⟨quiet, rest⟩⟩

/-- The description of a key pair is about the public key. -/
theorem KeyPair.describe_congr {keys keys' : KeyPair} (same : keys.publicKey = keys'.publicKey) :
    keys.describe = keys'.describe := by
  unfold describe
  rw [same]

/-- The description of what is rendered is about the names. -/
theorem Desired.describe_congr {keys keys' : KeyPair} (same : keys.publicKey = keys'.publicKey)
    (names : Names) : (render keys names).describe = (render keys' names).describe := by
  have secret : (render keys names).secret.metadata = (render keys' names).secret.metadata := rfl
  unfold describe
  rw [secret, render_configMap same names]

namespace Reconcile

/-! ## Dialogues that agree -/

/-- A dialogue that does not give the warning. -/
def Quiet {α : Type} (d : Session α) : Prop :=
  d.LogsOnly fun n => n.warnsOfSecret = false

/-- Two dialogues that agree but for the private key in what they apply, and for one warning that
the Secret is another, which each of them may give at the same point. -/
inductive Twin {α : Type} : Session α → Session α → Prop
  | same {d : Session α} (quiet : Quiet d) : Twin d d
  | note {n : Notice} {d d' : Session α} (quiet : n.warnsOfSecret = false) :
    Twin d d' → Twin (.note n d) (.note n d')
  | ask {c : Call} {next next' : c.Answer → Session α} :
    (∀ answer, Twin (next answer) (next' answer)) → Twin (.ask c next) (.ask c next')
  | apply {m m' : Manifest} {next next' : Except ClusterError Unit → Session α}
    (redacted : m.redacted = m'.redacted) :
    (∀ answer, Twin (next answer) (next' answer)) →
      Twin (.ask (.apply m) next) (.ask (.apply m') next')
  | warned {warned warned' : List Notice} {warning : Notice} {d : Session α}
    (telling : warning.warnsOfSecret = true) (one : warned = [] ∨ warned = [warning])
    (one' : warned' = [] ∨ warned' = [warning]) (quiet : Quiet d) :
    Twin ((Dialogue.logAll warned).bind fun _ => d) ((Dialogue.logAll warned').bind fun _ => d)

/-- What two runs have in common that cannot be told apart. -/
structure Unseen {α : Type} (ts ts' : List CallTurn) (notes notes' : List Notice) (v v' : α) :
    Prop where
  /-- The calls and their answers are the same but for the private key in what is applied. -/
  turns : ts.map CallTurn.redacted = ts'.map CallTurn.redacted
  value : v = v'
  notices : SameButWarning notes notes'

theorem logAll_bind_ends {α : Type} {ns notes : List Notice} {d : Session α} {ts : List CallTurn}
    {v : α} : ((Dialogue.logAll ns).bind fun _ => d).Ends ts notes v ↔
      ∃ rest, notes = ns ++ rest ∧ d.Ends ts rest v := by
  induction ns generalizing notes with
  | nil => simp [Dialogue.logAll]
  | cons n ns ih =>
    change (Dialogue.note n ((Dialogue.logAll ns).bind fun _ => d)).Ends ts notes v ↔ _
    rw [Dialogue.note_ends]
    simp only [ih]
    constructor
    · rintro ⟨_, rfl, rest, rfl, h⟩
      exact ⟨rest, rfl, h⟩
    · rintro ⟨rest, rfl, h⟩
      exact ⟨_, rfl, rest, rfl, h⟩

section Ends

variable {α : Type} {ts ts' : List CallTurn} {notes notes' : List Notice} {v v' : α}

/-- One dialogue with the same answers ends in the same way. -/
theorem ends_alike {d : Session α} (ends : d.Ends ts notes v) (ends' : d.Ends ts' notes' v')
    (alike : AnswersAlike ts ts') : ts = ts' ∧ notes = notes' ∧ v = v' := by
  induction d generalizing ts ts' notes notes' with
  | done a =>
    obtain ⟨rfl, rfl, rfl⟩ := Dialogue.done_ends.1 ends
    obtain ⟨rfl, rfl, rfl⟩ := Dialogue.done_ends.1 ends'
    exact ⟨rfl, rfl, rfl⟩
  | note n next ih =>
    obtain ⟨notes, rfl, left⟩ := Dialogue.note_ends.1 ends
    obtain ⟨notes', rfl, left'⟩ := Dialogue.note_ends.1 ends'
    obtain ⟨rfl, rfl, rfl⟩ := ih left left' alike
    exact ⟨rfl, rfl, rfl⟩
  | ask c next ih =>
    obtain ⟨answer, ts, rfl, left⟩ := Dialogue.ask_ends.1 ends
    obtain ⟨answer', ts', rfl, left'⟩ := Dialogue.ask_ends.1 ends'
    obtain ⟨first, rest⟩ := answersAlike_cons.1 alike
    obtain rfl := CallTurn.redacted_inj (first rfl)
    obtain ⟨rfl, rfl, rfl⟩ := ih answer left left' rest
    exact ⟨rfl, rfl, rfl⟩

/-- Two dialogues that agree cannot be told apart by how they end with the same answers. -/
theorem Twin.unseen {d d' : Session α} (twin : Twin d d') (ends : d.Ends ts notes v)
    (ends' : d'.Ends ts' notes' v') (alike : AnswersAlike ts ts') :
    Unseen ts ts' notes notes' v v' := by
  induction twin generalizing ts ts' notes notes' with
  | same quiet =>
    obtain ⟨rfl, rfl, rfl⟩ := ends_alike ends ends' alike
    exact ⟨rfl, rfl, .refl (quiet.of_leads ends)⟩
  | note quiet _ ih =>
    obtain ⟨notes, rfl, left⟩ := Dialogue.note_ends.1 ends
    obtain ⟨notes', rfl, left'⟩ := Dialogue.note_ends.1 ends'
    have rest := ih left left' alike
    exact ⟨rest.turns, rest.value, rest.notices.cons quiet⟩
  | ask _ ih =>
    obtain ⟨answer, ts, rfl, left⟩ := Dialogue.ask_ends.1 ends
    obtain ⟨answer', ts', rfl, left'⟩ := Dialogue.ask_ends.1 ends'
    obtain ⟨first, others⟩ := answersAlike_cons.1 alike
    obtain rfl := CallTurn.redacted_inj (first rfl)
    have rest := ih answer left left' others
    refine ⟨?_, rest.value, rest.notices⟩
    rw [List.map_cons, List.map_cons, rest.turns]
  | @apply m m' next next' redacted _ ih =>
    obtain ⟨answer, ts, rfl, left⟩ := Dialogue.ask_ends.1 ends
    obtain ⟨answer', ts', rfl, left'⟩ := Dialogue.ask_ends.1 ends'
    obtain ⟨first, others⟩ := answersAlike_cons.1 alike
    have first := first (congrArg Call.apply redacted)
    have answered : answer = answer' := by
      simpa [CallTurn.redacted, redacted] using first
    subst answered
    have rest := ih answer left left' others
    refine ⟨?_, rest.value, rest.notices⟩
    rw [List.map_cons, List.map_cons, rest.turns, first]
  | warned telling one one' quiet =>
    obtain ⟨rest, rfl, left⟩ := logAll_bind_ends.1 ends
    obtain ⟨rest', rfl, left'⟩ := logAll_bind_ends.1 ends'
    obtain ⟨rfl, rfl, rfl⟩ := ends_alike left left' alike
    exact ⟨rfl, rfl, [], rest, _, _, _, rfl, rfl, one, one', telling, quiet.of_leads left⟩

end Ends

/-! ## What agreement is closed under -/

section Binds

variable {α β : Type} {d d' : Session α} {f f' : α → Session β}

/-- What comes after a dialogue agrees if it agrees for every value. -/
theorem Twin.bind_left (quiet : Quiet d) (h : ∀ a, Twin (f a) (f' a)) :
    Twin (d.bind f) (d.bind f') := by
  induction quiet with
  | done a => exact h a
  | note hn _ ih => exact .note hn ih
  | ask _ ih => exact .ask ih

/-- Dialogues that agree still do if the same one comes after both. -/
theorem Twin.bind_right (h : Twin d d') (quiet : ∀ a, Quiet (f a)) :
    Twin (d.bind f) (d'.bind f) := by
  induction h with
  | same here => exact .same (here.bind quiet)
  | note hn _ ih => exact .note hn ih
  | ask _ ih => exact .ask ih
  | apply redacted _ ih => exact .apply redacted ih
  | warned telling one one' here =>
    rw [Dialogue.bind_assoc, Dialogue.bind_assoc]
    exact .warned telling one one' (here.bind quiet)

end Binds

/-! ## The parts of a run -/

theorem keyNotice_quiet (fingerprint : Option String) :
    (keyNotice fingerprint).warnsOfSecret = false := by
  cases fingerprint <;> rfl

theorem ensureNamespace_quiet (ns : String) : Quiet (ensureNamespace ns) := by
  refine .ask fun answer => ?_
  match answer with
  | .error cause => exact .done _
  | .ok true => exact .note rfl (.done _)
  | .ok false =>
    refine .ask fun answer => ?_
    cases answer with
    | ok made => exact .note rfl (.done _)
    | error cause =>
      simp only [Dialogue.bind_eq, Dialogue.done_bind]
      split <;> exact .note rfl (.done _)

theorem readBack_quiet (kind : Kind) (names : Names) (applied : List Applied) :
    Quiet (readBack kind names applied) := by
  refine .ask fun answer => ?_
  match answer with
  | .error cause => exact .note rfl (.done _)
  | .ok none => exact .note rfl (.done _)
  | .ok (some stored) => exact .note rfl (.done _)

/-- A warning about a ConfigMap is not the one. -/
theorem warnOnDrift_quiet (stored : Stored) (expected : ByteMap) :
    Quiet (warnOnDrift .configMap stored expected) := by
  rw [warnOnDrift]
  split
  · exact .done _
  · exact .note rfl (.done _)

/-- To compare a Secret with other keys is to warn or not. -/
theorem twin_warnOnDrift (stored : Stored) (expected expected' : ByteMap) {α : Type}
    {d : Session α} (quiet : Quiet d) :
    Twin ((warnOnDrift .secret stored expected).bind fun _ => d)
      ((warnOnDrift .secret stored expected').bind fun _ => d) := by
  have one (expected : ByteMap) : driftNotices .secret stored expected = [] ∨
      driftNotices .secret stored expected =
        [.drifted .secret stored.ns stored.name stored.data.keys] := by
    rw [driftNotices]
    split
    · exact .inl rfl
    · exact .inr rfl
  rw [warnOnDrift_eq, warnOnDrift_eq]
  exact .warned rfl (one expected) (one expected') quiet

section Parts

variable {keys keys' : KeyPair} (same : keys.publicKey = keys'.publicKey) (names : Names)

/-- To apply two manifests that are the same without the private key is not told apart, if what
comes after it is not. -/
theorem twin_applyOne {m m' : Manifest} (redacted : m.redacted = m'.redacted)
    (before : List Applied) {α : Type} {f f' : Except RunError (List Applied) → Session α}
    (h : ∀ r, Twin (f r) (f' r)) :
    Twin ((applyOne m before).bind f) ((applyOne m' before).bind f') := by
  have named (m : Manifest) : appliedOf m.redacted = appliedOf m := by cases m <;> rfl
  have told : appliedOf m = appliedOf m' := by rw [← named m, redacted, named m']
  simp only [applyOne, told]
  refine .apply redacted fun answer => ?_
  cases answer with
  | error cause => exact .note rfl (h _)
  | ok done => exact .note rfl (h _)

include same

theorem twin_applyDesired {α : Type} {f f' : Except RunError (List Applied) → Session α}
    (h : ∀ r, Twin (f r) (f' r)) :
    Twin ((applyDesired (Desired.render keys names)).bind f)
      ((applyDesired (Desired.render keys' names)).bind f') := by
  simp only [applyDesired, Dialogue.bind_eq, Dialogue.bind_assoc]
  refine twin_applyOne (Desired.render_redacted same names .secret) [] fun r => ?_
  cases r with
  | error e => exact h _
  | ok applied =>
    exact twin_applyOne (Desired.render_redacted same names .configMap) applied h

/-- To read both objects back is not told apart but for the warning. -/
theorem twin_verify (applied : List Applied) :
    Twin (verify names (Desired.render keys names) applied)
      (verify names (Desired.render keys' names) applied) := by
  simp only [verify, Dialogue.bind_eq, Desired.render_configMap same names]
  refine .bind_left (readBack_quiet .secret names applied) fun r => ?_
  cases r with
  | error e => exact .same (.done _)
  | ok secret =>
    refine twin_warnOnDrift secret _ _ ((readBack_quiet .configMap names applied).bind fun r => ?_)
    cases r with
    | error e => exact .done _
    | ok configMap => exact (warnOnDrift_quiet configMap _).bind fun _ => .done _

/-- Two runs for key pairs that differ in the private key agree but for the warning. -/
theorem twin_run : Twin (run keys names) (run keys' names) := by
  have fingerprint : keys.fingerprint? = keys'.fingerprint? := by
    rw [KeyPair.fingerprint?, KeyPair.fingerprint?, same]
  rw [run, run]
  split
  next => exact .same (.done _)
  next =>
    simp only [fingerprint, Dialogue.bind_eq, Dialogue.log_bind]
    refine .note (keyNotice_quiet _) (.bind_left (ensureNamespace_quiet names.ns) fun r => ?_)
    cases r with
    | error e => exact .same (.done _)
    | ok created =>
      refine twin_applyDesired same names fun r => ?_
      cases r with
      | error e => exact .same (.done _)
      | ok applied =>
        refine (twin_verify same names applied).bind_right fun r => ?_
        cases r with
        | error e => exact .done _
        | ok found => exact .note rfl (.done _)

end Parts

/-! ## Two runs -/

/-- Two runs for key pairs that differ in the private key only, against platforms that answer alike,
cannot be told apart by their calls, their outcome and what they log, but for the one warning that
the Secret is not what was applied.  Nor can the key pairs and the objects be by their
descriptions. -/
theorem private_key_unseen {σ τ : Type} (h : Handler Call Call.Answer σ)
    (h' : Handler Call Call.Answer τ) (s : σ) (t : τ) {keys keys' : KeyPair}
    (same : keys.publicKey = keys'.publicKey) (names : Names)
    (alike : AnswersAlike ((run keys names).turns h s) ((run keys' names).turns h' t)) :
    let r := (run keys names).run h s
    let r' := (run keys' names).run h' t
    r.asked.map Call.redacted = r'.asked.map Call.redacted ∧ r.value = r'.value ∧
      SameButWarning r.notices r'.notices ∧ keys.describe = keys'.describe ∧
      (Desired.render keys names).describe = (Desired.render keys' names).describe := by
  intro r r'
  have unseen := (twin_run same names).unseen (Dialogue.run_ends h (run keys names) s)
    (Dialogue.run_ends h' (run keys' names) t) alike
  have calls (ts : List CallTurn) : (ts.map Sigma.fst).map Call.redacted =
      (ts.map CallTurn.redacted).map Sigma.fst := by
    rw [List.map_map, List.map_map]
    exact List.map_congr_left fun t _ => (CallTurn.redacted_fst t).symm
  refine ⟨?_, unseen.value, unseen.notices, ?_, ?_⟩
  · rw [Dialogue.run_asked, Dialogue.run_asked, calls, calls, unseen.turns]
  · exact KeyPair.describe_congr same
  · exact Desired.describe_congr same names

/-! ## A platform that gives back one key pair -/

/-- A platform without a memory that does not look at the private key gives the same answers. -/
theorem answersAlike_of_blind {h : Handler Call Call.Answer Unit}
    (blind : ∀ m m' : Manifest, (h (.apply m) ()).1 = (h (.apply m') ()).1) {ts ts' : List CallTurn}
    (gives : h.Gives () ts ()) (gives' : h.Gives () ts' ()) : AnswersAlike ts ts' := by
  have own {ts : List CallTurn} (gives : h.Gives () ts ()) : ∀ t ∈ ts, t.2 = (h t.1 ()).1 := by
    induction ts with
    | nil => exact fun _ h => nomatch h
    | cons t rest ih =>
      obtain ⟨answer, gives⟩ := gives
      exact List.forall_mem_cons.2 ⟨answer, ih gives⟩
  rintro ⟨⟨c, answer⟩, ⟨c', answer'⟩⟩ hp redacted
  obtain ⟨here, here'⟩ := List.of_mem_zip hp
  obtain rfl : answer = (h c ()).1 := own gives _ here
  obtain rfl : answer' = (h c' ()).1 := own gives' _ here'
  dsimp only at redacted ⊢
  rcases Call.redacted_eq redacted with rfl | ⟨m, m', rfl, rfl, same⟩
  · rfl
  · rw [CallTurn.redacted, CallTurn.redacted, same, blind m m']

/-- A platform that takes everything and gives back the objects of one key pair. -/
def fixedPlatform (keys : KeyPair) : Handler Call Call.Answer Unit
  | .namespaceExists _, () => (.ok true, ())
  | .createNamespace _, () => (.ok (), ())
  | .apply _, () => (.ok (), ())
  | .get p, () =>
    (.ok (some ⟨p.name, p.ns, ((Desired.render keys .standard).object p.kind).contents, none⟩), ())

/-- Two private keys that are told apart by the warning, and by nothing else. -/
theorem private_key_unseen_fixed :
    let keys : KeyPair := ⟨[1], [2]⟩
    let keys' : KeyPair := ⟨[3], [2]⟩
    let r := (run keys .standard).run (fixedPlatform keys) ()
    let r' := (run keys' .standard).run (fixedPlatform keys) ()
    keys.publicKey = keys'.publicKey ∧
      AnswersAlike ((run keys .standard).turns (fixedPlatform keys) ())
        ((run keys' .standard).turns (fixedPlatform keys) ()) ∧
      r.value = r'.value ∧ SameButWarning r.notices r'.notices ∧ r.notices ≠ r'.notices := by
  intro keys keys' r r'
  have alike := answersAlike_of_blind (fun _ _ => rfl)
    (Handler.run_gives (fixedPlatform keys) (run keys .standard) ())
    (Handler.run_gives (fixedPlatform keys) (run keys' .standard) ())
  have unseen := @private_key_unseen _ _ (fixedPlatform keys) (fixedPlatform keys) () () keys keys'
    rfl .standard alike
  exact ⟨rfl, alike, unseen.2.1, unseen.2.2.1, by decide +kernel⟩

end Reconcile

end MountKeys
