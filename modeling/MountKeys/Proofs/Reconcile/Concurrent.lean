import MountKeys.Proofs.Pool
import MountKeys.Proofs.Reconcile.Effects

/-!
# Runs side by side

Several runs with the same names write the same two objects, and nothing keeps the Secret of one run
and the ConfigMap of another from standing side by side.  This module shows that it does not go
unnoticed: `torn_pair_is_noticed`.

All runs write the Secret before the ConfigMap and read both after that.  So after the last write of
a ConfigMap no run has anything left to do but to read (`reads_after`), and the run that wrote last
still has both of its readings before it (`last_writer_reads`).  What is read there is what the
cluster holds in the end (`Store.gives_reads`, `last_writer_finds`).
-/

namespace MountKeys

/-- Whether a notice warns that an object of a kind is not as it was written. -/
def Notice.warnsOfDrift (kind : Kind) : Notice → Bool
  | .drifted k _ _ _ => k == kind
  | _ => false

/-- Whether a call writes an object of a kind. -/
def Call.writes (kind : Kind) : Call → Bool
  | .apply m => m.kind == kind
  | _ => false

/-! ## The last of the writes -/

namespace Pool

variable {ι α σ : Type}

/-- The report of a run that has ended well. -/
def report? (i : ι) (p : Pool ι Call Call.Answer (Except RunError Report) σ) : Option Report :=
  match p.rest i with
  | .done (.ok report) => some report
  | _ => none

/-- The dialogue that was the last to write an object of a kind. -/
def lastWriter (kind : Kind) (p : Pool ι Call Call.Answer α σ) : Option ι :=
  (p.turns.reverse.find? fun t => t.2.1.writes kind).map Prod.fst

/-- Whether a dialogue has warned that an object of a kind is not as it was written. -/
def warned (kind : Kind) (i : ι) (p : Pool ι Call Call.Answer α σ) : Prop :=
  (p.notices i).any (Notice.warnsOfDrift kind) = true

/-- The turns before and after the last write of an object of a kind. -/
theorem exists_last_write (kind : Kind) {p : Pool ι Call Call.Answer α σ} {i : ι} {t : CallTurn}
    (write : (i, t) ∈ p.turns) (writes : t.1.writes kind = true) :
    ∃ before j u after, p.turns = before ++ (j, u) :: after ∧ u.1.writes kind = true ∧
      (∀ v ∈ after, v.2.1.writes kind = false) ∧ p.lastWriter kind = some j := by
  have found : (p.turns.reverse.find? fun t => t.2.1.writes kind).isSome :=
    List.find?_isSome.2 ⟨(i, t), List.mem_reverse.2 write, writes⟩
  obtain ⟨⟨j, u⟩, hfound⟩ := Option.isSome_iff_exists.1 found
  obtain ⟨hwrites, after, before, split, none⟩ := List.find?_eq_some_iff_append.1 hfound
  refine ⟨before.reverse, j, u, after.reverse, ?_, hwrites, fun v hv => ?_, ?_⟩
  · rw [← List.reverse_reverse p.turns, split]
    simp
  · simpa using none v (List.mem_reverse.1 hv)
  · rw [lastWriter, hfound]
    rfl

end Pool

/-- A part at the end of a list without one of its elements lies behind that element. -/
theorem suffix_of_not_mem {α : Type} {l a b : List α} {c : α} (h : l <:+ a ++ c :: b)
    (hc : c ∉ l) : l <:+ b := by
  have hb : b <:+ a ++ c :: b := ⟨a ++ [c], by simp⟩
  rcases List.suffix_or_suffix_of_suffix h hb with hl | ⟨x, rfl⟩
  · exact hl
  rcases List.eq_nil_or_concat x with rfl | ⟨y, d, rfl⟩
  · exact List.suffix_refl b
  · obtain ⟨z, hz⟩ := h
    have : z ++ y ++ [d] ++ b = a ++ [c] ++ b := by simpa using hz
    have := List.append_cancel_right this
    obtain rfl : d = c := by simpa using congrArg List.getLast? this
    exact absurd (by simp) hc

/-- A list that ends in another one, less its first element, and has that element not in it. -/
theorem eq_of_cons_suffix {α : Type} {l a b : List α} {c d : α} (h : d :: l <:+ a ++ c :: b)
    (hl : l <:+ b) (hd : d ∉ b) : d = c ∧ l = b := by
  have hb : b <:+ a ++ c :: b := ⟨a ++ [c], by simp⟩
  have hbl : b <:+ l := by
    rcases List.suffix_or_suffix_of_suffix h hb with hdl | ⟨x, hx⟩
    · exact absurd (hdl.subset List.mem_cons_self) hd
    · cases x with
      | nil => exact absurd (by simp [show b = d :: l from hx]) hd
      | cons e x => exact ⟨x, (List.cons.inj hx).2⟩
  have same : l = b := hl.eq_of_length_le hbl.length_le
  refine ⟨?_, same⟩
  subst same
  obtain ⟨z, hz⟩ := h
  have : z ++ [d] ++ l = a ++ [c] ++ l := by simpa using hz
  simpa using congrArg List.getLast? (List.append_cancel_right this)

/-! ## What readings tell -/

/-- Readings leave the cluster in memory as it is, and each of them gives what is there. -/
theorem Store.gives_reads {ts : List CallTurn} {s s' : Store}
    (reads : ∀ t ∈ ts, ∃ p, t.1 = .get p) (gives : Store.answer.Gives s ts s') :
    s' = s ∧ ∀ p answer, (⟨.get p, answer⟩ : CallTurn) ∈ ts → answer = .ok (s.objects.get? p) := by
  induction ts with
  | nil => exact ⟨gives.symm, fun _ _ h => nomatch h⟩
  | cons t rest ih =>
    obtain ⟨c, answer⟩ := t
    obtain ⟨p, rfl⟩ := reads _ List.mem_cons_self
    obtain ⟨here, gives⟩ := gives
    obtain ⟨same, told⟩ := ih (fun t ht => reads t (List.mem_cons_of_mem _ ht)) gives
    refine ⟨same, fun q answer' h => ?_⟩
    rcases List.mem_cons.1 h with h | h
    · cases h
      exact here
    · exact told q answer' h

/-- What stands at its place after an object was applied. -/
theorem Store.applied_get? {m : Manifest} {s : Store} (fine : (answer (.apply m) s).1 = .ok ()) :
    ∃ created, (answer (.apply m) s).2.objects.get? m.place =
      some ⟨m.place.name, m.place.ns, m.contents, some created⟩ := by
  have acts := answer_actsOrFails.of_ok fine
  rw [id, id] at acts
  generalize (answer (.apply m) s).2 = s' at acts ⊢
  cases acts with
  | apply _ _ told => exact ⟨_, SortedMap.get?_insert_self _ _ _⟩

namespace Reconcile

/-- The warning about an object that was read back is logged if it is not as expected. -/
theorem warns_driftNotices (kind kind' : Kind) (stored : Stored) (expected : ByteMap) :
    (driftNotices kind' stored expected).any (Notice.warnsOfDrift kind) =
      (kind' == kind && stored.data != expected) := by
  rw [driftNotices]
  by_cases same : stored.data = expected <;> simp [same, Notice.warnsOfDrift]

/-- What is said about the public key is no warning about an object. -/
theorem warns_keyNotice (kind : Kind) (fingerprint : Option String) :
    (keyNotice fingerprint).warnsOfDrift kind = false := by
  cases fingerprint <;> rfl

/-- What is said about the namespace is no warning about an object. -/
theorem NamespaceCourse.not_warns {ns : String} {ts : List CallTurn} {notes : List Notice}
    {v : Except RunError Bool} (course : NamespaceCourse ns ts notes v) (kind : Kind) :
    notes.any (Notice.warnsOfDrift kind) = false := by
  cases course <;> rfl

/-- The turns in which a run reads both objects. -/
def readTurns (names : Names) (secret configMap : Stored) : List CallTurn :=
  [readTurn names .secret (.ok (some secret)), readTurn names .configMap (.ok (some configMap))]

/-- The turns of a run that ended well, from its last write on, and when it warned about the
Secret. -/
theorem RunCourse.of_ok {keys : KeyPair} {names : Names} {ts : List CallTurn}
    {notes : List Notice} {report : Report}
    (course : RunCourse keys names ts notes (.ok report)) :
    ∃ start secret configMap,
      ts = start ++ applyTurn keys names .configMap (.ok ()) ::
        readTurns names secret configMap ∧
      (notes.any (Notice.warnsOfDrift .secret) = true ↔
        secret.data ≠ ((Desired.render keys names).object .secret).contents) := by
  cases course with
  | @done start notes created good begins secret configMap =>
    refine ⟨start ++ [applyTurn keys names .secret (.ok ())], secret, configMap, ?_, ?_⟩
    · rw [List.append_assoc]
      rfl
    rw [List.any_cons, warns_keyNotice]
    simp [begins.not_warns, foundNotices, warns_driftNotices, appliedNotice, Notice.warnsOfDrift]

/-! ## Runs that all end well -/

section AllDone

variable {ι : Type} [DecidableEq ι] {keys : ι → KeyPair} {names : Names} {s : Store}
  {p : Pool ι Call Call.Answer (Except RunError Report) Store}
  {before after : List (ι × CallTurn)} {i : ι} {t : CallTurn}

/-- The turns of a run that has ended well, from its last write on, and when it has warned about the
Secret. -/
theorem run_of_report? (sound : p.Sound Store.answer (fun i => run (keys i) names) s)
    (finished : (p.report? i).isSome = true) :
    ∃ start secret configMap,
      Pool.ownTurns i p.turns = start ++ applyTurn (keys i) names .configMap (.ok ()) ::
        readTurns names secret configMap ∧
      (p.warned .secret i ↔
        secret.data ≠ ((Desired.render (keys i) names).object .secret).contents) := by
  rw [Pool.report?] at finished
  split at finished
  next report done => exact (run_course (sound.ends done)).of_ok
  next => exact absurd finished Bool.false_ne_true

/-- After the last write of a ConfigMap there are only readings. -/
theorem reads_after (sound : p.Sound Store.answer (fun i => run (keys i) names) s)
    (finished : ∀ i, (p.report? i).isSome = true)
    (split : p.turns = before ++ (i, t) :: after)
    (last : ∀ v ∈ after, v.2.1.writes .configMap = false) :
    ∀ v ∈ after.map Prod.snd, ∃ p, v.1 = .get p := by
  intro v hv
  obtain ⟨⟨j, v⟩, hjv, rfl⟩ := List.mem_map.1 hv
  obtain ⟨start, secret, configMap, own, -⟩ := run_of_report? sound (finished j)
  have own_after : Pool.ownTurns j after <:+ Pool.ownTurns j p.turns := by
    rw [split]
    exact Pool.ownTurns_suffix j ⟨before ++ [(i, t)], by simp⟩
  rw [own] at own_after
  have unwritten : applyTurn (keys j) names .configMap (.ok ()) ∉ Pool.ownTurns j after := by
    intro h
    have := last _ (Pool.mem_ownTurns.1 h)
    simp [applyTurn, Call.writes] at this
  have own_reads := suffix_of_not_mem own_after unwritten
  have read := own_reads.subset (Pool.mem_ownTurns.2 hjv)
  simp only [readTurns, List.mem_cons, List.not_mem_nil, or_false] at read
  rcases read with rfl | rfl
  · exact ⟨_, rfl⟩
  · exact ⟨_, rfl⟩

/-- The run whose ConfigMap came last still has both its readings before it. -/
theorem last_writer_reads (sound : p.Sound Store.answer (fun i => run (keys i) names) s)
    (finished : ∀ i, (p.report? i).isSome = true)
    (split : p.turns = before ++ (i, t) :: after) (writes : t.1.writes .configMap = true)
    (last : ∀ v ∈ after, v.2.1.writes .configMap = false) :
    t = applyTurn (keys i) names .configMap (.ok ()) ∧ ∃ secret configMap,
      Pool.ownTurns i after = readTurns names secret configMap ∧
        (p.warned .secret i ↔
          secret.data ≠ ((Desired.render (keys i) names).object .secret).contents) := by
  obtain ⟨start, secret, configMap, own, warned⟩ := run_of_report? sound (finished i)
  have own_from : t :: Pool.ownTurns i after <:+ Pool.ownTurns i p.turns := by
    rw [split, ← Pool.ownTurns_cons_self]
    exact Pool.ownTurns_suffix i (List.suffix_append before _)
  rw [own] at own_from
  have unwritten : applyTurn (keys i) names .configMap (.ok ()) ∉ Pool.ownTurns i after := by
    intro h
    have := last _ (Pool.mem_ownTurns.1 h)
    simp [applyTurn, Call.writes] at this
  have own_reads := suffix_of_not_mem ((List.suffix_cons t _).trans own_from) unwritten
  have no_read : t ∉ readTurns names secret configMap := by
    intro h
    simp only [readTurns, List.mem_cons, List.not_mem_nil, or_false] at h
    rcases h with rfl | rfl <;> exact absurd writes Bool.false_ne_true
  obtain ⟨ht, hafter⟩ := eq_of_cons_suffix own_from own_reads no_read
  exact ⟨ht, secret, configMap, hafter, warned⟩

/-- What the cluster holds in the end: the ConfigMap of the run whose ConfigMap came last, and a
Secret that this run warned about exactly if it is not its own. -/
theorem last_writer_finds (sound : p.Sound Store.answer (fun i => run (keys i) names) s)
    (finished : ∀ i, (p.report? i).isSome = true)
    (split : p.turns = before ++ (i, t) :: after) (writes : t.1.writes .configMap = true)
    (last : ∀ v ∈ after, v.2.1.writes .configMap = false) :
    ∃ secret configMap,
      p.state.objects.get? (names.place .secret) = some secret ∧
      p.state.objects.get? (names.place .configMap) = some configMap ∧
      (p.warned .secret i ↔
        secret.data ≠ ((Desired.render (keys i) names).object .secret).contents) ∧
      configMap.data = ((Desired.render (keys i) names).object .configMap).contents := by
  obtain ⟨rfl, secret, configMap, own_after, warned⟩ :=
    last_writer_reads sound finished split writes last
  -- Nothing is written after it, so its readings are of the final state.
  have gives := sound.gives
  rw [split, List.map_append, List.map_cons] at gives
  obtain ⟨m, -, written, gives⟩ := Handler.gives_append.1 gives
  obtain ⟨same, told⟩ :=
    Store.gives_reads (reads_after sound finished split last) gives
  have final (kind : Kind) (stored : Stored)
      (h : readTurn names kind (.ok (some stored)) ∈ Pool.ownTurns i after) :
      p.state.objects.get? (names.place kind) = some stored := by
    have := told _ _ (List.mem_map_of_mem (Pool.mem_ownTurns.1 h))
    rw [same]
    exact (Except.ok.inj this).symm
  have hSecret := final .secret secret (by simp [own_after, readTurns])
  have hConfigMap := final .configMap configMap (by simp [own_after, readTurns])
  refine ⟨secret, configMap, hSecret, hConfigMap, warned, ?_⟩
  obtain ⟨created, put⟩ := Store.applied_get? written.symm
  rw [Desired.render_place] at put
  rw [same] at hConfigMap
  exact congrArg Stored.data (Option.some.inj (hConfigMap.symm.trans put))

/-- Any number of runs with the same names may write at the same time, in any order of their calls.
If all of them end well, the run that was the last to write the ConfigMap warns about the Secret
exactly if the Secret is not its own in the end.  So if no run warns about the Secret, both objects
hold the keys of one pair. -/
theorem torn_pair_is_noticed [Nonempty ι] (keys : ι → KeyPair) (names : Names) (s : Store)
    (schedule : List ι) :
    let p := (Pool.start (fun i => run (keys i) names) s).hold Store.answer schedule
    (∀ i, (p.report? i).isSome = true) →
    ∃ i secret configMap,
      p.lastWriter .configMap = some i ∧
      p.state.objects.get? (names.place .secret) = some secret ∧
      p.state.objects.get? (names.place .configMap) = some configMap ∧
      (p.warned .secret i ↔ secret.data ≠ (Desired.render (keys i) names).secret.contents) ∧
      ((∀ j, ¬ p.warned .secret j) →
        secret.data.get? publicKeyEntry = configMap.data.get? publicKeyEntry ∧
        secret.data.get? publicKeyEntry = some (keys i).publicKey ∧
        secret.data.get? privateKeyEntry = some (keys i).privateKey) := by
  intro p finished
  have sound : p.Sound Store.answer (fun i => run (keys i) names) s :=
    (Pool.sound_start _ _ _).hold schedule
  -- Some run wrote a ConfigMap, so there is a last one that did.
  obtain ⟨k⟩ := ‹Nonempty ι›
  obtain ⟨start, secret₀, configMap₀, own, -⟩ := run_of_report? sound (finished k)
  have wrote : (k, applyTurn (keys k) names .configMap (.ok ())) ∈ p.turns := by
    rw [← Pool.mem_ownTurns, own]
    simp
  obtain ⟨before, i, t, after, split, writes, last, lastWriter⟩ :=
    Pool.exists_last_write .configMap wrote (by simp [applyTurn, Call.writes])
  obtain ⟨secret, configMap, hSecret, hConfigMap, warned, hData⟩ :=
    last_writer_finds sound finished split writes last
  refine ⟨i, secret, configMap, lastWriter, hSecret, hConfigMap, warned, fun quiet => ?_⟩
  have hOwn : secret.data = ((Desired.render (keys i) names).object .secret).contents :=
    not_not.1 (mt warned.2 (quiet i))
  rw [hOwn, hData, Desired.render_publicKey, Desired.render_publicKey, Desired.render_privateKey]
  exact ⟨rfl, rfl, rfl⟩

end AllDone

/-! ## A torn pair -/

/-- The keys of two runs. -/
def tornKeys (i : Fin 2) : KeyPair :=
  if i = 0 then ⟨[1], [2]⟩ else ⟨[3], [4]⟩

/-- An order in which the second run is held between the two writes of the first one. -/
def tornSchedule : List (Fin 2) :=
  List.replicate 5 0 ++ List.replicate 14 1 ++ List.replicate 14 0

/-- The two runs at their end: the Secret of the second one stands beside the ConfigMap of the
first one. -/
def tornPair : Pool (Fin 2) Call Call.Answer (Except RunError Report) Store :=
  (Pool.start (fun i => run (tornKeys i) ⟨"n", "s", "c"⟩) .empty).hold Store.answer tornSchedule

theorem torn_pair_is_noticed_two :
    (∀ i, (tornPair.report? i).isSome = true) ∧ tornPair.warned .secret 0 := by
  have finished : ∀ i, (tornPair.report? i).isSome = true := by decide +kernel
  have first : tornPair.lastWriter .configMap = some 0 := by decide +kernel
  have foreign : tornPair.state.objects.get? ⟨"n", .secret, "s"⟩ = some
      ⟨"s", "n", .ofList [("id_rsa", [3]), ("id_rsa.pub", [4])], some "created-1"⟩ := by
    decide +kernel
  obtain ⟨i, secret, configMap, last, hSecret, -, warned, -⟩ :=
    torn_pair_is_noticed tornKeys ⟨"n", "s", "c"⟩ .empty tornSchedule finished
  have hi : i = 0 := Option.some.inj (last.symm.trans first)
  have hs := Option.some.inj (hSecret.symm.trans foreign)
  rw [hi, hs] at warned
  have torn : SortedMap.ofList [("id_rsa", [3]), ("id_rsa.pub", [4])] ≠
      (Desired.render (tornKeys 0) ⟨"n", "s", "c"⟩).secret.contents := by decide +kernel
  exact ⟨finished, warned.2 torn⟩

end Reconcile

end MountKeys
