import MountKeys.Proofs.Api.Client
import MountKeys.Proofs.Pool
import MountKeys.Proofs.Reconcile.Calls
import MountKeys.Proofs.Reconcile.Effects

/-!
# Many clients have one namespace made

Any number of clients look whether a namespace is there and create it if it is not, in any order of
their calls: `namespace_race`.  All of them find it there in the end, and exactly one of them is
told that it created it, if it was not there before.

Between the two calls of one client others may come, so what it saw need not be so any more.  What
is so at each point is read off all turns in their order.  While the namespace is missing they are
lookups that find nothing; the first creation succeeds; and after it every turn meets the namespace
(`KeepsNamespace.gives_missing`).

Both clusters are of this kind: one in memory, and an API server.  There each call is one request,
so the requests of the clients come in some order just as the calls do (`Pool.hold_expand`).
-/

namespace MountKeys

namespace Reconcile

/-! ## Turns about a namespace -/

/-- Whether a call is about a namespace. -/
def AboutNamespace (ns : String) (c : Call) : Prop :=
  c = .namespaceExists ns ∨ c = .createNamespace ns

/-- A turn about a namespace that is there. -/
inductive MeetsNamespace (ns : String) : CallTurn → Prop
  | lookup : MeetsNamespace ns ⟨.namespaceExists ns, .ok true⟩
  | creation {cause : ClusterError} (exists_ : cause.isAlreadyExists = true) :
    MeetsNamespace ns ⟨.createNamespace ns, .error cause⟩

/-- The turn of one who looks for a namespace and finds none. -/
def missTurn (ns : String) : CallTurn :=
  ⟨.namespaceExists ns, .ok false⟩

/-- The turn of one who creates a namespace. -/
def createTurn (ns : String) : CallTurn :=
  ⟨.createNamespace ns, .ok ()⟩

/-- To have a namespace made is to ask about it. -/
theorem ensureNamespace_asks {P : Call → Prop} {ns : String}
    (about : ∀ c, AboutNamespace ns c → P c) : (ensureNamespace ns).AsksOnly P := by
  rw [ensureNamespace]
  refine .ask (about _ (.inl rfl)) fun found => ?_
  rcases found with cause | _ | _
  · exact .done _
  · refine .ask (about _ (.inr rfl)) fun created => ?_
    cases created with
    | ok made => exact .note (.done _)
    | error cause =>
      rw [Dialogue.done_bind]
      dsimp only
      split <;> exact .note (.done _)
  · exact .note (.done _)

/-- It takes two calls and one notice at most. -/
theorem ensureNamespace_endsWithin (ns : String) : (ensureNamespace ns).EndsWithin 3 := by
  rw [ensureNamespace]
  refine .ask fun found => ?_
  rcases found with cause | _ | _
  · exact .done _ _
  · refine .ask fun created => ?_
    cases created with
    | ok made => exact .note (.done _ _)
    | error cause =>
      rw [Dialogue.done_bind]
      dsimp only
      split <;> exact .note (.done _ _)
  · exact .note (.done _ _)

namespace NamespaceCourse

variable {ns : String} {ts : List CallTurn} {notes : List Notice}

/-- Whoever finds nothing goes on to create the namespace. -/
theorem not_only_misses {made : Bool} (course : NamespaceCourse ns ts notes (.ok made)) :
    ¬∀ t ∈ ts, t = missTurn ns := by
  intro misses
  cases course with
  | found => exact nomatch misses _ List.mem_cons_self
  | created | createdElsewhere =>
    exact nomatch misses _ (List.mem_cons_of_mem _ List.mem_cons_self)

/-- Answers that are no failures do not make it fail. -/
theorem ok_of_fine {v : Except RunError Bool} (course : NamespaceCourse ns ts notes v)
    (fine : ∀ t ∈ ts, MeetsNamespace ns t ∨ t = missTurn ns ∨ t = createTurn ns) :
    ∃ made, v = .ok made := by
  cases course with
  | found => exact ⟨false, rfl⟩
  | created => exact ⟨true, rfl⟩
  | createdElsewhere => exact ⟨false, rfl⟩
  | lookupFailed cause =>
    obtain meets | miss | create := fine _ List.mem_cons_self
    · exact nomatch meets
    · exact nomatch miss
    · exact nomatch create
  | @refused cause other =>
    obtain meets | miss | create := fine _ (List.mem_cons_of_mem _ List.mem_cons_self)
    · cases meets with
      | creation exists_ => exact nomatch other.symm.trans exists_
    · exact nomatch miss
    · exact nomatch create

end NamespaceCourse

end Reconcile

open Reconcile

/-! ## A cluster that nobody else changes -/

/-- The cluster tells whether it has a namespace, and takes it once; `add` is what it does then. -/
structure KeepsNamespace {σ : Type} (h : Handler Call Call.Answer σ) (ns : String)
    (has : σ → Bool) (add : σ → σ) : Prop where
  lookup : ∀ s, h (.namespaceExists ns) s = (.ok (has s), s)
  creates : ∀ s, has s = false → h (.createNamespace ns) s = (.ok (), add s)
  refuses : ∀ s, has s = true → ∃ cause : ClusterError,
    cause.isAlreadyExists = true ∧ h (.createNamespace ns) s = (.error cause, s)
  added : ∀ s, has (add s) = true

namespace KeepsNamespace

variable {σ : Type} {h : Handler Call Call.Answer σ} {ns : String} {has : σ → Bool} {add : σ → σ}
  (keeps : KeepsNamespace h ns has add)
include keeps

/-- Once the namespace is there, every turn meets it and nothing changes any more. -/
theorem gives_there {ts : List CallTurn} (about : ∀ t ∈ ts, AboutNamespace ns t.1) {s s' : σ}
    (gives : h.Gives s ts s') (there : has s = true) :
    (∀ t ∈ ts, MeetsNamespace ns t) ∧ s' = s := by
  induction ts with
  | nil => exact ⟨List.forall_mem_nil _, gives.symm⟩
  | cons t ts ih =>
    obtain ⟨here, others⟩ := List.forall_mem_cons.1 about
    obtain ⟨c, answer⟩ := t
    obtain ⟨m, asked, rest⟩ := Handler.gives_cons.1 gives
    have step : MeetsNamespace ns ⟨c, answer⟩ ∧ m = s := by
      obtain rfl | rfl := here
      · rw [keeps.lookup, there] at asked
        cases asked
        exact ⟨.lookup, rfl⟩
      · obtain ⟨cause, exists_, refused⟩ := keeps.refuses s there
        rw [refused] at asked
        cases asked
        exact ⟨.creation exists_, rfl⟩
    obtain ⟨meets, rfl⟩ := step
    obtain ⟨later, last⟩ := ih others rest
    exact ⟨List.forall_mem_cons.2 ⟨meets, later⟩, last⟩

/-- While the namespace is missing all turns miss it, up to the first one that creates it. -/
theorem gives_missing {ts : List CallTurn} (about : ∀ t ∈ ts, AboutNamespace ns t.1) {s s' : σ}
    (gives : h.Gives s ts s') (missing : has s = false) :
    ((∀ t ∈ ts, t = missTurn ns) ∧ s' = s) ∨
      ∃ before after, ts = before ++ createTurn ns :: after ∧ (∀ t ∈ before, t = missTurn ns) ∧
        (∀ t ∈ after, MeetsNamespace ns t) ∧ s' = add s := by
  induction ts with
  | nil => exact .inl ⟨List.forall_mem_nil _, gives.symm⟩
  | cons t ts ih =>
    obtain ⟨here, others⟩ := List.forall_mem_cons.1 about
    obtain ⟨c, answer⟩ := t
    obtain ⟨m, asked, rest⟩ := Handler.gives_cons.1 gives
    obtain rfl | rfl := here
    · rw [keeps.lookup, missing] at asked
      cases asked
      obtain ⟨misses, last⟩ | ⟨before, after, rfl, misses, meets, last⟩ := ih others rest
      · exact .inl ⟨List.forall_mem_cons.2 ⟨rfl, misses⟩, last⟩
      · exact .inr ⟨missTurn ns :: before, after, rfl, List.forall_mem_cons.2 ⟨rfl, misses⟩, meets,
          last⟩
    · rw [keeps.creates s missing] at asked
      cases asked
      obtain ⟨meets, last⟩ := keeps.gives_there others rest (keeps.added s)
      exact .inr ⟨[], ts, rfl, List.forall_mem_nil _, meets, last⟩

/-- No turn fails. -/
theorem gives_fine {ts : List CallTurn} (about : ∀ t ∈ ts, AboutNamespace ns t.1) {s s' : σ}
    (gives : h.Gives s ts s') :
    ∀ t ∈ ts, MeetsNamespace ns t ∨ t = missTurn ns ∨ t = createTurn ns := by
  intro t ht
  cases there : has s with
  | true => exact .inl ((keeps.gives_there about gives there).1 t ht)
  | false =>
    obtain ⟨misses, -⟩ | ⟨before, after, rfl, misses, meets, -⟩ :=
      keeps.gives_missing about gives there
    · exact .inr (.inl (misses t ht))
    · rcases List.mem_append.1 ht with ht | ht
      · exact .inr (.inl (misses t ht))
      rcases List.mem_cons.1 ht with rfl | ht
      · exact .inr (.inr rfl)
      · exact .inl (meets t ht)

end KeepsNamespace

/-! ## The race -/

/-- What becomes of clients that all have one namespace made, each one's result given when it has
one, at a cluster that was `s` before and is `last` now. -/
structure Race {ι σ : Type} [DecidableEq ι] (has : σ → Bool) (add : σ → σ) (schedule : List ι)
    (s : σ) (results : ι → Option (Except RunError Bool)) (last : σ) : Prop where
  /-- A client that has its turns comes to an end. -/
  ends : ∀ i, 3 ≤ schedule.count i → ∃ v, results i = some v
  /-- None fails. -/
  ok : ∀ i v, results i = some v → ∃ made, v = .ok made
  /-- Nobody creates what is there. -/
  there : has s = true → (∀ i, results i ≠ some (.ok true)) ∧ last = s
  /-- When all have ended, one of them has created what was not there. -/
  missing : has s = false → (∀ i, ∃ v, results i = some v) →
    (∃! i, results i = some (.ok true)) ∧ last = add s
  /-- Then the namespace is there. -/
  settled : (∀ i, ∃ v, results i = some v) → has last = true

section Race

variable {ι σ : Type} [DecidableEq ι] {h : Handler Call Call.Answer σ} {ns : String}
  {has : σ → Bool} {add : σ → σ} {s : σ}
  {p : Pool ι Call Call.Answer (Except RunError Bool) σ}

/-- All turns are about the namespace. -/
theorem Pool.Sound.about (sound : p.Sound h (fun _ => ensureNamespace ns) s) :
    ∀ t ∈ p.turns.map Prod.snd, AboutNamespace ns t.1 := by
  intro t ht
  obtain ⟨⟨i, t⟩, own, rfl⟩ := List.mem_map.1 ht
  have asks := @ensureNamespace_asks (AboutNamespace ns) ns fun _ => id
  exact asks.of_leads (sound.leads i) t (Pool.mem_ownTurns.2 own)

/-- A client that has ended took one of the courses. -/
theorem Pool.Sound.course (sound : p.Sound h (fun _ => ensureNamespace ns) s) {i : ι}
    {v : Except RunError Bool} (ended : p.result? i = some v) :
    NamespaceCourse ns (Pool.ownTurns i p.turns) (p.notices i) v :=
  ensureNamespace_course (sound.ends (Pool.result?_eq_some.1 ended))

/-- A client that was told so created the namespace. -/
theorem Pool.Sound.created_iff (sound : p.Sound h (fun _ => ensureNamespace ns) s) {i : ι}
    {made : Bool} (ended : p.result? i = some (.ok made)) :
    made = true ↔ (i, createTurn ns) ∈ p.turns := by
  rw [(sound.course ended).created_iff, ← Pool.mem_ownTurns, createTurn]

variable (keeps : KeepsNamespace h ns has add)
include keeps

theorem KeepsNamespace.ok (sound : p.Sound h (fun _ => ensureNamespace ns) s) {i : ι}
    {v : Except RunError Bool} (ended : p.result? i = some v) : ∃ made, v = .ok made := by
  refine (sound.course ended).ok_of_fine fun t ht => ?_
  exact keeps.gives_fine sound.about sound.gives t
    (List.mem_map_of_mem (Pool.mem_ownTurns.1 ht))

/-- If the namespace is there from the start, nobody creates it. -/
theorem KeepsNamespace.nobody (sound : p.Sound h (fun _ => ensureNamespace ns) s)
    (there : has s = true) : (∀ i, p.result? i ≠ some (.ok true)) ∧ p.state = s := by
  obtain ⟨meets, last⟩ := keeps.gives_there sound.about sound.gives there
  refine ⟨fun i ended => ?_, last⟩
  have created := (sound.created_iff ended).1 rfl
  exact nomatch meets _ (List.mem_map_of_mem created)

/-- If the namespace is missing at the start, one client creates it. -/
theorem KeepsNamespace.one [Nonempty ι] (sound : p.Sound h (fun _ => ensureNamespace ns) s)
    (missing : has s = false) (ended : ∀ i, ∃ v, p.result? i = some v) :
    (∃! i, p.result? i = some (.ok true)) ∧ p.state = add s := by
  obtain ⟨misses, -⟩ | ⟨before, after, split, misses, meets, last⟩ :=
    keeps.gives_missing sound.about sound.gives missing
  -- A client that has ended does not leave the namespace missing.
  · obtain ⟨i⟩ := ‹Nonempty ι›
    obtain ⟨v, hv⟩ := ended i
    obtain ⟨made, rfl⟩ := keeps.ok sound hv
    refine absurd (fun t ht => ?_) (sound.course hv).not_only_misses
    exact misses t (List.mem_map_of_mem (Pool.mem_ownTurns.1 ht))
  -- The one creation there is belongs to one client.
  · refine ⟨?_, last⟩
    obtain ⟨before', rest, turns, rfl, tail⟩ := List.map_eq_append_iff.1 split
    obtain ⟨⟨i, t⟩, after', rfl, rfl, rfl⟩ := List.map_eq_cons_iff.1 tail
    have only (j : ι) (created : (j, createTurn ns) ∈ p.turns) : j = i := by
      rw [turns] at created
      rcases List.mem_append.1 created with created | created
      · exact nomatch misses _ (List.mem_map_of_mem created)
      rcases List.mem_cons.1 created with same | created
      · exact congrArg Prod.fst same
      · exact nomatch meets _ (List.mem_map_of_mem created)
    refine ⟨i, ?_, fun j hj => only j ((sound.created_iff hj).1 rfl)⟩
    obtain ⟨v, hv⟩ := ended i
    obtain ⟨made, rfl⟩ := keeps.ok sound hv
    obtain rfl : made = true := (sound.created_iff hv).2 (by simp [turns])
    exact hv

/-- Clients at such a cluster take part in the race. -/
theorem KeepsNamespace.race [Nonempty ι] (s : σ) (schedule : List ι) :
    let p := (Pool.start (fun _ => ensureNamespace ns) s).hold h schedule
    Race has add schedule s p.result? p.state := by
  intro p
  have sound : p.Sound h (fun _ => ensureNamespace ns) s :=
    (Pool.sound_start _ _ _).hold schedule
  refine ⟨fun i enough => ?_, fun i v => keeps.ok sound, keeps.nobody sound, keeps.one sound,
    fun ended => ?_⟩
  · obtain ⟨v, done⟩ : ∃ v, p.rest i = .done v :=
      Pool.hold_done (ensureNamespace_endsWithin ns) enough
    exact ⟨v, Pool.result?_eq_some.2 done⟩
  · cases there : has s with
    | true => rw [(keeps.nobody sound there).2, there]
    | false => rw [(keeps.one sound there ended).2, keeps.added]

end Race

/-! ## Both clusters -/

/-- A cluster in memory is one for a race. -/
theorem Store.keepsNamespace (ns : String) :
    KeepsNamespace Store.answer ns (·.namespaces.contains ns) (·.addNamespace ns) where
  lookup _ := rfl
  creates s missing := by simp [Store.answer, missing]
  refuses s there := ⟨_, rfl, if_pos there⟩
  added s := s.addNamespace_contains ns

/-- An API server is one for a race. -/
theorem Server.keepsNamespace {ns : String} (plain : Names.IsPlain ns) :
    KeepsNamespace (Server.answer.through Client.call) ns (·.namespaces.contains ns)
      (·.addNamespace ns) where
  lookup s := Client.call_namespaceExists plain s
  creates _ missing := Client.call_createNamespace missing
  refuses _ there := by
    obtain ⟨message, refused⟩ := Client.call_createNamespace_taken there
    exact ⟨_, rfl, refused⟩
  added s := by simp [Server.addNamespace, SortedMap.contains]

/-- Each call about a namespace is one request. -/
theorem Client.call_isQuestion {ns : String} (plain : Names.IsPlain ns) {c : Call}
    (about : AboutNamespace ns c) : (call c).IsQuestion := by
  obtain rfl | rfl := about
  · have target := (Request.spells_namespace plain).target? (by simp)
    rw [call, exchangeNamed_eq target plain.nonempty]
    exact ⟨_, _, rfl⟩
  · rw [call, exchange_eq (Request.spells_namespaces.target?_writer (by decide))]
    exact ⟨_, _, rfl⟩

/-- Any number of clients have one namespace made, in any order of their calls at a cluster in
memory, or of their requests at an API server, where a namespace has a plain name.  None fails; if
the namespace was there, none created it; and if it was not, one of them did when all have ended. -/
theorem namespace_race {ι : Type} [DecidableEq ι] [Nonempty ι] (ns : String)
    (schedule : List ι) :
    (∀ s : Store,
      let p := (Pool.start (fun _ => ensureNamespace ns) s).hold Store.answer schedule
      Race (·.namespaces.contains ns) (·.addNamespace ns) schedule s p.result? p.state) ∧
    (Names.IsPlain ns → ∀ s : Server,
      let p := (Pool.start (fun _ => Client.session (ensureNamespace ns)) s).hold Server.answer
        schedule
      Race (·.namespaces.contains ns) (·.addNamespace ns) schedule s p.result? p.state) := by
  constructor
  · intro s
    exact (Store.keepsNamespace ns).race s schedule
  · intro plain s
    have single (_ : ι) : (ensureNamespace ns).AsksOnly fun c => (Client.call c).IsQuestion :=
      ensureNamespace_asks fun _ => Client.call_isQuestion plain
    obtain ⟨results, last⟩ := Pool.hold_expand Server.answer single s schedule
    have race := (Server.keepsNamespace plain).race s schedule
    dsimp only at race
    rw [← results, ← last] at race
    exact race

/-- An order in which three clients all look before the first of them creates the namespace. -/
def threeInStep : List (Fin 3) :=
  List.finRange 3 ++ List.finRange 3 ++ List.finRange 3

theorem namespace_race_three :
    Names.IsPlain "n" ∧
      (let p := (Pool.start (fun _ => ensureNamespace "n") Store.empty).hold Store.answer
        threeInStep
      (∃! i, p.result? i = some (.ok true)) ∧ p.state.namespaces.contains "n" = true) ∧
      let p := (Pool.start (fun _ => Client.session (ensureNamespace "n")) Server.empty).hold
        Server.answer threeInStep
      (∃! i, p.result? i = some (.ok true)) ∧ p.state.namespaces.contains "n" = true := by
  have plain : Names.IsPlain "n" := @Names.checkOne_plain .ns "n" rfl
  have enough : ∀ i, 3 ≤ threeInStep.count i := by decide
  obtain ⟨memory, server⟩ := namespace_race "n" threeInStep
  have memory := memory .empty
  have server := server plain .empty
  have ended := fun i => memory.ends i (enough i)
  have ended' := fun i => server.ends i (enough i)
  exact ⟨plain, ⟨(memory.missing rfl ended).1, memory.settled ended⟩,
    (server.missing rfl ended').1, server.settled ended'⟩

end MountKeys
