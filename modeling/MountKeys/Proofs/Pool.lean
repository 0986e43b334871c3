import Mathlib.Logic.Function.Basic
import MountKeys.Proofs.Dialogue

/-!
# Dialogues side by side

Several dialogues are held with one other side at the same time.  A `Pool` is where they are:
what is left of each, what each has logged, and all turns so far in the order in which they
happened.  `Pool.hold` goes on with the dialogues that a schedule names, one step for each name, so
that every order of steps is some schedule.

A step changes one dialogue only, but the other side remembers every turn.  `Pool.Sound` is the
invariant that says both at once: each dialogue leads from its start to where it is by its own
turns, and the other side gives all the answers in their order.  Facts about one dialogue come from
its own turns, facts about the state from all of them, and what ties them together is that the own
turns are a part of all turns (`ownTurns_append`, `ownTurns_eq_cons`).

A dialogue with a bound on its steps comes to its end if the schedule names it that often
(`hold_done`).

Dialogues whose questions are put in other words, each as one question, go as the dialogues
themselves do, step by step (`hold_expand`).
-/

namespace MountKeys

/-- Dialogues that are held with one other side, one for each `ι`. -/
structure Pool (ι Ask : Type) (Answer : Ask → Type) (α σ : Type) where
  /-- What is left of each dialogue. -/
  rest : ι → Dialogue Ask Answer α
  /-- What each dialogue has logged, in order. -/
  notices : ι → List Notice
  /-- All turns so far, in order, each with the dialogue that had it. -/
  turns : List (ι × Turn Ask Answer)
  /-- What the other side remembers. -/
  state : σ

namespace Pool

variable {ι Ask : Type} {Answer : Ask → Type} {α σ : Type} [DecidableEq ι]

/-- Dialogues that have not begun. -/
def start (d : ι → Dialogue Ask Answer α) (s : σ) : Pool ι Ask Answer α σ :=
  ⟨d, fun _ => [], [], s⟩

/-- Go on with one dialogue: it logs one notice or has one turn. -/
def step (h : Handler Ask Answer σ) (p : Pool ι Ask Answer α σ) (i : ι) :
    Pool ι Ask Answer α σ :=
  match p.rest i with
  | .done _ => p
  | .note n next =>
    { p with
      rest := Function.update p.rest i next
      notices := Function.update p.notices i (p.notices i ++ [n]) }
  | .ask q next =>
    let (answer, s) := h q p.state
    { p with
      rest := Function.update p.rest i (next answer)
      turns := p.turns ++ [(i, ⟨q, answer⟩)]
      state := s }

/-- Go on with the dialogues of a schedule, one step for each of its entries. -/
def hold (h : Handler Ask Answer σ) (schedule : List ι) (p : Pool ι Ask Answer α σ) :
    Pool ι Ask Answer α σ :=
  schedule.foldl (step h) p

/-- The turns of one dialogue among all turns. -/
def ownTurns (i : ι) (ts : List (ι × Turn Ask Answer)) : List (Turn Ask Answer) :=
  (ts.filter fun t => t.1 = i).map Prod.snd

/-! ## The turns of one dialogue -/

theorem ownTurns_append (i : ι) (ts ts' : List (ι × Turn Ask Answer)) :
    ownTurns i (ts ++ ts') = ownTurns i ts ++ ownTurns i ts' := by
  simp [ownTurns]

/-- The own turns at the end are at the end of the own turns. -/
theorem ownTurns_suffix (i : ι) {ts ts' : List (ι × Turn Ask Answer)} (h : ts <:+ ts') :
    ownTurns i ts <:+ ownTurns i ts' := by
  obtain ⟨before, rfl⟩ := h
  rw [ownTurns_append]
  exact List.suffix_append _ _

theorem ownTurns_cons_self (i : ι) (t : Turn Ask Answer) (ts : List (ι × Turn Ask Answer)) :
    ownTurns i ((i, t) :: ts) = t :: ownTurns i ts := by
  simp [ownTurns]

/-- A turn belongs to the turns of its dialogue. -/
theorem mem_ownTurns {i : ι} {t : Turn Ask Answer} {ts : List (ι × Turn Ask Answer)} :
    t ∈ ownTurns i ts ↔ (i, t) ∈ ts := by
  simp only [ownTurns, List.mem_map, List.mem_filter, decide_eq_true_eq]
  constructor
  · rintro ⟨⟨j, u⟩, ⟨hu, rfl⟩, rfl⟩
    exact hu
  · intro ht
    exact ⟨(i, t), ⟨ht, rfl⟩, rfl⟩

/-- The own turns one after the other: before the first of them and behind it are the turns of
others. -/
theorem ownTurns_eq_cons {i : ι} {t : Turn Ask Answer} {rest : List (Turn Ask Answer)}
    {ts : List (ι × Turn Ask Answer)} (own : ownTurns i ts = t :: rest) :
    ∃ before after, ts = before ++ (i, t) :: after ∧ ownTurns i before = [] ∧
      ownTurns i after = rest := by
  induction ts with
  | nil => exact nomatch own
  | cons u us ih =>
    obtain ⟨j, u⟩ := u
    by_cases hj : j = i
    · subst hj
      rw [ownTurns_cons_self] at own
      obtain ⟨rfl, rfl⟩ := List.cons.inj own
      exact ⟨[], us, rfl, rfl, rfl⟩
    · have other (vs : List (ι × Turn Ask Answer)) : ownTurns i ((j, u) :: vs) = ownTurns i vs := by
        simp [ownTurns, hj]
      rw [other] at own
      obtain ⟨before, after, rfl, none, later⟩ := ih own
      exact ⟨(j, u) :: before, after, rfl, by rw [other, none], later⟩

/-! ## The invariant -/

/-- Each dialogue has come from `d` to where it is by its own turns, and the other side has come
from `s` to what it remembers by all turns. -/
structure Sound (h : Handler Ask Answer σ) (d : ι → Dialogue Ask Answer α) (s : σ)
    (p : Pool ι Ask Answer α σ) : Prop where
  leads : ∀ i, (d i).Leads (ownTurns i p.turns) (p.notices i) (p.rest i)
  gives : h.Gives s (p.turns.map Prod.snd) p.state

variable {h : Handler Ask Answer σ} {d : ι → Dialogue Ask Answer α} {s : σ}
  {p : Pool ι Ask Answer α σ}

theorem sound_start (h : Handler Ask Answer σ) (d : ι → Dialogue Ask Answer α) (s : σ) :
    (start d s).Sound h d s :=
  ⟨fun _ => .rest _, rfl⟩

/-- A step keeps the invariant. -/
theorem Sound.step (sound : p.Sound h d s) (i : ι) : (p.step h i).Sound h d s := by
  have here := sound.leads i
  unfold Pool.step
  split
  next => exact sound
  next n next hrest =>
    refine ⟨fun j => ?_, sound.gives⟩
    by_cases hj : j = i
    · subst hj
      rw [hrest] at here
      simpa using here.trans (.note (.rest next))
    · simpa [hj] using sound.leads j
  next q next hrest =>
    refine ⟨fun j => ?_, ?_⟩
    · by_cases hj : j = i
      · subst hj
        rw [hrest] at here
        have turn : (Dialogue.ask q next).Leads [⟨q, (h q p.state).1⟩] []
            (next (h q p.state).1) := .ask (.rest _)
        simpa [ownTurns_append, ownTurns] using here.trans turn
      · simpa [ownTurns_append, ownTurns, hj, Ne.symm hj] using sound.leads j
    · rw [List.map_append]
      exact Handler.gives_append.2 ⟨p.state, sound.gives, rfl, rfl⟩

/-- Every schedule keeps the invariant. -/
theorem Sound.hold (sound : p.Sound h d s) (schedule : List ι) :
    (p.hold h schedule).Sound h d s := by
  induction schedule generalizing p with
  | nil => exact sound
  | cons i rest ih => exact ih (sound.step i)

/-- A dialogue that has come to its end did so by its own turns. -/
theorem Sound.ends (sound : p.Sound h d s) {i : ι} {a : α} (done : p.rest i = .done a) :
    (d i).Ends (ownTurns i p.turns) (p.notices i) a := by
  have := sound.leads i
  rwa [done] at this

/-! ## Schedules that are long enough -/

/-- A step of another dialogue leaves a dialogue where it is. -/
theorem step_rest_of_ne {i j : ι} (hj : j ≠ i) : (p.step h j).rest i = p.rest i := by
  unfold Pool.step
  split
  · rfl
  · exact Function.update_of_ne hj.symm _ _
  · exact Function.update_of_ne hj.symm _ _

/-- A step of a dialogue takes it nearer to its end. -/
theorem step_endsWithin {i : ι} {n : Nat} (bound : (p.rest i).EndsWithin n) :
    ((p.step h i).rest i).EndsWithin (n - 1) := by
  unfold Pool.step
  split
  next a here =>
    rw [here]
    exact .done _ a
  next m next here =>
    rw [here] at bound
    cases bound with
    | note bound => simpa using bound
  next q next here =>
    rw [here] at bound
    cases bound with
    | ask bound => simpa using bound _

/-- A dialogue that a schedule names often enough comes to its end. -/
theorem hold_done {i : ι} {n : Nat} {schedule : List ι} (bound : (p.rest i).EndsWithin n)
    (enough : n ≤ schedule.count i) : ∃ a, (p.hold h schedule).rest i = .done a := by
  induction schedule generalizing p n with
  | nil =>
    obtain rfl : n = 0 := Nat.le_zero.1 enough
    cases here : p.rest i with
    | done a => exact ⟨a, here⟩
    | note | ask =>
      rw [here] at bound
      exact nomatch bound
  | cons j rest ih =>
    by_cases hj : j = i
    · subst hj
      rw [List.count_cons_self] at enough
      exact ih (step_endsWithin bound) (by omega)
    · rw [List.count_cons_of_ne hj] at enough
      refine ih ?_ enough
      rw [step_rest_of_ne hj]
      exact bound

/-! ## Questions in other words -/

/-- What a dialogue has ended in, if it has. -/
def result? (p : Pool ι Ask Answer α σ) (i : ι) : Option α :=
  match p.rest i with
  | .done a => some a
  | _ => none

omit [DecidableEq ι] in
theorem result?_eq_some {i : ι} {a : α} : p.result? i = some a ↔ p.rest i = .done a := by
  rw [result?]
  cases p.rest i <;> simp

section Expand

variable {Ask' : Type} {Answer' : Ask' → Type} {h : Handler Ask' Answer' σ}
  {f : (q : Ask) → Dialogue Ask' Answer' (Answer q)} {p : Pool ι Ask' Answer' α σ}
  {p' : Pool ι Ask Answer α σ}

/-- The first pool is the second one with each question put as one question in other words. -/
structure Mirrors (f : (q : Ask) → Dialogue Ask' Answer' (Answer q)) (p : Pool ι Ask' Answer' α σ)
    (p' : Pool ι Ask Answer α σ) : Prop where
  rest : ∀ i, p.rest i = (p'.rest i).expand f
  notices : p.notices = p'.notices
  state : p.state = p'.state
  single : ∀ i, (p'.rest i).AsksOnly fun q => (f q).IsQuestion

/-- A step of one is a step of the other. -/
theorem Mirrors.step (mirrors : p.Mirrors f p') (i : ι) :
    (p.step h i).Mirrors f (p'.step (h.through f) i) := by
  obtain ⟨rest, notices, state, single⟩ := mirrors
  have here := rest i
  have asks := single i
  cases going : p'.rest i with
  | done a =>
    rw [going] at here
    simp only [Pool.step, going, here, Dialogue.expand]
    exact ⟨rest, notices, state, single⟩
  | note n next =>
    rw [going] at here asks
    cases asks with
    | note asks =>
      simp only [Pool.step, going, here, Dialogue.expand]
      refine ⟨fun j => ?_, by rw [notices], state, fun j => ?_⟩
      · by_cases hj : j = i
        · subst hj
          simp
        · simpa [hj] using rest j
      · by_cases hj : j = i
        · subst hj
          simpa using asks
        · simpa [hj] using single j
  | ask q next =>
    rw [going] at here asks
    cases asks with
    | ask question asks =>
      obtain ⟨r, g, words⟩ := question
      simp only [Dialogue.expand, words, Dialogue.ask_bind, Dialogue.done_bind] at here
      simp only [Pool.step, going, here, Handler.through, words, Dialogue.run_ask,
        Dialogue.run_done, state]
      refine ⟨fun j => ?_, notices, rfl, fun j => ?_⟩
      · by_cases hj : j = i
        · subst hj
          simp
        · simpa [hj] using rest j
      · by_cases hj : j = i
        · subst hj
          simpa using asks _
        · simpa [hj] using single j

/-- A schedule of one is a schedule of the other. -/
theorem Mirrors.hold (mirrors : p.Mirrors f p') (schedule : List ι) :
    (p.hold h schedule).Mirrors f (p'.hold (h.through f) schedule) := by
  induction schedule generalizing p p' with
  | nil => exact mirrors
  | cons i rest ih => exact ih (mirrors.step i)

omit [DecidableEq ι] in
/-- Both have ended in the same. -/
theorem Mirrors.result? (mirrors : p.Mirrors f p') : p.result? = p'.result? := by
  funext i
  have asks := mirrors.single i
  rw [Pool.result?, Pool.result?, mirrors.rest i]
  cases going : p'.rest i with
  | done a => rfl
  | note n next => rfl
  | ask q next =>
    rw [going] at asks
    cases asks with
    | ask question asks =>
      obtain ⟨r, g, words⟩ := question
      rw [Dialogue.expand, words]
      rfl

end Expand

/-- Dialogues that are put in other words end as the dialogues do, with one who answers in these
words. -/
theorem hold_expand {Ask' : Type} {Answer' : Ask' → Type} (h : Handler Ask' Answer' σ)
    {f : (q : Ask) → Dialogue Ask' Answer' (Answer q)} {d : ι → Dialogue Ask Answer α}
    (single : ∀ i, (d i).AsksOnly fun q => (f q).IsQuestion)
    (s : σ) (schedule : List ι) :
    let p := (start (fun i => (d i).expand f) s).hold h schedule
    let p' := (start d s).hold (h.through f) schedule
    p.result? = p'.result? ∧ p.state = p'.state := by
  intro p p'
  have begins : (start (fun i => (d i).expand f) s).Mirrors f (start d s) :=
    ⟨fun _ => rfl, rfl, rfl, single⟩
  have mirrors : p.Mirrors f p' := begins.hold schedule
  exact ⟨mirrors.result?, mirrors.state⟩

end Pool

end MountKeys
