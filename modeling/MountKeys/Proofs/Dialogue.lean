import MountKeys.Dialogue

/-!
# How dialogues go

A dialogue is data, and what becomes of it depends on the answers alone.  This module says so in
three ways, each the base of a kind of statement about programs that are written as dialogues.

* `Dialogue.Leads` relates a dialogue to the turns that it has, the notices that it logs on the way
  and what is left of it.  `Dialogue.Ends` is the case in which nothing is left but a value.
  Neither mentions who answers, so an inversion lemma of a dialogue holds for every handler and for
  dialogues that are held side by side.
* `Dialogue.turns` are the turns that a dialogue has with a handler.  `run_ends` and `run_gives`
  tie them to `Dialogue.run`: the dialogue ends by these turns, and the handler gives these answers.
* `Handler.through` answers the questions of one dialogue by holding another one.  `expand_run`
  moves a run of an expanded dialogue to a run of the dialogue itself, and `expand_turns` says which
  turns it has.  `Dialogue.LogsOnly` and `Dialogue.AsksOnly` bound what its parts can log and ask,
  and `Dialogue.StopsAt` says which notices are the last thing that it does.
-/

namespace MountKeys

/-- A question with the answer that it got. -/
abbrev Turn (Ask : Type) (Answer : Ask → Type) :=
  (q : Ask) × Answer q

namespace Dialogue

variable {Ask Ask' : Type} {Answer : Ask → Type} {Answer' : Ask' → Type} {α β σ : Type}

/-! ## Turns -/

/-- `d.Leads ts ns d'`: with the turns `ts` the dialogue `d` logs `ns`, and `d'` is left of it. -/
inductive Leads : Dialogue Ask Answer α → List (Turn Ask Answer) → List Notice →
    Dialogue Ask Answer α → Prop
  | rest (d) : Leads d [] [] d
  | note {n next ts ns d} : Leads next ts ns d → Leads (.note n next) ts (n :: ns) d
  | ask {q next answer ts ns d} :
    Leads (next answer) ts ns d → Leads (.ask q next) (⟨q, answer⟩ :: ts) ns d

/-- `d.Ends ts ns a`: with the turns `ts` the dialogue `d` logs `ns` and ends in `a`. -/
def Ends (d : Dialogue Ask Answer α) (ts : List (Turn Ask Answer)) (ns : List Notice) (a : α) :
    Prop :=
  d.Leads ts ns (.done a)

/-- What is left of a dialogue goes on where the dialogue stopped. -/
theorem Leads.trans {d d' d'' : Dialogue Ask Answer α} {ts ts' : List (Turn Ask Answer)}
    {ns ns' : List Notice} (h : d.Leads ts ns d') (h' : d'.Leads ts' ns' d'') :
    d.Leads (ts ++ ts') (ns ++ ns') d'' := by
  induction h with
  | rest d => exact h'
  | note _ ih => exact .note (ih h')
  | ask _ ih => exact .ask (ih h')

@[simp] theorem done_ends {a b : α} {ts : List (Turn Ask Answer)} {ns : List Notice} :
    (done a).Ends ts ns b ↔ ts = [] ∧ ns = [] ∧ a = b := by
  constructor
  · intro h
    cases h
    exact ⟨rfl, rfl, rfl⟩
  · rintro ⟨rfl, rfl, rfl⟩
    exact .rest _

@[simp] theorem note_ends {n : Notice} {next : Dialogue Ask Answer α} {b : α}
    {ts : List (Turn Ask Answer)} {ns : List Notice} :
    (note n next).Ends ts ns b ↔ ∃ ns', ns = n :: ns' ∧ next.Ends ts ns' b := by
  constructor
  · intro h
    cases h with
    | note h => exact ⟨_, rfl, h⟩
  · rintro ⟨ns', rfl, h⟩
    exact .note h

theorem note_done_ends {n : Notice} {a b : α} {ts : List (Turn Ask Answer)} {ns : List Notice} :
    (note n (done a)).Ends ts ns b ↔ ts = [] ∧ ns = [n] ∧ a = b := by
  rw [note_ends]
  constructor
  · rintro ⟨ns', rfl, h⟩
    obtain ⟨rfl, rfl, rfl⟩ := done_ends.1 h
    exact ⟨rfl, rfl, rfl⟩
  · rintro ⟨rfl, rfl, rfl⟩
    exact ⟨[], rfl, .rest _⟩

@[simp] theorem ask_ends {q : Ask} {next : Answer q → Dialogue Ask Answer α} {b : α}
    {ts : List (Turn Ask Answer)} {ns : List Notice} :
    (ask q next).Ends ts ns b ↔
      ∃ answer ts', ts = ⟨q, answer⟩ :: ts' ∧ (next answer).Ends ts' ns b := by
  constructor
  · intro h
    cases h with
    | ask h => exact ⟨_, _, rfl, h⟩
  · rintro ⟨answer, ts', rfl, h⟩
    exact .ask h

/-- A dialogue that goes on with the value of another one ends after both have ended. -/
theorem bind_ends {d : Dialogue Ask Answer α} {f : α → Dialogue Ask Answer β} {b : β}
    {ts : List (Turn Ask Answer)} {ns : List Notice} :
    (d.bind f).Ends ts ns b ↔ ∃ ts₁ ns₁ a ts₂ ns₂,
      d.Ends ts₁ ns₁ a ∧ (f a).Ends ts₂ ns₂ b ∧ ts = ts₁ ++ ts₂ ∧ ns = ns₁ ++ ns₂ := by
  constructor
  · intro h
    induction d generalizing ts ns with
    | done a => exact ⟨[], [], a, ts, ns, .rest _, h, rfl, rfl⟩
    | note n next ih =>
      obtain ⟨ns', rfl, hnext⟩ := note_ends.1 h
      obtain ⟨ts₁, ns₁, a, ts₂, ns₂, h₁, h₂, rfl, rfl⟩ := ih hnext
      exact ⟨ts₁, n :: ns₁, a, ts₂, ns₂, .note h₁, h₂, rfl, rfl⟩
    | ask q next ih =>
      obtain ⟨answer, ts', rfl, hnext⟩ := ask_ends.1 h
      obtain ⟨ts₁, ns₁, a, ts₂, ns₂, h₁, h₂, rfl, rfl⟩ := ih answer hnext
      exact ⟨⟨q, answer⟩ :: ts₁, ns₁, a, ts₂, ns₂, .ask h₁, h₂, rfl, rfl⟩
  · rintro ⟨ts₁, ns₁, a, ts₂, ns₂, h₁, h₂, rfl, rfl⟩
    induction d generalizing ts₁ ns₁ with
    | done a' =>
      obtain ⟨rfl, rfl, rfl⟩ := done_ends.1 h₁
      exact h₂
    | note n next ih =>
      obtain ⟨ns', rfl, h⟩ := note_ends.1 h₁
      exact .note (ih ts₁ ns' h)
    | ask q next ih =>
      obtain ⟨answer, ts', rfl, h⟩ := ask_ends.1 h₁
      exact .ask (ih answer ts' ns₁ h)

/-! ## Sequences in normal form -/

@[simp] theorem bind_eq (d : Dialogue Ask Answer α) (f : α → Dialogue Ask Answer β) :
    d >>= f = d.bind f := rfl

@[simp] theorem pure_eq (a : α) : (pure a : Dialogue Ask Answer α) = done a := rfl

@[simp] theorem done_bind (a : α) (f : α → Dialogue Ask Answer β) : (done a).bind f = f a := rfl

@[simp] theorem ask_bind (q : Ask) (next : Answer q → Dialogue Ask Answer α)
    (f : α → Dialogue Ask Answer β) :
    (ask q next).bind f = ask q fun answer => (next answer).bind f := rfl

@[simp] theorem send_bind (q : Ask) (f : Answer q → Dialogue Ask Answer β) :
    (send q).bind f = ask q f := rfl

@[simp] theorem log_bind (n : Notice) (f : Unit → Dialogue Ask Answer β) :
    (log n).bind f = note n (f ()) := rfl

/-- It makes no difference which two of three dialogues are put together first. -/
theorem bind_assoc {γ : Type} (d : Dialogue Ask Answer α) (f : α → Dialogue Ask Answer β)
    (g : β → Dialogue Ask Answer γ) : (d.bind f).bind g = d.bind fun a => (f a).bind g := by
  induction d with
  | done a => rfl
  | note n next ih => exact congrArg (note n) ih
  | ask q next ih => exact congrArg (ask q) (funext fun answer => ih answer)

/-! ## Runs -/

@[simp] theorem run_done (h : Handler Ask Answer σ) (a : α) (s : σ) :
    (done a).run h s = ⟨a, [], [], s⟩ := rfl

@[simp] theorem run_note (h : Handler Ask Answer σ) (n : Notice) (d : Dialogue Ask Answer α)
    (s : σ) :
    (note n d).run h s = { d.run h s with notices := n :: (d.run h s).notices } := rfl

@[simp] theorem run_ask (h : Handler Ask Answer σ) (q : Ask)
    (next : Answer q → Dialogue Ask Answer α) (s : σ) :
    (ask q next).run h s =
      let rest := (next (h q s).1).run h (h q s).2
      { rest with asked := q :: rest.asked } := rfl

/-- To log some notices logs them and does no more. -/
@[simp] theorem run_logAll (h : Handler Ask Answer σ) (ns : List Notice) (s : σ) :
    (logAll ns : Dialogue Ask Answer Unit).run h s = ⟨(), ns, [], s⟩ := by
  induction ns with
  | nil => rfl
  | cons n rest ih => rw [logAll, run_note, ih]

/-- A run of two dialogues in sequence. -/
theorem run_bind (h : Handler Ask Answer σ) (d : Dialogue Ask Answer α)
    (f : α → Dialogue Ask Answer β) (s : σ) :
    (d.bind f).run h s =
      let first := d.run h s
      let second := (f first.value).run h first.state
      ⟨second.value, first.notices ++ second.notices, first.asked ++ second.asked,
        second.state⟩ := by
  induction d generalizing s with
  | done a => rfl
  | note n next ih => simp only [bind, run_note, ih, List.cons_append]
  | ask q next ih => simp only [bind, run_ask, ih, List.cons_append]

/-- The turns that a dialogue has with a handler. -/
def turns (h : Handler Ask Answer σ) : Dialogue Ask Answer α → σ → List (Turn Ask Answer)
  | .done _, _ => []
  | .note _ next, s => next.turns h s
  | .ask q next, s =>
    let (answer, s) := h q s
    ⟨q, answer⟩ :: (next answer).turns h s

/-- A run has the turns of its dialogue with the handler. -/
theorem run_ends (h : Handler Ask Answer σ) (d : Dialogue Ask Answer α) (s : σ) :
    d.Ends (d.turns h s) (d.run h s).notices (d.run h s).value := by
  induction d generalizing s with
  | done a => exact .rest _
  | note n next ih => exact .note (ih s)
  | ask q next ih => exact .ask (ih _ _)

/-- The turns of two dialogues in sequence. -/
theorem turns_bind (h : Handler Ask Answer σ) (d : Dialogue Ask Answer α)
    (f : α → Dialogue Ask Answer β) (s : σ) :
    (d.bind f).turns h s =
      d.turns h s ++ (f (d.run h s).value).turns h (d.run h s).state := by
  induction d generalizing s with
  | done a => rfl
  | note n next ih => exact ih s
  | ask q next ih =>
    rw [bind, turns, turns, List.cons_append]
    exact congrArg (_ :: ·) (ih _ _)

/-- What a run asked are the questions of its turns. -/
theorem run_asked (h : Handler Ask Answer σ) (d : Dialogue Ask Answer α) (s : σ) :
    (d.run h s).asked = (d.turns h s).map Sigma.fst := by
  induction d generalizing s with
  | done a => rfl
  | note n next ih => exact ih s
  | ask q next ih =>
    rw [run_ask, turns, List.map_cons]
    exact congrArg (q :: ·) (ih _ _)

end Dialogue

/-! ## What a handler says -/

namespace Handler

variable {Ask Ask' : Type} {Answer : Ask → Type} {Answer' : Ask' → Type} {α σ : Type}

/-- `h.Gives s ts s'`: from `s` on the handler gives the answers in `ts`, one after the other, and
remembers `s'` in the end. -/
def Gives (h : Handler Ask Answer σ) : σ → List (Turn Ask Answer) → σ → Prop
  | s, [], s' => s = s'
  | s, t :: ts, s' => t.2 = (h t.1 s).1 ∧ h.Gives (h t.1 s).2 ts s'

/-- A handler gives one answer and then the others. -/
theorem gives_cons {h : Handler Ask Answer σ} {s s' : σ} {q : Ask} {answer : Answer q}
    {ts : List (Turn Ask Answer)} :
    h.Gives s (⟨q, answer⟩ :: ts) s' ↔ ∃ m, h q s = (answer, m) ∧ h.Gives m ts s' := by
  constructor
  · rintro ⟨same, rest⟩
    exact ⟨(h q s).2, Prod.ext same.symm rfl, rest⟩
  · rintro ⟨m, asked, rest⟩
    rw [Gives, asked]
    exact ⟨rfl, rest⟩

/-- A handler gives two lists of answers one after the other. -/
theorem gives_append {h : Handler Ask Answer σ} {s s' : σ} {ts ts' : List (Turn Ask Answer)} :
    h.Gives s (ts ++ ts') s' ↔ ∃ m, h.Gives s ts m ∧ h.Gives m ts' s' := by
  induction ts generalizing s with
  | nil => simp [Gives]
  | cons t rest ih => simp only [List.cons_append, Gives, ih, and_assoc, exists_and_left]

/-- A run ends with the handler in the state that its answers lead to. -/
theorem run_gives (h : Handler Ask Answer σ) (d : Dialogue Ask Answer α) (s : σ) :
    h.Gives s (d.turns h s) (d.run h s).state := by
  induction d generalizing s with
  | done a => rfl
  | note n next ih => exact ih s
  | ask q next ih => exact ⟨rfl, ih _ _⟩

/-- A property of what the handler remembers, kept by each of its answers, is kept by all. -/
theorem Gives.keeps {h : Handler Ask Answer σ} {P : σ → Prop} {ts : List (Turn Ask Answer)}
    (step : ∀ t ∈ ts, ∀ s, P s → t.2 = (h t.1 s).1 → P (h t.1 s).2) {s s' : σ}
    (gives : h.Gives s ts s') (init : P s) : P s' := by
  induction ts generalizing s with
  | nil => exact gives ▸ init
  | cons t rest ih =>
    obtain ⟨answer, gives⟩ := gives
    exact ih (fun u hu => step u (List.mem_cons_of_mem _ hu)) gives
      (step t List.mem_cons_self s init answer)

/-! ## Dialogues in other words -/

/-- The handler that answers each question by holding a dialogue about it with `h`. -/
def through (f : (q : Ask) → Dialogue Ask' Answer' (Answer q)) (h : Handler Ask' Answer' σ) :
    Handler Ask Answer σ :=
  fun q s =>
    let r := (f q).run h s
    (r.value, r.state)

/-- The turns of the dialogues that are held about the questions of some turns, in order. -/
def inner (f : (q : Ask) → Dialogue Ask' Answer' (Answer q)) (h : Handler Ask' Answer' σ) :
    σ → List (Turn Ask Answer) → List (Turn Ask' Answer')
  | _, [] => []
  | s, t :: ts => (f t.1).turns h s ++ inner f h ((f t.1).run h s).state ts

end Handler

namespace Dialogue

variable {Ask Ask' : Type} {Answer : Ask → Type} {Answer' : Ask' → Type} {α σ : Type}

/-- The dialogue about each of some turns is held. -/
theorem inner_of_mem (f : (q : Ask) → Dialogue Ask' Answer' (Answer q))
    (h : Handler Ask' Answer' σ) {ts : List (Turn Ask Answer)} {t : Turn Ask Answer} (ht : t ∈ ts)
    (s : σ) : ∃ s', ∀ u ∈ (f t.1).turns h s', u ∈ h.inner f s ts := by
  induction ts generalizing s with
  | nil => exact nomatch ht
  | cons t' rest ih =>
    rcases List.mem_cons.1 ht with rfl | ht
    · exact ⟨s, fun u hu => List.mem_append_left _ hu⟩
    · obtain ⟨s', held⟩ := ih ht ((f t'.1).run h s).state
      exact ⟨s', fun u hu => List.mem_append_right _ (held u hu)⟩

/-- An expanded dialogue has the turns of its parts. -/
theorem expand_turns (f : (q : Ask) → Dialogue Ask' Answer' (Answer q))
    (h : Handler Ask' Answer' σ) (d : Dialogue Ask Answer α) (s : σ) :
    (d.expand f).turns h s = h.inner f s (d.turns (h.through f) s) := by
  induction d generalizing s with
  | done a => rfl
  | note n next ih => exact ih s
  | ask q next ih =>
    rw [expand, turns_bind, ih]
    rfl

/-- An expanded dialogue ends as the dialogue itself does with a handler that holds the parts. -/
theorem expand_run (f : (q : Ask) → Dialogue Ask' Answer' (Answer q))
    (h : Handler Ask' Answer' σ) (d : Dialogue Ask Answer α) (s : σ) :
    ((d.expand f).run h s).value = (d.run (h.through f) s).value ∧
      ((d.expand f).run h s).state = (d.run (h.through f) s).state := by
  induction d generalizing s with
  | done a => exact ⟨rfl, rfl⟩
  | note n next ih => exact ih s
  | ask q next ih =>
    rw [expand, run_bind, run_ask]
    exact ih _ _

/-- An expanded dialogue logs what the dialogue itself logs, and what its parts log. -/
theorem mem_expand_notices {f : (q : Ask) → Dialogue Ask' Answer' (Answer q)}
    {h : Handler Ask' Answer' σ} {d : Dialogue Ask Answer α} {s : σ} {n : Notice}
    (hn : n ∈ ((d.expand f).run h s).notices) :
    n ∈ (d.run (h.through f) s).notices ∨ ∃ q s', n ∈ ((f q).run h s').notices := by
  induction d generalizing s with
  | done a => exact absurd hn List.not_mem_nil
  | note m next ih =>
    rcases List.mem_cons.1 hn with rfl | hn
    · exact .inl List.mem_cons_self
    · exact (ih hn).imp_left (List.mem_cons_of_mem _)
  | ask q next ih =>
    rw [expand, run_bind] at hn
    rcases List.mem_append.1 hn with hn | hn
    · exact .inr ⟨q, s, hn⟩
    · exact ih _ hn

/-! ## What a dialogue logs -/

/-- Every notice that the dialogue can log, whatever the answers, has the property. -/
inductive LogsOnly (P : Notice → Prop) : Dialogue Ask Answer α → Prop
  | done (a : α) : LogsOnly P (.done a)
  | note {n : Notice} {next : Dialogue Ask Answer α} :
    P n → LogsOnly P next → LogsOnly P (.note n next)
  | ask {q : Ask} {next : Answer q → Dialogue Ask Answer α} :
    (∀ answer, LogsOnly P (next answer)) → LogsOnly P (.ask q next)

theorem LogsOnly.bind {P : Notice → Prop} {β : Type} {d : Dialogue Ask Answer α}
    {f : α → Dialogue Ask Answer β} (hd : d.LogsOnly P) (hf : ∀ a, (f a).LogsOnly P) :
    (d.bind f).LogsOnly P := by
  induction hd with
  | done a => exact hf a
  | note hn _ ih => exact .note hn ih
  | ask _ ih => exact .ask ih

theorem LogsOnly.mono {P Q : Notice → Prop} {d : Dialogue Ask Answer α} (hd : d.LogsOnly P)
    (weaker : ∀ n, P n → Q n) : d.LogsOnly Q := by
  induction hd with
  | done a => exact .done a
  | note hn _ ih => exact .note (weaker _ hn) ih
  | ask _ ih => exact .ask ih

/-- What the dialogue logs has the property. -/
theorem LogsOnly.of_leads {P : Notice → Prop} {d d' : Dialogue Ask Answer α} (hd : d.LogsOnly P)
    {ts : List (Turn Ask Answer)} {ns : List Notice} (leads : d.Leads ts ns d') :
    ∀ n ∈ ns, P n := by
  induction leads with
  | rest d => exact fun _ h => nomatch h
  | note _ ih =>
    cases hd with
    | note hn hnext => exact List.forall_mem_cons.2 ⟨hn, ih hnext⟩
  | ask _ ih =>
    cases hd with
    | ask hnext => exact ih (hnext _)

/-- What a run logs has the property. -/
theorem LogsOnly.of_mem {P : Notice → Prop} {d : Dialogue Ask Answer α} (hd : d.LogsOnly P)
    {h : Handler Ask Answer σ} {s : σ} {n : Notice} (hn : n ∈ (d.run h s).notices) : P n :=
  hd.of_leads (run_ends h d s) n hn

/-! ## What ends a dialogue -/

/-- After a notice with the property `P` the dialogue logs and asks no more, and what it ends in has
the property `Q`. -/
inductive StopsAt (P : Notice → Prop) (Q : α → Prop) : Dialogue Ask Answer α → Prop
  | done (a : α) : StopsAt P Q (.done a)
  | last {n : Notice} {a : α} : Q a → StopsAt P Q (.note n (.done a))
  | note {n : Notice} {next : Dialogue Ask Answer α} :
    ¬P n → StopsAt P Q next → StopsAt P Q (.note n next)
  | ask {q : Ask} {next : Answer q → Dialogue Ask Answer α} :
    (∀ answer, StopsAt P Q (next answer)) → StopsAt P Q (.ask q next)

section StopsAt

variable {P : Notice → Prop} {Q : α → Prop}

/-- A dialogue that logs no such notice has none to stop at. -/
theorem LogsOnly.stopsAt {d : Dialogue Ask Answer α} (hd : d.LogsOnly fun n => ¬P n) :
    d.StopsAt P Q := by
  induction hd with
  | done a => exact .done a
  | note hn _ ih => exact .note hn ih
  | ask _ ih => exact .ask ih

/-- Where a dialogue stops nothing follows it, and elsewhere another one that stops may. -/
theorem StopsAt.bind {β : Type} {R : β → Prop} {d : Dialogue Ask Answer α}
    {f : α → Dialogue Ask Answer β} (hd : d.StopsAt P Q)
    (stop : ∀ a, Q a → ∃ b, f a = .done b ∧ R b) (hf : ∀ a, (f a).StopsAt P R) :
    (d.bind f).StopsAt P R := by
  induction hd with
  | done a => exact hf a
  | @last n a ha =>
    obtain ⟨b, ends, hb⟩ := stop a ha
    rw [Dialogue.bind, done_bind, ends]
    exact .last hb
  | note hn _ ih => exact .note hn ih
  | ask _ ih => exact .ask ih

/-- A dialogue with nothing to stop at leaves it to what follows. -/
theorem LogsOnly.bind_stopsAt {β : Type} {R : β → Prop} {d : Dialogue Ask Answer α}
    {f : α → Dialogue Ask Answer β} (hd : d.LogsOnly fun n => ¬P n)
    (hf : ∀ a, (f a).StopsAt P R) : (d.bind f).StopsAt P R := by
  have goesOn : d.StopsAt P fun _ => False := hd.stopsAt
  exact goesOn.bind (fun _ stopped => stopped.elim) hf

/-- An expanded dialogue stops where the dialogue does, if its parts have nothing to stop at. -/
theorem StopsAt.expand {d : Dialogue Ask Answer α}
    {f : (q : Ask) → Dialogue Ask' Answer' (Answer q)} (hd : d.StopsAt P Q)
    (parts : ∀ q, (f q).LogsOnly fun n => ¬P n) :
    (d.expand f).StopsAt P Q := by
  induction hd with
  | done a => exact .done a
  | last ha => exact .last ha
  | note hn _ ih => exact .note hn ih
  | ask _ ih => exact (parts _).bind_stopsAt ih

/-- Of the notices of a dialogue that stops, none has the property or the last one alone. -/
theorem StopsAt.of_leads {d d' : Dialogue Ask Answer α} (hd : d.StopsAt P Q)
    {ts : List (Turn Ask Answer)} {ns : List Notice} (leads : d.Leads ts ns d') :
    (∀ n ∈ ns, ¬P n) ∨ ∃ init n, ns = init ++ [n] ∧ P n ∧ ∀ m ∈ init, ¬P m := by
  induction leads with
  | rest d => exact .inl fun _ h => nomatch h
  | @note n next ts ns d leads ih =>
    cases hd with
    | last ha =>
      cases leads
      by_cases hn : P n
      · exact .inr ⟨[], n, rfl, hn, fun _ h => nomatch h⟩
      · exact .inl (List.forall_mem_singleton.2 hn)
    | note hn hnext =>
      rcases ih hnext with none | ⟨init, last, rfl, hlast, others⟩
      · exact .inl (List.forall_mem_cons.2 ⟨hn, none⟩)
      · exact .inr ⟨n :: init, last, rfl, hlast, List.forall_mem_cons.2 ⟨hn, others⟩⟩
  | ask _ ih =>
    cases hd with
    | ask hnext => exact ih (hnext _)

end StopsAt

/-- An expanded dialogue logs the notices of a kind that the dialogue itself logs, if its parts log
none of that kind. -/
theorem filter_expand_notices {p : Notice → Bool} {d : Dialogue Ask Answer α}
    {f : (q : Ask) → Dialogue Ask' Answer' (Answer q)}
    (parts : ∀ q, (f q).LogsOnly fun n => ¬p n = true) (h : Handler Ask' Answer' σ) (s : σ) :
    ((d.expand f).run h s).notices.filter p = (d.run (h.through f) s).notices.filter p := by
  induction d generalizing s with
  | done a => rfl
  | note n next ih =>
    rw [expand, run_note, run_note, List.filter_cons, List.filter_cons, ih]
  | ask q next ih =>
    have quiet : ((f q).run h s).notices.filter p = [] :=
      List.filter_eq_nil_iff.2 fun n hn => (parts q).of_mem hn
    rw [expand, run_bind, List.filter_append, quiet, List.nil_append, ih]
    rfl

/-! ## What a dialogue asks -/

/-- Every question that the dialogue can ask, whatever the answers, has the property. -/
inductive AsksOnly (P : Ask → Prop) : Dialogue Ask Answer α → Prop
  | done (a : α) : AsksOnly P (.done a)
  | note {n : Notice} {next : Dialogue Ask Answer α} : AsksOnly P next → AsksOnly P (.note n next)
  | ask {q : Ask} {next : Answer q → Dialogue Ask Answer α} :
    P q → (∀ answer, AsksOnly P (next answer)) → AsksOnly P (.ask q next)

theorem AsksOnly.bind {P : Ask → Prop} {β : Type} {d : Dialogue Ask Answer α}
    {f : α → Dialogue Ask Answer β} (hd : d.AsksOnly P) (hf : ∀ a, (f a).AsksOnly P) :
    (d.bind f).AsksOnly P := by
  induction hd with
  | done a => exact hf a
  | note _ ih => exact .note ih
  | ask hq _ ih => exact .ask hq ih

/-- To log something asks nothing. -/
theorem logAll_asks {P : Ask → Prop} (ns : List Notice) :
    (logAll ns : Dialogue Ask Answer Unit).AsksOnly P := by
  induction ns with
  | nil => exact .done ()
  | cons n rest ih => exact .note ih

/-- An expanded dialogue asks what its parts ask. -/
theorem AsksOnly.expand {P : Ask → Prop} {Q : Ask' → Prop} {d : Dialogue Ask Answer α}
    {f : (q : Ask) → Dialogue Ask' Answer' (Answer q)} (hd : d.AsksOnly P)
    (parts : ∀ q, P q → (f q).AsksOnly Q) : (d.expand f).AsksOnly Q := by
  induction hd with
  | done a => exact .done a
  | note _ ih => exact .note ih
  | ask hq _ ih => exact (parts _ hq).bind ih

/-- The questions in the turns of the dialogue have the property. -/
theorem AsksOnly.of_leads {P : Ask → Prop} {d d' : Dialogue Ask Answer α} (hd : d.AsksOnly P)
    {ts : List (Turn Ask Answer)} {ns : List Notice} (leads : d.Leads ts ns d') :
    ∀ t ∈ ts, P t.1 := by
  induction leads with
  | rest d => exact fun _ h => nomatch h
  | note _ ih =>
    cases hd with
    | note hnext => exact ih hnext
  | ask _ ih =>
    cases hd with
    | ask hq hnext => exact List.forall_mem_cons.2 ⟨hq, ih (hnext _)⟩

/-- What a run asks has the property. -/
theorem AsksOnly.of_mem {P : Ask → Prop} {d : Dialogue Ask Answer α} (hd : d.AsksOnly P)
    {h : Handler Ask Answer σ} {s : σ} {q : Ask} (hq : q ∈ (d.run h s).asked) : P q := by
  rw [run_asked] at hq
  obtain ⟨t, ht, rfl⟩ := List.mem_map.1 hq
  exact hd.of_leads (run_ends h d s) t ht

/-- The questions of the dialogues that are held about some turns have the property. -/
theorem AsksOnly.of_inner {P : Ask' → Prop} {f : (q : Ask) → Dialogue Ask' Answer' (Answer q)}
    {h : Handler Ask' Answer' σ} {ts : List (Turn Ask Answer)}
    (parts : ∀ t ∈ ts, (f t.1).AsksOnly P) (s : σ) : ∀ u ∈ h.inner f s ts, P u.1 := by
  induction ts generalizing s with
  | nil => exact fun _ h => nomatch h
  | cons t rest ih =>
    rw [List.forall_mem_cons] at parts
    exact List.forall_mem_append.2 ⟨parts.1.of_leads (run_ends h (f t.1) s), ih parts.2 _⟩

/-- What a run of an expanded dialogue asks has the property if each dialogue that is held about a
turn asks no others. -/
theorem AsksOnly.of_mem_expand {P : Ask' → Prop} {d : Dialogue Ask Answer α}
    {f : (q : Ask) → Dialogue Ask' Answer' (Answer q)} {h : Handler Ask' Answer' σ} {s : σ}
    (parts : ∀ t ∈ d.turns (h.through f) s, (f t.1).AsksOnly P) {q : Ask'}
    (hq : q ∈ ((d.expand f).run h s).asked) : P q := by
  rw [run_asked, expand_turns] at hq
  obtain ⟨u, hu, rfl⟩ := List.mem_map.1 hq
  exact of_inner parts s u hu

/-- A property that questions of one kind keep is kept by a dialogue that asks no others. -/
theorem AsksOnly.keeps {P : Ask → Prop} {I : σ → Prop} {h : Handler Ask Answer σ}
    (step : ∀ q s, P q → I s → I (h q s).2) {d : Dialogue Ask Answer α} (hd : d.AsksOnly P)
    {s : σ} (init : I s) : I (d.run h s).state := by
  induction hd generalizing s with
  | done a => exact init
  | note _ ih => exact ih init
  | ask hq _ ih => exact ih _ (step _ s hq init)

/-! ## How long a dialogue is -/

/-- The dialogue has at most so many notices and questions, whatever the answers. -/
inductive EndsWithin : Nat → Dialogue Ask Answer α → Prop
  | done (n : Nat) (a : α) : EndsWithin n (.done a)
  | note {n : Nat} {m : Notice} {next : Dialogue Ask Answer α} :
    EndsWithin n next → EndsWithin (n + 1) (.note m next)
  | ask {n : Nat} {q : Ask} {next : Answer q → Dialogue Ask Answer α} :
    (∀ answer, EndsWithin n (next answer)) → EndsWithin (n + 1) (.ask q next)

/-- The dialogue is one question, and ends with what it makes of the answer. -/
def IsQuestion (d : Dialogue Ask Answer α) : Prop :=
  ∃ (q : Ask) (made : Answer q → α), d = .ask q fun answer => .done (made answer)

end Dialogue

end MountKeys
