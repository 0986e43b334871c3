import MountKeys.Log.Notice

/-!
# Dialogues

A computation that asks questions and logs notices.  A dialogue is data: what it does with an answer
is known without anyone there to answer, so that one computation can be run against a store in
memory, put as requests to a server, or given any answers at all.
-/

namespace MountKeys

/-- A computation that asks questions `Ask`, each answered by an `Answer`, and ends in an `α`. -/
inductive Dialogue (Ask : Type) (Answer : Ask → Type) (α : Type)
  | done (a : α)
  | note (n : Notice) (next : Dialogue Ask Answer α)
  | ask (q : Ask) (next : Answer q → Dialogue Ask Answer α)

/-- One who answers questions and remembers a `σ` in between. -/
abbrev Handler (Ask : Type) (Answer : Ask → Type) (σ : Type) :=
  (q : Ask) → σ → Answer q × σ

/-- A dialogue that was held to its end. -/
structure Run (Ask α σ : Type) where
  /-- What it ended in. -/
  value : α
  /-- What it logged, in order. -/
  notices : List Notice
  /-- What it asked, in order. -/
  asked : List Ask
  /-- What the other side remembers. -/
  state : σ

namespace Dialogue

variable {Ask Ask' : Type} {Answer : Ask → Type} {Answer' : Ask' → Type} {α β σ : Type}

/-- Go on with the value that a dialogue ends in. -/
def bind : Dialogue Ask Answer α → (α → Dialogue Ask Answer β) → Dialogue Ask Answer β
  | .done a, f => f a
  | .note n next, f => .note n (next.bind f)
  | .ask q next, f => .ask q fun answer => (next answer).bind f

instance : Monad (Dialogue Ask Answer) where
  pure := .done
  bind := bind

/-- Ask one question. -/
def send (q : Ask) : Dialogue Ask Answer (Answer q) :=
  .ask q .done

/-- Log one notice. -/
def log (n : Notice) : Dialogue Ask Answer Unit :=
  .note n (.done ())

/-- Log some notices. -/
def logAll : List Notice → Dialogue Ask Answer Unit
  | [] => .done ()
  | n :: rest => .note n (logAll rest)

/-- The dialogue in which each question is put as a dialogue of its own. -/
def expand (f : (q : Ask) → Dialogue Ask' Answer' (Answer q)) :
    Dialogue Ask Answer α → Dialogue Ask' Answer' α
  | .done a => .done a
  | .note n next => .note n (next.expand f)
  | .ask q next => (f q).bind fun answer => (next answer).expand f

/-- Hold a dialogue to its end. -/
def run (h : Handler Ask Answer σ) : Dialogue Ask Answer α → σ → Run Ask α σ
  | .done a, s => ⟨a, [], [], s⟩
  | .note n next, s =>
    let rest := next.run h s
    { rest with notices := n :: rest.notices }
  | .ask q next, s =>
    let (answer, s) := h q s
    let rest := (next answer).run h s
    { rest with asked := q :: rest.asked }

end Dialogue

/-- The one who answers some questions as told and leaves the others to `h`. -/
def Handler.overriding {Ask : Type} {Answer : Ask → Type} {σ : Type}
    (told : (q : Ask) → Option (Answer q)) (h : Handler Ask Answer σ) : Handler Ask Answer σ :=
  fun q s =>
    match told q with
    | some answer => (answer, s)
    | none => h q s

end MountKeys
