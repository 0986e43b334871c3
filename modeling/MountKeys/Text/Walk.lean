/-!
# Reading by steps

A reader with a state takes one step after the other until a step says that it is done.  Every
step but the last has to take something off the text, so that there is an end to it.
-/

namespace MountKeys.Text

/-- What a step of a reader comes to. -/
inductive Step (σ : Type) (β : Type)
  /-- Go on in a state. -/
  | next (state : σ)
  /-- Stop with a result. -/
  | done (result : β)

/-- The result of the steps from a state on, and what is left of the text after the last one; none
if a step fails, or takes nothing and goes on. -/
def walk (step : σ → List Char → Option (Step σ β × List Char)) (state : σ) (cs : List Char) :
    Option (β × List Char) :=
  match step state cs with
  | none => none
  | some (.done result, rest) => some (result, rest)
  | some (.next state, rest) =>
    if rest.length < cs.length then walk step state rest else none
termination_by cs.length

variable {step : σ → List Char → Option (Step σ β × List Char)} {state state' : σ}

theorem walk_done {cs rest : List Char} {result : β}
    (h : step state cs = some (.done result, rest)) : walk step state cs = some (result, rest) := by
  rw [walk, h]

/-- A step that takes something off the text is one step of the walk. -/
theorem walk_next {front rest : List Char}
    (h : step state (front ++ rest) = some (.next state', rest)) (taken : front ≠ []) :
    walk step state (front ++ rest) = walk step state' rest := by
  have shorter : rest.length < (front ++ rest).length := by
    rw [List.length_append]
    exact Nat.lt_add_of_pos_left (List.length_pos_iff.2 taken)
  rw [walk, h]
  exact if_pos shorter

end MountKeys.Text
