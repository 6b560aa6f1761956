import ContentPlatform.Program.Yields

/-!
# Executions with their steps written down

`recording exec` keeps, next to the state, every interaction so far and the state it was sent in, so
that a condition on the steps of an execution is one on its last state.
-/

set_option autoImplicit false

namespace ContentPlatform.Program

section
variable {Op : Type} {Res : Op → Type} {ε α S : Type}

def recording (exec : (op : Op) → S → Res op → S → Prop) (op : Op) (s : S × List (Op × S))
    (reply : Res op) (s' : S × List (Op × S)) : Prop :=
  exec op s.1 reply s'.1 ∧ s'.2 = s.2 ++ [(op, s.1)]

variable {exec : (op : Op) → S → Res op → S → Prop}

/-- Nothing is asked of how the state moves. -/
instance : Evolves (recording exec) fun _ _ => True where
  refl _ := trivial
  trans _ _ := trivial
  step _ := trivial

theorem Runs.recorded {p : Prog Op Res ε α} {s s' : S} {outcome : Except ε α}
    (run : Runs exec p s outcome s') (before : List (Op × S)) :
    ∃ steps, Runs (recording exec) p (s, before) outcome (s', before ++ steps) := by
  induction run generalizing before with
  | ret value s => exact ⟨[], by rw [List.append_nil]; exact .ret value _⟩
  | raise error s => exact ⟨[], by rw [List.append_nil]; exact .raise error _⟩
  | @call op next s s' s'' reply outcome step _ ih =>
      obtain ⟨steps, rest⟩ := ih (before ++ [(op, s)])
      rw [List.append_assoc] at rest
      exact ⟨(op, s) :: steps, .call ⟨step, rfl⟩ rest⟩

end

end ContentPlatform.Program
