import ContentPlatform.Program.Sequential
import Mathlib.Data.Nat.Notation

/-!
# Programs that are interrupted

`CutOff exec p s s'` says that an execution of `p` from `s` is in `s'` after some of its requests.
Whatever interrupts it there, nothing more of it happens.
-/

set_option autoImplicit false

namespace ContentPlatform.Program

open Prog

section
variable {Op : Type} {Res : Op → Type} {ε α β S : Type}

inductive CutOff (exec : (op : Op) → S → Res op → S → Prop) : Prog Op Res ε α → S → S → Prop where
  | here (p : Prog Op Res ε α) (s : S) : CutOff exec p s s
  | later {op : Op} {next : Res op → Prog Op Res ε α} {s s₁ s' : S} {reply : Res op} :
      exec op s reply s₁ → CutOff exec (next reply) s₁ s' → CutOff exec (.call op next) s s'

variable {exec : (op : Op) → S → Res op → S → Prop} {p : Prog Op Res ε α}
  {f : α → Prog Op Res ε β} {s s' : S}

theorem CutOff.of_ret {value : α} (cut : CutOff exec (.ret value : Prog Op Res ε α) s s') :
    s' = s := by
  cases cut
  rfl

theorem CutOff.of_raise {error : ε} (cut : CutOff exec (.raise error : Prog Op Res ε α) s s') :
    s' = s := by
  cases cut
  rfl

theorem CutOff.of_ofExcept {result : Except ε α}
    (cut : CutOff exec (.ofExcept result : Prog Op Res ε α) s s') : s' = s := by
  cases result with
  | ok value => exact cut.of_ret
  | error error => exact cut.of_raise

theorem CutOff.of_call {op : Op} {next : Res op → Prog Op Res ε α}
    (cut : CutOff exec (.call op next) s s') :
    s' = s ∨ ∃ reply s₁, exec op s reply s₁ ∧ CutOff exec (next reply) s₁ s' := by
  cases cut with
  | here _ _ => exact Or.inl rfl
  | later step rest => exact Or.inr ⟨_, _, step, rest⟩

/-- A sequence is interrupted in its first part, or in the second after the whole of the first. -/
theorem CutOff.of_bind (cut : CutOff exec (p.bind f) s s') :
    CutOff exec p s s' ∨
      ∃ value s₁, Runs exec p s (.ok value) s₁ ∧ CutOff exec (f value) s₁ s' := by
  induction p generalizing s with
  | ret value => exact Or.inr ⟨value, s, .ret value s, cut⟩
  | raise error =>
      obtain rfl := cut.of_raise
      exact Or.inl (.here _ _)
  | call op next ih =>
      rcases cut.of_call with rfl | ⟨reply, s₁, step, rest⟩
      · exact Or.inl (.here _ _)
      · rcases ih reply rest with first | ⟨value, s₂, first, second⟩
        · exact Or.inl (.later step first)
        · exact Or.inr ⟨value, s₂, .call step first, second⟩

theorem CutOff.of_reply {op : Op}
    (cut : CutOff exec (.call op .ret : Prog Op Res ε (Res op)) s s') :
    s' = s ∨ ∃ reply, exec op s reply s' := by
  rcases cut.of_call with rfl | ⟨reply, s₁, step, rest⟩
  · exact Or.inl rfl
  · obtain rfl := rest.of_ret
    exact Or.inr ⟨reply, step⟩

/-- A sequence that returns has come through its first part. -/
theorem Runs.of_bind {value : β} (run : Runs exec (p.bind f) s (.ok value) s') :
    ∃ middle s₁, Runs exec p s (.ok middle) s₁ ∧ Runs exec (f middle) s₁ (.ok value) s' := by
  obtain ⟨middle, s₁, first, rest⟩ := Runs.of_cont run
  cases middle with
  | ok middle => exact ⟨middle, s₁, first, rest⟩
  | error error => cases rest

theorem Runs.of_ofExcept {result : Except ε α} {value : α}
    (run : Runs exec (.ofExcept result : Prog Op Res ε α) s (.ok value) s') :
    result = .ok value ∧ s' = s := by
  cases result with
  | ok value' =>
      cases run
      exact ⟨rfl, rfl⟩
  | error error => cases run

theorem Runs.of_reply {op : Op} {value : Res op}
    (run : Runs exec (.call op .ret : Prog Op Res ε (Res op)) s (.ok value) s') :
    exec op s value s' := by
  cases run with
  | call step rest =>
      cases rest
      exact step

/-! ## One interrupted execution -/

/-- The state in which `answer` leaves a program after this many requests. -/
def executeFor (answer : (op : Op) → S → Option (Res op × S)) :
    (requests : ℕ) → Prog Op Res ε α → S → Option S
  | 0, _, s => some s
  | _ + 1, .ret _, s => some s
  | _ + 1, .raise _, s => some s
  | requests + 1, .call op next, s =>
      (answer op s).bind fun (reply, s') => executeFor answer requests (next reply) s'

theorem executeFor_cutOff {answer : (op : Op) → S → Option (Res op × S)}
    (sound : ∀ op s reply s', answer op s = some (reply, s') → exec op s reply s') {requests : ℕ}
    (reached : executeFor answer requests p s = some s') : CutOff exec p s s' := by
  induction requests generalizing p s with
  | zero =>
      obtain rfl := Option.some.inj reached
      exact .here p s
  | succ requests ih =>
      cases p with
      | ret value =>
          obtain rfl := Option.some.inj reached
          exact .here _ _
      | raise error =>
          obtain rfl := Option.some.inj reached
          exact .here _ _
      | call op next =>
          obtain ⟨⟨reply, s₁⟩, answered, rest⟩ := Option.bind_eq_some_iff.mp reached
          exact .later (sound op s reply s₁ answered) (ih rest)

end

end ContentPlatform.Program
