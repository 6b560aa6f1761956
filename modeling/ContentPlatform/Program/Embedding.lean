import ContentPlatform.Program.Concurrent

/-!
# Programs inside programs

A program with further interactions that runs another one somewhere within it.  Among all that
happens in a system of such programs, the embedded ones take the steps of a system of their own.
-/

set_option autoImplicit false

namespace ContentPlatform.Program

open Prog

section
variable {Op Op' : Type} {Res : Op → Type} {Res' : Op' → Type} {ε ε' α β γ S T : Type}
  (inject : Op → Op') (read : ∀ op, Res' (inject op) → Res op)

/-- The same interactions under other names, and the outcome as a value. -/
def Prog.embed : Prog Op Res ε α → Prog Op' Res' ε' (Except ε α)
  | .ret value => .ret (.ok value)
  | .raise error => .ret (.error error)
  | .call op next => .call (inject op) fun reply => (next (read op reply)).embed

/-- Not one of the embedded interactions. -/
def Outer (op' : Op') : Prop := ∀ op, op' ≠ inject op

/-- The embedded interactions of the first program are those of the second.  Where the first ends,
its outcome and what is left of the second are in this relation. -/
inductive Carries (R : Except ε' β → Prog Op Res ε α → Prop) :
    Prog Op' Res' ε' β → Prog Op Res ε α → Prop
  | ret {value : β} {q : Prog Op Res ε α} : R (.ok value) q → Carries R (.ret value) q
  | raise {error : ε'} {q : Prog Op Res ε α} : R (.error error) q → Carries R (.raise error) q
  | inner {op : Op} {next : Res' (inject op) → Prog Op' Res' ε' β} {rest : Res op → Prog Op Res ε α} :
      (∀ reply, Carries R (next reply) (rest (read op reply))) →
      Carries R (.call (inject op) next) (.call op rest)
  | outer {op' : Op'} {next : Res' op' → Prog Op' Res' ε' β} {q : Prog Op Res ε α} :
      Outer inject op' → (∀ reply, Carries R (next reply) q) → Carries R (.call op' next) q

namespace Carries

variable {inject read} {p : Prog Op' Res' ε' β} {q : Prog Op Res ε α}
  {R R' : Except ε' β → Prog Op Res ε α → Prop} {S' : Except ε' γ → Prog Op Res ε α → Prop}

theorem mono (carries : Carries inject read R p q)
    (weaken : ∀ outcome q, R outcome q → R' outcome q) :
    Carries inject read R' p q := by
  induction carries with
  | ret ended => exact .ret (weaken _ _ ended)
  | raise ended => exact .raise (weaken _ _ ended)
  | inner _ ih => exact .inner ih
  | outer other _ ih => exact .outer other ih

theorem bind {k : β → Prog Op' Res' ε' γ} (first : Carries inject read R p q)
    (rest : ∀ value q, R (.ok value) q → Carries inject read S' (k value) q)
    (failed : ∀ error q, R (.error error) q → S' (.error error) q) :
    Carries inject read S' (p.bind k) q := by
  induction first with
  | ret ended => exact rest _ _ ended
  | raise ended => exact .raise (failed _ _ ended)
  | inner _ ih => exact .inner ih
  | outer other _ ih => exact .outer other ih

theorem embed (q : Prog Op Res ε α) :
    Carries inject read (fun outcome q' => ∃ ended, outcome = .ok ended ∧ q' = .ofExcept ended)
      (q.embed inject read : Prog Op' Res' ε' (Except ε α)) q := by
  induction q with
  | ret value => exact .ret ⟨.ok value, rfl, rfl⟩
  | raise error => exact .ret ⟨.error error, rfl, rfl⟩
  | call op next ih => exact .inner fun reply => ih (read op reply)

theorem ended {value : β} (carries : Carries inject read R (.ret value) q) : R (.ok value) q := by
  cases carries with
  | ret ended => exact ended

end Carries

variable {inject read} {exec : Pid → (op : Op) → S → Res op → S → Prop} {env : S → S → Prop}
  {exec' : Pid → (op : Op') → T → Res' op → T → Prop} {env' : T → T → Prop} {f : T → S}
  {R : Pid → Except ε' β → Prog Op Res ε α → Prop}

/-- What is embedded in a run is a run. -/
theorem Steps.carried
    (inner : ∀ i op t reply t', exec' i (inject op) t reply t' →
      exec i op (f t) (read op reply) (f t'))
    (outer : ∀ i op' t reply t', Outer inject op' → exec' i op' t reply t' → f t' = f t)
    (event : ∀ t t', env' t t' → env (f t) (f t')) {c c' : Config Op' Res' ε' β T}
    {d : Config Op Res ε α S} (same : d.state = f c.state)
    (carries : ∀ i, Carries inject read (R i) (c.code i) (d.code i)) (run : Steps exec' env' c c') :
    ∃ d', Steps exec env d d' ∧ d'.state = f c'.state ∧
      ∀ i, Carries inject read (R i) (c'.code i) (d'.code i) := by
  induction run with
  | refl => exact ⟨d, .refl, same, carries⟩
  | tail _ step ih =>
      obtain ⟨d', before, same', carries'⟩ := ih
      cases step with
      | @run i op' next reply t' code done =>
          have mine := carries' i
          rw [code] at mine
          generalize hosted : d'.code i = q at mine
          cases mine with
          | @inner op _ rest goes =>
              refine ⟨⟨f t', Function.update d'.code i (rest (read op reply)),
                Function.update d'.started i true⟩, before.tail (.run i hosted ?_), rfl, fun j => ?_⟩
              · rw [same']
                exact inner _ _ _ _ _ done
              · by_cases other : j = i
                · subst other
                  simpa using goes reply
                · simpa [Function.update_of_ne other] using carries' j
          | outer other goes =>
              refine ⟨d', before, same'.trans (outer _ _ _ _ _ other done).symm, fun j => ?_⟩
              by_cases here : j = i
              · subst here
                simpa [hosted] using goes reply
              · simpa [Function.update_of_ne here] using carries' j
      | env moved =>
          refine ⟨⟨_, d'.code, d'.started⟩, before.tail (.env ?_), rfl, carries'⟩
          rw [same']
          exact event _ _ moved

end

end ContentPlatform.Program
