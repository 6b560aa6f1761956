import ContentPlatform.Program.Sequential
import ContentPlatform.Resilience.Guard

/-!
# What a guarded call raises

An error of a guarded call is one of its operation or its hook, or one of the guard's own.
-/

set_option autoImplicit false

namespace ContentPlatform

open Program Py

section
variable {α β S : Type} (exec : (op : Op) → S → op.Reply → S → Prop) (φ : Exc → Prop)

/-- Every error of the program satisfies `φ`. -/
def Fails (p : Py α) : Prop :=
  ∀ s, wp exec p (fun outcome _ => ∀ error, outcome = .error error → φ error) s

variable {exec φ}

theorem Fails.ret (value : α) : Fails exec φ (.ret value : Py α) := by
  intro s error impossible
  cases impossible

theorem Fails.raise {error : Exc} (holds : φ error) : Fails exec φ (.raise error : Py α) := by
  intro s other same
  obtain rfl := Except.error.inj same
  exact holds

theorem Fails.call {op : Op} {next : op.Reply → Py α}
    (rest : ∀ s reply s', exec op s reply s' → Fails exec φ (next reply)) :
    Fails exec φ (.call op next) :=
  fun s reply s' step => rest s reply s' step s'

theorem Fails.bind {p : Py α} {next : α → Py β} (first : Fails exec φ p)
    (rest : ∀ value, Fails exec φ (next value)) : Fails exec φ (p.bind next) := by
  intro s
  apply (wp_bind _ _ _ _).mpr
  apply wp_mono (first s)
  intro outcome s' failed
  cases outcome with
  | ok value => exact rest value s'
  | error error =>
      intro other same
      obtain rfl := Except.error.inj same
      exact failed error rfl

theorem Fails.attempt_bind {ψ : Exc → Prop} {p : Py α} {next : Except Exc α → Py β}
    (first : Fails exec φ p) (onValue : ∀ value, Fails exec ψ (next (.ok value)))
    (onError : ∀ error, φ error → Fails exec ψ (next (.error error))) :
    Fails exec ψ (p.attempt.bind next) := by
  intro s
  apply (wp_bind _ _ _ _).mpr
  apply (wp_attempt _ _ _).mpr
  apply wp_mono (first s)
  intro outcome s' failed
  cases outcome with
  | ok value => exact onValue value s'
  | error error => exact onError error (failed error rfl) s'

theorem Fails.answer {op : Op} {next : op.Reply → Except Exc α}
    (holds : ∀ s reply s' error, exec op s reply s' → next reply = .error error → φ error) :
    Fails exec φ (.call op fun reply => .ofExcept (next reply)) := by
  apply Fails.call
  intro s reply s' step
  cases shape : next reply with
  | ok value => exact Fails.ret value
  | error error => exact Fails.raise (holds s reply s' error step shape)

/-! ## The guard -/

variable {operation : Py α} {onRetry : Option (Py Unit)} {policy : DependencyPolicy}
  {dependency : Dependency}

theorem observeRetry_fails (started : ℕ) (outcome : RetryOutcome) {next : Py β}
    (rest : Fails exec φ next) :
    Fails exec φ ((observeRetry dependency started outcome).bind fun _ => next) := by
  unfold observeRetry
  split
  · exact Fails.call fun _ _ _ _ => rest
  · exact rest

theorem attemptOnce_fails (started : ℕ) (first : Fails exec φ operation)
    (hooks : ∀ hook, onRetry = some hook → Fails exec φ hook) :
    Fails exec φ (attemptOnce operation onRetry started) := by
  unfold attemptOnce
  split
  · exact (hooks _ rfl).bind fun _ => first
  · exact first

/-- The errors of the guard's own are no news, and neither is what ends a wait. -/
structure GuardErrors (exec : (op : Op) → S → op.Reply → S → Prop) (φ : Exc → Prop) : Prop where
  down : ∀ error : Exc, error.isDependencyDown = true → φ error
  expired : φ .timeoutError
  wait : ∀ longest s error s', exec (.backoff longest) s (.error error) s' → φ error

theorem translate_down (error : Exc) (retryAfter : ℚ) :
    (translate error dependency retryAfter).isDependencyDown = true := by
  unfold translate
  split <;> rfl

variable (own : GuardErrors exec φ)
include own

theorem retryLoop_fails (first : Fails exec φ operation)
    (hooks : ∀ hook, onRetry = some hook → Fails exec φ hook) (remaining started : ℕ) :
    Fails exec φ (retryLoop policy dependency operation onRetry remaining started) := by
  induction remaining generalizing started with
  | zero =>
      rw [retryLoop]
      apply Fails.attempt_bind (attemptOnce_fails started first hooks)
      · intro value
        exact observeRetry_fails started .success (Fails.ret value)
      · intro error holds
        dsimp only
        split
        · exact observeRetry_fails started .exhausted (Fails.raise (own.down _ (translate_down _ _)))
        · exact Fails.raise holds
  | succ remaining ih =>
      rw [retryLoop]
      apply Fails.attempt_bind (attemptOnce_fails started first hooks)
      · intro value
        exact observeRetry_fails started .success (Fails.ret value)
      · intro error holds
        dsimp only
        split
        · apply Fails.call
          intro s reply s' step
          cases reply with
          | ok _ => exact ih (started + 1)
          | error failure => exact Fails.raise (own.wait _ s failure s' step)
        · exact Fails.raise holds

theorem timeoutBlock_fails (inner : Fails exec φ operation) :
    Fails exec φ (timeoutBlock operation) := by
  apply Fails.attempt_bind inner
  · exact fun value => Fails.ret value
  · intro error holds
    cases error with
    | callExpired => exact Fails.raise own.expired
    | _ => exact Fails.raise holds

theorem guardedCall_fails (retry : Bool) (first : Fails exec φ operation)
    (hooks : ∀ hook, onRetry = some hook → Fails exec φ hook) :
    Fails exec φ (guardedCall policy dependency operation onRetry retry) := by
  apply Fails.call
  intro s admitted s' step
  cases admitted with
  | false => exact Fails.call fun _ _ _ _ => Fails.raise (own.down _ rfl)
  | true =>
      have kept : ∀ hook, (if retry then onRetry else none) = some hook → Fails exec φ hook := by
        intro hook same
        split at same
        · exact hooks hook same
        · cases same
      have reported : ∀ error, φ error → Fails exec φ (if error.isException then
          (do breakerSuccess dependency; .raise error : Py α) else .raise error) := by
        intro error holds
        split
        · exact Fails.call fun _ _ _ _ => Fails.raise holds
        · exact Fails.raise holds
      apply Fails.attempt_bind (timeoutBlock_fails own (retryLoop_fails own first kept _ 0))
      · intro value
        exact Fails.call fun _ _ _ _ => Fails.ret value
      · intro error holds
        cases error with
        | timeoutError =>
            exact Fails.call fun _ _ _ _ => Fails.call fun _ _ _ _ =>
              Fails.raise (own.down _ (translate_down _ _))
        | domain kind message =>
            cases kind with
            | dependencyUnavailable retryAfter => exact Fails.call fun _ _ _ _ => Fails.raise holds
            | upstreamTimeout retryAfter =>
                exact Fails.call fun _ _ _ _ => Fails.call fun _ _ _ _ => Fails.raise holds
            | _ => exact reported _ holds
        | _ => exact reported _ holds

end

end ContentPlatform
