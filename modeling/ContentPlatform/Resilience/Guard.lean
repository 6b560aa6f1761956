import Mathlib.Data.Rat.Defs
import Mathlib.Algebra.Order.Ring.Rat
import ContentPlatform.Effects

/-!
# Breaker, timeout and retry around one dependency call

`app/resilience/retry.py` and `app/resilience/guard.py`.  The budget of
`asyncio.timeout` is the environment's to spend: any suspended interaction inside
the block may end with `callExpired`, and the block turns that into
`TimeoutError`.
-/

set_option autoImplicit false

namespace ContentPlatform

open Program Py

/-- What one dependency is allowed to cost. -/
structure DependencyPolicy where
  callTimeoutSeconds : ℚ
  attempts : ℤ
  backoffBaseSeconds : ℚ
  backoffMaxSeconds : ℚ
  breakerFailureThreshold : ℤ
  breakerResetSeconds : ℚ
  breakerHalfOpenMaxCalls : ℤ

/-- Turn a driver fault into the domain error the API layer answers with. -/
def translate (error : Exc) (dependency : Dependency) (retryAfter : ℚ) : Exc :=
  if error.isTimeout then
    .domain (.upstreamTimeout retryAfter) s!"{dependency.name} did not answer inside its timeout"
  else
    .domain (.dependencyUnavailable retryAfter) s!"{dependency.name} is unavailable"

section
variable {α : Type}

/-- The cap of the wait that follows attempt number `attempt` of `wait_random_exponential`. -/
def DependencyPolicy.waitCap (policy : DependencyPolicy) (attempt : ℕ) : ℚ :=
  max 0 (min (policy.backoffBaseSeconds * 2 ^ (attempt - 1)) policy.backoffMaxSeconds)

/-- Only a call that took more than one attempt is counted. -/
def observeRetry (dependency : Dependency) (started : ℕ) (outcome : RetryOutcome) : Py Unit :=
  if started > 0 then observe (.dependencyRetry dependency outcome) else return ()

def attemptOnce (operation : Py α) (onRetry : Option (Py Unit)) (started : ℕ) : Py α :=
  match onRetry, started with
  | some hook, _ + 1 => hook.bind fun _ => operation
  | _, _ => operation

/-- The loop of `with_retry` with `started` attempts behind it.  `remaining` counts the
attempts that `stop_after_attempt` still allows after the next one. -/
def retryLoop (policy : DependencyPolicy) (dependency : Dependency) (operation : Py α)
    (onRetry : Option (Py Unit)) : (remaining started : ℕ) → Py α
  | remaining, started => do
    match ← (attemptOnce operation onRetry started).attempt with
    | .ok result =>
        observeRetry dependency started .success
        return result
    | .error error =>
        if error.isTransient then
          match remaining with
          | 0 =>
              observeRetry dependency started .exhausted
              .raise (translate error dependency policy.breakerResetSeconds)
          | remaining + 1 =>
              backoff (policy.waitCap (started + 1))
              retryLoop policy dependency operation onRetry remaining (started + 1)
        else
          .raise error

/-- `stop_after_attempt` stops after the first attempt whatever smaller number it is given. -/
def withRetry (policy : DependencyPolicy) (dependency : Dependency) (operation : Py α)
    (onRetry : Option (Py Unit)) : Py α :=
  retryLoop policy dependency operation onRetry (policy.attempts.toNat - 1) 0

/-- `async with asyncio.timeout(...)`. -/
def timeoutBlock (p : Py α) : Py α := do
  match ← p.attempt with
  | .ok result => return result
  | .error .callExpired => .raise .timeoutError
  | .error error => .raise error

def guardedCall (policy : DependencyPolicy) (dependency : Dependency) (operation : Py α)
    (onRetry : Option (Py Unit)) (retry : Bool) : Py α := do
  if ← breakerAllow dependency then
    let effective := if retry then policy else { policy with attempts := 1 }
    match ← (timeoutBlock (withRetry effective dependency operation
        (if retry then onRetry else none))).attempt with
    | .ok result =>
        breakerSuccess dependency
        return result
    | .error .timeoutError =>
        -- the outer budget expired, the retry layer never saw it
        observe (.dependencyTimeout dependency)
        breakerFailure dependency
        .raise (translate .timeoutError dependency policy.breakerResetSeconds)
    | .error (.domain (.dependencyUnavailable retryAfter) message) =>
        breakerFailure dependency
        .raise (.domain (.dependencyUnavailable retryAfter) message)
    | .error (.domain (.upstreamTimeout retryAfter) message) =>
        observe (.dependencyTimeout dependency)
        breakerFailure dependency
        .raise (.domain (.upstreamTimeout retryAfter) message)
    | .error error =>
        if error.isException then
          breakerSuccess dependency
          .raise error
        else
          .raise error
  else
    let retryAfter ← secondsUntilProbe dependency
    .raise (.domain (.dependencyUnavailable retryAfter)
      s!"{dependency.name} is unavailable: the circuit is open")

/-- `@guarded_read`: the session is rolled back before every further attempt. -/
def guardedRead (policy : DependencyPolicy) (dependency : Dependency) (method : Py α) : Py α :=
  guardedCall policy dependency method (some rollback) true

/-- `@guarded_write`: one attempt. -/
def guardedWrite (policy : DependencyPolicy) (dependency : Dependency) (method : Py α) : Py α :=
  guardedCall policy dependency method none false

end

/-! ## What the parts of a guarded call ask for -/

section
variable {α : Type} {allowed : Op → Prop} {policy : DependencyPolicy} {dependency : Dependency}
  {operation : Py α} {onRetry : Option (Py Unit)}

theorem observeRetry_sends (metrics : ∀ metric, allowed (.observe metric)) (started : ℕ)
    (outcome : RetryOutcome) :
    (observeRetry dependency started outcome).Sends allowed := by
  unfold observeRetry
  by_cases several : started > 0
  · rw [if_pos several]
    exact reply_sends (metrics _) _
  · rw [if_neg several]
    trivial

theorem attemptOnce_sends (first : operation.Sends allowed)
    (hook : ∀ retry, onRetry = some retry → retry.Sends allowed) (started : ℕ) :
    (attemptOnce operation onRetry started).Sends allowed := by
  unfold attemptOnce
  split
  · rename_i retry _
    exact Prog.Sends.bind (hook retry rfl) fun _ => first
  · exact first

theorem retryLoop_sends (metrics : ∀ metric, allowed (.observe metric))
    (waits : ∀ longest, allowed (.backoff longest)) (first : operation.Sends allowed)
    (hook : ∀ retry, onRetry = some retry → retry.Sends allowed) (remaining started : ℕ) :
    (retryLoop policy dependency operation onRetry remaining started).Sends allowed := by
  induction remaining generalizing started with
  | zero =>
      rw [retryLoop]
      refine Prog.Sends.bind (attemptOnce_sends first hook started).attempt fun result => ?_
      cases result with
      | ok value => exact Prog.Sends.bind (observeRetry_sends metrics started _) fun _ => trivial
      | error error =>
          dsimp only
          split
          · exact Prog.Sends.bind (observeRetry_sends metrics started _) fun _ => trivial
          · trivial
  | succ remaining ih =>
      rw [retryLoop]
      refine Prog.Sends.bind (attemptOnce_sends first hook started).attempt fun result => ?_
      cases result with
      | ok value => exact Prog.Sends.bind (observeRetry_sends metrics started _) fun _ => trivial
      | error error =>
          dsimp only
          split
          · exact Prog.Sends.bind (answer_sends (waits _) _) fun _ => ih (started + 1)
          · trivial

theorem timeoutBlock_sends (inner : operation.Sends allowed) :
    (timeoutBlock operation).Sends allowed := by
  refine Prog.Sends.bind inner.attempt fun result => ?_
  cases result with
  | ok value => trivial
  | error error => cases error <;> trivial

end

end ContentPlatform
