import ContentPlatform.Program.Sequential
import ContentPlatform.Resilience.Guard

/-!
# What an execution of a guarded call is made of

The operation and the hook are whatever they are; an execution of `with_retry` is cut into their
whole runs and the interactions of the loop itself.
-/

set_option autoImplicit false

namespace ContentPlatform

open Program Py

/-- An interaction of the guard itself, or a whole run of the operation or of `on_retry`. -/
inductive Piece (α : Type) where
  | ask (op : Op) (reply : op.Reply)
  | invoke (outcome : Except Exc α)
  | hook (outcome : Except Exc Unit)

section
variable {α S : Type}

/-- An execution that consists of these pieces, one after the other. -/
inductive Pieces (exec : (op : Op) → S → op.Reply → S → Prop) (operation : Py α)
    (onRetry : Option (Py Unit)) : List (Piece α) → S → S → Prop where
  | nil (s : S) : Pieces exec operation onRetry [] s s
  | ask {op : Op} {reply : op.Reply} {rest : List (Piece α)} {s s₁ s' : S} :
      exec op s reply s₁ → Pieces exec operation onRetry rest s₁ s' →
      Pieces exec operation onRetry (.ask op reply :: rest) s s'
  | invoke {outcome : Except Exc α} {rest : List (Piece α)} {s s₁ s' : S} :
      Runs exec operation s outcome s₁ → Pieces exec operation onRetry rest s₁ s' →
      Pieces exec operation onRetry (.invoke outcome :: rest) s s'
  | hook {hook : Py Unit} {outcome : Except Exc Unit} {rest : List (Piece α)} {s s₁ s' : S} :
      onRetry = some hook → Runs exec hook s outcome s₁ →
      Pieces exec operation onRetry rest s₁ s' →
      Pieces exec operation onRetry (.hook outcome :: rest) s s'

/-- One attempt: it comes to an invocation, unless its hook fails. -/
inductive Attempt (α : Type) where
  | invoked (outcome : Except Exc α)
  | hookFailed (error : Exc)

namespace Attempt

def outcome : Attempt α → Except Exc α
  | .invoked outcome => outcome
  | .hookFailed error => .error error

def pieces (hooked : Bool) (started : ℕ) : Attempt α → List (Piece α)
  | .invoked outcome =>
      if hooked && decide (0 < started) then [.hook (.ok ()), .invoke outcome]
      else [.invoke outcome]
  | .hookFailed error => [.hook (.error error)]

/-- The attempt failed with an error that is worth another one. -/
def Faulted (attempt : Attempt α) : Prop :=
  ∃ error, attempt.outcome = .error error ∧ error.isTransient = true

end Attempt

variable (policy : DependencyPolicy) (dependency : Dependency) (hooked : Bool)

/-- The attempts that follow `started` others, each after its wait. -/
def laterPieces : (started : ℕ) → List (Attempt α) → List (Piece α)
  | _, [] => []
  | started, attempt :: rest =>
      .ask (.backoff (policy.waitCap started)) (.ok ()) ::
        (attempt.pieces hooked started ++ laterPieces (started + 1) rest)

/-- What `observe_retry` comes to after `started` earlier attempts. -/
def countedAs (started : ℕ) (outcome : RetryOutcome) : List (Piece α) :=
  if 0 < started then [.ask (.observe (.dependencyRetry dependency outcome)) ()] else []

/-- How the loop ends with the attempt that follows `started` others: what it does then, and the
outcome. -/
inductive RetryEnded (limit started : ℕ) (last : Attempt α) :
    List (Piece α) → Except Exc α → Prop where
  | value {value : α} : last.outcome = .ok value →
      RetryEnded limit started last (countedAs dependency started .success) (.ok value)
  | answer {error : Exc} : last.outcome = .error error → error.isTransient = false →
      RetryEnded limit started last [] (.error error)
  | exhausted {error : Exc} : last.outcome = .error error → error.isTransient = true →
      started + 1 = limit →
      RetryEnded limit started last (countedAs dependency started .exhausted)
        (.error (translate error dependency policy.breakerResetSeconds))
  | interrupted {error : Exc} : last.Faulted → started + 1 < limit →
      RetryEnded limit started last [.ask (.backoff (policy.waitCap (started + 1))) (.error error)]
        (.error error)

end

section
variable {α S : Type} {exec : (op : Op) → S → op.Reply → S → Prop} {operation : Py α}
  {onRetry : Option (Py Unit)} {policy : DependencyPolicy} {dependency : Dependency}
  {s s₁ s' : S}

theorem Pieces.append {first second : List (Piece α)}
    (before : Pieces exec operation onRetry first s s₁)
    (after : Pieces exec operation onRetry second s₁ s') :
    Pieces exec operation onRetry (first ++ second) s s' := by
  induction before with
  | nil _ => exact after
  | ask step _ ih => exact .ask step (ih after)
  | invoke run _ ih => exact .invoke run (ih after)
  | hook same run _ ih => exact .hook same run (ih after)

theorem Pieces.split {first second : List (Piece α)}
    (both : Pieces exec operation onRetry (first ++ second) s s') :
    ∃ s₁, Pieces exec operation onRetry first s s₁ ∧ Pieces exec operation onRetry second s₁ s' := by
  induction first generalizing s with
  | nil => exact ⟨s, .nil s, both⟩
  | cons piece rest ih =>
      cases both with
      | ask step both =>
          obtain ⟨s₁, before, after⟩ := ih both
          exact ⟨s₁, .ask step before, after⟩
      | invoke run both =>
          obtain ⟨s₁, before, after⟩ := ih both
          exact ⟨s₁, .invoke run before, after⟩
      | hook same run both =>
          obtain ⟨s₁, before, after⟩ := ih both
          exact ⟨s₁, .hook same run before, after⟩

theorem attempt_pieces {started : ℕ} {outcome : Except Exc α}
    (run : Runs exec (attemptOnce operation onRetry started) s outcome s') :
    ∃ attempt : Attempt α, attempt.outcome = outcome ∧
      Pieces exec operation onRetry (attempt.pieces onRetry.isSome started) s s' := by
  have plain : Runs exec operation s outcome s' →
      Pieces exec operation onRetry [.invoke outcome] s s' :=
    fun run => .invoke run (.nil _)
  cases onRetry with
  | none => exact ⟨.invoked outcome, rfl, plain run⟩
  | some hook =>
      cases started with
      | zero => exact ⟨.invoked outcome, rfl, plain run⟩
      | succ started =>
          obtain ⟨middle, s₁, first, rest⟩ := Runs.of_cont run
          cases middle with
          | ok value => exact ⟨.invoked outcome, rfl, .hook rfl first (.invoke rest (.nil _))⟩
          | error error =>
              cases rest
              exact ⟨.hookFailed error, rfl, .hook rfl first (.nil _)⟩

theorem observeRetry_pieces {started : ℕ} {retried : RetryOutcome} {p : Py α}
    {outcome : Except Exc α}
    (run : Runs exec ((observeRetry dependency started retried).bind fun _ => p) s outcome s') :
    ∃ s₁, Pieces exec operation onRetry (countedAs dependency started retried) s s₁ ∧
      Runs exec p s₁ outcome s' := by
  unfold observeRetry countedAs at *
  by_cases later : started > 0
  · rw [if_pos later] at run ⊢
    cases run with
    | call step run => exact ⟨_, .ask step (.nil _), run⟩
  · rw [if_neg later] at run ⊢
    exact ⟨s, .nil s, run⟩

structure LoopRun (exec : (op : Op) → S → op.Reply → S → Prop) (operation : Py α)
    (onRetry : Option (Py Unit)) (policy : DependencyPolicy) (dependency : Dependency)
    (limit started : ℕ) (outcome : Except Exc α) (s s' : S) (first : Attempt α)
    (rest : List (Attempt α)) (last : Attempt α) (tail : List (Piece α)) : Prop where
  isLast : (first :: rest).getLast? = some last
  faulted : ∀ attempt ∈ (first :: rest).dropLast, attempt.Faulted
  within : started + rest.length + 1 ≤ limit
  pieces : Pieces exec operation onRetry (first.pieces onRetry.isSome started ++
    laterPieces policy onRetry.isSome (started + 1) rest ++ tail) s s'
  ended : RetryEnded policy dependency limit (started + rest.length) last tail outcome

theorem LoopRun.single {started limit : ℕ} {attempt : Attempt α} {tail : List (Piece α)}
    {outcome : Except Exc α} (within : started + 1 ≤ limit)
    (tried : Pieces exec operation onRetry (attempt.pieces onRetry.isSome started) s s₁)
    (after : Pieces exec operation onRetry tail s₁ s')
    (ended : RetryEnded policy dependency limit started attempt tail outcome) :
    LoopRun exec operation onRetry policy dependency limit started outcome s s' attempt [] attempt
      tail := by
  constructor
  · rfl
  · simp
  · exact within
  · simpa [laterPieces] using tried.append after
  · exact ended

/-- A run of the loop: all attempts but the last fail with an error that is worth another. -/
theorem retryLoop_pieces {remaining started : ℕ} {outcome : Except Exc α}
    (run : Runs exec (retryLoop policy dependency operation onRetry remaining started) s outcome
      s') :
    ∃ first rest last tail, LoopRun exec operation onRetry policy dependency
      (started + remaining + 1) started outcome s s' first rest last tail := by
  induction remaining generalizing started s with
  | zero =>
      rw [retryLoop] at run
      obtain ⟨middle, s₁, tried, run⟩ := Runs.of_attempt_bind run
      obtain ⟨attempt, same, pieces⟩ := attempt_pieces tried
      cases middle with
      | ok value =>
          obtain ⟨s₂, counted, run⟩ := observeRetry_pieces run
          cases run
          exact ⟨attempt, [], attempt, _, .single (by omega) pieces counted (.value same)⟩
      | error error =>
          cases fault : error.isTransient with
          | true =>
              simp only [fault, if_true] at run
              obtain ⟨s₂, counted, run⟩ := observeRetry_pieces run
              cases run
              exact ⟨attempt, [], attempt, _,
                .single (by omega) pieces counted (.exhausted same fault (by omega))⟩
          | false =>
              simp only [fault] at run
              cases run
              exact ⟨attempt, [], attempt, _, .single (by omega) pieces (.nil _) (.answer same fault)⟩
  | succ remaining ih =>
      rw [retryLoop] at run
      obtain ⟨middle, s₁, tried, run⟩ := Runs.of_attempt_bind run
      obtain ⟨attempt, same, pieces⟩ := attempt_pieces tried
      cases middle with
      | ok value =>
          obtain ⟨s₂, counted, run⟩ := observeRetry_pieces run
          cases run
          exact ⟨attempt, [], attempt, _, .single (by omega) pieces counted (.value same)⟩
      | error error =>
          cases fault : error.isTransient with
          | true =>
              simp only [fault, if_true] at run
              have faulted : attempt.Faulted := ⟨error, same, fault⟩
              cases run with
              | @call _ _ _ _ _ reply _ slept run =>
                  cases reply with
                  | error error =>
                      cases run
                      exact ⟨attempt, [], attempt, _,
                        .single (by omega) pieces (.ask slept (.nil _))
                          (.interrupted faulted (by omega))⟩
                  | ok _ =>
                      obtain ⟨second, rest, last, tail, loop⟩ := ih run
                      refine ⟨attempt, second :: rest, last, tail, ?_, ?_, ?_, ?_, ?_⟩
                      · rw [List.getLast?_cons_cons]
                        exact loop.isLast
                      · intro other member
                        rcases List.mem_cons.mp member with rfl | later
                        · exact faulted
                        · exact loop.faulted other later
                      · have within := loop.within
                        rw [List.length_cons]
                        omega
                      · have joined := pieces.append (Pieces.ask slept loop.pieces)
                        simpa [laterPieces] using joined
                      · have ended := loop.ended
                        rw [List.length_cons]
                        convert ended using 1 <;> omega
          | false =>
              simp only [fault] at run
              cases run
              exact ⟨attempt, [], attempt, _, .single (by omega) pieces (.nil _) (.answer same fault)⟩

theorem withRetry_pieces {outcome : Except Exc α}
    (run : Runs exec (withRetry policy dependency operation onRetry) s outcome s') :
    ∃ first rest last tail, LoopRun exec operation onRetry policy dependency
      (policy.attempts.toNat - 1 + 1) 0 outcome s s' first rest last tail := by
  have loop := retryLoop_pieces run
  rw [Nat.zero_add] at loop
  exact loop

/-- `asyncio.timeout` turns the end of its own budget into `TimeoutError`. -/
theorem runs_timeoutBlock {p : Py α} {outcome : Except Exc α}
    (run : Runs exec (timeoutBlock p) s outcome s') :
    (Runs exec p s (.error .callExpired) s' ∧ outcome = .error .timeoutError) ∨
      (Runs exec p s outcome s' ∧ outcome ≠ .error .callExpired) := by
  obtain ⟨middle, s₁, first, rest⟩ := Runs.of_attempt_bind run
  rcases middle with error | value
  · by_cases expired : error = .callExpired
    · subst expired
      cases rest
      exact Or.inl ⟨first, rfl⟩
    · have raised : Runs exec (.raise error : Py α) s₁ outcome s' := by
        cases error <;> first | exact absurd rfl expired | exact rest
      cases raised
      exact Or.inr ⟨first, fun same => expired (Except.error.inj same)⟩
  · cases rest
    exact Or.inr ⟨first, fun impossible => by cases impossible⟩

end

end ContentPlatform
