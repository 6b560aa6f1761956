import ContentPlatform.Resilience.Attempts

/-!
# Guarded calls

What a call through the breaker, the budget and the retries does in every execution, for any
operation, any hook and any environment.
-/

set_option autoImplicit false

namespace ContentPlatform

open Program Py

def DependencyPolicy.effective (policy : DependencyPolicy) (retry : Bool) : DependencyPolicy :=
  if retry then policy else { policy with attempts := 1 }

section
variable {α S : Type}

/-- Nothing but the budget of the call cancels anything, and no guard is nested in another. -/
structure Uncancelled (exec : (op : Op) → S → op.Reply → S → Prop) (operation : Py α)
    (onRetry : Option (Py Unit)) : Prop where
  operation : ∀ s error s', Runs exec operation s (.error error) s' →
    error ≠ .cancelledError ∧ error.isDependencyDown = false
  hook : ∀ hook s error s', onRetry = some hook → Runs exec hook s (.error error) s' →
    error ≠ .cancelledError ∧ error.isDependencyDown = false
  wait : ∀ s longest error s', exec (.backoff longest) s (.error error) s' → error = .callExpired

section
variable (policy : DependencyPolicy) (dependency : Dependency) (limit started : ℕ)
  (last : Attempt α)

/-- How an admitted call ends with the attempt that follows `started` others: what is still done,
and what the caller gets. -/
inductive GuardEnded : List (Piece α) → Except Exc α → Prop where
  | value {value : α} : last.outcome = .ok value →
      GuardEnded (countedAs dependency started .success ++ [.ask (.breakerSuccess dependency) ()])
        (.ok value)
  | answer {error : Exc} : last.outcome = .error error → error.isTransient = false →
      error ≠ .callExpired → GuardEnded [.ask (.breakerSuccess dependency) ()] (.error error)
  | timedOut {error : Exc} : last.outcome = .error error → error.isTransient = true →
      error.isTimeout = true → started + 1 = limit →
      GuardEnded (countedAs dependency started .exhausted ++
          [.ask (.observe (.dependencyTimeout dependency)) (),
            .ask (.breakerFailure dependency) ()])
        (.error (.domain (.upstreamTimeout policy.breakerResetSeconds)
          s!"{dependency.name} did not answer inside its timeout"))
  | unavailable {error : Exc} : last.outcome = .error error → error.isTransient = true →
      error.isTimeout = false → started + 1 = limit →
      GuardEnded (countedAs dependency started .exhausted ++ [.ask (.breakerFailure dependency) ()])
        (.error (.domain (.dependencyUnavailable policy.breakerResetSeconds)
          s!"{dependency.name} is unavailable"))
  /-- The budget expires in the attempt. -/
  | expired : last.outcome = .error .callExpired →
      GuardEnded [.ask (.observe (.dependencyTimeout dependency)) (),
          .ask (.breakerFailure dependency) ()]
        (.error (.domain (.upstreamTimeout policy.breakerResetSeconds)
          s!"{dependency.name} did not answer inside its timeout"))
  /-- The budget expires in the wait for the next attempt. -/
  | expiredWaiting : last.Faulted → started + 1 < limit →
      GuardEnded [.ask (.backoff (policy.waitCap (started + 1))) (.error .callExpired),
          .ask (.observe (.dependencyTimeout dependency)) (),
          .ask (.breakerFailure dependency) ()]
        (.error (.domain (.upstreamTimeout policy.breakerResetSeconds)
          s!"{dependency.name} did not answer inside its timeout"))

end

inductive GuardedRun (policy : DependencyPolicy) (dependency : Dependency) (limit : ℕ)
    (hooked : Bool) : List (Piece α) → Except Exc α → Prop where
  | refused {seconds : ℚ} :
      GuardedRun policy dependency limit hooked
        [.ask (.breakerAllow dependency) false, .ask (.secondsUntilProbe dependency) seconds]
        (.error (.domain (.dependencyUnavailable seconds)
          s!"{dependency.name} is unavailable: the circuit is open"))
  | admitted {first last : Attempt α} {rest : List (Attempt α)} {tail : List (Piece α)}
      {outcome : Except Exc α} :
      (first :: rest).getLast? = some last →
      (∀ attempt ∈ (first :: rest).dropLast, attempt.Faulted) →
      rest.length + 1 ≤ limit →
      GuardEnded policy dependency limit rest.length last tail outcome →
      GuardedRun policy dependency limit hooked
        (.ask (.breakerAllow dependency) true ::
          (first.pieces hooked 0 ++ laterPieces policy hooked 1 rest ++ tail)) outcome

variable {exec : (op : Op) → S → op.Reply → S → Prop} {operation : Py α}
  {onRetry : Option (Py Unit)} {policy : DependencyPolicy} {dependency : Dependency}
  {s s₁ s' : S}

theorem Uncancelled.attempt (uncancelled : Uncancelled exec operation onRetry)
    {attempt : Attempt α} {hooked : Bool} {started : ℕ} {error : Exc}
    (pieces : Pieces exec operation onRetry (attempt.pieces hooked started) s s')
    (failed : attempt.outcome = .error error) :
    error ≠ .cancelledError ∧ error.isDependencyDown = false := by
  cases attempt with
  | invoked outcome =>
      obtain rfl : outcome = .error error := failed
      simp only [Attempt.pieces] at pieces
      split at pieces
      · cases pieces with
        | hook _ _ pieces =>
            cases pieces with
            | invoke run pieces => exact uncancelled.operation _ _ _ run
      · cases pieces with
        | invoke run pieces => exact uncancelled.operation _ _ _ run
  | hookFailed other =>
      obtain rfl : other = error := Except.error.inj failed
      cases pieces with
      | hook same run pieces => exact uncancelled.hook _ _ _ _ same run

theorem Uncancelled.later (uncancelled : Uncancelled exec operation onRetry)
    {attempts : List (Attempt α)} {hooked : Bool} {started : ℕ}
    (pieces : Pieces exec operation onRetry (laterPieces policy hooked started attempts) s s') :
    ∀ attempt ∈ attempts, ∀ error, attempt.outcome = .error error →
      error ≠ .cancelledError ∧ error.isDependencyDown = false := by
  induction attempts generalizing started s with
  | nil =>
      intro attempt member
      cases member
  | cons head rest ih =>
      intro attempt member error failed
      rw [laterPieces] at pieces
      cases pieces with
      | ask _ pieces =>
          obtain ⟨s₁, first, others⟩ := pieces.split
          rcases List.mem_cons.mp member with rfl | later
          · exact uncancelled.attempt first failed
          · exact ih others attempt later error failed

/-- No attempt of a run is cancelled, or refused by another guard. -/
theorem LoopRun.attempt_error {limit : ℕ} {outcome : Except Exc α} {first last : Attempt α}
    {rest : List (Attempt α)} {tail : List (Piece α)} {error : Exc}
    (uncancelled : Uncancelled exec operation onRetry)
    (loop : LoopRun exec operation onRetry policy dependency limit 0 outcome s s' first rest last
      tail) (failed : last.outcome = .error error) :
    error ≠ .cancelledError ∧ error.isDependencyDown = false := by
  obtain ⟨s₂, before, -⟩ := loop.pieces.split
  obtain ⟨s₁, head, others⟩ := before.split
  rcases List.mem_cons.mp (List.mem_of_getLast? loop.isLast) with rfl | later
  · exact uncancelled.attempt head failed
  · exact uncancelled.later others last later error failed

/-! ## The end of a guarded call -/

/-- What `guarded_call` makes of the outcome of the block under its budget. -/
def afterBlock (policy : DependencyPolicy) (dependency : Dependency) : Except Exc α → Py α
  | .ok result => (breakerSuccess dependency).bind fun _ => .ret result
  | .error .timeoutError =>
      (observe (.dependencyTimeout dependency)).bind fun _ =>
        (breakerFailure dependency).bind fun _ =>
          .raise (translate .timeoutError dependency policy.breakerResetSeconds)
  | .error (.domain (.dependencyUnavailable retryAfter) message) =>
      (breakerFailure dependency).bind fun _ =>
        .raise (.domain (.dependencyUnavailable retryAfter) message)
  | .error (.domain (.upstreamTimeout retryAfter) message) =>
      (observe (.dependencyTimeout dependency)).bind fun _ =>
        (breakerFailure dependency).bind fun _ =>
          .raise (.domain (.upstreamTimeout retryAfter) message)
  | .error error =>
      if error.isException then (breakerSuccess dependency).bind fun _ => .raise error
      else .raise error

theorem guardedCall_eq (policy : DependencyPolicy) (dependency : Dependency) (operation : Py α)
    (onRetry : Option (Py Unit)) (retry : Bool) :
    guardedCall policy dependency operation onRetry retry =
      (breakerAllow dependency).bind fun admitted =>
        if admitted then
          (timeoutBlock (withRetry (policy.effective retry) dependency operation
            (if retry then onRetry else none))).attempt.bind (afterBlock policy dependency)
        else
          (secondsUntilProbe dependency).bind fun retryAfter =>
            .raise (.domain (.dependencyUnavailable retryAfter)
              s!"{dependency.name} is unavailable: the circuit is open") := rfl

theorem afterBlock_answer {error : Exc} (answer : error.isTransient = false)
    (expired : error ≠ .callExpired) (cancelled : error ≠ .cancelledError)
    (down : error.isDependencyDown = false) :
    (afterBlock policy dependency (.error error) : Py α) =
      (breakerSuccess dependency).bind fun _ => .raise error := by
  cases error with
  | domain kind message =>
      cases kind with
      | upstreamTimeout seconds => cases down
      | dependencyUnavailable seconds => cases down
      | _ => rfl
  | cancelledError => exact absurd rfl cancelled
  | callExpired => exact absurd rfl expired
  | timeoutError => cases answer
  | _ => rfl

/-- The guard after an attempt that was the last one. -/
theorem guardEnded_of_retryEnded {limit started : ℕ} {last : Attempt α} {tail : List (Piece α)}
    {middle outcome : Except Exc α}
    (ended : RetryEnded policy dependency limit started last tail middle)
    (uncancelled : ∀ error, last.outcome = .error error →
      error ≠ .cancelledError ∧ error.isDependencyDown = false)
    (interrupted : ∀ seconds error, tail = [.ask (.backoff seconds) (.error error)] →
      error = .callExpired)
    (kept : middle ≠ .error .callExpired)
    (run : Runs exec (afterBlock policy dependency middle) s outcome s') :
    ∃ reports, Pieces exec operation onRetry reports s s' ∧
      GuardEnded policy dependency limit started last (tail ++ reports) outcome := by
  cases ended with
  | value same =>
      cases run with
      | call step run =>
          cases run
          exact ⟨[.ask (.breakerSuccess dependency) ()], .ask step (.nil _), .value same⟩
  | @answer error same answer =>
      have expired : error ≠ .callExpired := fun expired => kept (congrArg _ expired)
      obtain ⟨cancelled, down⟩ := uncancelled error same
      rw [afterBlock_answer answer expired cancelled down] at run
      cases run with
      | call step run =>
          cases run
          exact ⟨[.ask (.breakerSuccess dependency) ()], .ask step (.nil _),
            .answer same answer expired⟩
  | @exhausted error same fault used =>
      cases timeout : error.isTimeout with
      | true =>
          simp only [translate, timeout, if_true] at run
          cases run with
          | call observed run =>
              cases run with
              | call failed run =>
                  cases run
                  exact ⟨[.ask (.observe (.dependencyTimeout dependency)) (),
                      .ask (.breakerFailure dependency) ()],
                    .ask observed (.ask failed (.nil _)), .timedOut same fault timeout used⟩
      | false =>
          simp only [translate, timeout] at run
          cases run with
          | call failed run =>
              cases run
              exact ⟨[.ask (.breakerFailure dependency) ()], .ask failed (.nil _),
                .unavailable same fault timeout used⟩
  | interrupted faulted room =>
      obtain rfl := interrupted _ _ rfl
      exact absurd rfl kept

theorem guardEnded_of_expired {limit started : ℕ} {last : Attempt α} {tail : List (Piece α)}
    {outcome : Except Exc α}
    (ended : RetryEnded policy dependency limit started last tail (.error .callExpired))
    (run : Runs exec (afterBlock policy dependency (.error .timeoutError)) s outcome s') :
    ∃ reports, Pieces exec operation onRetry reports s s' ∧
      GuardEnded policy dependency limit started last (tail ++ reports) outcome := by
  cases run with
  | call observed run =>
      cases run with
      | call failed run =>
          cases run
          refine ⟨[.ask (.observe (.dependencyTimeout dependency)) (),
            .ask (.breakerFailure dependency) ()], .ask observed (.ask failed (.nil _)), ?_⟩
          generalize same : (Except.error Exc.callExpired : Except Exc α) = middle at ended
          cases ended with
          | value _ => cases same
          | answer last _ =>
              obtain rfl := Except.error.inj same
              exact .expired last
          | @exhausted error _ _ _ =>
              rw [translate] at same
              split at same <;> cases same
          | interrupted faulted room =>
              obtain rfl := Except.error.inj same
              exact .expiredWaiting faulted room

theorem LoopRun.guarded {limit : ℕ} {middle outcome : Except Exc α} {first last : Attempt α}
    {rest : List (Attempt α)} {tail reports : List (Piece α)} {s₂ : S}
    (asked : exec (.breakerAllow dependency) s true s₁)
    (loop : LoopRun exec operation onRetry policy dependency limit 0 middle s₁ s₂ first rest last
      tail) (reported : Pieces exec operation onRetry reports s₂ s')
    (ended : GuardEnded policy dependency limit rest.length last (tail ++ reports) outcome) :
    ∃ pieces, Pieces exec operation onRetry pieces s s' ∧
      GuardedRun policy dependency limit onRetry.isSome pieces outcome := by
  have within : rest.length + 1 ≤ limit := by
    have within := loop.within
    omega
  have pieces := loop.pieces.append reported
  rw [List.append_assoc] at pieces
  exact ⟨_, .ask asked pieces, .admitted loop.isLast loop.faulted within ended⟩

theorem LoopRun.interrupted {limit : ℕ} {middle : Except Exc α} {first last : Attempt α}
    {rest : List (Attempt α)} {tail : List (Piece α)}
    (uncancelled : Uncancelled exec operation onRetry)
    (loop : LoopRun exec operation onRetry policy dependency limit 0 middle s s' first rest last
      tail) (seconds : ℚ) (error : Exc) (same : tail = [.ask (.backoff seconds) (.error error)]) :
    error = .callExpired := by
  subst same
  obtain ⟨s₁, -, waited⟩ := loop.pieces.split
  cases waited with
  | ask step _ => exact uncancelled.wait _ _ _ _ step

theorem guardedCall_pieces {retry : Bool} {outcome : Except Exc α}
    (uncancelled : Uncancelled exec operation (if retry then onRetry else none))
    (run : Runs exec (guardedCall policy dependency operation onRetry retry) s outcome s') :
    ∃ pieces, Pieces exec operation (if retry then onRetry else none) pieces s s' ∧
      GuardedRun (policy.effective retry) dependency
        ((policy.effective retry).attempts.toNat - 1 + 1)
        (if retry then onRetry else none).isSome pieces outcome := by
  have same : (afterBlock policy dependency : Except Exc α → Py α) =
      afterBlock (policy.effective retry) dependency := by
    cases retry <;> rfl
  rw [guardedCall_eq, same] at run
  cases run with
  | @call _ _ _ _ _ admitted _ asked run =>
      cases admitted with
      | false =>
          cases run with
          | call hinted run =>
              cases run
              exact ⟨_, .ask asked (.ask hinted (.nil _)), .refused⟩
      | true =>
          obtain ⟨block, s₂, blocked, run⟩ := Runs.of_attempt_bind run
          rcases runs_timeoutBlock blocked with ⟨inner, rfl⟩ | ⟨inner, kept⟩
          · obtain ⟨first, rest, last, tail, loop⟩ := withRetry_pieces inner
            have ended := loop.ended
            rw [Nat.zero_add] at ended
            obtain ⟨reports, reported, after⟩ := guardEnded_of_expired ended run
            exact loop.guarded asked reported after
          · obtain ⟨first, rest, last, tail, loop⟩ := withRetry_pieces inner
            have ended := loop.ended
            rw [Nat.zero_add] at ended
            obtain ⟨reports, reported, after⟩ := guardEnded_of_retryEnded ended
              (fun error failed => loop.attempt_error uncancelled failed)
              (loop.interrupted uncancelled) kept run
            exact loop.guarded asked reported after

theorem Pieces.hooks {pieces : List (Piece α)} {retry : Bool}
    (run : Pieces exec operation (if retry then onRetry else none) pieces s s') :
    Pieces exec operation onRetry pieces s s' := by
  cases retry with
  | true => exact run
  | false =>
      induction run with
      | nil s => exact .nil s
      | ask step _ ih => exact .ask step ih
      | invoke run _ ih => exact .invoke run ih
      | hook same _ _ _ => cases same

/-! ## The guarantees -/

/-- In every execution, for every operation, hook and environment.  The attempts of an admitted
call are `first :: rest`; without retries the effective policy allows one. -/
theorem guarded_call_end_to_end (exec : (op : Op) → S → op.Reply → S → Prop)
    (policy : DependencyPolicy) (attempts : 1 ≤ policy.attempts) (dependency : Dependency)
    (operation : Py α) (onRetry : Option (Py Unit)) (retry : Bool)
    (uncancelled : Uncancelled exec operation onRetry) {s s' : S} {outcome : Except Exc α}
    (run : Runs exec (guardedCall policy dependency operation onRetry retry) s outcome s') :
    ∃ pieces, Pieces exec operation onRetry pieces s s' ∧
      GuardedRun (policy.effective retry) dependency (policy.effective retry).attempts.toNat
        (retry && onRetry.isSome) pieces outcome := by
  have limit : (policy.effective retry).attempts.toNat - 1 + 1 =
      (policy.effective retry).attempts.toNat := by
    cases retry with
    | true =>
        show policy.attempts.toNat - 1 + 1 = policy.attempts.toNat
        omega
    | false => rfl
  have hook : (if retry then onRetry else none).isSome = (retry && onRetry.isSome) := by
    cases retry <;> rfl
  have own : Uncancelled exec operation (if retry then onRetry else none) := by
    cases retry with
    | true => exact uncancelled
    | false =>
        refine ⟨uncancelled.operation, ?_, uncancelled.wait⟩
        intro hook s error s' impossible
        cases impossible
  obtain ⟨pieces, made, guarded⟩ := guardedCall_pieces own run
  rw [limit, hook] at guarded
  exact ⟨pieces, made.hooks, guarded⟩

/-! ## What `dependency_retries_total` counts -/

def Piece.countsRetry : Piece α → Bool
  | .ask (.observe (.dependencyRetry _ _)) _ => true
  | _ => false

def retriesCounted (pieces : List (Piece α)) : ℕ := pieces.countP Piece.countsRetry

theorem attempt_retriesCounted (attempt : Attempt α) (hooked : Bool) (started : ℕ) :
    retriesCounted (attempt.pieces hooked started) = 0 := by
  cases attempt with
  | invoked outcome =>
      simp only [Attempt.pieces]
      split <;> rfl
  | hookFailed error => rfl

theorem later_retriesCounted (policy : DependencyPolicy) (hooked : Bool) (started : ℕ)
    (attempts : List (Attempt α)) :
    retriesCounted (laterPieces policy hooked started attempts) = 0 := by
  induction attempts generalizing started with
  | nil => rfl
  | cons head rest ih =>
      have first : Piece.countsRetry
          (.ask (.backoff (policy.waitCap started)) (.ok ()) : Piece α) = false := rfl
      have own := attempt_retriesCounted head hooked started
      have later := ih (started + 1)
      unfold retriesCounted at own later ⊢
      simp [laterPieces, List.countP_append, first, own, later]

@[simp] theorem countedAs_retriesCounted (started : ℕ) (outcome : RetryOutcome) :
    retriesCounted (countedAs dependency started outcome : List (Piece α)) =
      if 0 < started then 1 else 0 := by
  unfold countedAs
  split <;> rfl

/-- The call ended with a value, used up its attempts, or made no second one. -/
def RetrySettled (limit : ℕ) (rest : List (Attempt α)) (last : Attempt α) : Prop :=
  rest = [] ∨ (∃ value, last.outcome = .ok value) ∨ (last.Faulted ∧ rest.length + 1 = limit)

theorem RetryEnded.counted_iff {limit : ℕ} {rest : List (Attempt α)} {last : Attempt α}
    {tail : List (Piece α)} {outcome : Except Exc α}
    (ended : RetryEnded policy dependency limit rest.length last tail outcome) :
    retriesCounted tail = (if 0 < rest.length then 1 else 0) ↔ RetrySettled limit rest last := by
  have none_ : (0 = if 0 < rest.length then 1 else 0) ↔ rest = [] := by
    cases rest with
    | nil => simp
    | cons head rest => simp
  cases ended with
  | @value value same => simp [RetrySettled, same]
  | @exhausted error same fault used =>
      have faulted : last.Faulted := ⟨error, same, fault⟩
      simp [RetrySettled, faulted, used]
  | @answer error same answer =>
      have unfaulted : ¬last.Faulted := by
        intro ⟨other, same', fault⟩
        obtain rfl := Except.error.inj (same.symm.trans same')
        rw [answer] at fault
        cases fault
      have nothing : retriesCounted ([] : List (Piece α)) = 0 := rfl
      rw [nothing, none_]
      simp [RetrySettled, same, unfaulted]
  | @interrupted error faulted room =>
      have nothing : retriesCounted
          [(.ask (.backoff (policy.waitCap (rest.length + 1))) (.error error) : Piece α)] = 0 := rfl
      obtain ⟨fault, same, -⟩ := faulted
      rw [nothing, none_]
      simp [RetrySettled, same]
      omega

/-- In every execution of `with_retry`, which makes the attempts `first :: rest`: it counts one
outcome of a call that took more than one attempt, and none of another, exactly if the call
settled. -/
theorem retry_counted_iff (exec : (op : Op) → S → op.Reply → S → Prop) (policy : DependencyPolicy)
    (dependency : Dependency) (operation : Py α) (onRetry : Option (Py Unit)) {s s' : S}
    {outcome : Except Exc α}
    (run : Runs exec (withRetry policy dependency operation onRetry) s outcome s') :
    ∃ first rest last tail,
      LoopRun exec operation onRetry policy dependency (policy.attempts.toNat - 1 + 1) 0 outcome
        s s' first rest last tail ∧
      (retriesCounted (first.pieces onRetry.isSome 0 ++
          laterPieces policy onRetry.isSome 1 rest ++ tail) = (if 0 < rest.length then 1 else 0) ↔
        RetrySettled (policy.attempts.toNat - 1 + 1) rest last) := by
  obtain ⟨first, rest, last, tail, loop⟩ := withRetry_pieces run
  refine ⟨first, rest, last, tail, loop, ?_⟩
  have ended := loop.ended
  rw [Nat.zero_add] at ended
  have own := attempt_retriesCounted first onRetry.isSome 0
  have later := later_retriesCounted policy onRetry.isSome 1 rest
  have counted := ended.counted_iff
  unfold retriesCounted at own later counted ⊢
  rw [List.countP_append, List.countP_append, own, later, Nat.zero_add]
  exact counted

end

/-! ## A dependency that fails once -/

/-- MySQL fails at the first statement and answers the others with `second`. -/
def flaky (second : Except Exc (Option ℤ)) : (op : Op) → ℕ → Option (op.Reply × ℕ)
  | .mysql (.selectArticle _), 0 => some (.error .operationalError, 1)
  | .mysql (.selectArticle _), n + 1 => some (second, n + 2)
  | .breakerAllow _, n => some (true, n)
  | .breakerSuccess _, n => some ((), n)
  | .breakerFailure _, n => some ((), n)
  | .observe _, n => some ((), n)
  | .backoff _, n => some (.ok (), n)
  | _, _ => none

def flakyExec (second : Except Exc (Option ℤ)) (op : Op) (n : ℕ) (reply : op.Reply) (n' : ℕ) :
    Prop := flaky second op n = some (reply, n')

theorem flakyExec_of_flaky (second : Except Exc (Option ℤ)) (op : Op) (n : ℕ) (reply : op.Reply)
    (n' : ℕ) (answered : flaky second op n = some (reply, n')) : flakyExec second op n reply n' :=
  answered

def threeAttempts : DependencyPolicy := ⟨3, 3, 1 / 20, 1 / 2, 5, 10, 1⟩

theorem flaky_uncancelled :
    Uncancelled (flakyExec (.ok (some 1))) (mysql (.selectArticle 1)) none := by
  constructor
  · intro n error n' run
    cases run with
    | @call _ _ _ _ _ reply _ step run =>
        cases n with
        | zero =>
            obtain ⟨rfl, rfl⟩ := Prod.mk.inj (Option.some.inj step)
            cases run
            exact ⟨by decide, rfl⟩
        | succ n =>
            obtain ⟨rfl, rfl⟩ := Prod.mk.inj (Option.some.inj step)
            cases run
  · intro hook n error n' impossible
    cases impossible
  · intro n longest error n' step
    cases step

/-- A read that fails once and is answered then. -/
theorem guarded_call_end_to_end_of_second : ∃ outcome n',
    Runs (flakyExec (.ok (some 1))) (guardedCall threeAttempts .mysql (mysql (.selectArticle 1))
      none true) 0 outcome n' ∧
    ∃ pieces, Pieces (flakyExec (.ok (some 1))) (mysql (.selectArticle 1)) none pieces 0 n' ∧
      GuardedRun (threeAttempts.effective true) .mysql (threeAttempts.effective true).attempts.toNat
        (true && (none : Option (Py Unit)).isSome) pieces outcome := by
  obtain ⟨outcome, n', run, -⟩ := exists_runs (flakyExec_of_flaky (.ok (some 1)))
    (guardedCall threeAttempts .mysql (mysql (.selectArticle 1)) none true) 0
    (fun last => last.2 == 2) (by decide +kernel)
  exact ⟨outcome, n', run, guarded_call_end_to_end (flakyExec (.ok (some 1))) threeAttempts
    (by decide) .mysql (mysql (.selectArticle 1)) none true flaky_uncancelled run⟩

/-- A read fails once, and the second attempt is answered with an error that is not worth a third:
the call was retried and nothing counts it. -/
theorem retried_answer_uncounted : ∃ n',
    Runs (flakyExec (.error .programmingError))
      (withRetry threeAttempts .mysql (mysql (.selectArticle 1)) none) 0
      (.error .programmingError) n' ∧
    LoopRun (flakyExec (.error .programmingError)) (mysql (.selectArticle 1)) none threeAttempts
      .mysql 3 0 (.error .programmingError) 0 n' (.invoked (.error .operationalError))
      [.invoked (.error .programmingError)] (.invoked (.error .programmingError)) [] ∧
    retriesCounted (Attempt.pieces false 0 (.invoked (.error .operationalError)) ++
      laterPieces threeAttempts false 1 [.invoked (.error .programmingError)] ++ [] :
        List (Piece (Option ℤ))) = 0 := by
  refine ⟨2, ?_, ⟨rfl, ?_, by decide, ?_, .answer rfl rfl⟩, rfl⟩
  · exact execute_runs (flakyExec_of_flaky (.error .programmingError)) (by decide +kernel)
  · intro attempt member
    obtain rfl := List.mem_singleton.mp member
    exact ⟨_, rfl, rfl⟩
  · exact .invoke (.call rfl (.raise _ _)) (.ask rfl (.invoke (.call rfl (.raise _ _)) (.nil _)))

/-- The read that is answered the second time is counted once. -/
theorem retry_counted_iff_of_second : ∃ outcome n',
    Runs (flakyExec (.ok (some 1))) (withRetry threeAttempts .mysql (mysql (.selectArticle 1)) none)
      0 outcome n' ∧
    ∃ first rest last tail,
      LoopRun (flakyExec (.ok (some 1))) (mysql (.selectArticle 1)) none threeAttempts .mysql
        (threeAttempts.attempts.toNat - 1 + 1) 0 outcome 0 n' first rest last tail ∧
      (retriesCounted (first.pieces (none : Option (Py Unit)).isSome 0 ++
          laterPieces threeAttempts (none : Option (Py Unit)).isSome 1 rest ++ tail) =
            (if 0 < rest.length then 1 else 0) ↔
        RetrySettled (threeAttempts.attempts.toNat - 1 + 1) rest last) := by
  obtain ⟨outcome, n', run, -⟩ := exists_runs (flakyExec_of_flaky (.ok (some 1)))
    (withRetry threeAttempts .mysql (mysql (.selectArticle 1)) none) 0 (fun last => last.2 == 2)
    (by decide +kernel)
  exact ⟨outcome, n', run, retry_counted_iff (flakyExec (.ok (some 1))) threeAttempts .mysql
    (mysql (.selectArticle 1)) none run⟩

end ContentPlatform
