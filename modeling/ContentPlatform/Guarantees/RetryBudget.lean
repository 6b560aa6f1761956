import ContentPlatform.Guarantees.GuardedCalls
import ContentPlatform.Resilience.Policy
import Mathlib.Algebra.Order.BigOperators.Group.List

/-!
# The retry budget

The bound that is checked when the process starts holds of the schedule that the attempts follow,
whatever the jitter draws.
-/

set_option autoImplicit false

namespace ContentPlatform

open Program Py

section
variable {α S : Type}

def Piece.longest : Piece α → Option ℚ
  | .ask (.backoff longest) _ => some longest
  | _ => none

/-- An execution with its waits, each as long as the clock advances over it, and with the time at
which each invocation is started. -/
inductive Paced (exec : (op : Op) → S → op.Reply → S → Prop) (clock : S → ℚ) (operation : Py α)
    (onRetry : Option (Py Unit)) :
    List (Piece α) → (waits starts : List ℚ) → S → S → Prop where
  | nil (s : S) : Paced exec clock operation onRetry [] [] [] s s
  | wait {longest : ℚ} {reply : Except Exc Unit} {rest : List (Piece α)} {waits starts : List ℚ}
      {s s₁ s' : S} : exec (.backoff longest) s reply s₁ →
      Paced exec clock operation onRetry rest waits starts s₁ s' →
      Paced exec clock operation onRetry (.ask (.backoff longest) reply :: rest)
        ((clock s₁ - clock s) :: waits) starts s s'
  | ask {op : Op} {reply : op.Reply} {rest : List (Piece α)} {waits starts : List ℚ}
      {s s₁ s' : S} : (Piece.ask op reply : Piece α).longest = none → exec op s reply s₁ →
      Paced exec clock operation onRetry rest waits starts s₁ s' →
      Paced exec clock operation onRetry (.ask op reply :: rest) waits starts s s'
  | invoke {outcome : Except Exc α} {rest : List (Piece α)} {waits starts : List ℚ}
      {s s₁ s' : S} : Runs exec operation s outcome s₁ →
      Paced exec clock operation onRetry rest waits starts s₁ s' →
      Paced exec clock operation onRetry (.invoke outcome :: rest) waits (clock s :: starts) s s'
  | hook {hook : Py Unit} {outcome : Except Exc Unit} {rest : List (Piece α)}
      {waits starts : List ℚ} {s s₁ s' : S} : onRetry = some hook → Runs exec hook s outcome s₁ →
      Paced exec clock operation onRetry rest waits starts s₁ s' →
      Paced exec clock operation onRetry (.hook outcome :: rest) waits starts s s'

/-- Every wait is drawn from between zero and its cap; one that is cut short is shorter. -/
def Jittered (exec : (op : Op) → S → op.Reply → S → Prop) (clock : S → ℚ) : Prop :=
  ∀ s longest reply s', exec (.backoff longest) s reply s' →
    clock s ≤ clock s' ∧ clock s' ≤ clock s + longest

/-- Attempts fail at once, with an error that is worth another one, and nothing but the end of the
budget cuts a wait short. -/
structure FailsAtOnce (exec : (op : Op) → S → op.Reply → S → Prop) (clock : S → ℚ)
    (operation : Py α) (onRetry : Option (Py Unit)) (deadline : ℚ) : Prop where
  operation : ∀ s outcome s', Runs exec operation s outcome s' →
    clock s' = clock s ∧ ∃ error, outcome = .error error ∧ error.isTransient = true
  hook : ∀ hook s outcome s', onRetry = some hook → Runs exec hook s outcome s' →
    clock s' = clock s ∧ outcome = .ok ()
  wait : ∀ s longest error s', exec (.backoff longest) s (.error error) s' → deadline ≤ clock s'

variable {exec : (op : Op) → S → op.Reply → S → Prop} {clock : S → ℚ} {operation : Py α}
  {onRetry : Option (Py Unit)} {policy : DependencyPolicy} {dependency : Dependency} {s s' : S}
  {waits starts : List ℚ} {deadline : ℚ}

/-! ## Waits -/

theorem Pieces.paced {pieces : List (Piece α)} (run : Pieces exec operation onRetry pieces s s') :
    ∃ waits starts, Paced exec clock operation onRetry pieces waits starts s s' := by
  induction run with
  | nil s => exact ⟨[], [], .nil s⟩
  | @ask op reply rest s s₁ s' step _ ih =>
      obtain ⟨waits, starts, paced⟩ := ih
      cases timed : (Piece.ask op reply : Piece α).longest with
      | none => exact ⟨waits, starts, .ask timed step paced⟩
      | some longest =>
          cases op with
          | backoff cap => exact ⟨_, starts, .wait step paced⟩
          | _ => cases timed
  | invoke run _ ih =>
      obtain ⟨waits, starts, paced⟩ := ih
      exact ⟨waits, _, .invoke run paced⟩
  | hook same run _ ih =>
      obtain ⟨waits, starts, paced⟩ := ih
      exact ⟨waits, starts, .hook same run paced⟩

theorem Paced.split {first second : List (Piece α)}
    (both : Paced exec clock operation onRetry (first ++ second) waits starts s s') :
    ∃ waits₁ waits₂ starts₁ starts₂ s₁, waits = waits₁ ++ waits₂ ∧ starts = starts₁ ++ starts₂ ∧
      Paced exec clock operation onRetry first waits₁ starts₁ s s₁ ∧
      Paced exec clock operation onRetry second waits₂ starts₂ s₁ s' := by
  induction first generalizing waits starts s with
  | nil => exact ⟨[], waits, [], starts, s, rfl, rfl, .nil s, both⟩
  | cons piece rest ih =>
      cases both with
      | wait step both =>
          obtain ⟨waits₁, waits₂, starts₁, starts₂, s₁, rfl, rfl, before, after⟩ := ih both
          exact ⟨_, waits₂, starts₁, starts₂, s₁, rfl, rfl, .wait step before, after⟩
      | ask timeless step both =>
          obtain ⟨waits₁, waits₂, starts₁, starts₂, s₁, rfl, rfl, before, after⟩ := ih both
          exact ⟨waits₁, waits₂, starts₁, starts₂, s₁, rfl, rfl, .ask timeless step before, after⟩
      | invoke run both =>
          obtain ⟨waits₁, waits₂, starts₁, starts₂, s₁, rfl, rfl, before, after⟩ := ih both
          exact ⟨waits₁, waits₂, _, starts₂, s₁, rfl, rfl, .invoke run before, after⟩
      | hook same run both =>
          obtain ⟨waits₁, waits₂, starts₁, starts₂, s₁, rfl, rfl, before, after⟩ := ih both
          exact ⟨waits₁, waits₂, starts₁, starts₂, s₁, rfl, rfl, .hook same run before, after⟩

/-- Every wait lies below its cap. -/
theorem Paced.bounded {pieces : List (Piece α)} (jittered : Jittered exec clock)
    (paced : Paced exec clock operation onRetry pieces waits starts s s') :
    List.Forall₂ (fun wait longest => 0 ≤ wait ∧ wait ≤ longest) waits
      (pieces.filterMap Piece.longest) := by
  induction paced with
  | nil s => exact .nil
  | @wait longest reply rest waits starts s s₁ s' step _ ih =>
      obtain ⟨least, most⟩ := jittered s longest reply s₁ step
      exact .cons ⟨by linarith, by linarith⟩ ih
  | ask timeless _ _ ih =>
      rw [List.filterMap_cons_none timeless]
      exact ih
  | invoke _ _ ih => exact ih
  | hook _ _ _ ih => exact ih

theorem Paced.nonneg {pieces : List (Piece α)} (jittered : Jittered exec clock)
    (paced : Paced exec clock operation onRetry pieces waits starts s s') :
    ∀ wait ∈ waits, 0 ≤ wait := by
  induction paced with
  | nil s => exact fun wait member => by cases member
  | @wait longest reply rest waits starts s s₁ s' step _ ih =>
      intro wait member
      rcases List.mem_cons.mp member with rfl | later
      · exact sub_nonneg.mpr (jittered s longest reply s₁ step).1
      · exact ih wait later
  | ask _ _ _ ih => exact ih
  | invoke _ _ ih => exact ih
  | hook _ _ _ ih => exact ih

theorem attempt_longest (attempt : Attempt α) (hooked : Bool) (started : ℕ) :
    (attempt.pieces hooked started).filterMap Piece.longest = [] := by
  cases attempt with
  | invoked outcome =>
      simp only [Attempt.pieces]
      split <;> rfl
  | hookFailed error => rfl

theorem later_longest (policy : DependencyPolicy) (hooked : Bool) (started : ℕ)
    (rest : List (Attempt α)) :
    (laterPieces policy hooked started rest).filterMap Piece.longest =
      (List.range rest.length).map fun index => policy.waitCap (started + index) := by
  induction rest generalizing started with
  | nil => rfl
  | cons attempt rest ih =>
      have own : (Piece.ask (.backoff (policy.waitCap started)) (.ok ()) : Piece α).longest =
          some (policy.waitCap started) := rfl
      rw [laterPieces, List.filterMap_cons_some own, List.filterMap_append, attempt_longest,
        List.nil_append, ih, List.length_cons, List.range_succ_eq_map, List.map_cons, List.map_map]
      simp only [Function.comp_def, Nat.add_succ, Nat.succ_add, Nat.add_zero]

theorem counted_longest (started : ℕ) (retried : RetryOutcome) :
    (countedAs dependency started retried : List (Piece α)).filterMap Piece.longest = [] := by
  unfold countedAs
  split <;> rfl

/-- The waits of the loop are those of the schedule, and fewer than its attempts. -/
theorem LoopRun.longest {limit : ℕ} {outcome : Except Exc α} {first last : Attempt α}
    {rest : List (Attempt α)} {tail : List (Piece α)}
    (loop : LoopRun exec operation onRetry policy dependency limit 0 outcome s s' first rest last
      tail) :
    ∃ count < limit, (first.pieces onRetry.isSome 0 ++
        laterPieces policy onRetry.isSome 1 rest ++ tail).filterMap Piece.longest =
      (List.range count).map fun index => policy.waitCap (1 + index) := by
  rw [List.filterMap_append, List.filterMap_append, attempt_longest, later_longest,
    List.nil_append]
  have within := loop.within
  have ended := loop.ended
  rw [Nat.zero_add] at within ended
  cases ended with
  | value same =>
      rw [counted_longest, List.append_nil]
      exact ⟨rest.length, within, rfl⟩
  | answer same answer => exact ⟨rest.length, within, List.append_nil _⟩
  | exhausted same fault used =>
      rw [counted_longest, List.append_nil]
      exact ⟨rest.length, within, rfl⟩
  | interrupted faulted room =>
      refine ⟨rest.length + 1, room, ?_⟩
      rw [List.range_succ, List.map_append, List.map_singleton, Nat.add_comm 1 rest.length]
      rfl

/-! ## The sum -/

/-- With a positive base and cap, the cap of a wait is the one of the schedule. -/
theorem waitCap_eq (base : 0 < policy.backoffBaseSeconds) (cap : 0 < policy.backoffMaxSeconds)
    (index : ℕ) : policy.waitCap (1 + index) =
      min (policy.backoffBaseSeconds * 2 ^ index) policy.backoffMaxSeconds := by
  rw [DependencyPolicy.waitCap, Nat.add_sub_cancel_left]
  apply max_eq_right
  exact le_min (by positivity) cap.le

/-- Any number of waits below the number of attempts adds up to no more than the worst case. -/
theorem sum_le_worstCase (base : 0 < policy.backoffBaseSeconds)
    (cap : 0 < policy.backoffMaxSeconds) {count : ℕ} (room : count ≤ (policy.attempts - 1).toNat) :
    ((List.range count).map fun index => policy.waitCap (1 + index)).sum ≤
      policy.worstCaseBackoffSeconds := by
  have positive : ∀ index, 0 ≤ min (policy.backoffBaseSeconds * 2 ^ index)
      policy.backoffMaxSeconds := fun index => le_min (by positivity) cap.le
  have same : (max (policy.attempts - 1) 0).toNat = (policy.attempts - 1).toNat := by omega
  obtain ⟨more, total⟩ := Nat.exists_eq_add_of_le room
  simp only [waitCap_eq base cap]
  rw [DependencyPolicy.worstCaseBackoffSeconds, same, total, List.range_add, List.map_append,
    List.sum_append, List.map_map]
  apply le_add_of_nonneg_right
  apply List.sum_nonneg
  intro wait member
  obtain ⟨index, -, rfl⟩ := List.mem_map.mp member
  exact positive _

/-! ## Attempts that fail at once -/

/-- Nothing but the waits takes time, and the budget holds out where they fit into it. -/
theorem Paced.starts_le {pieces : List (Piece α)}
    (fails : FailsAtOnce exec clock operation onRetry deadline)
    (paced : Paced exec clock operation onRetry pieces waits starts s s')
    (jittered : Jittered exec clock)
    (waitsOnly : ∀ op reply, Piece.ask op reply ∈ pieces → ∃ longest, op = .backoff longest) :
    clock s' = clock s + waits.sum ∧ ∀ start ∈ starts, start ≤ clock s + waits.sum := by
  induction paced with
  | nil s => exact ⟨by rw [List.sum_nil, add_zero], fun start member => by cases member⟩
  | @wait longest reply rest waits starts s s₁ s' step _ ih =>
      obtain ⟨last, earlier⟩ := ih fun op reply member => waitsOnly op reply (.tail _ member)
      rw [List.sum_cons]
      exact ⟨by linarith, fun start member => by linarith [earlier start member]⟩
  | @ask op reply rest waits starts s s₁ s' timeless step _ ih =>
      obtain ⟨longest, rfl⟩ := waitsOnly op reply (.head _)
      cases timeless
  | @invoke outcome rest waits starts s s₁ s' run paced ih =>
      obtain ⟨last, earlier⟩ := ih fun op reply member => waitsOnly op reply (.tail _ member)
      have same := (fails.operation s outcome s₁ run).1
      have nonneg : 0 ≤ waits.sum := List.sum_nonneg (paced.nonneg jittered)
      rw [same] at last earlier
      refine ⟨last, fun start member => ?_⟩
      rcases List.mem_cons.mp member with rfl | later
      · linarith
      · exact earlier start later
  | @hook hook outcome rest waits starts s s₁ s' some_ run _ ih =>
      obtain ⟨last, earlier⟩ := ih fun op reply member => waitsOnly op reply (.tail _ member)
      have same := (fails.hook hook s outcome s₁ some_ run).1
      rw [same] at last earlier
      exact ⟨last, earlier⟩

theorem FailsAtOnce.invoked (fails : FailsAtOnce exec clock operation onRetry deadline)
    {attempt : Attempt α} {hooked : Bool} {started : ℕ}
    (paced : Paced exec clock operation onRetry (attempt.pieces hooked started) waits starts s s') :
    starts.length = 1 ∧ attempt.Faulted := by
  cases attempt with
  | invoked outcome =>
      simp only [Attempt.pieces] at paced
      split at paced
      · cases paced with
        | hook _ _ paced =>
            cases paced with
            | invoke run paced =>
                cases paced
                exact ⟨rfl, (fails.operation _ _ _ run).2⟩
      · cases paced with
        | invoke run paced =>
            cases paced
            exact ⟨rfl, (fails.operation _ _ _ run).2⟩
  | hookFailed error =>
      cases paced with
      | hook same run paced => cases (fails.hook _ _ _ _ same run).2

/-- Each of the later attempts is invoked. -/
theorem FailsAtOnce.later (fails : FailsAtOnce exec clock operation onRetry deadline)
    {rest : List (Attempt α)} {hooked : Bool} {started : ℕ}
    (paced : Paced exec clock operation onRetry (laterPieces policy hooked started rest) waits
      starts s s') :
    starts.length = rest.length ∧ ∀ attempt ∈ rest, attempt.Faulted := by
  induction rest generalizing started waits starts s with
  | nil =>
      cases paced
      exact ⟨rfl, fun attempt member => by cases member⟩
  | cons attempt rest ih =>
      cases paced with
      | wait step paced =>
          obtain ⟨waits₁, waits₂, starts₁, starts₂, s₁, rfl, rfl, tried, after⟩ := paced.split
          obtain ⟨one, faulted⟩ := fails.invoked tried
          obtain ⟨others, all⟩ := ih after
          refine ⟨by rw [List.length_append, one, others, List.length_cons]; omega, ?_⟩
          intro other member
          rcases List.mem_cons.mp member with rfl | later
          · exact faulted
          · exact all other later
      | ask timeless step paced => cases timeless

theorem attempt_asks {attempt : Attempt α} {hooked : Bool} {started : ℕ} {op : Op}
    {reply : op.Reply} : Piece.ask op reply ∉ attempt.pieces hooked started := by
  cases attempt with
  | invoked outcome =>
      simp only [Attempt.pieces]
      split <;> simp
  | hookFailed error => simp [Attempt.pieces]

theorem later_asks {rest : List (Attempt α)} {hooked : Bool} {started : ℕ} {op : Op}
    {reply : op.Reply} (member : Piece.ask op reply ∈ laterPieces policy hooked started rest) :
    ∃ longest, op = .backoff longest := by
  induction rest generalizing started with
  | nil => cases member
  | cons attempt rest ih =>
      rcases List.mem_cons.mp member with same | member
      · cases same
        exact ⟨_, rfl⟩
      · rcases List.mem_append.mp member with own | later
        · exact absurd own attempt_asks
        · exact ih later

theorem counted_starts {started : ℕ} {retried : RetryOutcome}
    (paced : Paced exec clock operation onRetry (countedAs dependency started retried) waits starts
      s s') : starts = [] := by
  unfold countedAs at paced
  split at paced
  · cases paced with
    | ask _ _ paced =>
        cases paced
        rfl
  · cases paced
    rfl

/-- Where the waits fit into the budget, every attempt is started before its end. -/
theorem LoopRun.all_started {limit : ℕ} {outcome : Except Exc α} {first last : Attempt α}
    {rest : List (Attempt α)} {tail : List (Piece α)}
    (loop : LoopRun exec operation onRetry policy dependency limit 0 outcome s s' first rest last
      tail)
    (paced : Paced exec clock operation onRetry (first.pieces onRetry.isSome 0 ++
      laterPieces policy onRetry.isSome 1 rest ++ tail) waits starts s s')
    (jittered : Jittered exec clock) (fails : FailsAtOnce exec clock operation onRetry deadline)
    (fits : clock s + waits.sum < deadline) :
    starts.length = limit ∧ ∀ start ∈ starts, start < deadline := by
  have ended := loop.ended
  rw [Nat.zero_add] at ended
  obtain ⟨waits₁, waits₂, starts₁, starts₂, s₁, rfl, rfl, tried, after⟩ := paced.split
  obtain ⟨waits₃, waits₄, starts₃, starts₄, s₂, rfl, rfl, once, again⟩ := tried.split
  obtain ⟨one, firstFaulted⟩ := fails.invoked once
  obtain ⟨others, restFaulted⟩ := fails.later again
  have waitsOnly : ∀ op reply, Piece.ask op reply ∈ first.pieces onRetry.isSome 0 ++
      laterPieces policy onRetry.isSome 1 rest → ∃ longest, op = .backoff longest := by
    intro op reply member
    rcases List.mem_append.mp member with own | later
    · exact absurd own attempt_asks
    · exact later_asks later
  obtain ⟨reached, earlier⟩ := tried.starts_le fails jittered waitsOnly
  have nonneg : 0 ≤ waits₂.sum := List.sum_nonneg (after.nonneg jittered)
  rw [List.sum_append] at fits
  have faulted : last.Faulted := by
    rcases List.mem_cons.mp (List.mem_of_getLast? loop.isLast) with rfl | member
    · exact firstFaulted
    · exact restFaulted last member
  obtain ⟨fault, failed, worth⟩ := faulted
  cases ended with
  | value same => cases same.symm.trans failed
  | answer same answer =>
      cases same.symm.trans failed
      rw [worth] at answer
      cases answer
  | exhausted same transient used =>
      obtain rfl := counted_starts after
      rw [List.append_nil]
      refine ⟨by rw [List.length_append, one, others]; omega, fun start member => ?_⟩
      have bound := earlier start member
      linarith
  | interrupted faulted room =>
      cases after with
      | @wait longest reply rest waits starts s s₃ s' step after =>
          cases after
          have late := fails.wait _ _ _ _ step
          rw [List.sum_cons, List.sum_nil] at fits
          linarith
      | ask timeless step after => cases timeless

/-! ## The guarantee -/

/-- What the checks say of the policy of a call, retried or not. -/
theorem BudgetSettings.Accepted.effective {settings : BudgetSettings} (accepted : settings.Accepted)
    (retry : Bool) :
    0 < (settings.database.effective retry).backoffBaseSeconds ∧
      0 < (settings.database.effective retry).backoffMaxSeconds ∧
      1 ≤ (settings.database.effective retry).attempts ∧
      (settings.database.effective retry).worstCaseBackoffSeconds <
        (settings.database.effective retry).callTimeoutSeconds := by
  have cap : 0 < settings.retryBackoffMaxSeconds := accepted.base.trans_le accepted.cap
  cases retry with
  | true => exact ⟨accepted.base, cap, accepted.attempts, accepted.fits⟩
  | false => exact ⟨accepted.base, cap, le_rfl, accepted.callTimeout⟩

/-- An execution under `policy` and what its waits and its attempts come to. -/
structure BudgetKept (policy : DependencyPolicy) (exec : (op : Op) → S → op.Reply → S → Prop)
    (clock : S → ℚ) (dependency : Dependency) (operation : Py α) (onRetry : Option (Py Unit))
    (outcome : Except Exc α) (s s' : S) (waits starts : List ℚ) : Prop where
  run : ∃ first rest last tail,
    LoopRun exec operation onRetry policy dependency policy.attempts.toNat 0 outcome s s' first rest
      last tail ∧
    Paced exec clock operation onRetry (first.pieces onRetry.isSome 0 ++
      laterPieces policy onRetry.isSome 1 rest ++ tail) waits starts s s'
  /-- The wait before attempt `n + 2`. -/
  wait : ∀ n wait, waits[n]? = some wait → 0 ≤ wait ∧
    wait ≤ min (policy.backoffBaseSeconds * 2 ^ n) policy.backoffMaxSeconds
  total : waits.sum ≤ policy.worstCaseBackoffSeconds
  fits : policy.worstCaseBackoffSeconds < policy.callTimeoutSeconds
  started : FailsAtOnce exec clock operation onRetry (clock s + policy.callTimeoutSeconds) →
    (starts.length : ℤ) = policy.attempts ∧
      ∀ start ∈ starts, start < clock s + policy.callTimeoutSeconds

/-- For all settings that the process accepts, whatever the jitter draws, in every execution of a
retried or an unretried call: each wait is at most the capped exponential, all waits together stay
within the worst case, which lies below the budget of the call, and attempts that fail at once are
all started before the budget is over. -/
theorem retry_budget_fits (repr : ℚ → String) (settings : BudgetSettings)
    {policies : Dependency → DependencyPolicy}
    (accepted : buildPolicies repr settings = .ok policies)
    (retry : Bool) (exec : (op : Op) → S → op.Reply → S → Prop) (clock : S → ℚ)
    (jittered : Jittered exec clock) (dependency : Dependency) (operation : Py α)
    (onRetry : Option (Py Unit)) {s s' : S} {outcome : Except Exc α}
    (run : Runs exec (withRetry ((policies .mysql).effective retry) dependency operation onRetry) s
      outcome s') :
    ∃ waits starts, BudgetKept ((policies .mysql).effective retry) exec clock dependency operation
      onRetry outcome s s' waits starts := by
  obtain ⟨checked, rfl⟩ := buildPolicies_ok.mp accepted
  change ∃ waits starts, BudgetKept (settings.database.effective retry) exec clock dependency
    operation onRetry outcome s s' waits starts
  obtain ⟨base, cap, attempts, fits⟩ := checked.effective retry
  obtain ⟨first, rest, last, tail, loop⟩ := withRetry_pieces run
  have limit : (settings.database.effective retry).attempts.toNat - 1 + 1 =
      (settings.database.effective retry).attempts.toNat := by omega
  rw [limit] at loop
  obtain ⟨waits, starts, paced⟩ := loop.pieces.paced
  rw [Nat.zero_add] at paced
  obtain ⟨count, fewer, longest⟩ := loop.longest
  have bounded := paced.bounded jittered
  rw [longest] at bounded
  have total : waits.sum ≤ (settings.database.effective retry).worstCaseBackoffSeconds :=
    calc waits.sum
        ≤ ((List.range count).map fun index =>
            (settings.database.effective retry).waitCap (1 + index)).sum :=
          List.Forall₂.sum_le_sum (bounded.imp fun _ _ both => both.2)
      _ ≤ (settings.database.effective retry).worstCaseBackoffSeconds :=
          sum_le_worstCase base cap (by omega)
  refine ⟨waits, starts, ⟨first, rest, last, tail, loop, paced⟩, fun n wait drawn => ?_, total, fits,
    fun fails => ?_⟩
  · obtain ⟨inside, rfl⟩ := List.getElem?_eq_some_iff.mp drawn
    have inside' := inside
    rw [bounded.length_eq] at inside'
    have both := bounded.get inside inside'
    simp only [List.get_eq_getElem, List.getElem_map, List.getElem_range] at both
    rw [waitCap_eq base cap] at both
    exact both
  · obtain ⟨all, earlier⟩ := loop.all_started paced jittered fails (by linarith)
    exact ⟨by omega, earlier⟩

end

/-! ## A dependency that is down -/

def down : (op : Op) → ℚ → Option (op.Reply × ℚ)
  | .mysql (.selectArticle _), now => some (.error .operationalError, now)
  | .backoff longest, now => if 0 ≤ longest then some (.ok (), now + longest) else none
  | .observe _, now => some ((), now)
  | _, _ => none

def downExec (op : Op) (now : ℚ) (reply : op.Reply) (now' : ℚ) : Prop :=
  down op now = some (reply, now')

theorem downExec_of_down (op : Op) (now : ℚ) (reply : op.Reply) (now' : ℚ)
    (answered : down op now = some (reply, now')) : downExec op now reply now' := answered

theorem down_jittered : Jittered downExec id := by
  intro now longest reply now' step
  unfold downExec down at step
  dsimp only at step
  split at step
  · rename_i nonneg
    obtain ⟨-, rfl⟩ := Prod.mk.inj (Option.some.inj step)
    exact ⟨by simpa using nonneg, le_rfl⟩
  · cases step

theorem down_failsAtOnce (deadline : ℚ) :
    FailsAtOnce downExec id (mysql (.selectArticle 1)) none deadline := by
  constructor
  · intro now outcome now' run
    cases run with
    | call step run =>
        obtain ⟨rfl, rfl⟩ := Prod.mk.inj (Option.some.inj step)
        cases run
        exact ⟨rfl, .operationalError, rfl, rfl⟩
  · intro hook now outcome now' impossible
    cases impossible
  · intro now longest error now' step
    unfold downExec down at step
    dsimp only at step
    split at step <;> cases step

/-- With the defaults, a read from a dependency that is down makes its two attempts. -/
theorem retry_budget_fits_of_defaults : ∃ outcome now,
    Runs downExec (withRetry (({} : BudgetSettings).database.effective true) .mysql
      (mysql (.selectArticle 1)) none) 0 outcome now ∧
    ∃ waits starts, BudgetKept (({} : BudgetSettings).database.effective true) downExec id .mysql
      (mysql (.selectArticle 1)) none outcome 0 now waits starts ∧ starts.length = 2 := by
  obtain ⟨outcome, now, run, -⟩ := exists_runs downExec_of_down
    (withRetry (({} : BudgetSettings).database.effective true) .mysql (mysql (.selectArticle 1)) none)
    0 (fun _ => true) (by decide +kernel)
  obtain ⟨waits, starts, kept⟩ := retry_budget_fits (fun _ => "") {}
    (buildPolicies_ok.mpr ⟨by constructor <;> decide +kernel, rfl⟩) true downExec id down_jittered
    .mysql (mysql (.selectArticle 1)) none run
  have both : (starts.length : ℤ) = 2 := (kept.started (down_failsAtOnce _)).1
  exact ⟨outcome, now, run, waits, starts, kept, by exact_mod_cast both⟩

end ContentPlatform
