import Mathlib.Order.Interval.Finset.Nat
import ContentPlatform.Guarantees.CircuitBreaking
import ContentPlatform.Program.Sequential
import ContentPlatform.Resilience.Guard

/-!
# What a breaker counts, reports and tells the callers it refuses

Over every sequence of calls on one breaker: its counters, its metrics, and the wait that a
refused caller is sent away with.
-/

set_option autoImplicit false

namespace ContentPlatform

def countIn (p : ℕ → Prop) [DecidablePred p] (m n : ℕ) : ℕ := ((Finset.Ico m n).filter p).card

section
variable {p : ℕ → Prop} [DecidablePred p] {m n : ℕ}

@[simp] theorem countIn_self : countIn p m m = 0 := by simp [countIn]

theorem countIn_succ (later : m ≤ n) :
    countIn p m (n + 1) = countIn p m n + if p n then 1 else 0 := by
  have longer : Finset.Ico m (n + 1) = insert n (Finset.Ico m n) :=
    Nat.Ico_succ_right_eq_insert_Ico later
  rw [countIn, longer, Finset.filter_insert]
  split
  · rw [Finset.card_insert_of_notMem (by simp)]
    rfl
  · simp [countIn]

theorem countIn_eq_zero : countIn p m n = 0 ↔ ∀ k, m ≤ k → k < n → ¬p k := by
  simp only [countIn, Finset.card_eq_zero, Finset.filter_eq_empty_iff, Finset.mem_Ico]
  constructor
  · intro none_ k from_ past
    exact none_ ⟨from_, past⟩
  · intro none_ k inside
    exact none_ k inside.1 inside.2

end

namespace CircuitBreaker

section
variable (b : CircuitBreaker) (events : ℕ → BreakerEvent)

def Admits (n : ℕ) : Prop :=
  (events n).call = .allow ∧ ((b.before events n).allow (events n).now).1 = true

instance : DecidablePred (b.Admits events) := fun n =>
  inferInstanceAs (Decidable ((events n).call = .allow ∧ _))

def Fails (events : ℕ → BreakerEvent) (n : ℕ) : Prop := (events n).call = .recordFailure

instance : DecidablePred (Fails events) := fun n =>
  inferInstanceAs (Decidable ((events n).call = .recordFailure))

/-- The event before `n` is a success, or takes the circuit into `CLOSED`. -/
def Restarts (n : ℕ) : Prop :=
  n = 0 ∨ (events (n - 1)).call = .recordSuccess ∨
    ((b.before events (n - 1)).state ≠ .closed ∧ (b.before events n).state = .closed)

instance : DecidablePred (b.Restarts events) := fun n =>
  inferInstanceAs (Decidable (n = 0 ∨ _ ∨ (_ ∧ _)))

def lastRestart (n : ℕ) : ℕ := Nat.findGreatest (b.Restarts events) n

/-- The circuit is half-open from event `m` on, which half-opened it, up to event `n`. -/
def Episode (m n : ℕ) : Prop :=
  m ≤ n ∧ (b.before events m).state ≠ .halfOpen ∧
    ∀ k, m < k → k ≤ n → (b.before events k).state = .halfOpen

end

/-- The counters of a breaker stay in range, and only a half-open circuit has probes. -/
structure Counters (b : CircuitBreaker) : Prop where
  failures : 0 ≤ b.failures ∧ b.failures < b.failureThreshold
  probes : 0 ≤ b.probes ∧ b.probes ≤ b.halfOpenMaxCalls
  idle : b.state ≠ .halfOpen → b.probes = 0

section
variable {b : CircuitBreaker} {events : ℕ → BreakerEvent} {m n : ℕ}

/-! ## The counters -/

theorem Counters.cleared (threshold : 1 ≤ b.failureThreshold) (room : 1 ≤ b.halfOpenMaxCalls)
    (failures : b.failures = 0) (probes : b.probes = 0) : Counters b :=
  ⟨by omega, by omega, fun _ => probes⟩

/-- A circuit that has just become half-open admits its first probe. -/
theorem toHalfOpen_allowProbe (room : 1 ≤ b.halfOpenMaxCalls) :
    b.toHalfOpen.allowProbe = (true, { b.toHalfOpen with probes := 1 }) := by
  have empty : ¬(0 : ℤ) ≥ b.halfOpenMaxCalls := by omega
  simp [allowProbe, toHalfOpen, transition, empty]

theorem Counters.step (counters : Counters b) (room : 1 ≤ b.halfOpenMaxCalls)
    (event : BreakerEvent) : Counters (b.step event) := by
  obtain ⟨failures, probes, idle⟩ := counters
  have threshold : 1 ≤ b.failureThreshold := by omega
  cases becomes b event with
  | admits _ _ _ same => rw [same]; exact ⟨failures, probes, idle⟩
  | refuses _ _ _ same => rw [same]; exact ⟨failures, probes, idle⟩
  | probes _ half room _ next =>
      rw [next]
      refine ⟨failures, ?_, fun notHalf => absurd half notHalf⟩
      dsimp only
      omega
  | halfOpens _ _ _ _ next =>
      rw [next, toHalfOpen_allowProbe room]
      exact ⟨failures, ⟨Int.one_nonneg, room⟩, fun notHalf => absurd rfl notHalf⟩
  | forgets _ _ next =>
      rw [next]
      exact ⟨⟨le_rfl, threshold⟩, probes, idle⟩
  | closes _ _ next => rw [next]; exact Counters.cleared threshold room rfl rfl
  | counts _ _ below next =>
      rw [next]
      refine ⟨⟨?_, below⟩, probes, idle⟩
      dsimp only
      omega
  | opens _ _ _ next => rw [next]; exact Counters.cleared threshold room rfl rfl
  | reopens _ _ next => rw [next]; exact Counters.cleared threshold room rfl rfl

theorem Counters.before (counters : Counters b) (room : 1 ≤ b.halfOpenMaxCalls) (n : ℕ) :
    Counters (b.before events n) := by
  induction n with
  | zero => exact counters
  | succ n ih => exact ih.step (by rw [before_halfOpenMaxCalls]; exact room) (events n)

theorem Restarts.failures (start : b.failures = 0) (restarts : b.Restarts events n) :
    (b.before events n).failures = 0 := by
  cases n with
  | zero => exact start
  | succ n =>
      rcases restarts with first | succeeded | ⟨notClosed, closed⟩
      · cases first
      · rw [Nat.add_sub_cancel] at succeeded
        rw [CircuitBreaker.before]
        cases becomes (b.before events n) (events n) with
        | forgets _ _ next => rw [next]
        | closes _ _ next => rw [next]; rfl
        | admits allowed => rw [succeeded] at allowed; cases allowed
        | refuses allowed => rw [succeeded] at allowed; cases allowed
        | probes allowed => rw [succeeded] at allowed; cases allowed
        | halfOpens allowed => rw [succeeded] at allowed; cases allowed
        | counts failed => rw [succeeded] at failed; cases failed
        | opens failed => rw [succeeded] at failed; cases failed
        | reopens failed => rw [succeeded] at failed; cases failed
      · rw [Nat.add_sub_cancel] at notClosed
        rw [CircuitBreaker.before] at closed ⊢
        cases becomes (b.before events n) (events n) with
        | closes _ _ next => rw [next]; rfl
        | forgets _ _ next => rw [next]
        | admits _ already => exact absurd already notClosed
        | refuses _ _ _ same => rw [same] at closed; exact absurd closed notClosed
        | probes _ _ _ _ next => rw [next] at closed; exact absurd closed notClosed
        | halfOpens _ _ _ _ next => rw [next, allowProbe_keeps] at closed; cases closed
        | counts _ _ _ next => rw [next] at closed; exact absurd closed notClosed
        | opens _ _ _ next => rw [next] at closed; cases closed
        | reopens _ _ next => rw [next] at closed; cases closed

theorem failures_eq_countIn (start : b.failures = 0) (later : m ≤ n)
    (restarts : b.Restarts events m)
    (since : ∀ k, m < k → k ≤ n → ¬b.Restarts events k)
    (closed : (b.before events n).state = .closed) :
    (b.before events n).failures = countIn (Fails events) m n := by
  induction n, later using Nat.le_induction with
  | base => simp [restarts.failures start]
  | succ n later ih =>
      have quiet : ¬b.Restarts events (n + 1) := since (n + 1) (by omega) le_rfl
      have noSuccess : (events n).call ≠ .recordSuccess := by
        intro succeeded
        exact quiet (Or.inr (Or.inl succeeded))
      have before : (b.before events n).state = .closed := by
        by_contra notClosed
        exact quiet (Or.inr (Or.inr ⟨notClosed, closed⟩))
      have counted := ih (fun k after upTo => since k after (upTo.trans (Nat.le_succ n))) before
      rw [countIn_succ later]
      rw [CircuitBreaker.before] at closed ⊢
      cases becomes (b.before events n) (events n) with
      | admits allowed _ _ same => simp [same, counted, Fails, allowed]
      | refuses _ shut => exact absurd before shut
      | probes _ half => rw [before] at half; cases half
      | halfOpens _ opened => rw [before] at opened; cases opened
      | forgets succeeded => exact absurd succeeded noSuccess
      | closes succeeded => exact absurd succeeded noSuccess
      | counts failed _ _ next => simp [next, counted, Fails, failed]
      | opens _ _ _ next => rw [next] at closed; cases closed
      | reopens _ half => rw [before] at half; cases half

theorem lastRestart_le (n : ℕ) : b.lastRestart events n ≤ n := Nat.findGreatest_le n

theorem failures_since_lastRestart (start : b.failures = 0)
    (closed : (b.before events n).state = .closed) :
    (b.before events n).failures = countIn (Fails events) (b.lastRestart events n) n := by
  have first : b.Restarts events 0 := Or.inl rfl
  apply failures_eq_countIn start (lastRestart_le n)
  · exact Nat.findGreatest_spec (Nat.zero_le n) first
  · intro k after upTo
    exact Nat.findGreatest_is_greatest after upTo
  · exact closed

/-- A circuit leaves `CLOSED` with the failure that reaches the threshold. -/
theorem leaves_closed_iff (closed : (b.before events n).state = .closed)
    (below : (b.before events n).failures < b.failureThreshold) :
    (b.before events (n + 1)).state ≠ .closed ↔
      Fails events n ∧ (b.before events n).failures + 1 = b.failureThreshold := by
  have threshold : (b.before events n).failureThreshold = b.failureThreshold :=
    before_failureThreshold n
  rw [CircuitBreaker.before]
  cases becomes (b.before events n) (events n) with
  | admits allowed _ _ same => simp [same, closed, Fails, allowed]
  | refuses _ shut => exact absurd closed shut
  | probes _ half => rw [closed] at half; cases half
  | halfOpens _ opened => rw [closed] at opened; cases opened
  | forgets succeeded _ next => simp [next, closed, Fails, succeeded]
  | closes _ half => rw [closed] at half; cases half
  | counts failed _ still next =>
      rw [threshold] at still
      simp only [next, closed, Fails, failed, ne_eq, not_true_eq_false, true_and, false_iff]
      omega
  | opens failed _ enough next =>
      rw [threshold] at enough
      simp only [next, toOpen, transition, Fails, failed, true_and]
      constructor
      · intro _
        omega
      · intro _ impossible
        cases impossible
  | reopens _ half => rw [closed] at half; cases half

/-- While the circuit is half-open, `_probes` counts the calls it has admitted. -/
theorem Episode.probes (counters : Counters b) (room : 1 ≤ b.halfOpenMaxCalls)
    (episode : b.Episode events m n) :
    (b.before events n).probes = countIn (b.Admits events) m n := by
  obtain ⟨later, notYet, since⟩ := episode
  induction n, later using Nat.le_induction with
  | base => simp [(counters.before room m).idle notYet]
  | succ n later ih =>
      have counted := ih fun k after upTo => since k after (upTo.trans (Nat.le_succ n))
      have half := since (n + 1) (by omega) le_rfl
      have roomNow : 1 ≤ (b.before events n).halfOpenMaxCalls := by
        rw [before_halfOpenMaxCalls]
        exact room
      rw [countIn_succ later]
      rw [CircuitBreaker.before] at half ⊢
      cases becomes (b.before events n) (events n) with
      | admits _ closed _ same => rw [same, closed] at half; cases half
      | refuses _ _ answer same => simp [same, counted, Admits, answer]
      | probes allowed _ _ answer next => simp [next, counted, Admits, answer, allowed]
      | halfOpens allowed opened _ answer next =>
          -- this is the event that begins the episode
          have same : n = m := by
            by_contra other
            have already := since n (by omega) (Nat.le_succ n)
            rw [opened] at already
            cases already
          subst same
          simp [next, Admits, answer, allowed, toHalfOpen_allowProbe roomNow]
      | forgets _ notHalf next => rw [next] at half; exact absurd half notHalf
      | closes _ _ next => rw [next] at half; cases half
      | counts _ notHalf _ next => rw [next] at half; exact absurd half notHalf
      | opens _ _ _ next => rw [next] at half; cases half
      | reopens _ _ next => rw [next] at half; cases half

end

/-- What the counters of a breaker mean before event `n`. -/
structure Counted (b : CircuitBreaker) (events : ℕ → BreakerEvent) (n : ℕ) : Prop where
  counters : Counters (b.before events n)
  /-- While the circuit is closed: the failures since the last success and the last closing. -/
  failures : (b.before events n).state = .closed →
    (b.before events n).failures = countIn (Fails events) (b.lastRestart events n) n
  opens : (b.before events n).state = .closed →
    ((b.before events (n + 1)).state ≠ .closed ↔
      Fails events n ∧
        countIn (Fails events) (b.lastRestart events n) n + 1 = b.failureThreshold)
  admits : (b.before events n).state = .closed → ∀ now, ((b.before events n).allow now).1 = true
  probes : ∀ m, b.Episode events m n → countIn (b.Admits events) m n ≤ b.halfOpenMaxCalls

theorem Counters.counted {b : CircuitBreaker} (fresh : Counters b) (room : 1 ≤ b.halfOpenMaxCalls)
    (start : b.failures = 0) (events : ℕ → BreakerEvent) (n : ℕ) : b.Counted events n := by
  have counters : Counters (b.before events n) := fresh.before room n
  constructor
  · exact counters
  · exact failures_since_lastRestart start
  · intro closed
    have below := counters.failures.2
    rw [before_failureThreshold] at below
    rw [leaves_closed_iff closed below, failures_since_lastRestart start closed]
  · intro closed now
    rw [allow_closed closed]
  · intro m episode
    have bound := counters.probes.2
    rw [before_halfOpenMaxCalls, episode.probes fresh room] at bound
    exact bound

/-- Before every event of every sequence of calls. -/
theorem breaker_counting {failureThreshold halfOpenMaxCalls : ℤ} (resetSeconds : ℚ)
    (threshold : 1 ≤ failureThreshold) (room : 1 ≤ halfOpenMaxCalls) (events : ℕ → BreakerEvent)
    (n : ℕ) : (new failureThreshold resetSeconds halfOpenMaxCalls).Counted events n :=
  Counters.counted (Counters.cleared threshold room rfl rfl) room rfl events n

/-- The thresholds of the settings as they come. -/
theorem breaker_counting_of_defaults : 1 ≤ (5 : ℤ) ∧ 1 ≤ (1 : ℤ) ∧
    ∀ events n, (new 5 10 1).Counted events n :=
  ⟨by decide, by decide, breaker_counting 10 (by decide) (by decide)⟩

/-! ## The metrics -/

section
variable (b : CircuitBreaker) (events : ℕ → BreakerEvent)

def Enters (state : BreakerState) (n : ℕ) : Prop :=
  (b.before events n).state ≠ state ∧ (b.before events (n + 1)).state = state

instance (state : BreakerState) : DecidablePred (b.Enters events state) := fun _ =>
  inferInstanceAs (Decidable (_ ∧ _))

/-- A failure that arrives at an open circuit reaches the threshold. -/
def Reopens (n : ℕ) : Prop :=
  Fails events n ∧ (b.before events n).state = .opened ∧
    b.failureThreshold ≤ (b.before events n).failures + 1

instance : DecidablePred (b.Reopens events) := fun _ =>
  inferInstanceAs (Decidable (_ ∧ _ ∧ _))

/-- The two metrics of a breaker before event `n`. -/
structure Truthful (n : ℕ) : Prop where
  transitions : ∀ state, (b.before events n).transitions state = countIn (b.Enters events state) 0 n
  gauge : (b.before events n).gauge = (b.before events n).state.value

end

section
variable {b : CircuitBreaker} {events : ℕ → BreakerEvent} {n : ℕ}

theorem allowProbe_transitions : b.allowProbe.2.transitions = b.transitions := by
  rw [allowProbe_keeps]

/-- A transition counts the state it reaches. -/
theorem transition_transitions (state : BreakerState) :
    b.transition.transitions state = b.transitions state + if b.state = state then 1 else 0 := by
  by_cases same : b.state = state
  · subst same
    simp [transition]
  · simp [transition, same, Function.update_of_ne (Ne.symm same)]

theorem step_gauge (published : b.gauge = b.state.value) (event : BreakerEvent) :
    (b.step event).gauge = (b.step event).state.value := by
  cases becomes b event with
  | admits _ _ _ same => rw [same]; exact published
  | refuses _ _ _ same => rw [same]; exact published
  | probes _ _ _ _ next => rw [next]; exact published
  | halfOpens _ _ _ _ next => rw [next, allowProbe_keeps]; rfl
  | forgets _ _ next => rw [next]; exact published
  | closes _ _ next => rw [next]; rfl
  | counts _ _ _ next => rw [next]; exact published
  | opens _ _ _ next => rw [next]; rfl
  | reopens _ _ next => rw [next]; rfl

theorem before_gauge (published : b.gauge = b.state.value) (n : ℕ) :
    (b.before events n).gauge = (b.before events n).state.value := by
  induction n with
  | zero => exact published
  | succ n ih => exact step_gauge ih (events n)

/-- An event is counted if it changes the state, or opens the circuit once more. -/
theorem step_transitions (n : ℕ) (state : BreakerState) :
    (b.before events (n + 1)).transitions state = (b.before events n).transitions state +
      ((if b.Enters events state n then 1 else 0) +
        if state = .opened ∧ b.Reopens events n then 1 else 0) := by
  have threshold : (b.before events n).failureThreshold = b.failureThreshold :=
    before_failureThreshold n
  have after : b.before events (n + 1) = (b.before events n).step (events n) := rfl
  simp only [Enters, Reopens, after]
  cases becomes (b.before events n) (events n) with
  | admits allowed _ _ same => simp [same, Fails, allowed]
  | refuses allowed _ _ same => simp [same, Fails, allowed]
  | probes allowed half _ _ next => simp [next, Fails, allowed]
  | halfOpens allowed opened _ _ next =>
      rw [next, allowProbe_transitions, allowProbe_keeps]
      simp only [toHalfOpen, transition_transitions, Fails, allowed, opened]
      cases state <;> simp [transition]
  | forgets succeeded _ next => simp [next, Fails, succeeded]
  | closes succeeded half next =>
      rw [next]
      simp only [toClosed, transition_transitions, Fails, succeeded, half]
      cases state <;> simp [transition]
  | counts failed notHalf below next =>
      rw [threshold] at below
      simp [next, Fails, failed, below]
  | opens failed notHalf enough next =>
      rw [threshold] at enough
      rw [next]
      simp only [toOpen, transition_transitions, Fails, failed, enough]
      cases state <;> cases before : (b.before events n).state <;>
        simp [transition, before] at notHalf ⊢
  | reopens failed half next =>
      rw [next]
      simp only [toOpen, transition_transitions, Fails, failed, half]
      cases state <;> simp [transition]

/-- Besides the changes of state, the counter of `OPEN` counts the failures that open it again. -/
theorem before_transitions (fresh : ∀ state, b.transitions state = 0) (n : ℕ)
    (state : BreakerState) : (b.before events n).transitions state =
      countIn (b.Enters events state) 0 n +
        if state = .opened then countIn (b.Reopens events) 0 n else 0 := by
  induction n with
  | zero => simp [CircuitBreaker.before, fresh]
  | succ n ih =>
      rw [step_transitions, ih, countIn_succ (Nat.zero_le n), countIn_succ (Nat.zero_le n)]
      by_cases opened : state = .opened
      · simp only [opened, true_and, if_true]
        omega
      · simp [opened]

theorem truthful_iff (fresh : ∀ state, b.transitions state = 0)
    (published : b.gauge = b.state.value)
    (length : ℕ) :
    (∀ n ≤ length, b.Truthful events n) ↔ ∀ n < length, ¬b.Reopens events n := by
  constructor
  · intro truthful n past
    have last := (truthful length le_rfl).transitions .opened
    rw [before_transitions fresh length .opened, if_pos rfl] at last
    have none_ := countIn_eq_zero.mp (Nat.add_eq_left.mp last)
    exact none_ n (Nat.zero_le n) past
  · intro quiet n upTo
    have none_ : countIn (b.Reopens events) 0 n = 0 :=
      countIn_eq_zero.mpr fun k _ past => quiet k (past.trans_le upTo)
    constructor
    · intro state
      rw [before_transitions fresh n state, none_]
      simp
    · exact before_gauge published n

end

/-- The metrics are right before all events of a sequence of calls exactly if no failure arrives
at an open circuit that reaches the threshold. -/
theorem metrics_truthful_iff (failureThreshold : ℤ) (resetSeconds : ℚ) (halfOpenMaxCalls : ℤ)
    (events : ℕ → BreakerEvent) (length : ℕ) :
    (∀ n ≤ length, (new failureThreshold resetSeconds halfOpenMaxCalls).Truthful events n) ↔
      ∀ n < length, ¬(new failureThreshold resetSeconds halfOpenMaxCalls).Reopens events n :=
  truthful_iff (fun _ => rfl) rfl length

/-- Two calls are admitted and fail; the second failure finds the circuit open. -/
theorem late_failure_counted_as_transition :
    ¬(new 1 10 1).Truthful
      (eventsOf [⟨0, .allow⟩, ⟨0, .allow⟩, ⟨1, .recordFailure⟩, ⟨2, .recordFailure⟩]) 4 := by
  intro truthful
  exact absurd (truthful.transitions .opened) (by decide +kernel)

/-! ## The wait of a refused caller -/

/-- The breaker under one guarded call: the clock reads `now` when the call is asked for and
`later` at everything after that. -/
def answersAt (now later : ℚ) : (op : Op) → CircuitBreaker → op.Reply → CircuitBreaker → Prop
  | .breakerAllow _, b, admitted, b' => (admitted, b') = b.allow now
  | .secondsUntilProbe _, b, seconds, b' => seconds = b.secondsUntilProbe later ∧ b' = b
  | .breakerSuccess _, b, _, b' => b' = b.recordSuccess
  | .breakerFailure _, b, _, b' => b' = b.recordFailure later
  | _, b, _, b' => b' = b

/-- What a refusal tells the caller: to wait for some of the reset interval.  Whoever was refused by
an open circuit is admitted when the clock reads what it read then and the wait on top of it. -/
structure UsableWait (b : CircuitBreaker) (now later wait : ℚ) : Prop where
  positive : 0 < wait
  bounded : wait ≤ b.resetSeconds
  admitted : (b.allow now).2.state = .opened → ∀ back, binary64 (later + wait) ≤ back →
    ((b.allow now).2.allow back).1 = true

/-- What is left at `later` of an interval that began at `openedAt`, but for a millisecond, ends no
sooner than the interval: the roundings do not add up to less. -/
def RoundsUp (openedAt resetSeconds later : ℚ) : Prop :=
  resetSeconds ≤ binary64 (binary64 (later +
    max (binary64 (resetSeconds - binary64 (later - openedAt))) (binary64 (1 / 1000))) - openedAt)

instance (openedAt resetSeconds later : ℚ) : Decidable (RoundsUp openedAt resetSeconds later) :=
  inferInstanceAs (Decidable (_ ≤ _))

section
variable {b : CircuitBreaker} {events : ℕ → BreakerEvent} {now later : ℚ}

/-- An open circuit was opened by an earlier event. -/
theorem exists_openedAt (start : b.state ≠ .opened) {n : ℕ}
    (opened : (b.before events n).state = .opened) :
    ∃ m < n, (b.before events n).openedAt = (events m).now := by
  induction n with
  | zero => exact absurd opened start
  | succ n ih =>
      have kept : (b.before events n).state = .opened →
          (b.before events (n + 1)).openedAt = (b.before events n).openedAt →
          ∃ m < n + 1, (b.before events (n + 1)).openedAt = (events m).now := by
        intro already same
        obtain ⟨m, past, at_⟩ := ih already
        exact ⟨m, past.trans (Nat.lt_succ_self n), same.trans at_⟩
      cases moves (b.before events n) (events n) with
      | stays same at_ => exact kept (same.symm.trans opened) at_
      | opens _ _ _ _ at_ => exact ⟨n, Nat.lt_succ_self n, at_⟩
      | halfOpens _ already _ _ at_ => exact kept already at_
      | closes _ _ closed _ => cases closed.symm.trans opened
      | reopens _ _ _ at_ => exact ⟨n, Nat.lt_succ_self n, at_⟩

/-- A circuit that admits nobody is open and before its deadline, or half-open. -/
theorem refused_cases (refused : (b.allow now).1 = false) :
    (b.state = .opened ∧ binary64 (now - b.openedAt) < b.resetSeconds ∧ (b.allow now).2 = b) ∨
      (b.allow now).2.state = .halfOpen := by
  cases state : b.state with
  | closed =>
      rw [allow_closed state] at refused
      cases refused
  | opened =>
      by_cases early : binary64 (now - b.openedAt) < b.resetSeconds
      · rw [allow_opened_early state early]
        exact Or.inl ⟨rfl, early, rfl⟩
      · rw [allow_opened_late state early, allowProbe_keeps]
        exact Or.inr rfl
  | halfOpen =>
      rw [allow_halfOpen state, allowProbe_keeps]
      exact Or.inr state

theorem secondsUntilProbe_opened (opened : b.state = .opened) : b.secondsUntilProbe later =
    max (binary64 (b.resetSeconds - binary64 (later - b.openedAt))) (binary64 (1 / 1000)) := by
  rw [secondsUntilProbe, opened]

/-- An open circuit names a wait within its interval. -/
theorem secondsUntilProbe_within (whole : binary64 b.resetSeconds = b.resetSeconds)
    (millisecond : 1 / 1000 ≤ b.resetSeconds) (opened : b.state = .opened)
    (order : b.openedAt ≤ later) :
    0 < b.secondsUntilProbe later ∧ b.secondsUntilProbe later ≤ b.resetSeconds := by
  rw [secondsUntilProbe_opened opened]
  have some_ : 0 < binary64 (1 / 1000) := by decide +kernel
  have passed : 0 ≤ binary64 (later - b.openedAt) :=
    binary64_zero.ge.trans (binary64_mono (by linarith))
  refine ⟨lt_max_of_lt_right some_, max_le ?_ ?_⟩
  · exact (binary64_mono (by linarith)).trans whole.le
  · exact (binary64_mono millisecond).trans whole.le

/-- Who comes back after the wait of an open circuit is admitted exactly if there is room for a
probe and the roundings do not end the wait too soon. -/
theorem admitted_after_wait_iff (opened : b.state = .opened) (later : ℚ) :
    (∀ back, binary64 (later + b.secondsUntilProbe later) ≤ back → (b.allow back).1 = true) ↔
      1 ≤ b.halfOpenMaxCalls ∧ RoundsUp b.openedAt b.resetSeconds later := by
  rw [secondsUntilProbe_opened opened]
  constructor
  · intro admitted
    have first := admitted _ le_rfl
    have room : 1 ≤ b.halfOpenMaxCalls := by
      by_contra none_
      have spent : b.toHalfOpen.probes ≥ b.toHalfOpen.halfOpenMaxCalls := by
        show (0 : ℤ) ≥ b.halfOpenMaxCalls
        omega
      rw [allow, opened] at first
      dsimp only at first
      split at first
      · cases first
      · rw [allowProbe, if_pos spent] at first
        cases first
    rw [allow_opened opened room, decide_eq_true_eq] at first
    exact ⟨room, first⟩
  · rintro ⟨room, enough⟩ back after
    rw [allow_opened opened room, decide_eq_true_eq]
    exact enough.trans (binary64_mono (sub_le_sub_right after _))

theorem usableWait_iff (whole : binary64 b.resetSeconds = b.resetSeconds)
    (millisecond : 1 / 1000 ≤ b.resetSeconds) (order : now ≤ later)
    (openedAt : b.state = .opened → b.openedAt ≤ now) (refused : (b.allow now).1 = false) :
    b.UsableWait now later ((b.allow now).2.secondsUntilProbe later) ↔
      b.state = .opened ∧ 1 ≤ b.halfOpenMaxCalls ∧ RoundsUp b.openedAt b.resetSeconds later := by
  rcases refused_cases refused with ⟨opened, early, same⟩ | half
  · have admitted := admitted_after_wait_iff opened later
    constructor
    · intro usable
      have back := usable.admitted (by rw [same]; exact opened)
      rw [same] at back
      exact ⟨opened, admitted.mp back⟩
    · rintro ⟨-, enough⟩
      obtain ⟨positive, bounded⟩ :=
        secondsUntilProbe_within whole millisecond opened ((openedAt opened).trans order)
      rw [same]
      refine ⟨positive, bounded, fun _ => ?_⟩
      rw [same]
      exact admitted.mpr enough
  · have zero : (b.allow now).2.secondsUntilProbe later = 0 := by
      rw [secondsUntilProbe, half]
    constructor
    · intro usable
      have positive := usable.positive
      rw [zero] at positive
      exact absurd positive (lt_irrefl 0)
    · rintro ⟨opened, room, -⟩
      -- an open circuit with room for a probe refuses only before its deadline
      rw [allow_opened opened room, decide_eq_false_iff_not] at refused
      rw [allow_opened_early opened (not_le.mp refused)] at half
      cases opened.symm.trans half

/-- A guarded call that the breaker refuses sends nothing and tells the caller how long to wait. -/
theorem guardedCall_refused {α : Type} {policy : DependencyPolicy} {dependency : Dependency}
    {operation : Py α} {onRetry : Option (Py Unit)} {retry : Bool} {outcome : Except Exc α}
    {b' : CircuitBreaker} (refused : (b.allow now).1 = false)
    (run : Program.Runs (answersAt now later)
      (guardedCall policy dependency operation onRetry retry) b outcome b') :
    outcome = .error (.domain
      (.dependencyUnavailable ((b.allow now).2.secondsUntilProbe later))
      s!"{dependency.name} is unavailable: the circuit is open") := by
  cases run with
  | call asked run =>
      have answer : _ = b.allow now := asked
      rw [← answer] at refused ⊢
      dsimp only at refused ⊢
      subst refused
      cases run with
      | call hinted run =>
          obtain ⟨rfl, rfl⟩ := hinted
          cases run
          rfl

end

/-- In every state that a breaker can reach under a clock that does not go back: the wait that a
refused call takes along is usable exactly if an open circuit has refused it that has room for a
probe, and the roundings do not end the wait too soon. -/
theorem refusal_wait_usable (failureThreshold : ℤ) {resetSeconds : ℚ} (halfOpenMaxCalls : ℤ)
    (whole : binary64 resetSeconds = resetSeconds) (millisecond : 1 / 1000 ≤ resetSeconds)
    (events : ℕ → BreakerEvent) (n : ℕ) {now later : ℚ}
    (clock : ∀ m < n, (events m).now ≤ now) (order : now ≤ later)
    (refused : (((new failureThreshold resetSeconds halfOpenMaxCalls).before events n).allow
      now).1 = false) {α : Type} (policy : DependencyPolicy) (dependency : Dependency)
    (operation : Py α) (onRetry : Option (Py Unit)) (retry : Bool) :
    ∃ wait,
      (∀ outcome b', Program.Runs (answersAt now later)
        (guardedCall policy dependency operation onRetry retry)
        ((new failureThreshold resetSeconds halfOpenMaxCalls).before events n) outcome b' →
        outcome = .error (.domain (.dependencyUnavailable wait)
          s!"{dependency.name} is unavailable: the circuit is open")) ∧
      (((new failureThreshold resetSeconds halfOpenMaxCalls).before events n).UsableWait now later
          wait ↔
        ((new failureThreshold resetSeconds halfOpenMaxCalls).before events n).state = .opened ∧
          1 ≤ halfOpenMaxCalls ∧
          RoundsUp ((new failureThreshold resetSeconds halfOpenMaxCalls).before events n).openedAt
            resetSeconds later) := by
  refine ⟨_, fun outcome b' run => guardedCall_refused refused run, ?_⟩
  have opened : ((new failureThreshold resetSeconds halfOpenMaxCalls).before events n).state =
      .opened → ((new failureThreshold resetSeconds halfOpenMaxCalls).before events n).openedAt ≤
        now := by
    intro opened
    obtain ⟨m, past, at_⟩ := exists_openedAt (by exact BreakerState.noConfusion) opened
    rw [at_]
    exact clock m past
  have usable := usableWait_iff (by rw [before_resetSeconds]; exact whole)
    (by rw [before_resetSeconds]; exact millisecond) order opened refused
  rw [before_halfOpenMaxCalls, before_resetSeconds] at usable
  exact usable

/-- The one probe of a half-open circuit is under way, and the next caller is told to come back
at once. -/
theorem refused_by_half_open_at_once :
    (((new 1 10 1).before (eventsOf [⟨0, .recordFailure⟩, ⟨10, .allow⟩]) 2).allow 11).1 = false ∧
      ¬((new 1 10 1).before (eventsOf [⟨0, .recordFailure⟩, ⟨10, .allow⟩]) 2).UsableWait 11 11
        ((((new 1 10 1).before (eventsOf [⟨0, .recordFailure⟩, ⟨10, .allow⟩]) 2).allow
          11).2.secondsUntilProbe 11) := by
  refine ⟨by decide +kernel, fun usable => ?_⟩
  exact absurd usable.positive (by decide +kernel)

-- A circuit opens at second 0.13 and refuses a caller at second 1.25, who comes back after the
-- wait and is refused once more: the ten seconds, rounded, are not over.
example : ¬RoundsUp (binary64 (13 / 100)) 10 (5 / 4) := by decide +kernel

/-- A call that an open circuit refuses a second after it opened. -/
theorem refusal_wait_usable_of_open : ∃ wait,
    (∀ outcome b', Program.Runs (answersAt 1 1)
      (guardedCall ⟨1, 1, 1, 1, 1, 10, 1⟩ .mysql (.ret () : Py Unit) none true)
      ((new 1 10 1).before (eventsOf [⟨0, .recordFailure⟩]) 1) outcome b' →
      outcome = .error (.domain (.dependencyUnavailable wait)
        s!"{Dependency.mysql.name} is unavailable: the circuit is open")) ∧
    ((new 1 10 1).before (eventsOf [⟨0, .recordFailure⟩]) 1).UsableWait 1 1 wait := by
  have whole : binary64 10 = 10 := by decide +kernel
  have clock : ∀ m < 1, (eventsOf [⟨0, .recordFailure⟩] m).now ≤ 1 := by decide +kernel
  have refused : (((new 1 10 1).before (eventsOf [⟨0, .recordFailure⟩]) 1).allow 1).1 = false := by
    decide +kernel
  obtain ⟨wait, told, usable⟩ := refusal_wait_usable 1 1 whole (by norm_num)
    (eventsOf [⟨0, .recordFailure⟩]) 1 clock (le_refl (1 : ℚ)) refused ⟨1, 1, 1, 1, 1, 10, 1⟩
    .mysql (.ret () : Py Unit) none true
  exact ⟨wait, told, usable.mpr ⟨by decide +kernel, le_rfl, by decide +kernel⟩⟩

end CircuitBreaker

end ContentPlatform
