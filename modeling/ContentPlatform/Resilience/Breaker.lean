import ContentPlatform.Binary64

/-!
# The circuit breaker

`app/resilience/breaker.py`.  Nothing in it awaits, so a method is one step; the
clock is read by the method and handed in.  Differences of times are those of
floating-point numbers.  The two collectors that a state change writes belong to
the state.
-/

set_option autoImplicit false

namespace ContentPlatform

inductive BreakerState where
  | closed
  | opened
  | halfOpen
  deriving DecidableEq

/-- `BREAKER_STATE_VALUES`. -/
def BreakerState.value : BreakerState → ℕ
  | .closed => 0
  | .halfOpen => 1
  | .opened => 2

structure CircuitBreaker where
  failureThreshold : ℤ
  resetSeconds : ℚ
  halfOpenMaxCalls : ℤ
  state : BreakerState
  failures : ℤ
  openedAt : ℚ
  probes : ℤ
  /-- `circuit_breaker_state`. -/
  gauge : ℕ
  /-- `circuit_breaker_transitions_total`, by the state a transition went to. -/
  transitions : BreakerState → ℕ

namespace CircuitBreaker

def new (failureThreshold : ℤ) (resetSeconds : ℚ) (halfOpenMaxCalls : ℤ) : CircuitBreaker where
  failureThreshold := failureThreshold
  resetSeconds := resetSeconds
  halfOpenMaxCalls := halfOpenMaxCalls
  state := .closed
  failures := 0
  openedAt := 0
  probes := 0
  gauge := BreakerState.closed.value
  transitions := fun _ => 0

section
variable (b : CircuitBreaker) (now : ℚ)

/-- `_transition`: the gauge is set and the state that was reached is counted. -/
def transition : CircuitBreaker :=
  { b with
    gauge := b.state.value
    transitions := Function.update b.transitions b.state (b.transitions b.state + 1) }

def toOpen : CircuitBreaker :=
  transition { b with state := .opened, openedAt := now, probes := 0, failures := 0 }

def toHalfOpen : CircuitBreaker := transition { b with state := .halfOpen, probes := 0 }

def toClosed : CircuitBreaker := transition { b with state := .closed, failures := 0, probes := 0 }

def allowProbe : Bool × CircuitBreaker :=
  if b.probes ≥ b.halfOpenMaxCalls then (false, b) else (true, { b with probes := b.probes + 1 })

def allow : Bool × CircuitBreaker :=
  match b.state with
  | .closed => (true, b)
  | .opened =>
      if binary64 (now - b.openedAt) < b.resetSeconds then (false, b) else b.toHalfOpen.allowProbe
  | .halfOpen => b.allowProbe

def recordSuccess : CircuitBreaker :=
  match b.state with
  | .halfOpen => b.toClosed
  | _ => { b with failures := 0 }

def recordFailure : CircuitBreaker :=
  match b.state with
  | .halfOpen => b.toOpen now
  | _ =>
      if b.failures + 1 ≥ b.failureThreshold then toOpen { b with failures := b.failures + 1 } now
      else { b with failures := b.failures + 1 }

def secondsUntilProbe : ℚ :=
  match b.state with
  | .opened =>
      max (binary64 (b.resetSeconds - binary64 (now - b.openedAt))) (binary64 (1 / 1000))
  | _ => 0

end

/-! ## What a method can do -/

variable {b : CircuitBreaker} {now : ℚ}

theorem allow_closed (closed : b.state = .closed) : b.allow now = (true, b) := by
  rw [allow, closed]

theorem allow_opened_early (opened : b.state = .opened)
    (early : binary64 (now - b.openedAt) < b.resetSeconds) : b.allow now = (false, b) := by
  rw [allow, opened]
  exact if_pos early

theorem allow_opened_late (opened : b.state = .opened)
    (late : ¬binary64 (now - b.openedAt) < b.resetSeconds) :
    b.allow now = b.toHalfOpen.allowProbe := by
  rw [allow, opened]
  exact if_neg late

theorem allow_halfOpen (half : b.state = .halfOpen) : b.allow now = b.allowProbe := by
  rw [allow, half]

/-- An open circuit with room for a probe admits exactly who comes when the interval is over. -/
theorem allow_opened (opened : b.state = .opened) (room : 1 ≤ b.halfOpenMaxCalls) (now : ℚ) :
    (b.allow now).1 = decide (b.resetSeconds ≤ binary64 (now - b.openedAt)) := by
  by_cases early : binary64 (now - b.openedAt) < b.resetSeconds
  · rw [allow_opened_early opened early, eq_comm, decide_eq_false_iff_not]
    exact not_le.mpr early
  · rw [allow_opened_late opened early, eq_comm]
    have empty : ¬b.toHalfOpen.probes ≥ b.toHalfOpen.halfOpenMaxCalls := by
      show ¬(0 : ℤ) ≥ b.halfOpenMaxCalls
      omega
    rw [allowProbe, if_neg empty, decide_eq_true_eq]
    exact not_lt.mp early

/-- A probe is admitted or not; nothing else changes. -/
theorem allowProbe_keeps : b.allowProbe.2 = { b with probes := b.allowProbe.2.probes } := by
  unfold allowProbe
  split <;> rfl

end CircuitBreaker

/-! ## Runs -/

inductive BreakerCall where
  | allow
  | recordSuccess
  | recordFailure
  deriving DecidableEq

structure BreakerEvent where
  now : ℚ
  call : BreakerCall
  deriving DecidableEq

namespace CircuitBreaker

def step (b : CircuitBreaker) (event : BreakerEvent) : CircuitBreaker :=
  match event.call with
  | .allow => (b.allow event.now).2
  | .recordSuccess => b.recordSuccess
  | .recordFailure => b.recordFailure event.now

def before (b : CircuitBreaker) (events : ℕ → BreakerEvent) : ℕ → CircuitBreaker
  | 0 => b
  | n + 1 => (b.before events n).step (events n)

/-- What a call makes of the breaker, and what `allow` answers. -/
inductive Becomes (b : CircuitBreaker) (event : BreakerEvent) : Prop where
  | admits (allowed : event.call = .allow) (closed : b.state = .closed)
      (answer : (b.allow event.now).1 = true) (same : b.step event = b) : Becomes b event
  | refuses (allowed : event.call = .allow) (shut : b.state ≠ .closed)
      (answer : (b.allow event.now).1 = false) (same : b.step event = b) : Becomes b event
  | probes (allowed : event.call = .allow) (half : b.state = .halfOpen)
      (room : b.probes < b.halfOpenMaxCalls) (answer : (b.allow event.now).1 = true)
      (next : b.step event = { b with probes := b.probes + 1 }) : Becomes b event
  | halfOpens (allowed : event.call = .allow) (opened : b.state = .opened)
      (late : ¬binary64 (event.now - b.openedAt) < b.resetSeconds)
      (answer : (b.allow event.now).1 = b.toHalfOpen.allowProbe.1)
      (next : b.step event = b.toHalfOpen.allowProbe.2) : Becomes b event
  | forgets (succeeded : event.call = .recordSuccess) (notHalf : b.state ≠ .halfOpen)
      (next : b.step event = { b with failures := 0 }) : Becomes b event
  | closes (succeeded : event.call = .recordSuccess) (half : b.state = .halfOpen)
      (next : b.step event = b.toClosed) : Becomes b event
  | counts (failed : event.call = .recordFailure) (notHalf : b.state ≠ .halfOpen)
      (below : b.failures + 1 < b.failureThreshold)
      (next : b.step event = { b with failures := b.failures + 1 }) : Becomes b event
  | opens (failed : event.call = .recordFailure) (notHalf : b.state ≠ .halfOpen)
      (enough : b.failureThreshold ≤ b.failures + 1)
      (next : b.step event = toOpen { b with failures := b.failures + 1 } event.now) :
      Becomes b event
  | reopens (failed : event.call = .recordFailure) (half : b.state = .halfOpen)
      (next : b.step event = b.toOpen event.now) : Becomes b event

theorem allow_becomes (b : CircuitBreaker) (now : ℚ) : b.Becomes ⟨now, .allow⟩ := by
  cases state : b.state with
  | closed =>
      have answer : b.allow now = (true, b) := allow_closed state
      exact .admits rfl state (by simp [answer]) (by simp [step, answer])
  | opened =>
      by_cases early : binary64 (now - b.openedAt) < b.resetSeconds
      · have answer : b.allow now = (false, b) := allow_opened_early state early
        exact .refuses rfl (by simp [state]) (by simp [answer]) (by simp [step, answer])
      · have answer := allow_opened_late state early
        exact .halfOpens rfl state early (by simp [answer]) (by simp [step, answer])
  | halfOpen =>
      have answer : b.allow now = b.allowProbe := allow_halfOpen state
      by_cases full : b.probes ≥ b.halfOpenMaxCalls
      · have probe : b.allowProbe = (false, b) := if_pos full
        exact .refuses rfl (by simp [state]) (by simp [answer, probe]) (by simp [step, answer, probe])
      · have probe : b.allowProbe = (true, { b with probes := b.probes + 1 }) := if_neg full
        exact .probes rfl state (by omega) (by simp [answer, probe]) (by simp [step, answer, probe])

theorem becomes (b : CircuitBreaker) (event : BreakerEvent) : b.Becomes event := by
  obtain ⟨now, call⟩ := event
  cases call with
  | allow => exact allow_becomes b now
  | recordSuccess =>
      cases state : b.state with
      | halfOpen => exact .closes rfl state (by simp [step, recordSuccess, state])
      | closed => exact .forgets rfl (by simp [state]) (by simp [step, recordSuccess, state])
      | opened => exact .forgets rfl (by simp [state]) (by simp [step, recordSuccess, state])
  | recordFailure =>
      have other : b.state ≠ .halfOpen → b.recordFailure now =
          if b.failures + 1 ≥ b.failureThreshold then toOpen { b with failures := b.failures + 1 } now
          else { b with failures := b.failures + 1 } := by
        intro notHalf
        unfold recordFailure
        split
        · rename_i half
          exact absurd half notHalf
        · rfl
      by_cases half : b.state = .halfOpen
      · exact .reopens rfl half (by simp [step, recordFailure, half])
      · by_cases enough : b.failures + 1 ≥ b.failureThreshold
        · exact .opens rfl half enough (by rw [step, other half, if_pos enough])
        · exact .counts rfl half (by omega) (by rw [step, other half, if_neg enough])

/-- What a step does to the state, with its cause. -/
inductive Moves (b : CircuitBreaker) (event : BreakerEvent) : Prop where
  | stays (same : (b.step event).state = b.state) (at_ : (b.step event).openedAt = b.openedAt) :
      Moves b event
  | opens (failed : event.call = .recordFailure) (notHalf : b.state ≠ .halfOpen)
      (enough : b.failures + 1 ≥ b.failureThreshold) (now : (b.step event).state = .opened)
      (at_ : (b.step event).openedAt = event.now) : Moves b event
  | halfOpens (allowed : event.call = .allow) (opened : b.state = .opened)
      (late : ¬binary64 (event.now - b.openedAt) < b.resetSeconds)
      (now : (b.step event).state = .halfOpen) (at_ : (b.step event).openedAt = b.openedAt) :
      Moves b event
  | closes (succeeded : event.call = .recordSuccess) (half : b.state = .halfOpen)
      (now : (b.step event).state = .closed) (at_ : (b.step event).openedAt = b.openedAt) :
      Moves b event
  | reopens (failed : event.call = .recordFailure) (half : b.state = .halfOpen)
      (now : (b.step event).state = .opened) (at_ : (b.step event).openedAt = event.now) :
      Moves b event

theorem moves (b : CircuitBreaker) (event : BreakerEvent) : b.Moves event := by
  cases becomes b event with
  | admits _ _ _ same => exact .stays (by rw [same]) (by rw [same])
  | refuses _ _ _ same => exact .stays (by rw [same]) (by rw [same])
  | probes _ _ _ _ next => exact .stays (by rw [next]) (by rw [next])
  | forgets _ _ next => exact .stays (by rw [next]) (by rw [next])
  | counts _ _ _ next => exact .stays (by rw [next]) (by rw [next])
  | halfOpens allowed opened late _ next =>
      apply Moves.halfOpens allowed opened late
      · rw [next, allowProbe_keeps]
        rfl
      · rw [next, allowProbe_keeps]
        rfl
  | closes succeeded half next => exact .closes succeeded half (by rw [next]; rfl) (by rw [next]; rfl)
  | opens failed notHalf enough next =>
      exact .opens failed notHalf enough (by rw [next]; rfl) (by rw [next]; rfl)
  | reopens failed half next => exact .reopens failed half (by rw [next]; rfl) (by rw [next]; rfl)

def settings (b : CircuitBreaker) : ℤ × ℚ × ℤ :=
  (b.failureThreshold, b.resetSeconds, b.halfOpenMaxCalls)

theorem allowProbe_settings (b : CircuitBreaker) : b.allowProbe.2.settings = b.settings := by
  rw [allowProbe_keeps]
  rfl

theorem step_settings (b : CircuitBreaker) (event : BreakerEvent) :
    (b.step event).settings = b.settings := by
  cases becomes b event with
  | admits _ _ _ same => rw [same]
  | refuses _ _ _ same => rw [same]
  | probes _ _ _ _ next => simp [next, settings]
  | halfOpens _ _ _ _ next =>
      rw [next]
      exact allowProbe_settings b.toHalfOpen
  | forgets _ _ next => simp [next, settings]
  | closes _ _ next => simp [next, settings, toClosed, transition]
  | counts _ _ _ next => simp [next, settings]
  | opens _ _ _ next => simp [next, settings, toOpen, transition]
  | reopens _ _ next => simp [next, settings, toOpen, transition]

theorem before_settings (b : CircuitBreaker) (events : ℕ → BreakerEvent) (n : ℕ) :
    (b.before events n).settings = b.settings := by
  induction n with
  | zero => rfl
  | succ n ih => exact (step_settings _ _).trans ih

end CircuitBreaker

end ContentPlatform
