import ContentPlatform.Resilience.Breaker

/-!
# How long a circuit stays open, and who may close it

Over every sequence of calls on one breaker, results that come late included.
-/

set_option autoImplicit false

namespace ContentPlatform

namespace CircuitBreaker

section
variable (b : CircuitBreaker) (events : ℕ → BreakerEvent)

def Opens (o : ℕ) : Prop :=
  (b.before events o).state ≠ .opened ∧ (b.before events (o + 1)).state = .opened

/-- Between the events `o` and `n` nobody asked at the deadline of `o` or later. -/
def Waiting (o n : ℕ) : Prop :=
  ∀ m, o < m → m < n → (events m).call = .allow →
    (events m).now < (events o).now + b.resetSeconds

/-- Before event `n` the circuit is open, and its deadline is the one that event `o` set. -/
structure WindowKept (o n : ℕ) : Prop where
  opened : (b.before events n).state = .opened
  openedAt : (b.before events n).openedAt = (events o).now

/-- Who asks at event `n` is admitted from the deadline of `o` on, and not before. -/
def Timely (o n : ℕ) : Prop :=
  (events n).call = .allow → ((b.before events n).allow (events n).now).1 =
    decide ((events o).now + b.resetSeconds ≤ (events n).now)

/-- A failure that arrives at an open circuit stays below the threshold, or comes at the moment
at which the circuit opened. -/
def Unextended (n : ℕ) : Prop :=
  (events n).call = .recordFailure → (b.before events n).state = .opened →
    (b.before events n).failures + 1 < b.failureThreshold ∨
      (events n).now = (b.before events n).openedAt

/-- Who asks an open circuit before its deadline is too early in floating point as well. -/
def Unrounded (n : ℕ) : Prop :=
  (events n).call = .allow → (b.before events n).state = .opened →
    (events n).now - (b.before events n).openedAt < b.resetSeconds →
    binary64 ((events n).now - (b.before events n).openedAt) < b.resetSeconds

end

section
variable {b : CircuitBreaker} {events : ℕ → BreakerEvent}

theorem before_resetSeconds (n : ℕ) : (b.before events n).resetSeconds = b.resetSeconds :=
  congrArg (fun settings => settings.2.1) (before_settings b events n)

theorem before_failureThreshold (n : ℕ) :
    (b.before events n).failureThreshold = b.failureThreshold :=
  congrArg Prod.fst (before_settings b events n)

theorem before_halfOpenMaxCalls (n : ℕ) :
    (b.before events n).halfOpenMaxCalls = b.halfOpenMaxCalls :=
  congrArg (fun settings => settings.2.2) (before_settings b events n)

/-- The clock of the event that opens the circuit is what it remembers. -/
theorem Opens.openedAt {o : ℕ} (opens : b.Opens events o) :
    (b.before events (o + 1)).openedAt = (events o).now := by
  obtain ⟨notYet, now⟩ := opens
  rw [before] at now ⊢
  cases moves (b.before events o) (events o) with
  | stays same _ => exact absurd (same.symm.trans now) notYet
  | opens _ _ _ _ at_ => exact at_
  | halfOpens _ opened _ _ _ => exact absurd opened notYet
  | closes _ _ closed _ => rw [closed] at now; cases now
  | reopens _ _ _ at_ => exact at_

/-- The reset interval is a floating-point number, so who comes at the deadline is not too early. -/
theorem reached_of_late (whole : binary64 b.resetSeconds = b.resetSeconds) {openedAt now : ℚ}
    (late : openedAt + b.resetSeconds ≤ now) : b.resetSeconds ≤ binary64 (now - openedAt) :=
  whole.ge.trans (binary64_mono (by linarith))

theorem WindowKept.late_of_reached {o n : ℕ} (kept : b.WindowKept events o n)
    (unrounded : b.Unrounded events n) (asks : (events n).call = .allow)
    (reached : b.resetSeconds ≤ binary64 ((events n).now - (events o).now)) :
    (events o).now + b.resetSeconds ≤ (events n).now := by
  by_contra early
  have short := unrounded asks kept.opened
  rw [kept.openedAt] at short
  exact absurd (short (by linarith)) (not_lt.mpr reached)

/-- What an open circuit answers is a matter of its deadline. -/
theorem WindowKept.timely (whole : binary64 b.resetSeconds = b.resetSeconds)
    (room : 1 ≤ b.halfOpenMaxCalls) {o n : ℕ} (kept : b.WindowKept events o n)
    (unrounded : b.Unrounded events n) : b.Timely events o n := by
  intro asks
  rw [allow_opened kept.opened (by rw [before_halfOpenMaxCalls]; exact room), kept.openedAt,
    before_resetSeconds, decide_eq_decide]
  exact ⟨kept.late_of_reached unrounded asks, reached_of_late whole⟩

theorem windowKept_of_unextended {o n : ℕ} (later : o < n) (opens : b.Opens events o)
    (waiting : b.Waiting events o n)
    (quiet : ∀ m < n, b.Unextended events m ∧ b.Unrounded events m) : b.WindowKept events o n := by
  induction n, later using Nat.le_induction with
  | base => exact ⟨opens.2, opens.openedAt⟩
  | succ n later ih =>
      have kept := ih (fun m after past => waiting m after (past.trans (Nat.lt_succ_self n)))
        fun m past => quiet m (past.trans (Nat.lt_succ_self n))
      obtain ⟨unextended, unrounded⟩ := quiet n (Nat.lt_succ_self n)
      constructor
      · rw [before]
        cases moves (b.before events n) (events n) with
        | stays same _ => rw [same]; exact kept.opened
        | opens _ _ _ now _ => exact now
        | halfOpens allowed _ late _ _ =>
            have early := waiting n later (Nat.lt_succ_self n) allowed
            rw [kept.openedAt, before_resetSeconds, not_lt] at late
            exact absurd (kept.late_of_reached unrounded allowed late) (not_le.mpr early)
        | closes _ half _ _ => rw [kept.opened] at half; cases half
        | reopens _ half _ _ => rw [kept.opened] at half; cases half
      · rw [before]
        cases moves (b.before events n) (events n) with
        | stays _ at_ => rw [at_]; exact kept.openedAt
        | opens failed _ enough _ at_ =>
            rcases unextended failed kept.opened with below | same
            · rw [before_failureThreshold] at enough
              omega
            · rw [at_, same]
              exact kept.openedAt
        | halfOpens _ _ _ _ at_ => rw [at_]; exact kept.openedAt
        | closes _ _ _ at_ => rw [at_]; exact kept.openedAt
        | reopens _ half _ _ => rw [kept.opened] at half; cases half

/-- An open circuit was opened, and has been open since. -/
theorem exists_opens (start : b.state ≠ .opened) {n : ℕ}
    (opened : (b.before events n).state = .opened) :
    ∃ o < n, b.Opens events o ∧ ∀ m, o < m → m ≤ n → (b.before events m).state = .opened := by
  induction n with
  | zero => exact absurd opened start
  | succ n ih =>
      by_cases already : (b.before events n).state = .opened
      · obtain ⟨o, past, opens, since⟩ := ih already
        refine ⟨o, past.trans (Nat.lt_succ_self n), opens, ?_⟩
        intro m after upTo
        rcases Nat.lt_or_eq_of_le upTo with earlier | rfl
        · exact since m after (Nat.le_of_lt_succ earlier)
        · exact opened
      · refine ⟨n, Nat.lt_succ_self n, ⟨already, opened⟩, ?_⟩
        intro m after upTo
        obtain rfl : m = n + 1 := by omega
        exact opened

/-- While a circuit stays open, nobody asks at its deadline. -/
theorem waiting_of_since (whole : binary64 b.resetSeconds = b.resetSeconds) {o n : ℕ}
    (since : ∀ m, o < m → m ≤ n → (b.before events m).state = .opened)
    (kept : ∀ m, o < m → m ≤ n → b.Waiting events o m → b.WindowKept events o m) :
    b.Waiting events o n := by
  intro m
  induction m using Nat.strong_induction_on with
  | _ m ih =>
      intro after past allowed
      have window := kept m after past.le fun k after' past' => ih k past' after' (past'.trans past)
      by_contra late
      have halfOpen : (b.before events (m + 1)).state = .halfOpen := by
        rw [before, step, allowed]
        show ((b.before events m).allow (events m).now).2.state = .halfOpen
        rw [allow_opened_late window.opened, allowProbe_keeps]
        · rfl
        · rw [window.openedAt, before_resetSeconds, not_lt]
          exact reached_of_late whole (not_lt.mp late)
      rw [since (m + 1) (after.trans (Nat.lt_succ_self m)) past] at halfOpen
      cases halfOpen

end

/-- The window that a circuit opens with is kept, and whoever asks is answered by it, exactly as
long as no run of failures that is as long as the threshold arrives while it is open, and nobody
asks so short before the deadline that the difference is rounded up to the interval. -/
theorem open_window (failureThreshold : ℤ) {resetSeconds : ℚ}
    (whole : binary64 resetSeconds = resetSeconds) {halfOpenMaxCalls : ℤ}
    (room : 1 ≤ halfOpenMaxCalls) (events : ℕ → BreakerEvent) (length : ℕ) :
    (∀ n < length, (new failureThreshold resetSeconds halfOpenMaxCalls).Unextended events n ∧
        (new failureThreshold resetSeconds halfOpenMaxCalls).Unrounded events n) ↔
      ∀ o n, o < n → n ≤ length →
        (new failureThreshold resetSeconds halfOpenMaxCalls).Opens events o →
        (new failureThreshold resetSeconds halfOpenMaxCalls).Waiting events o n →
        (new failureThreshold resetSeconds halfOpenMaxCalls).WindowKept events o n ∧
          (n < length →
            (new failureThreshold resetSeconds halfOpenMaxCalls).Timely events o n) := by
  constructor
  · intro quiet o n later within opens waiting
    have kept := windowKept_of_unextended later opens waiting fun m past =>
      quiet m (past.trans_le within)
    exact ⟨kept, fun inside => kept.timely whole room (quiet n inside).2⟩
  · intro kept n within
    -- an open circuit was opened by an event whose window is kept up to here
    have window : ((new failureThreshold resetSeconds halfOpenMaxCalls).before events n).state =
        .opened → ∃ o < n, (new failureThreshold resetSeconds halfOpenMaxCalls).Opens events o ∧
          (new failureThreshold resetSeconds halfOpenMaxCalls).Waiting events o n := by
      intro opened
      obtain ⟨o, past, opens, since⟩ := exists_opens (by exact BreakerState.noConfusion) opened
      exact ⟨o, past, opens, waiting_of_since whole since fun m after upTo waiting =>
        (kept o m after (upTo.trans within.le) opens waiting).1⟩
    constructor
    · intro failed opened
      by_contra extended
      rw [not_or, not_lt] at extended
      obtain ⟨o, past, opens, waiting⟩ := window opened
      have earlier := (kept o n past within.le opens waiting).1
      have later := (kept o (n + 1) (past.trans (Nat.lt_succ_self n)) within opens (by
        intro m after upTo allowed
        rcases Nat.lt_or_eq_of_le (Nat.le_of_lt_succ upTo) with earlier | rfl
        · exact waiting m after earlier allowed
        · rw [failed] at allowed
          cases allowed)).1
      have moved : ((new failureThreshold resetSeconds halfOpenMaxCalls).before events
          (n + 1)).openedAt = (events n).now := by
        rw [before, step, failed]
        show (recordFailure _ (events n).now).openedAt = (events n).now
        simp only [recordFailure, opened]
        rw [if_pos (by rw [before_failureThreshold]; exact extended.1)]
        rfl
      exact extended.2 (by rw [← moved, later.openedAt, earlier.openedAt])
    · intro asks opened early
      by_contra rounded
      obtain ⟨o, past, opens, waiting⟩ := window opened
      obtain ⟨earlier, timely⟩ := kept o n past within.le opens waiting
      have answer := timely within asks
      rw [allow_opened opened (by rw [before_halfOpenMaxCalls]; exact room), before_resetSeconds,
        decide_eq_decide] at answer
      have late := answer.mp (not_lt.mp rounded)
      rw [earlier.openedAt] at early
      exact absurd late (not_le.mpr (sub_lt_iff_lt_add'.mp early))

def eventsOf (events : List BreakerEvent) (n : ℕ) : BreakerEvent := events.getD n ⟨0, .allow⟩

/-- Four calls are admitted at once.  Two of them fail after a second, which opens the circuit;
the other two fail five seconds later, and somebody asks at the deadline. -/
def lateFailures : List BreakerEvent :=
  [⟨0, .allow⟩, ⟨0, .allow⟩, ⟨0, .allow⟩, ⟨0, .allow⟩, ⟨1, .recordFailure⟩, ⟨1, .recordFailure⟩,
    ⟨6, .recordFailure⟩, ⟨6, .recordFailure⟩, ⟨11, .allow⟩]

theorem late_failures_extend_window :
    (new 2 10 1).Opens (eventsOf lateFailures) 5 ∧
      (new 2 10 1).Waiting (eventsOf lateFailures) 5 8 ∧
      (((new 2 10 1).before (eventsOf lateFailures) 8).allow 11).1 = false ∧
      ¬(new 2 10 1).WindowKept (eventsOf lateFailures) 5 8 ∧
      ¬(new 2 10 1).Timely (eventsOf lateFailures) 5 8 := by
  have refused : (((new 2 10 1).before (eventsOf lateFailures) 8).allow 11).1 = false := by
    decide +kernel
  refine ⟨⟨by decide +kernel, by decide +kernel⟩, ?_, refused, ?_, ?_⟩
  · intro m after past allowed
    obtain rfl | rfl : m = 6 ∨ m = 7 := by omega
    · cases allowed
    · cases allowed
  · intro kept
    have at_ := kept.openedAt
    revert at_
    decide +kernel
  · intro timely
    have answer := timely rfl
    revert answer
    decide +kernel

-- A circuit opens at second 0.01, and who asks at second 10.01 is admitted: the ten seconds are not
-- over, but by less than floating-point numbers tell.
example : binary64 (1001 / 100) < binary64 (1 / 100) + 10 ∧
    (((new 1 10 1).before (eventsOf [⟨binary64 (1 / 100), .recordFailure⟩]) 1).allow
      (binary64 (1001 / 100))).1 = true := by decide +kernel

/-- Three calls are admitted at once.  Two of them fail, which opens the circuit; the failure of the
third comes while it is open, and is one too few to extend the window. -/
def outageEvents : List BreakerEvent :=
  [⟨0, .allow⟩, ⟨0, .allow⟩, ⟨0, .allow⟩, ⟨1, .recordFailure⟩, ⟨1, .recordFailure⟩,
    ⟨6, .recordFailure⟩, ⟨7, .allow⟩, ⟨11, .allow⟩]

theorem open_window_of_outage :
    (new 2 10 1).WindowKept (eventsOf outageEvents) 4 7 ∧
      (((new 2 10 1).before (eventsOf outageEvents) 6).allow 7).1 = false ∧
      (((new 2 10 1).before (eventsOf outageEvents) 7).allow 11).1 = true := by
  have quiet : ∀ n < 8, (new 2 10 1).Unextended (eventsOf outageEvents) n ∧
      (new 2 10 1).Unrounded (eventsOf outageEvents) n := by
    unfold Unextended Unrounded
    decide +kernel
  have opens : (new 2 10 1).Opens (eventsOf outageEvents) 4 :=
    ⟨by decide +kernel, by decide +kernel⟩
  have waiting : (new 2 10 1).Waiting (eventsOf outageEvents) 4 7 := by
    intro m after past _
    obtain rfl | rfl : m = 5 ∨ m = 6 := by omega
    · decide +kernel
    · decide +kernel
  have whole : binary64 10 = 10 := by decide +kernel
  have windows := (open_window 2 whole (by decide) (eventsOf outageEvents) 8).mp quiet
  obtain ⟨kept, last⟩ := windows 4 7 (by decide) (by decide) opens waiting
  obtain ⟨-, middle⟩ := windows 4 6 (by decide) (by decide) opens fun m after past =>
    waiting m after (past.trans (by decide))
  refine ⟨kept, (middle (by decide) rfl).trans ?_, (last (by decide) rfl).trans ?_⟩
  · decide +kernel
  · decide +kernel

/-! ## Half-open -/

/-- A step of one of many calls that overlap: it asks for admission, or it reports how the call
went that was admitted at step `asked`. -/
inductive CallStep where
  | ask
  | report (asked : ℕ) (succeeded : Bool)
  deriving DecidableEq

def CallStep.call : CallStep → BreakerCall
  | .ask => .allow
  | .report _ true => .recordSuccess
  | .report _ false => .recordFailure

structure CallEvent where
  now : ℚ
  step : CallStep
  deriving DecidableEq

def callEvents (calls : ℕ → CallEvent) (n : ℕ) : BreakerEvent :=
  ⟨(calls n).now, (calls n).step.call⟩

section
variable (b : CircuitBreaker) (calls : ℕ → CallEvent)

/-- Who reports was admitted before, and reports once. -/
def Overlapping : Prop :=
  ∀ n k succeeded, (calls n).step = .report k succeeded →
    k < n ∧ (calls k).step = .ask ∧
      ((b.before (callEvents calls) k).allow (calls k).now).1 = true ∧
      ∀ m < n, ∀ succeeded', (calls m).step ≠ .report k succeeded'

/-- Where step `n` takes the circuit out of half-open, it is the result of a call that was
admitted in the same half-open episode: the circuit has been half-open ever since. -/
def DecidedByProbe (n : ℕ) : Prop :=
  (b.before (callEvents calls) n).state = .halfOpen →
    (b.before (callEvents calls) (n + 1)).state ≠ .halfOpen →
    ∃ k succeeded, (calls n).step = .report k succeeded ∧
      ∀ m, k < m → m ≤ n → (b.before (callEvents calls) m).state = .halfOpen

/-- A result that arrives while the circuit is half-open belongs to a call during which the
circuit was not open. -/
def Punctual (n : ℕ) : Prop :=
  ∀ k succeeded, (calls n).step = .report k succeeded →
    (b.before (callEvents calls) n).state = .halfOpen →
    ∀ m, k < m → m ≤ n → (b.before (callEvents calls) m).state ≠ .opened

end

section
variable {b : CircuitBreaker} {calls : ℕ → CallEvent}

theorem callEvents_report {n k : ℕ} {succeeded : Bool}
    (report : (calls n).step = .report k succeeded) :
    (callEvents calls n).call = if succeeded then .recordSuccess else .recordFailure := by
  rw [callEvents, report]
  cases succeeded <;> rfl

theorem report_of_call {n : ℕ} (other : (callEvents calls n).call ≠ .allow) :
    ∃ k succeeded, (calls n).step = .report k succeeded := by
  cases step : (calls n).step with
  | ask =>
      rw [callEvents, step] at other
      exact absurd rfl other
  | report k succeeded => exact ⟨k, succeeded, rfl⟩

/-- Every result takes the circuit out of half-open. -/
theorem not_halfOpen_of_report {n k : ℕ} {succeeded : Bool}
    (report : (calls n).step = .report k succeeded)
    (half : (b.before (callEvents calls) n).state = .halfOpen) :
    (b.before (callEvents calls) (n + 1)).state ≠ .halfOpen := by
  rw [before, step, callEvents_report report]
  cases succeeded with
  | true =>
      simp only [if_true, recordSuccess, half]
      exact BreakerState.noConfusion
  | false =>
      simp only [Bool.false_eq_true, if_false, recordFailure, half]
      exact BreakerState.noConfusion

/-- Half-open is entered from open only. -/
theorem halfOpen_of_succ {events : ℕ → BreakerEvent} {n : ℕ}
    (half : (b.before events (n + 1)).state = .halfOpen)
    (notOpen : (b.before events n).state ≠ .opened) : (b.before events n).state = .halfOpen := by
  rw [before] at half
  cases moves (b.before events n) (events n) with
  | stays same _ => rw [← same]; exact half
  | opens _ _ _ now _ => rw [now] at half; cases half
  | halfOpens _ opened _ _ _ => exact absurd opened notOpen
  | closes _ already _ _ => exact already
  | reopens _ already _ _ => exact already

theorem halfOpen_since {events : ℕ → BreakerEvent} {k n : ℕ}
    (half : (b.before events n).state = .halfOpen)
    (notOpen : ∀ m, k < m → m ≤ n → (b.before events m).state ≠ .opened) (m : ℕ) (after : k < m)
    (upTo : m ≤ n) : (b.before events m).state = .halfOpen := by
  induction upTo using Nat.decreasingInduction with
  | self => exact half
  | of_succ m upTo ih =>
      exact halfOpen_of_succ (ih (after.trans (Nat.lt_succ_self m))) (notOpen m after upTo.le)

/-- A half-open circuit was opened to a probe at its deadline or later, and has been half-open
since. -/
theorem exists_halfOpens {events : ℕ → BreakerEvent} (start : b.state = .closed) {n : ℕ}
    (half : (b.before events n).state = .halfOpen) :
    ∃ h < n, (b.before events h).state = .opened ∧
      b.resetSeconds ≤ binary64 ((events h).now - (b.before events h).openedAt) ∧
      ∀ m, h < m → m ≤ n → (b.before events m).state = .halfOpen := by
  induction n with
  | zero =>
      have closed : b.state = .halfOpen := half
      rw [start] at closed
      cases closed
  | succ n ih =>
      by_cases opened : (b.before events n).state = .opened
      · refine ⟨n, Nat.lt_succ_self n, opened, ?_, ?_⟩
        · rw [before] at half
          cases moves (b.before events n) (events n) with
          | stays same _ => rw [same, opened] at half; cases half
          | opens _ _ _ now _ => rw [now] at half; cases half
          | halfOpens _ _ late _ _ =>
              rw [before_resetSeconds] at late
              exact le_of_not_gt late
          | closes _ already _ _ => rw [opened] at already; cases already
          | reopens _ already _ _ => rw [opened] at already; cases already
        · intro m after upTo
          obtain rfl : m = n + 1 := by omega
          exact half
      · obtain ⟨h, past, was, late, since⟩ := ih (halfOpen_of_succ half opened)
        refine ⟨h, past.trans (Nat.lt_succ_self n), was, late, ?_⟩
        intro m after upTo
        rcases Nat.lt_or_eq_of_le upTo with earlier | rfl
        · exact since m after (Nat.le_of_lt_succ earlier)
        · exact half

theorem openedAt_of_since {events : ℕ → BreakerEvent}
    (clock : ∀ m n, m ≤ n → (events m).now ≤ (events n).now) {o n : ℕ}
    (opens : b.Opens events o) (later : o < n)
    (since : ∀ m, o < m → m ≤ n → (b.before events m).state = .opened) :
    (events o).now ≤ (b.before events n).openedAt := by
  induction n, later using Nat.le_induction with
  | base => exact opens.openedAt.ge
  | succ n later ih =>
      have earlier := ih fun m after upTo => since m after (upTo.trans (Nat.le_succ n))
      rw [before]
      cases moves (b.before events n) (events n) with
      | stays _ at_ => rw [at_]; exact earlier
      | opens _ _ _ _ at_ => rw [at_]; exact clock o n (Nat.le_of_succ_le later)
      | halfOpens _ _ _ _ at_ => rw [at_]; exact earlier
      | closes _ _ _ at_ => rw [at_]; exact earlier
      | reopens _ _ _ at_ => rw [at_]; exact clock o n (Nat.le_of_succ_le later)

/-- Who was admitted before the circuit became half-open, and before it was last opened, takes
at least as long as the circuit was open. -/
theorem punctual_of_prompt (start : b.state = .closed) (overlapping : b.Overlapping calls)
    (clock : ∀ m n, m ≤ n → (calls m).now ≤ (calls n).now) {n : ℕ}
    (prompt : ∀ k succeeded, (calls n).step = .report k succeeded →
      binary64 ((calls n).now - (calls k).now) < b.resetSeconds) : b.Punctual calls n := by
  intro k succeeded report half m after upTo opened
  obtain ⟨h, past, was, late, sinceHalf⟩ := exists_halfOpens start half
  have within : m ≤ h := by
    by_contra beyond
    rw [sinceHalf m (not_le.mp beyond) upTo] at opened
    cases opened
  obtain ⟨o, earlier, opens, sinceOpen⟩ := exists_opens (by rw [start]; simp) was
  obtain ⟨_, asked, admitted, _⟩ := overlapping n k succeeded report
  have before_ : k ≤ o := by
    by_contra beyond
    have openAt := sinceOpen k (not_le.mp beyond) (by omega)
    have openAfter := sinceOpen (k + 1) (by omega) (by omega)
    rw [before, step, callEvents, asked] at openAfter
    have answer : ((b.before (callEvents calls) k).allow (calls k).now).2.state = .opened :=
      openAfter
    by_cases early : binary64 ((calls k).now - (b.before (callEvents calls) k).openedAt) <
        (b.before (callEvents calls) k).resetSeconds
    · rw [allow_opened_early openAt early] at admitted
      cases admitted
    · rw [allow_opened_late openAt early, allowProbe_keeps] at answer
      cases answer
  have since := openedAt_of_since (fun m n order => clock m n order) opens earlier sinceOpen
  have asking : (calls k).now ≤ (calls o).now := clock k o before_
  have opening : (calls o).now ≤ (b.before (callEvents calls) h).openedAt := since
  have probing : (calls h).now ≤ (calls n).now := clock h n past.le
  have waited : b.resetSeconds ≤
      binary64 ((calls h).now - (b.before (callEvents calls) h).openedAt) := late
  have longer : (calls h).now - (b.before (callEvents calls) h).openedAt ≤
      (calls n).now - (calls k).now := by linarith
  exact absurd (prompt k succeeded report) (not_lt.mpr (waited.trans (binary64_mono longer)))

end

/-- A circuit leaves half-open on the results of its probes only, exactly as long as no result
of a call that was under way while it was open arrives at a half-open circuit; and none does
where every call takes less than the reset interval. -/
theorem probe_decides (failureThreshold : ℤ) (resetSeconds : ℚ) (halfOpenMaxCalls : ℤ)
    (calls : ℕ → CallEvent) (length : ℕ)
    (overlapping : (new failureThreshold resetSeconds halfOpenMaxCalls).Overlapping calls)
    (clock : ∀ m n, m ≤ n → (calls m).now ≤ (calls n).now) :
    ((∀ n < length, (new failureThreshold resetSeconds halfOpenMaxCalls).Punctual calls n) ↔
      ∀ n < length, (new failureThreshold resetSeconds halfOpenMaxCalls).DecidedByProbe calls n) ∧
    ((∀ n < length, ∀ k succeeded, (calls n).step = .report k succeeded →
        binary64 ((calls n).now - (calls k).now) < resetSeconds) →
      ∀ n < length, (new failureThreshold resetSeconds halfOpenMaxCalls).Punctual calls n) := by
  refine ⟨⟨?_, ?_⟩, ?_⟩
  · intro punctual n within half left
    have other : (callEvents calls n).call ≠ .allow := by
      intro allowed
      cases moves _ (callEvents calls n) with
      | stays same _ => exact left (same.trans half)
      | opens failed _ _ _ _ => rw [failed] at allowed; cases allowed
      | halfOpens _ _ _ now _ => exact left now
      | closes succeeded _ _ _ => rw [succeeded] at allowed; cases allowed
      | reopens failed _ _ _ => rw [failed] at allowed; cases allowed
    obtain ⟨k, succeeded, report⟩ := report_of_call other
    exact ⟨k, succeeded, report, halfOpen_since half (punctual n within k succeeded report half)⟩
  · intro decided n within k succeeded report half m after upTo
    obtain ⟨k', succeeded', same, since⟩ :=
      decided n within half (not_halfOpen_of_report report half)
    rw [report] at same
    cases same
    rw [since m after upTo]
    exact BreakerState.noConfusion
  · intro prompt n within
    exact punctual_of_prompt rfl overlapping clock (prompt n within)

def callsOf (calls : List CallEvent) (n : ℕ) : CallEvent := calls.getD n ⟨12, .ask⟩

/-- Two calls are admitted; one fails and opens the circuit, the other reports after the probe
was admitted. -/
def lateResult (succeeded : Bool) : List CallEvent :=
  [⟨0, .ask⟩, ⟨0, .ask⟩, ⟨1, .report 1 false⟩, ⟨11, .ask⟩, ⟨12, .report 0 succeeded⟩]

theorem callsOf_clock (calls : List CallEvent)
    (within : ∀ n < calls.length, (callsOf calls n).now ≤ (callsOf calls (n + 1)).now) (m n : ℕ)
    (order : m ≤ n) : (callsOf calls m).now ≤ (callsOf calls n).now := by
  apply monotone_nat_of_le_succ (f := fun n => (callsOf calls n).now) _ order
  intro k
  rcases Nat.lt_or_ge k calls.length with inside | outside
  · exact within k inside
  · have beyond : ∀ j, calls.length ≤ j → callsOf calls j = ⟨12, .ask⟩ := by
      intro j outside
      rw [callsOf, List.getD, List.getElem?_eq_none outside]
      rfl
    have now := beyond k outside
    have next := beyond (k + 1) (outside.trans (Nat.le_succ k))
    show (callsOf calls k).now ≤ (callsOf calls (k + 1)).now
    rw [now, next]

theorem late_success_closes :
    (new 1 10 1).Overlapping (callsOf (lateResult true)) ∧
      (∀ m n, m ≤ n → (callsOf (lateResult true) m).now ≤ (callsOf (lateResult true) n).now) ∧
      ((new 1 10 1).before (callEvents (callsOf (lateResult true))) 4).state = .halfOpen ∧
      ((new 1 10 1).before (callEvents (callsOf (lateResult true))) 5).state = .closed ∧
      ¬(new 1 10 1).DecidedByProbe (callsOf (lateResult true)) 4 := by
  have half : ((new 1 10 1).before (callEvents (callsOf (lateResult true))) 4).state = .halfOpen := by
    decide +kernel
  have closed : ((new 1 10 1).before (callEvents (callsOf (lateResult true))) 5).state = .closed := by
    decide +kernel
  refine ⟨?_, ?_, half, closed, ?_⟩
  · intro n k succeeded report
    match n, report with
    | 2, report =>
        cases report
        exact ⟨by decide, rfl, by decide +kernel, by decide⟩
    | 4, report =>
        cases report
        exact ⟨by decide, rfl, by decide +kernel, by decide⟩
  · apply callsOf_clock
    decide +kernel
  · intro decided
    obtain ⟨k, succeeded, report, since⟩ := decided half (by rw [closed]; simp)
    cases report
    have first := since 1 (by decide) (by decide)
    revert first
    decide +kernel

def outage : List CallEvent :=
  [⟨0, .ask⟩, ⟨1, .report 0 false⟩, ⟨11, .ask⟩, ⟨12, .report 2 true⟩]

theorem probe_decides_outage :
    ((new 1 10 1).before (callEvents (callsOf outage)) 3).state = .halfOpen ∧
      ((new 1 10 1).before (callEvents (callsOf outage)) 4).state = .closed ∧
      (new 1 10 1).DecidedByProbe (callsOf outage) 3 := by
  refine ⟨by decide +kernel, by decide +kernel, ?_⟩
  have overlapping : (new 1 10 1).Overlapping (callsOf outage) := by
    intro n k succeeded report
    match n, report with
    | 1, report =>
        cases report
        exact ⟨by decide, rfl, by decide +kernel, by decide⟩
    | 3, report =>
        cases report
        exact ⟨by decide, rfl, by decide +kernel, by decide⟩
  have clock := callsOf_clock outage (by decide +kernel)
  have decides := probe_decides 1 10 1 (callsOf outage) 4 overlapping clock
  apply decides.1.mp (decides.2 _) 3 (by decide)
  intro n within k succeeded report
  match n, report with
  | 1, report => cases report; decide +kernel
  | 3, report => cases report; decide +kernel

end CircuitBreaker

end ContentPlatform
