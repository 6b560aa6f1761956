import ContentPlatform.Guarantees.BreakerAccounting
import ContentPlatform.Guarantees.CacheLatch
import ContentPlatform.Guarantees.GuardedCalls
import ContentPlatform.Program.Concurrent
import ContentPlatform.Resilience.Failures

/-!
# Admissions of a shared breaker

Guarded calls and cache commands on one breaker, in any interleaving: whether every admission is
reported when its call ends.
-/

set_option autoImplicit false

namespace ContentPlatform

open Program Py Protocol

/-- A breaker, the monotonic clock, and what every call has had of the breaker and told it. -/
structure SharedBreaker where
  breaker : CircuitBreaker
  now : ℚ
  admitted : Pid → ℕ
  reported : Pid → ℕ

namespace SharedBreaker

def fresh (breaker : CircuitBreaker) (now : ℚ) : SharedBreaker :=
  ⟨breaker, now, fun _ => 0, fun _ => 0⟩

section
variable (s : SharedBreaker) (i : Pid)

def allow : Bool × SharedBreaker :=
  ((s.breaker.allow s.now).1,
    { s with
      breaker := (s.breaker.allow s.now).2
      admitted := Function.update s.admitted i
        (s.admitted i + (s.breaker.allow s.now).1.toNat) })

/-- The breaker is told how the call of `i` went. -/
def reports (breaker : CircuitBreaker) : SharedBreaker :=
  { s with
    breaker := breaker
    reported := Function.update s.reported i (s.reported i + 1) }

def Pending : Prop := s.admitted i = 1 ∧ s.reported i = 0

def Idle : Prop := s.admitted i = 0 ∧ s.reported i = 0

def Settled : Prop := s.reported i = s.admitted i

end

/-- The breaker of `dependency` answers; everything else may be answered in any way. -/
def asked (dependency : Dependency) (i : Pid) :
    (op : Op) → SharedBreaker → op.Reply → SharedBreaker → Prop
  | .breakerAllow d, s, answer, s' => if d = dependency then (answer, s') = s.allow i else s' = s
  | .breakerSuccess d, s, _, s' =>
      s' = if d = dependency then s.reports i s.breaker.recordSuccess else s
  | .breakerFailure d, s, _, s' =>
      s' = if d = dependency then s.reports i (s.breaker.recordFailure s.now) else s
  | .secondsUntilProbe d, s, seconds, s' =>
      (d = dependency → seconds = s.breaker.secondsUntilProbe s.now) ∧ s' = s
  | _, s, _, s' => s' = s

def Ticks (s s' : SharedBreaker) : Prop := s.now ≤ s'.now ∧ s' = { s with now := s'.now }

end SharedBreaker

def LeavesBreaker (dependency : Dependency) : Op → Prop
  | .breakerAllow d | .breakerSuccess d | .breakerFailure d => d ≠ dependency
  | _ => True

inductive BreakerUse : Dependency → Type 1 where
  | guarded {dependency : Dependency} {α : Type} (policy : DependencyPolicy) (operation : Py α)
      (onRetry : Option (Py Unit)) (retry : Bool) : BreakerUse dependency
  | cached (cache : ArticleCache) (call : CacheCall) : BreakerUse .redis

namespace BreakerUse

variable {dependency : Dependency}

def run : BreakerUse dependency → Py Unit
  | .guarded policy operation onRetry retry => do
      let _ ← guardedCall policy dependency operation onRetry retry
  | .cached cache call => call.run cache

def Plain : BreakerUse dependency → Prop
  | .guarded _ operation onRetry _ => operation.Sends (LeavesBreaker dependency) ∧
      ∀ hook, onRetry = some hook → hook.Sends (LeavesBreaker dependency)
  | .cached _ _ => True

/-- Under these answers no operation is cancelled from outside, and no Redis command of the cache
ends in another exception than one of `CACHE_FAILURES`. -/
def Undisturbed (answers : (op : Op) → op.Reply → Prop) : BreakerUse dependency → Prop
  | .guarded _ operation onRetry _ =>
      Fails (fun op (_ : Unit) reply _ => answers op reply) (· ≠ .cancelledError) operation ∧
        (∀ hook, onRetry = some hook →
          Fails (fun op (_ : Unit) reply _ => answers op reply) (· ≠ .cancelledError) hook) ∧
        ∀ longest error, answers (.backoff longest) (.error error) → error ≠ .cancelledError
  | .cached _ _ => ∀ command error, answers (.redis command) (.error error) →
      error.isCacheFailure = true

end BreakerUse

/-- Every admission is reported once, when its call has ended, and a half-open circuit none of whose
calls is under way admits the next. -/
structure AdmissionsKept (c : Config Op Op.Reply Exc Unit SharedBreaker) : Prop where
  once : ∀ i, c.state.admitted i ≤ 1 ∧ c.state.reported i ≤ c.state.admitted i
  matched : ∀ i outcome, c.outcome i = some outcome → c.state.reported i = c.state.admitted i
  probed : c.state.breaker.state = .halfOpen →
    (∀ i, c.outcome i = none → c.state.admitted i = 0) →
      (c.state.breaker.allow c.state.now).1 = true

/-! ## What a step does -/

namespace CircuitBreaker

variable {b : CircuitBreaker} {now : ℚ}

theorem recordSuccess_state : b.recordSuccess.state ≠ .halfOpen := by
  cases state : b.state with
  | halfOpen => simp [recordSuccess, state, toClosed, transition]
  | closed => simp [recordSuccess, state]
  | opened => simp [recordSuccess, state]

theorem recordFailure_state : (b.recordFailure now).state ≠ .halfOpen := by
  cases moves b ⟨now, .recordFailure⟩ with
  | stays same _ =>
      intro half
      have before : b.state = .halfOpen := same.symm.trans half
      simp [recordFailure, before, toOpen, transition] at half
  | opens _ _ _ opened _ => exact fun half => by cases opened.symm.trans half
  | halfOpens allowed => cases allowed
  | closes succeeded => cases succeeded
  | reopens _ _ opened _ => exact fun half => by cases opened.symm.trans half

/-- A circuit with room for a probe is as it was where it admits nobody. -/
theorem allow_refused (room : 1 ≤ b.halfOpenMaxCalls) (refused : (b.allow now).1 = false) :
    (b.allow now).2 = b := by
  cases allow_becomes b now with
  | admits _ _ answer _ => cases answer.symm.trans refused
  | refuses _ _ _ same => exact same
  | probes _ _ _ answer _ => cases answer.symm.trans refused
  | halfOpens _ _ _ answer _ =>
      rw [toHalfOpen_allowProbe room] at answer
      cases answer.symm.trans refused
  | forgets reported => cases reported
  | closes reported => cases reported
  | counts reported => cases reported
  | opens reported => cases reported
  | reopens reported => cases reported

theorem step_halfOpenMaxCalls (b : CircuitBreaker) (event : BreakerEvent) :
    (b.step event).halfOpenMaxCalls = b.halfOpenMaxCalls :=
  congrArg (fun settings => settings.2.2) (step_settings b event)

end CircuitBreaker

namespace SharedBreaker

variable {dependency : Dependency} {i j : Pid} {s s' : SharedBreaker}

/-- What one request of `i` does to the breaker and its ledger. -/
inductive Does (dependency : Dependency) (i : Pid) (s : SharedBreaker) : Op → SharedBreaker → Prop
  | admits : (s.breaker.allow s.now).1 = true →
      Does dependency i s (.breakerAllow dependency) (s.allow i).2
  | refuses : (s.breaker.allow s.now).1 = false →
      Does dependency i s (.breakerAllow dependency) (s.allow i).2
  | succeeds : Does dependency i s (.breakerSuccess dependency)
      (s.reports i s.breaker.recordSuccess)
  | fails : Does dependency i s (.breakerFailure dependency)
      (s.reports i (s.breaker.recordFailure s.now))
  | other {op : Op} : LeavesBreaker dependency op → Does dependency i s op s

theorem asked_does {op : Op} {reply : op.Reply} (step : asked dependency i op s reply s') :
    Does dependency i s op s' := by
  cases op with
  | breakerAllow d =>
      by_cases same : d = dependency
      · subst same
        have answer : (reply, s') = s.allow i := by simpa [asked] using step
        obtain rfl : s' = (s.allow i).2 := congrArg Prod.snd answer
        cases admitted : (s.breaker.allow s.now).1 with
        | true => exact .admits admitted
        | false => exact .refuses admitted
      · obtain rfl : s' = s := by simpa [asked, same] using step
        exact .other same
  | breakerSuccess d =>
      by_cases same : d = dependency
      · subst same
        obtain rfl : s' = s.reports i s.breaker.recordSuccess := by simpa [asked] using step
        exact .succeeds
      · obtain rfl : s' = s := by simpa [asked, same] using step
        exact .other same
  | breakerFailure d =>
      by_cases same : d = dependency
      · subst same
        obtain rfl : s' = s.reports i (s.breaker.recordFailure s.now) := by
          simpa [asked] using step
        exact .fails
      · obtain rfl : s' = s := by simpa [asked, same] using step
        exact .other same
  | secondsUntilProbe d =>
      obtain ⟨-, rfl⟩ := step
      exact .other trivial
  | _ =>
      obtain rfl : s' = s := step
      exact .other trivial

/-- What the calls of one breaker keep. -/
structure Ledger (s : SharedBreaker) : Prop where
  room : 1 ≤ s.breaker.halfOpenMaxCalls
  once : ∀ i, s.admitted i ≤ 1 ∧ s.reported i ≤ s.admitted i
  /-- A half-open circuit has a probe under way. -/
  probed : s.breaker.state = .halfOpen → ∃ i, s.Pending i

/-- What `i` owes before it sends a request. -/
def Owes (dependency : Dependency) (i : Pid) : Op → SharedBreaker → Prop
  | .breakerAllow d, s => d = dependency → s.Idle i
  | .breakerSuccess d, s => d = dependency → s.Pending i
  | .breakerFailure d, s => d = dependency → s.Pending i
  | _, _ => True

theorem Ledger.reports (ledger : Ledger s) (pending : s.Pending i) {b : CircuitBreaker}
    (same : b.halfOpenMaxCalls = s.breaker.halfOpenMaxCalls) (left : b.state ≠ .halfOpen) :
    Ledger (s.reports i b) := by
  constructor
  · show 1 ≤ b.halfOpenMaxCalls
    rw [same]
    exact ledger.room
  · intro j
    show s.admitted j ≤ 1 ∧ Function.update s.reported i (s.reported i + 1) j ≤ s.admitted j
    by_cases mine : j = i
    · subst mine
      rw [Function.update_self, pending.1, pending.2]
      exact ⟨le_rfl, le_rfl⟩
    · rw [Function.update_of_ne mine]
      exact ledger.once j
  · intro half
    exact absurd half left

theorem Ledger.step {op : Op} {reply : op.Reply} (ledger : Ledger s) (owed : Owes dependency i op s)
    (step : asked dependency i op s reply s') : Ledger s' := by
  cases asked_does step with
  | admits admitted =>
      have idle : s.Idle i := owed rfl
      have mine : (s.allow i).2.Pending i := by
        constructor
        · show Function.update s.admitted i (s.admitted i + (s.breaker.allow s.now).1.toNat) i = 1
          rw [Function.update_self, idle.1, admitted]
          rfl
        · exact idle.2
      constructor
      · exact (CircuitBreaker.step_halfOpenMaxCalls s.breaker ⟨s.now, .allow⟩).symm ▸ ledger.room
      · intro j
        by_cases same : j = i
        · subst same
          rw [mine.1, mine.2]
          exact ⟨le_rfl, Nat.zero_le 1⟩
        · have kept := ledger.once j
          show Function.update s.admitted i _ j ≤ 1 ∧ s.reported j ≤ Function.update s.admitted i _ j
          rw [Function.update_of_ne same]
          exact kept
      · exact fun _ => ⟨i, mine⟩
  | refuses refused =>
      have same : (s.allow i).2 = s := by
        rw [allow, refused, CircuitBreaker.allow_refused ledger.room refused]
        simp
      rw [same]
      exact ledger
  | succeeds =>
      exact ledger.reports (owed rfl)
        (CircuitBreaker.step_halfOpenMaxCalls s.breaker ⟨s.now, .recordSuccess⟩)
        CircuitBreaker.recordSuccess_state
  | fails =>
      exact ledger.reports (owed rfl)
        (CircuitBreaker.step_halfOpenMaxCalls s.breaker ⟨s.now, .recordFailure⟩)
        CircuitBreaker.recordFailure_state
  | other _ => exact ledger

theorem asked_others {op : Op} {reply : op.Reply} (step : asked dependency i op s reply s')
    (other : j ≠ i) : s'.admitted j = s.admitted j ∧ s'.reported j = s.reported j := by
  cases asked_does step with
  | admits _ => exact ⟨Function.update_of_ne other _ _, rfl⟩
  | refuses _ => exact ⟨Function.update_of_ne other _ _, rfl⟩
  | succeeds => exact ⟨rfl, Function.update_of_ne other _ _⟩
  | fails => exact ⟨rfl, Function.update_of_ne other _ _⟩
  | other _ => exact ⟨rfl, rfl⟩

theorem Ledger.ticks (ledger : Ledger s) (passed : Ticks s s') : Ledger s' := by
  rw [passed.2]
  exact ⟨ledger.room, ledger.once, ledger.probed⟩

/-- The rules of the calls of one breaker, where `answers` bounds what each is answered. -/
def admissions (dependency : Dependency) (answers : Pid → (op : Op) → op.Reply → Prop) :
    Protocol Op Op.Reply SharedBreaker where
  exec := fun i op s reply s' => answers i op reply ∧ asked dependency i op s reply s'
  env := Ticks
  inv := Ledger
  rely := fun i s s' => s'.admitted i = s.admitted i ∧ s'.reported i = s.reported i
  pre := fun i op s => Owes dependency i op s
  rely_refl := fun _ _ => ⟨rfl, rfl⟩
  rely_trans := fun first second => ⟨second.1.trans first.1, second.2.trans first.2⟩
  step_inv := fun ledger owed step => ledger.step owed step.2
  step_rely := fun _ _ step other => asked_others step.2 other
  env_inv := fun ledger passed => ledger.ticks passed
  env_rely := fun _ passed => by rw [passed.2]; exact ⟨rfl, rfl⟩

/-! ## Each call keeps the rules -/

section
variable {α : Type} {answers : Pid → (op : Op) → op.Reply → Prop}

theorem own_stable (A : ℕ → ℕ → Prop) :
    (admissions dependency answers).Stable i fun s => A (s.admitted i) (s.reported i) := by
  intro s s' _ holds moved _
  rw [moved.1, moved.2]
  exact holds

theorem idle_stable : (admissions dependency answers).Stable i fun s => s.Idle i :=
  own_stable fun admitted reported => admitted = 0 ∧ reported = 0

theorem pending_stable : (admissions dependency answers).Stable i fun s => s.Pending i :=
  own_stable fun admitted reported => admitted = 1 ∧ reported = 0

theorem settled_stable : (admissions dependency answers).Stable i fun s => s.Settled i :=
  own_stable fun admitted reported => reported = admitted

theorem Idle.settled (idle : s.Idle i) : s.Settled i := idle.2.trans idle.1.symm

theorem owes_nothing {op : Op} (leaves : LeavesBreaker dependency op) : Owes dependency i op s := by
  cases op with
  | breakerAllow d => exact fun same => absurd same leaves
  | breakerSuccess d => exact fun same => absurd same leaves
  | breakerFailure d => exact fun same => absurd same leaves
  | _ => trivial

theorem asked_same {op : Op} {reply : op.Reply} (leaves : LeavesBreaker dependency op)
    (step : asked dependency i op s reply s') : s' = s := by
  cases asked_does step with
  | admits _ => exact absurd rfl leaves
  | refuses _ => exact absurd rfl leaves
  | succeeds => exact absurd rfl leaves
  | fails => exact absurd rfl leaves
  | other _ => rfl

/-- A program that leaves the breaker alone leaves its ledger alone. -/
theorem leaves_triple {A : SharedBreaker → Prop}
    (stable : (admissions dependency answers).Stable i A) {p : Py α}
    (sends : p.Sends (LeavesBreaker dependency)) :
    (admissions dependency answers).Triple i A p fun _ s => A s := by
  apply Triple.of_sends sends stable
  · exact fun op s leaves _ _ => owes_nothing leaves
  · intro op s reply s' leaves _ holds step _
    rw [asked_same leaves step.2]
    exact holds

/-- A report settles the call, whatever else is done before it ends. -/
theorem success_triple {p : Py α} (sends : p.Sends (LeavesBreaker dependency)) :
    (admissions dependency answers).Triple i (fun s => s.Pending i)
      ((breakerSuccess dependency).bind fun _ => p) fun _ s => s.Settled i := by
  apply Triple.call (fun _ s => s.Settled i) pending_stable
  · exact fun s _ pending _ => pending
  · intro s reply s' _ pending step _
    obtain rfl : s' = s.reports i s.breaker.recordSuccess := by simpa [asked] using step.2
    show Function.update s.reported i (s.reported i + 1) i = s.admitted i
    rw [Function.update_self, pending.1, pending.2]
  · exact fun _ => leaves_triple settled_stable sends

theorem failure_triple {p : Py α} (sends : p.Sends (LeavesBreaker dependency)) :
    (admissions dependency answers).Triple i (fun s => s.Pending i)
      ((breakerFailure dependency).bind fun _ => p) fun _ s => s.Settled i := by
  apply Triple.call (fun _ s => s.Settled i) pending_stable
  · exact fun s _ pending _ => pending
  · intro s reply s' _ pending step _
    obtain rfl : s' = s.reports i (s.breaker.recordFailure s.now) := by simpa [asked] using step.2
    show Function.update s.reported i (s.reported i + 1) i = s.admitted i
    rw [Function.update_self, pending.1, pending.2]
  · exact fun _ => leaves_triple settled_stable sends

/-- A call that may be admitted. -/
theorem allow_triple {next : Bool → Py α} {B : Except Exc α → SharedBreaker → Prop}
    (admitted : (admissions dependency answers).Triple i (fun s => s.Pending i) (next true) B)
    (refused : (admissions dependency answers).Triple i (fun s => s.Idle i) (next false) B) :
    (admissions dependency answers).Triple i (fun s => s.Idle i)
      ((breakerAllow dependency).bind next) B := by
  apply Triple.call (fun answer s => if answer then s.Pending i else s.Idle i) idle_stable
  · exact fun s _ idle _ => idle
  · intro s answer s' _ idle step _
    have moved : (answer, s') = s.allow i := by simpa [asked] using step.2
    obtain ⟨same, rfl⟩ := Prod.mk.inj moved
    have counted : (s.allow i).2.admitted i = (s.breaker.allow s.now).1.toNat := by
      show Function.update s.admitted i _ i = _
      rw [Function.update_self, idle.1, Nat.zero_add]
    rw [← same] at counted
    cases answer with
    | true => exact ⟨counted, idle.2⟩
    | false => exact ⟨counted, idle.2⟩
  · intro answer
    cases answer with
    | true => exact admitted
    | false => exact refused

/-! ### Guarded calls -/

/-- What is known of the outcome beside the state may be used at once. -/
theorem triple_of_known {A : SharedBreaker → Prop} {known : Prop} {p : Py α}
    {B : Except Exc α → SharedBreaker → Prop}
    (triple : known → (admissions dependency answers).Triple i A p B) :
    (admissions dependency answers).Triple i (fun s => A s ∧ known) p B :=
  fun s kept holds => triple holds.2 s kept holds.1

/-- The budget turns its own expiry into an error that is caught. -/
theorem timeoutBlock_caught {exec : (op : Op) → Unit → op.Reply → Unit → Prop} {p : Py α}
    (inner : Fails exec (· ≠ .cancelledError) p) :
    Fails exec (fun error => error.isException = true) (timeoutBlock p) := by
  apply Fails.attempt_bind inner
  · exact fun value => Fails.ret value
  · intro error holds
    cases error with
    | callExpired => exact Fails.raise rfl
    | cancelledError => exact absurd rfl holds
    | _ => exact Fails.raise rfl

/-- The end of a guarded call reports every outcome that `except Exception` catches. -/
theorem afterBlock_triple (policy : DependencyPolicy) {outcome : Except Exc α}
    (caught : ∀ error, outcome = .error error → error.isException = true) :
    (admissions dependency answers).Triple i (fun s => s.Pending i)
      (afterBlock policy dependency outcome) fun _ s => s.Settled i := by
  have raises : ∀ error : Exc, (.raise error : Py α).Sends (LeavesBreaker dependency) :=
    fun _ => trivial
  have timedOut : ∀ error : Exc, (admissions dependency answers).Triple i (fun s => s.Pending i)
      ((observe (.dependencyTimeout dependency)).bind fun _ =>
        (breakerFailure dependency).bind fun _ => (.raise error : Py α))
      fun _ s => s.Settled i := by
    intro error
    apply Triple.call (fun _ s => s.Pending i) pending_stable
    · exact fun _ _ _ => trivial
    · intro s reply s' _ pending step _
      obtain rfl : s' = s := step.2
      exact pending
    · exact fun _ => failure_triple (raises error)
  have answer : ∀ error : Exc, error.isException = true →
      (admissions dependency answers).Triple i (fun s => s.Pending i)
        (if error.isException then (breakerSuccess dependency).bind fun _ => .raise error
          else .raise error : Py α) fun _ s => s.Settled i := by
    intro error exception
    rw [if_pos exception]
    exact success_triple (raises error)
  cases outcome with
  | ok value => exact success_triple trivial
  | error error =>
      have exception := caught error rfl
      cases error with
      | timeoutError => exact timedOut _
      | domain kind message =>
          cases kind with
          | dependencyUnavailable retryAfter => exact failure_triple (raises _)
          | upstreamTimeout retryAfter => exact timedOut _
          | _ => exact answer _ exception
      | cancelledError => cases exception
      | callExpired => cases exception
      | _ => exact answer _ exception

variable {operation : Py α} {onRetry : Option (Py Unit)} {policy : DependencyPolicy} {retry : Bool}

theorem guardedCall_triple
    (plain : (BreakerUse.guarded policy operation onRetry retry : BreakerUse dependency).Plain)
    (undisturbed : (BreakerUse.guarded policy operation onRetry retry :
      BreakerUse dependency).Undisturbed (answers i)) :
    (admissions dependency answers).Triple i (fun s => s.Idle i)
      (guardedCall policy dependency operation onRetry retry) fun _ s => s.Settled i := by
  rw [guardedCall_eq]
  apply allow_triple
  · have kept : ∀ hook, (if retry then onRetry else none) = some hook → onRetry = some hook := by
      intro hook same
      split at same
      · exact same
      · cases same
    have own : GuardErrors (fun op (_ : Unit) reply _ => answers i op reply)
        (· ≠ .cancelledError) := by
      constructor
      · intro error down same
        subst same
        cases down
      · exact Exc.noConfusion
      · exact fun longest _ error _ answered => undisturbed.2.2 longest error answered
    have block : (timeoutBlock (withRetry (policy.effective retry) dependency operation
        (if retry then onRetry else none))).Sends (LeavesBreaker dependency) :=
      timeoutBlock_sends (retryLoop_sends (fun _ => trivial) (fun _ => trivial) plain.1
        (fun hook same => plain.2 hook (kept hook same)) _ 0)
    have loop : Fails (fun op (_ : Unit) reply _ => answers i op reply) (· ≠ .cancelledError)
        (withRetry (policy.effective retry) dependency operation
          (if retry then onRetry else none)) :=
      retryLoop_fails own undisturbed.1
        (fun hook same => undisturbed.2.1 hook (kept hook same)) _ 0
    have sound : ∀ op s reply s', (admissions dependency answers).exec i op s reply s' →
        answers i op reply := fun op s reply s' step => step.1
    apply Triple.attempt_bind ((leaves_triple pending_stable block).outcome sound
      (timeoutBlock_caught loop ()))
    intro outcome
    exact triple_of_known (afterBlock_triple policy)
  · apply Triple.mono (leaves_triple idle_stable (p := _) ?_) (fun _ _ idle => idle)
      fun _ _ _ idle => idle.settled
    exact ⟨trivial, fun _ => trivial⟩

/-! ### Cache commands -/

variable {β : Type}

/-- An admitted command is reported, answered or not. -/
theorem answered_triple {operation : CacheOperation} {command : Py α} {next : Option α → Py β}
    (leaves : command.Sends (LeavesBreaker .redis))
    (fails : Fails (fun op (_ : Unit) reply _ => answers i op reply)
      (fun error => error.isCacheFailure = true) command)
    (rest : ∀ result, (next result).Sends (LeavesBreaker .redis)) :
    (admissions .redis answers).Triple i (fun s => s.Pending i)
      ((ArticleCache.answered operation command).bind next) fun _ s => s.Settled i := by
  have sound : ∀ op s reply s', (admissions .redis answers).exec i op s reply s' →
      answers i op reply := fun op s reply s' step => step.1
  unfold ArticleCache.answered
  rw [Prog.bind_eq, Prog.bind_assoc]
  apply Triple.attempt_bind ((leaves_triple pending_stable leaves).outcome sound (fails ()))
  intro outcome
  apply triple_of_known
  intro caught
  cases outcome with
  | ok value => exact success_triple (rest (some value))
  | error error =>
      dsimp only
      rw [if_pos (caught error rfl)]
      apply Triple.call (fun _ s => s.Pending i) pending_stable
      · exact fun _ _ _ => trivial
      · intro s reply s' _ pending step _
        obtain rfl : s' = s := step.2
        exact pending
      · exact fun _ => failure_triple ⟨trivial, fun _ => rest none⟩

theorem whenLive_triple (cache : ArticleCache) {operation : CacheOperation} {command : Py α}
    {next : Option α → Py β} (value : β) (leaves : command.Sends (LeavesBreaker .redis))
    (fails : Fails (fun op (_ : Unit) reply _ => answers i op reply)
      (fun error => error.isCacheFailure = true) command)
    (rest : ∀ result, (next result).Sends (LeavesBreaker .redis)) :
    (admissions .redis answers).Triple i (fun s => s.Idle i)
      (cache.live.bind fun live =>
        if live then (ArticleCache.answered operation command).bind next else .ret value)
      fun _ s => s.Settled i := by
  have shut : (admissions .redis answers).Triple i (fun s => s.Idle i) (.ret value : Py β)
      fun _ s => s.Settled i := Triple.ret idle_stable fun _ _ idle => idle.settled
  unfold ArticleCache.live
  split
  · apply Triple.call (fun _ s => s.Idle i) idle_stable
    · exact fun _ _ _ => trivial
    · intro s reply s' _ idle step _
      obtain rfl : s' = s := step.2
      exact idle
    · intro degraded
      cases degraded with
      | true => exact shut
      | false => exact allow_triple (answered_triple leaves fails rest) shut
  · exact shut

theorem discard_triple {p : Py α} (settles : (admissions dependency answers).Triple i
      (fun s => s.Idle i) p fun _ s => s.Settled i) :
    (admissions dependency answers).Triple i (fun s => s.Idle i) (do let _ ← p : Py Unit)
      fun _ s => s.Settled i := by
  apply Triple.bind settles
  · exact fun _ => Triple.ret settled_stable fun _ _ settled => settled
  · exact fun _ _ _ settled => settled

theorem cacheCall_triple (cache : ArticleCache) (call : CacheCall)
    (undisturbed : (BreakerUse.cached cache call).Undisturbed (answers i)) :
    (admissions .redis answers).Triple i (fun s => s.Idle i) (call.run cache)
      fun _ s => s.Settled i := by
  have leaves : ∀ command, (redis command).Sends (LeavesBreaker .redis) :=
    fun command => answer_sends trivial _
  have fails : ∀ command, Fails (fun op (_ : Unit) reply _ => answers i op reply)
      (fun error => error.isCacheFailure = true) (redis command) := by
    intro command
    apply Fails.answer
    intro _ reply _ error answered same
    subst same
    exact undisturbed command error answered
  have quiet : ∀ {β : Type} (value : β), (.ret value : Py β).Sends (LeavesBreaker .redis) :=
    fun _ => trivial
  have fetched : ∀ key entity, (admissions .redis answers).Triple i (fun s => s.Idle i)
      (cache.fetch key entity) fun _ s => s.Settled i := by
    intro key entity
    apply whenLive_triple cache none (leaves _) (fails _)
    intro found
    rcases found with _ | _ | body
    · trivial
    · exact ⟨trivial, fun _ => trivial⟩
    · exact ⟨trivial, fun _ => trivial⟩
  cases call with
  | getArticle articleId => exact discard_triple (fetched (articleKey articleId) .article)
  | getListPage key => exact discard_triple (fetched key .list)
  | peek key =>
      apply discard_triple (whenLive_triple cache none (leaves _) (fails _) ?_)
      intro found
      cases found <;> exact quiet _
  | getGenerations authorId =>
      apply discard_triple (whenLive_triple cache (0, 0) (leaves _) (fails _) ?_)
      intro values
      cases values <;> exact quiet _
  | setArticle articleId body ttlSeconds =>
      exact whenLive_triple cache () (leaves _) (fails _) fun _ => quiet ()
  | setListPage key body ttlSeconds =>
      exact whenLive_triple cache () (leaves _) (fails _) fun _ => quiet ()
  | invalidateArticle articleId =>
      exact whenLive_triple cache () (leaves _) (fails _) fun _ => quiet ()
  | bumpGenerations authorId =>
      apply whenLive_triple cache () ?_ ?_ fun _ => quiet ()
      · apply Prog.Sends.bind (leaves _)
        intro _
        cases authorId with
        | none => trivial
        | some author => exact Prog.Sends.bind (leaves _) fun _ => trivial
      · apply Fails.bind (fails _)
        intro _
        cases authorId with
        | none => exact Fails.ret ()
        | some author => exact Fails.bind (fails _) fun _ => Fails.ret ()
  | acquireLock key ttlSeconds =>
      apply discard_triple (whenLive_triple cache true (leaves _) (fails _) ?_)
      intro acquired
      cases acquired <;> exact quiet _
  | releaseLock key => exact whenLive_triple cache () (leaves _) (fails _) fun _ => quiet ()

theorem use_triple {use : BreakerUse dependency} (plain : use.Plain)
    (undisturbed : use.Undisturbed (answers i)) :
    (admissions dependency answers).Triple i (fun s => s.Idle i) use.run fun _ s => s.Settled i := by
  cases use with
  | guarded policy operation onRetry retry =>
      exact discard_triple (guardedCall_triple plain undisturbed)
  | cached cache call => exact cacheCall_triple cache call undisturbed

end

/-- In every run of calls that nothing cuts off, every admission is reported once, when its call has
ended, and a half-open circuit with no admitted call under way admits the next. -/
theorem admissions_kept (failureThreshold : ℤ) (resetSeconds : ℚ) {halfOpenMaxCalls : ℤ}
    (room : 1 ≤ halfOpenMaxCalls) (now : ℚ) (uses : Pid → BreakerUse dependency)
    (plain : ∀ i, (uses i).Plain) (answers : Pid → (op : Op) → op.Reply → Prop)
    (undisturbed : ∀ i, (uses i).Undisturbed (answers i))
    {c : Config Op Op.Reply Exc Unit SharedBreaker}
    (run : Steps (fun i op s reply s' => answers i op reply ∧ asked dependency i op s reply s') Ticks
      (Config.initial (fresh (.new failureThreshold resetSeconds halfOpenMaxCalls) now)
        fun i => (uses i).run) c) : AdmissionsKept c := by
  have start : (admissions dependency answers).AllSafe (fun i _ s => s.Settled i)
      (Config.initial (fresh (.new failureThreshold resetSeconds halfOpenMaxCalls) now)
        fun i => (uses i).run) := by
    have ledger : Ledger (fresh (.new failureThreshold resetSeconds halfOpenMaxCalls) now) := by
      constructor
      · exact room
      · exact fun _ => ⟨Nat.zero_le 1, le_rfl⟩
      · exact BreakerState.noConfusion
    exact ⟨ledger, fun i => use_triple (plain i) (undisturbed i) _ ledger ⟨rfl, rfl⟩⟩
  have all := start.steps run
  constructor
  · exact all.inv.once
  · exact all.ended
  · intro half idle
    obtain ⟨i, admitted, reported⟩ := all.inv.probed half
    cases ended : c.outcome i with
    | none =>
        rw [idle i ended] at admitted
        cases admitted
    | some outcome =>
        have settled := all.ended i outcome ended
        rw [Settled, admitted, reported] at settled
        cases settled

/-! ## Two runs -/

def lookups : Pid → BreakerUse .redis := fun _ => .cached ⟨true⟩ (.peek "k")

def lookupsStart : Config Op Op.Reply Exc Unit SharedBreaker :=
  Config.initial (fresh (.new 1 10 1) 0) fun i => (lookups i).run

/-- Redis answers or fails with one of `CACHE_FAILURES`. -/
def calm (_ : Pid) : (op : Op) → op.Reply → Prop
  | .redis _, .error error => error.isCacheFailure = true
  | _, _ => True

/-- One further step of a run. -/
theorem further {exec : Pid → (op : Op) → SharedBreaker → op.Reply → SharedBreaker → Prop}
    {c c' : Config Op Op.Reply Exc Unit SharedBreaker} (before : Steps exec Ticks c c') (i : Pid)
    (op : Op) (reply : op.Reply) {next : op.Reply → Py Unit} (code : c'.code i = .call op next)
    (step : exec i op c'.state reply s') :
    Steps exec Ticks c
      ⟨s', Function.update c'.code i (next reply), Function.update c'.started i true⟩ :=
  before.tail (.run i code step)

theorem waited {exec : Pid → (op : Op) → SharedBreaker → op.Reply → SharedBreaker → Prop}
    {c c' : Config Op Op.Reply Exc Unit SharedBreaker} (before : Steps exec Ticks c c') (later : ℚ)
    (order : c'.state.now ≤ later) :
    Steps exec Ticks c ⟨{ c'.state with now := later }, c'.code, c'.started⟩ :=
  before.tail (.env ⟨order, rfl⟩)

theorem asked_allow {answer : Bool} (same : (s.allow i).1 = answer) :
    asked dependency i (.breakerAllow dependency) s answer (s.allow i).2 := by
  simp [asked, ← same]

theorem asked_success : asked dependency i (.breakerSuccess dependency) s ()
    (s.reports i s.breaker.recordSuccess) := by
  simp [asked]

theorem asked_failure : asked dependency i (.breakerFailure dependency) s ()
    (s.reports i (s.breaker.recordFailure s.now)) := by
  simp [asked]

/-- One lookup that finds nothing. -/
theorem admissions_kept_of_lookup : ∃ c,
    Steps (fun i op s reply s' => calm i op reply ∧ asked .redis i op s reply s') Ticks
      lookupsStart c ∧ c.outcome 0 = some (.ok ()) ∧ AdmissionsKept c := by
  have run : Steps (fun i op s reply s' => calm i op reply ∧ asked .redis i op s reply s') Ticks
      lookupsStart _ :=
    further (further (further (further .refl
      0 .cacheDegraded false rfl ⟨trivial, rfl⟩)
      0 (.breakerAllow .redis) true rfl ⟨trivial, asked_allow rfl⟩)
      0 (.redis (.get "k")) (.ok none) rfl ⟨trivial, rfl⟩)
      0 (.breakerSuccess .redis) () rfl ⟨trivial, asked_success⟩
  have undisturbed : ∀ i, (lookups i).Undisturbed (calm i) := by
    intro i command error answered
    exact answered
  exact ⟨_, run, rfl, admissions_kept 1 10 le_rfl 0 lookups (fun _ => trivial) calm undisturbed run⟩

/-- The first lookup fails and opens the circuit; the second is its probe, and is cancelled. -/
theorem cancelled_probe_keeps_circuit_shut : ∃ c,
    Steps (asked .redis) Ticks lookupsStart c ∧ ¬AdmissionsKept c ∧
      c.outcome 1 = some (.error .cancelledError) ∧ c.state.Pending 1 ∧
      (∀ i, c.outcome i = none → c.state.admitted i = 0) ∧
      ∀ later, (c.state.breaker.allow later).1 = false := by
  have run : Steps (asked .redis) Ticks lookupsStart _ :=
    further (further (further (waited (further (further (further (further (further (further .refl
      0 .cacheDegraded false rfl rfl)
      0 (.breakerAllow .redis) true rfl (asked_allow rfl))
      0 (.redis (.get "k")) (.error .redisTimeoutError) rfl rfl)
      0 .degradeCache () rfl rfl)
      0 (.breakerFailure .redis) () rfl asked_failure)
      0 (.observe (.cacheError .get)) () rfl rfl)
      10 (by decide +kernel))
      1 .cacheDegraded false rfl rfl)
      1 (.breakerAllow .redis) true rfl (asked_allow (by decide +kernel)))
      1 (.redis (.get "k")) (.error .cancelledError) rfl rfl
  refine ⟨_, run, ?_, rfl, ⟨by decide +kernel, rfl⟩, ?_, ?_⟩
  · intro kept
    exact absurd (kept.matched 1 (.error .cancelledError) rfl) (by decide +kernel)
  · intro i underWay
    rcases i with _ | _ | i
    · cases underWay
    · cases underWay
    · rfl
  · intro later
    rw [CircuitBreaker.allow_halfOpen]
    · decide +kernel
    · decide +kernel

end SharedBreaker

end ContentPlatform
