import ContentPlatform.World.Frame

/-!
# Proof rules for guarded calls

Rules for a participant of a protocol whose steps are interactions of the
service: one for requests that leave the state alone, and one for each way a
repository method is guarded.
-/

set_option autoImplicit false

namespace ContentPlatform

open Program Py Protocol

variable {S : Type}

/-- The protocol takes these steps, and asks nothing of those that are local, which leave the state
alone. -/
structure Hosts (P : Protocol Op Op.Reply S) (steps : Pid → (op : Op) → S → op.Reply → S → Prop) :
    Prop where
  exec : P.exec = steps
  keeps : ∀ i op s reply s', op.isLocal = true → steps i op s reply s' → s' = s
  owed : ∀ i op s, op.isLocal = true → P.pre i op s

theorem Hosts.of_world {P : Protocol Op Op.Reply World} {allow : Allowance}
    (exec : P.exec = Exec allow) (owed : ∀ i op w, op.isLocal = true → P.pre i op w) :
    Hosts P (Exec allow) :=
  ⟨exec, fun _ _ _ _ _ isLocal ⟨_, _, step⟩ => World.exec_local isLocal step, owed⟩

/-- A postcondition that treats all exceptions alike. -/
def okOr {α : Type} (B : α → S → Prop) (E : S → Prop) : Except Exc α → S → Prop
  | .ok value, s => B value s
  | .error _, s => E s

theorem stable_and {P : Protocol Op Op.Reply S} {i : Pid} {A B : S → Prop} (first : P.Stable i A)
    (second : P.Stable i B) : P.Stable i fun s => A s ∧ B s :=
  fun s s' kept holds moved kept' =>
    ⟨first s s' kept holds.1 moved kept', second s s' kept holds.2 moved kept'⟩

theorem stable_pure {P : Protocol Op Op.Reply S} {i : Pid} {A : S → Prop} (φ : Prop)
    (first : P.Stable i A) : P.Stable i fun s => A s ∧ φ :=
  fun s s' kept holds moved kept' => ⟨first s s' kept holds.1 moved kept', holds.2⟩

theorem stable_false {P : Protocol Op Op.Reply S} {i : Pid} : P.Stable i fun _ => False :=
  fun _ _ _ impossible _ _ => impossible

section
variable {P : Protocol Op Op.Reply S} {steps : Pid → (op : Op) → S → op.Reply → S → Prop}
  (hosts : Hosts P steps) {i : Pid} {α β : Type} {A E : S → Prop} {B : α → S → Prop}
include hosts

/-- A request that leaves the state alone; what it answers is something the environment may
decide here. -/
theorem triple_local {op : Op} {next : op.Reply → Py β} {C : Except Exc β → S → Prop}
    (isLocal : op.isLocal = true) (stable : P.Stable i A)
    (rest : ∀ reply, P.Triple i (fun s => A s ∧ ∃ t, steps i op t reply t) (next reply) C) :
    P.Triple i A (.call op next) C := by
  refine Triple.call (fun reply s => A s ∧ ∃ t, steps i op t reply t) stable
    (fun s _ _ => hosts.owed i op s isLocal) (fun s reply s' _ holds step _ => ?_) rest
  rw [hosts.exec] at step
  obtain rfl := hosts.keeps i op s reply s' isLocal step
  exact ⟨holds, _, step⟩

/-- The same, where the answer does not matter. -/
theorem triple_skip {op : Op} {next : op.Reply → Py β} {C : Except Exc β → S → Prop}
    (isLocal : op.isLocal = true) (stable : P.Stable i A)
    (rest : ∀ reply, P.Triple i A (next reply) C) : P.Triple i A (.call op next) C :=
  triple_local hosts isLocal stable fun reply =>
    (rest reply).mono (fun _ _ holds => holds.1) fun _ _ _ ended => ended

variable {policy : DependencyPolicy} {dependency : Dependency} {operation : Py α}
  {onRetry : Option (Py Unit)}

theorem observeRetry_triple {outcome : RetryOutcome} (started : ℕ) {next : Py β}
    {C : Except Exc β → S → Prop} (stable : P.Stable i A) (rest : P.Triple i A next C) :
    P.Triple i A ((observeRetry dependency started outcome).bind fun _ => next) C := by
  unfold observeRetry
  by_cases several : started > 0
  · rw [if_pos several]
    exact triple_skip hosts rfl stable fun _ => rest
  · rw [if_neg several]
    exact rest

theorem retryLoop_triple {pre : S → Prop} (stableB : ∀ value, P.Stable i (B value))
    (stableE : P.Stable i E) (remaining started : ℕ)
    (attempt : P.Triple i pre (attemptOnce operation onRetry started) (okOr B E))
    (again : 0 < remaining → ∀ n,
      P.Triple i E (attemptOnce operation onRetry (n + 1)) (okOr B E)) :
    P.Triple i pre (retryLoop policy dependency operation onRetry remaining started)
      (okOr B E) := by
  induction remaining generalizing started pre with
  | zero =>
      rw [retryLoop]
      refine Triple.attempt_bind attempt fun result => ?_
      cases result with
      | ok value =>
          exact observeRetry_triple hosts started (stableB value)
            (Triple.ret (stableB value) fun _ _ holds => holds)
      | error error =>
          by_cases transient : error.isTransient = true
          · simp only [transient, if_true]
            exact observeRetry_triple hosts started stableE
              (Triple.raise stableE fun _ _ holds => holds)
          · simp only [transient]
            exact Triple.raise stableE fun _ _ holds => holds
  | succ remaining ih =>
      rw [retryLoop]
      refine Triple.attempt_bind attempt fun result => ?_
      cases result with
      | ok value =>
          exact observeRetry_triple hosts started (stableB value)
            (Triple.ret (stableB value) fun _ _ holds => holds)
      | error error =>
          by_cases transient : error.isTransient = true
          · simp only [transient, if_true]
            refine triple_skip hosts rfl stableE fun reply => ?_
            cases reply with
            | ok _ =>
                exact ih (started + 1) (again (Nat.succ_pos _) started)
                  fun _ => again (Nat.succ_pos _)
            | error _ => exact Triple.raise stableE fun _ _ holds => holds
          · simp only [transient]
            exact Triple.raise stableE fun _ _ holds => holds

omit hosts in
theorem timeoutBlock_triple {pre : S → Prop} {p : Py α} (stableB : ∀ value, P.Stable i (B value))
    (stableE : P.Stable i E) (triple : P.Triple i pre p (okOr B E)) :
    P.Triple i pre (timeoutBlock p) (okOr B E) := by
  refine Triple.attempt_bind triple fun result => ?_
  cases result with
  | ok value => exact Triple.ret (stableB value) fun _ _ holds => holds
  | error error =>
      have raises : ∀ error, P.Triple i E (.raise error) (okOr B E) :=
        fun error => Triple.raise stableE fun _ _ holds => holds
      cases error <;> exact raises _

/-- What happens before an admitted call, around it, and where the breaker refuses it. -/
theorem guardedCall_triple {retry : Bool} (stableA : P.Stable i A)
    (stableB : ∀ value, P.Stable i (B value)) (stableE : P.Stable i E)
    (first : P.Triple i A operation (okOr B E))
    (again : retry = true → ∀ n,
      P.Triple i E (attemptOnce operation onRetry (n + 1)) (okOr B E))
    (refused : ∀ s, A s → (∃ t, steps i (.breakerAllow dependency) t false t) → E s) :
    P.Triple i A (guardedCall policy dependency operation onRetry retry) (okOr B E) := by
  refine triple_local hosts rfl stableA fun admitted => ?_
  cases admitted with
  | false =>
      refine Triple.mono (A := E) ?_ (fun s _ ⟨holds, answer⟩ => refused s holds answer)
        fun _ _ _ ended => ended
      exact triple_skip hosts rfl stableE fun _ => Triple.raise stableE fun _ _ holds => holds
  | true =>
      refine Triple.mono (A := A) ?_ (fun _ _ holds => holds.1) fun _ _ _ ended => ended
      have loop : P.Triple i A (withRetry (if retry then policy else { policy with attempts := 1 })
          dependency operation (if retry then onRetry else none)) (okOr B E) := by
        refine retryLoop_triple hosts stableB stableE _ 0 ?_ fun more n => ?_
        · cases hook : (if retry then onRetry else none) <;> exact first
        · cases retry with
          | true => exact again rfl n
          | false => exact absurd more (Nat.lt_irrefl 0)
      refine Triple.attempt_bind (timeoutBlock_triple stableB stableE loop) fun result => ?_
      have raises : ∀ error, P.Triple i E (.raise error) (okOr B E) :=
        fun error => Triple.raise stableE fun _ _ holds => holds
      cases result with
      | ok value =>
          exact triple_skip hosts rfl (stableB value) fun _ =>
            Triple.ret (stableB value) fun _ _ holds => holds
      | error error =>
          -- every way out reports to the breaker and raises
          have other : P.Triple i E (if error.isException then
                (do breakerSuccess dependency; .raise error : Py α)
              else .raise error) (okOr B E) := by
            split
            · exact triple_skip hosts rfl stableE fun _ => raises _
            · exact raises _
          cases error with
          | timeoutError =>
              exact triple_skip hosts rfl stableE fun _ => triple_skip hosts rfl stableE fun _ =>
                raises _
          | domain kind message =>
              cases kind with
              | dependencyUnavailable retryAfter =>
                  exact triple_skip hosts rfl stableE fun _ => raises _
              | upstreamTimeout retryAfter =>
                  exact triple_skip hosts rfl stableE fun _ => triple_skip hosts rfl stableE fun _ =>
                    raises _
              | _ => exact other
          | _ => exact other

/-- A request of `i` that is owed where `A` holds and leads to `M`. -/
structure Asks (P : Protocol Op Op.Reply S) (i : Pid) (op : Op) (A : S → Prop)
    (M : op.Reply → S → Prop) : Prop where
  owed : ∀ s, P.inv s → A s → P.pre i op s
  step : ∀ s reply s', P.inv s → A s → P.exec i op s reply s' → P.inv s' → M reply s'

omit hosts in
theorem Asks.triple {op : Op} {M : op.Reply → S → Prop} {next : op.Reply → Py β}
    {C : Except Exc β → S → Prop} (asks : Asks P i op A M) (stable : P.Stable i A)
    (rest : ∀ reply, P.Triple i (M reply) (next reply) C) : P.Triple i A (.call op next) C :=
  Triple.call M stable asks.owed asks.step rest

omit hosts in
/-- A command or a statement that answers with a value or fails. -/
theorem mysql_triple {statement : Statement} {B : statement.Reply → S → Prop}
    (stableA : P.Stable i A) (stableB : ∀ value, P.Stable i (B value)) (stableE : P.Stable i E)
    (asks : Asks P i (.mysql statement) A (okOr B E)) :
    P.Triple i A (mysql statement) (okOr B E) := by
  refine asks.triple stableA fun reply => ?_
  cases reply with
  | ok value => exact Triple.ret (stableB value) fun _ _ holds => holds
  | error error => exact Triple.raise stableE fun _ _ holds => holds

theorem guardedRead_triple {statement : Statement} {B : statement.Reply → S → Prop}
    (stableA : P.Stable i A) (stableB : ∀ value, P.Stable i (B value)) (stableE : P.Stable i E)
    (first : Asks P i (.mysql statement) A (okOr B E))
    (again : Asks P i (.mysql statement) E (okOr B E))
    (rollback : Asks P i .rollback E fun _ => E)
    (refused : ∀ s, A s → (∃ t, steps i (.breakerAllow dependency) t false t) → E s) :
    P.Triple i A (guardedRead policy dependency (mysql statement)) (okOr B E) := by
  refine guardedCall_triple hosts stableA stableB stableE
    (mysql_triple stableA stableB stableE first) (fun _ n => ?_) refused
  refine rollback.triple stableE fun reply => ?_
  cases reply with
  | ok _ => exact mysql_triple stableE stableB stableE again
  | error _ => exact Triple.raise stableE fun _ _ holds => holds

theorem guardedWrite_triple (stableA : P.Stable i A) (stableB : ∀ value, P.Stable i (B value))
    (stableE : P.Stable i E) (first : P.Triple i A operation (okOr B E))
    (refused : ∀ s, A s → (∃ t, steps i (.breakerAllow dependency) t false t) → E s) :
    P.Triple i A (guardedWrite policy dependency operation) (okOr B E) :=
  guardedCall_triple hosts stableA stableB stableE first (fun impossible => by cases impossible)
    refused

end

end ContentPlatform
