import ContentPlatform.World.Timed

/-!
# Single-flight locks

Beside a run with a clock: what has become of the lock that each request asked Redis
for.  A lock that disappears without a command has expired.
-/

set_option autoImplicit false

namespace ContentPlatform

open Program Py Prog Protocol

/-- What has become of a request's lock. -/
inductive LockStatus where
  /-- Redis has executed no `SET NX` of the request. -/
  | unasked
  | refused
  | held
  | expired
  | released
  deriving DecidableEq

structure Held where
  timed : Timed
  status : Pid → String → LockStatus

namespace Held

variable (s : Held) (i : Pid)

def entry (key : String) : Option Entry := s.timed.world.store.entries key

def setStatus (key : String) (status : LockStatus) : Pid → String → LockStatus :=
  Function.update s.status i (Function.update (s.status i) key status)

def marked (c : Choice) : Op → Pid → String → LockStatus
  | .redis (.set key _ _ true) =>
      if c.executed then s.setStatus i key (if (s.entry key).isSome then .refused else .held)
      else s.status
  | .redis (.delete key) => if c.executed then s.setStatus i key .released else s.status
  | _ => s.status

/-- The locks that are gone in `t` have expired. -/
def lapsed (t : Timed) (i : Pid) (key : String) : LockStatus :=
  if s.status i key = .held ∧ t.world.store.entries key = none then .expired else s.status i key

/-- Redis has executed the `SET NX` of request `i`, and its lock has not expired since. -/
structure Intact (key : String) : Prop where
  asked : s.status i key ≠ .unasked
  lasting : s.status i key ≠ .expired

/-- A `DEL` of the lock finds nothing, or comes from a request whose lock is intact. -/
def MayDelete (key : String) : Prop := (s.entry (lockKey key)).isSome → s.Intact i (lockKey key)

/-- Request `i` may have won its lock and has not released it. -/
structure Releasing (key : String) : Prop where
  admitted : s.status i key ≠ .refused
  first : s.status i key ≠ .released

/-- The step that a request takes under a choice. -/
structure Takes (allow : Allowance) (c : Choice) (op : Op) (reply : op.Reply) (s' : Held) :
    Prop where
  allowed : allow s.timed.world i op c
  exec : s.timed.exec i c op = some (reply, s'.timed)
  status : s'.status = s.marked i c op

inductive MayLock : RedisCommand → Prop where
  | aside {command : RedisCommand} : (∀ key, ¬Redis.writes command (lockKey key)) → MayLock command
  | ask {key body : String} {ttl : ℤ} : s.status i (lockKey key) = .unasked →
      MayLock (.set (lockKey key) body ttl true)
  | release {key : String} : s.Releasing i (lockKey key) → MayLock (.delete (lockKey key))

/-- What a step of request `i` does to the lock under a key. -/
inductive LockStep (key : String) (s' : Held) : Prop where
  | kept : s'.entry key = s.entry key → s'.timed.stamps key = s.timed.stamps key →
      s'.status i key = s.status i key → LockStep key s'
  | refused : s.status i key = .unasked → s'.entry key = s.entry key →
      s'.timed.stamps key = s.timed.stamps key → s'.status i key = .refused → LockStep key s'
  | created {entry : Entry} {stamp : Stamp} : s.entry key = none → s'.entry key = some entry →
      s'.timed.stamps key = some stamp → stamp.by_ = i → s'.status i key = .held → LockStep key s'
  | deleted : s.Releasing i key → ((s.entry key).isSome → s.Intact i key) → s'.entry key = none →
      s'.status i key = .released → LockStep key s'

end Held

def HeldExec (allow : Allowance) (i : Pid) (op : Op) (s : Held) (reply : op.Reply) (s' : Held) :
    Prop :=
  ∃ c, s.Takes i allow c op reply s'

/-- The steps in which no `DEL` of a lock comes from a request whose lock is not intact. -/
def CarefulExec (allow : Allowance) (i : Pid) (op : Op) (s : Held) (reply : op.Reply) (s' : Held) :
    Prop :=
  ∃ c, s.Takes i allow c op reply s' ∧
    (c.executed = true → ∀ key, op = .redis (.delete (lockKey key)) → s.MayDelete i key)

structure HeldPasses (env : World → World → Prop) (s s' : Held) : Prop where
  timed : Passes env s.timed s'.timed
  status : s'.status = s.lapsed s'.timed

abbrev HeldSystem := Config Op Op.Reply Exc Response Held

/-- Nobody has asked for a lock. -/
def App.startUnlocked (app : App) (requests : Pid → Request) (w : World) (now : ℚ) : HeldSystem :=
  Config.initial ⟨⟨w, now, fun _ => none⟩, fun _ _ => .unasked⟩ fun i => app.serve (requests i)

/-- The runs of the service, with what has become of the locks. -/
def Setting.Holding (σ : Setting) : HeldSystem → HeldSystem → Prop :=
  Steps (HeldExec σ.allow) (HeldPasses σ.env)

def Setting.Careful (σ : Setting) : HeldSystem → HeldSystem → Prop :=
  Steps (CarefulExec σ.allow) (HeldPasses σ.env)

section
variable {σ : Setting} {allow : Allowance} {env : World → World → Prop} {i j : Pid} {s s' : Held}
  {op : Op} {reply : op.Reply} {key : String}

theorem Setting.Careful.holding {c c' : HeldSystem} (run : σ.Careful c c') : σ.Holding c c' := by
  have same : ∀ d : HeldSystem, d.map id = d := fun _ => rfl
  rw [← same c, ← same c']
  exact Steps.map (fun _ _ _ _ _ ⟨choice, takes, _⟩ => ⟨choice, takes⟩) (fun _ _ => Or.inr) run

/-- What is seen of it is a run with a clock. -/
theorem Setting.Holding.passing {c c' : HeldSystem} (run : σ.Holding c c') :
    σ.Passing (c.map Held.timed) (c'.map Held.timed) :=
  Steps.map (fun _ _ _ _ _ ⟨choice, takes⟩ => ⟨choice, takes.allowed, takes.exec⟩)
    (fun _ _ passes => Or.inr passes.timed) run

theorem Setting.Passing.holding {c : HeldSystem} {d : TimedSystem}
    (run : σ.Passing (c.map Held.timed) d) : ∃ c', σ.Holding c c' ∧ c'.map Held.timed = d := by
  apply Steps.lift _ _ run
  · rintro i op s reply t ⟨choice, allowed, exec⟩
    exact ⟨⟨t, s.marked i choice op⟩, rfl, choice, allowed, exec, rfl⟩
  · intro s t passes
    exact ⟨⟨t, s.lapsed t⟩, rfl, passes, rfl⟩

/-- Where no release is executed, the run that it is seen of is careful. -/
theorem Setting.Passing.careful {c : HeldSystem} {d : TimedSystem}
    (keeps : ∀ w i key choice, σ.allow w i (.redis (.delete (lockKey key))) choice →
      choice.executed = false)
    (run : σ.Passing (c.map Held.timed) d) : ∃ c', σ.Careful c c' ∧ c'.map Held.timed = d := by
  apply Steps.lift _ _ run
  · rintro i op s reply t ⟨choice, allowed, exec⟩
    refine ⟨⟨t, s.marked i choice op⟩, rfl, choice, ⟨allowed, exec, rfl⟩, ?_⟩
    rintro executed key rfl
    rw [keeps _ i key choice allowed] at executed
    cases executed
  · intro s t passes
    exact ⟨⟨t, s.lapsed t⟩, rfl, passes, rfl⟩

/-! ## What a step does to a lock -/

@[simp] theorem Held.setStatus_self (status : LockStatus) : s.setStatus i key status i key = status := by
  simp [setStatus]

theorem Held.setStatus_pid (status : LockStatus) (other : j ≠ i) (key' : String) :
    s.setStatus i key status j key' = s.status j key' := by
  simp [setStatus, Function.update_of_ne other]

theorem Held.setStatus_key {key' : String} (status : LockStatus) (other : key' ≠ key) (j : Pid) :
    s.setStatus i key status j key' = s.status j key' := by
  by_cases same : j = i
  · subst same
    simp [setStatus, Function.update_of_ne other]
  · exact setStatus_pid status same key'

theorem Held.marked_pid {c : Choice} (other : j ≠ i) (key : String) :
    s.marked i c op j key = s.status j key := by
  unfold Held.marked
  split
  · split
    · exact setStatus_pid _ other key
    · rfl
  · split
    · exact setStatus_pid _ other key
    · rfl
  · rfl

theorem Held.marked_key {c : Choice} (aside : ∀ command, op = .redis command →
    ¬Redis.writes command key) (j : Pid) : s.marked i c op j key = s.status j key := by
  unfold Held.marked
  split
  · split
    · exact setStatus_key _ (aside _ rfl) j
    · rfl
  · split
    · exact setStatus_key _ (aside _ rfl) j
    · rfl
  · rfl

/-- A command that Redis does not execute. -/
theorem Held.marked_lost {c : Choice} (executed : c.executed = false) :
    s.marked i c op = s.status := by
  unfold Held.marked
  split <;> simp [executed]

/-- A key that a step does not write keeps its entry and its stamp. -/
theorem Timed.exec_aside {s s' : Timed} {c : Choice} (step : s.exec i c op = some (reply, s'))
    (aside : ∀ command, op = .redis command → ¬Redis.writes command key) :
    s'.world.store.entries key = s.world.store.entries key ∧ s'.stamps key = s.stamps key := by
  obtain ⟨step, -, stamps⟩ := Timed.exec_world step
  constructor
  · cases asks : op.asksRedis with
    | false => rw [World.exec_store asks step]
    | true =>
        cases op with
        | redis command =>
            rw [World.exec_redis step]
            split
            · exact Redis.step_entries (aside command rfl)
            · rfl
        | _ => cases asks
  · rw [stamps]
    unfold Timed.stamped
    split
    · split
      · exact Function.update_of_ne (aside _ rfl) _ _
      · rfl
    · rfl

theorem CarefulExec.lockStep (may : ∀ command, op = .redis command → s.MayLock i command)
    (step : CarefulExec allow i op s reply s') (key : String) : s.LockStep i (lockKey key) s' := by
  obtain ⟨c, ⟨-, exec, status⟩, careful⟩ := step
  by_cases writes : ∀ command, op = .redis command → ¬Redis.writes command (lockKey key)
  · obtain ⟨entry, stamp⟩ := Timed.exec_aside exec writes
    apply Held.LockStep.kept entry stamp
    rw [status, Held.marked_key writes]
  · push Not at writes
    obtain ⟨command, rfl, writes⟩ := writes
    obtain ⟨world, -, stamps⟩ := Timed.exec_world exec
    have store := World.exec_redis world
    cases executed : c.executed with
    | false =>
        rw [executed] at store
        apply Held.LockStep.kept
        · rw [Held.entry, store]
          rfl
        · rw [stamps]
          cases command <;> simp [Timed.stamped, executed]
        · rw [status, Held.marked_lost executed]
    | true =>
        rw [executed, if_pos rfl] at store
        rcases may command rfl with aside | unasked | releasing
        · exact absurd writes (aside key)
        · rename_i key' body ttl
          obtain rfl := lockKey_injective writes
          cases stored : s.entry (lockKey key) with
          | none =>
              have free : s.timed.world.store.entries (lockKey key) = none := stored
              apply Held.LockStep.created stored
              · rw [Held.entry, store, Redis.step, free]
                exact Redis.setEntry_self ..
              · rw [stamps, Timed.stamped, executed, free]
                exact Function.update_self ..
              · rfl
              · rw [status, Held.marked, executed, if_pos rfl, stored]
                exact Held.setStatus_self _
          | some entry =>
              have taken : s.timed.world.store.entries (lockKey key) = some entry := stored
              apply Held.LockStep.refused unasked
              · simp [Held.entry, store, Redis.step, taken]
              · rw [stamps, Timed.stamped, executed, taken]
                rfl
              · rw [status, Held.marked, executed, if_pos rfl, stored]
                exact Held.setStatus_self _
        · rename_i key'
          obtain rfl := lockKey_injective writes
          apply Held.LockStep.deleted releasing (careful executed key rfl)
          · rw [Held.entry, store]
            exact Redis.setEntry_self ..
          · rw [status, Held.marked, executed, if_pos rfl]
            exact Held.setStatus_self _

/-- Who releases a lock that is intact holds it. -/
theorem Held.Intact.held (intact : s.Intact i key) (releasing : s.Releasing i key) :
    s.status i key = .held := by
  cases status : s.status i key with
  | unasked => exact absurd status intact.asked
  | refused => exact absurd status releasing.admitted
  | held => rfl
  | expired => exact absurd status intact.lasting
  | released => exact absurd status releasing.first

/-! ## The protocol of the locks -/

/-- A lock is held by the request whose `SET NX` stored it. -/
structure Locked (s : Held) : Prop where
  held : ∀ i key, s.status i (lockKey key) = .held → ∃ entry stamp,
    s.entry (lockKey key) = some entry ∧ s.timed.stamps (lockKey key) = some stamp ∧ stamp.by_ = i
  stamped : ∀ key entry stamp, s.entry (lockKey key) = some entry →
    s.timed.stamps (lockKey key) = some stamp → s.status stamp.by_ (lockKey key) = .held

theorem Locked.step (kept : Locked s) (may : ∀ command, op = .redis command → s.MayLock i command)
    (step : CarefulExec allow i op s reply s') : Locked s' := by
  have others : ∀ j, j ≠ i → ∀ key, s'.status j key = s.status j key := by
    intro j other key
    obtain ⟨c, ⟨-, -, status⟩, -⟩ := step
    rw [status, Held.marked_pid other]
  constructor
  · intro j key held
    have before : j ≠ i → ∃ entry stamp, s.entry (lockKey key) = some entry ∧
        s.timed.stamps (lockKey key) = some stamp ∧ stamp.by_ = j :=
      fun other => kept.held j key (by rw [← others j other]; exact held)
    cases step.lockStep may key with
    | kept entry stamps status =>
        rw [entry, stamps]
        by_cases own : j = i
        · subst own
          exact kept.held j key (status.symm.trans held)
        · exact before own
    | refused unasked entry stamps status =>
        rw [entry, stamps]
        by_cases own : j = i
        · subst own
          cases status.symm.trans held
        · exact before own
    | created free entry stamp by_ status =>
        by_cases own : j = i
        · exact ⟨_, _, entry, stamp, by_.trans own.symm⟩
        · obtain ⟨old, -, stored, -⟩ := before own
          cases free.symm.trans stored
    | deleted releasing careful gone status =>
        by_cases own : j = i
        · subst own
          cases status.symm.trans held
        · -- the deleted lock was that of request `i`
          obtain ⟨old, stamp, stored, stamped, rfl⟩ := before own
          have intact := careful (by rw [stored]; rfl)
          have mine := intact.held releasing
          obtain ⟨-, stamp', -, stamped', rfl⟩ := kept.held i key mine
          obtain rfl := Option.some.inj (stamped.symm.trans stamped')
          exact absurd rfl own
  · intro key entry' stamp' stored stamped
    cases step.lockStep may key with
    | kept entry stamps status =>
        have before := kept.stamped key entry' stamp' (entry.symm.trans stored)
          (stamps.symm.trans stamped)
        by_cases own : stamp'.by_ = i
        · rw [own] at before ⊢
          exact status.trans before
        · rw [others _ own]
          exact before
    | refused unasked entry stamps status =>
        have before := kept.stamped key entry' stamp' (entry.symm.trans stored)
          (stamps.symm.trans stamped)
        by_cases own : stamp'.by_ = i
        · rw [own] at before
          cases unasked.symm.trans before
        · rw [others _ own]
          exact before
    | created free entry stamp by_ status =>
        obtain rfl := Option.some.inj (stamp.symm.trans stamped)
        rw [by_]
        exact status
    | deleted releasing careful gone status =>
        cases gone.symm.trans stored

theorem Held.lapsed_cases (t : Timed) (i : Pid) (key : String) :
    s.lapsed t i key = s.status i key ∨
      s.status i key = .held ∧ s.lapsed t i key = .expired := by
  unfold Held.lapsed
  split
  · rename_i lost
    exact Or.inr ⟨lost.1, rfl⟩
  · exact Or.inl rfl

/-- What expiry leaves is as it was. -/
theorem HeldPasses.entry (shrinks : ∀ w w', env w w' → Shrinks w w')
    (passes : HeldPasses env s s') {entry : Entry} (stored : s'.entry key = some entry) :
    s.entry key = some entry := by
  rcases passes.timed.world with same | moved
  · rw [Held.entry, ← same]
    exact stored
  · rcases (shrinks _ _ moved).entries key with same | ⟨gone, -⟩
    · exact same.symm.trans stored
    · cases gone.symm.trans stored

theorem HeldPasses.kept (shrinks : ∀ w w', env w w' → Shrinks w w') (passes : HeldPasses env s s')
    (present : s'.entry key ≠ none) : s'.entry key = s.entry key := by
  cases stored : s'.entry key with
  | none => exact absurd stored present
  | some entry => exact (passes.entry shrinks stored).symm

theorem Locked.passes (kept : Locked s) (shrinks : ∀ w w', env w w' → Shrinks w w')
    (passes : HeldPasses env s s') : Locked s' := by
  constructor
  · intro i key held
    rw [passes.status, Held.lapsed] at held
    split at held
    · cases held
    · rename_i lasts
      obtain ⟨entry, stamp, stored, stamped, by_⟩ := kept.held i key held
      have present : s'.entry (lockKey key) ≠ none := fun gone => lasts ⟨held, gone⟩
      refine ⟨entry, stamp, ?_, ?_, by_⟩
      · rw [passes.kept shrinks present]
        exact stored
      · rw [passes.timed.stamps]
        exact stamped
  · intro key entry stamp stored stamped
    rw [passes.timed.stamps] at stamped
    have held := kept.stamped key entry stamp (passes.entry shrinks stored) stamped
    rw [passes.status, Held.lapsed, if_neg]
    · exact held
    · rintro ⟨-, gone⟩
      cases gone.symm.trans stored

/-- What the others leave of the locks of request `i`. -/
structure Spared (i : Pid) (s s' : Held) : Prop where
  status : ∀ key, s'.status i key = s.status i key ∨
    s.status i key = .held ∧ s'.status i key = .expired
  request : s'.timed.world.requests i = s.timed.world.requests i

theorem Spared.trans {s'' : Held} (first : Spared i s s') (second : Spared i s' s'') :
    Spared i s s'' := by
  refine ⟨fun key => ?_, second.request.trans first.request⟩
  rcases second.status key with same | ⟨held, expired⟩
  · rw [same]
    exact first.status key
  · rcases first.status key with same' | ⟨held', expired'⟩
    · exact Or.inr ⟨same'.symm.trans held, expired⟩
    · cases expired'.symm.trans held

def Setting.locks (σ : Setting) (shrinks : ∀ w w', σ.env w w' → Shrinks w w') :
    Protocol Op Op.Reply Held where
  exec := CarefulExec σ.allow
  env := HeldPasses σ.env
  inv := Locked
  rely := Spared
  pre i op s := ∀ command, op = .redis command → s.MayLock i command
  rely_refl i s := ⟨fun _ => Or.inl rfl, rfl⟩
  rely_trans := Spared.trans
  step_inv kept may step := kept.step may step
  step_rely := by
    rintro i j op s reply s' - - ⟨c, ⟨-, exec, status⟩, -⟩ other
    refine ⟨fun key => Or.inl ?_, ?_⟩
    · rw [status, Held.marked_pid other]
    · exact (World.exec_undisturbed (Timed.exec_world exec).1 other).request
  env_inv kept passes := kept.passes shrinks passes
  env_rely := by
    intro i s s' _ passes
    refine ⟨fun key => ?_, ?_⟩
    · rw [passes.status]
      exact Held.lapsed_cases s'.timed i key
    · rcases passes.timed.world with same | moved
      · rw [same]
      · exact ((σ.outside _ _ moved).undisturbed i).request

end

end ContentPlatform
