import ContentPlatform.World.Readers

/-!
# Redis and the clock

A run in which time passes.  Redis keeps an entry for its time to live at the
longest; it may drop it before.
-/

set_option autoImplicit false

namespace ContentPlatform

open Program Protocol

/-- A `SET` that stored an entry. -/
structure Stamp where
  time : ℚ
  ttl : ℤ
  by_ : Pid

structure Timed where
  world : World
  now : ℚ
  /-- The `SET` that stored the entry of a key last. -/
  stamps : String → Option Stamp

/-- Whether Redis executed a command; one that fails may have taken effect. -/
def Choice.executed (c : Choice) : Bool := c.fault.isNone || c.applied

namespace Timed

variable (s : Timed) (i : Pid) (c : Choice)

def stamped : Op → String → Option Stamp
  | .redis (.set key _ ttl nx) =>
      if c.executed && !(nx && (s.world.store.entries key).isSome) then
        Function.update s.stamps key (some ⟨s.now, ttl, i⟩)
      else s.stamps
  | _ => s.stamps

def exec (op : Op) : Option (op.Reply × Timed) :=
  (s.world.exec i c op).map fun (reply, world) => (reply, ⟨world, s.now, s.stamped i c op⟩)

end Timed

def TimedExec (allow : Allowance) (i : Pid) (op : Op) (s : Timed) (reply : op.Reply) (s' : Timed) :
    Prop :=
  ∃ c, allow s.world i op c ∧ s.exec i c op = some (reply, s')

/-- Time passes, or the environment acts; no entry outlives its time to live. -/
structure Passes (env : World → World → Prop) (s s' : Timed) : Prop where
  world : s'.world = s.world ∨ env s.world s'.world
  now : s.now ≤ s'.now
  stamps : s'.stamps = s.stamps
  alive : ∀ key entry stamp, s'.world.store.entries key = some entry → entry.expires = true →
    s.stamps key = some stamp → s'.now < stamp.time + stamp.ttl

abbrev TimedSystem := Config Op Op.Reply Exc Response Timed

def App.startAt (app : App) (requests : Pid → Request) (w : World) (now : ℚ) : TimedSystem :=
  Config.initial ⟨w, now, fun _ => none⟩ fun i => app.serve (requests i)

def Setting.Passing (σ : Setting) : TimedSystem → TimedSystem → Prop :=
  Steps (TimedExec σ.allow) (Passes σ.env)

section
variable {σ : Setting} {i : Pid} {c : Choice} {s s' : Timed} {op : Op} {reply : op.Reply}

theorem Timed.exec_world (step : s.exec i c op = some (reply, s')) :
    s.world.exec i c op = some (reply, s'.world) ∧ s'.now = s.now ∧
      s'.stamps = s.stamped i c op := by
  unfold Timed.exec at step
  obtain ⟨⟨reply, world⟩, ran, ⟨⟩⟩ := Option.map_eq_some_iff.mp step
  exact ⟨ran, rfl, rfl⟩

theorem TimedExec.exec (step : TimedExec σ.allow i op s reply s') :
    Exec σ.allow i op s.world reply s'.world := by
  obtain ⟨c, allowed, step⟩ := step
  exact ⟨c, allowed, (Timed.exec_world step).1⟩

theorem TimedExec.now (step : TimedExec σ.allow i op s reply s') : s'.now = s.now := by
  obtain ⟨c, -, step⟩ := step
  exact (Timed.exec_world step).2.1

/-- A run with a clock is one without. -/
theorem Setting.Passing.reaches {c c' : TimedSystem} (run : σ.Passing c c') :
    σ.Reaches (c.map Timed.world) (c'.map Timed.world) :=
  Steps.map (fun _ _ _ _ _ step => step.exec) (fun _ _ passes => passes.world) run

theorem Setting.Passing.now_le {c c' : TimedSystem} (run : σ.Passing c c') :
    c.state.now ≤ c'.state.now := by
  induction run with
  | refl => exact le_rfl
  | tail _ step ih =>
      cases step with
      | run _ _ step => exact ih.trans step.now.ge
      | env passes => exact ih.trans passes.now

theorem Setting.Passing.extends_ {c c' : TimedSystem} (run : σ.Passing c c') :
    Extends c.state.world.db c'.state.world.db :=
  run.reaches.extends_

theorem Setting.Passing.allStores {w : World} (initial : Initial w) (empty : Unstored w) (app : App)
    (shrinks : ∀ w w', σ.env w w' → Shrinks w w') {now : ℚ} {c : TimedSystem}
    (run : σ.Passing (app.startAt σ.requests w now) c) :
    (σ.stores app.rt shrinks).AllSafe (fun _ _ _ => True) (c.map Timed.world) :=
  (initial.allStores shrinks empty app).steps run.reaches

/-! ## The entry of a key -/

theorem World.exec_redis {w w' : World} {command : RedisCommand}
    {reply : Except Exc command.Reply} (step : w.exec i c (.redis command) = some (reply, w')) :
    w'.store = if c.executed then (w.store.step (w.provenance i) command).2 else w.store := by
  simp only [World.exec] at step
  rw [Choice.executed]
  cases fault : c.fault with
  | none =>
      rw [fault] at step
      obtain ⟨-, rfl⟩ := Prod.mk.inj (Option.some.inj step)
      rfl
  | some error =>
      rw [fault] at step
      obtain ⟨-, rfl⟩ := Prod.mk.inj (Option.some.inj step)
      cases c.applied <;> rfl

/-- A step keeps the entry that a key has afterwards, unless it is a `SET` of the key. -/
theorem Timed.exec_key (step : s.exec i c op = some (reply, s')) {key : String} {entry : Entry}
    (uncounted : op ≠ .redis (.incr key)) (stored : s'.world.store.entries key = some entry) :
    (s'.stamps key = s.stamps key ∧ s.world.store.entries key = some entry) ∨
      ∃ ttl nx, op = .redis (.set key entry.value ttl nx) ∧
        s'.stamps key = some ⟨s.now, ttl, i⟩ ∧ entry.expires = true := by
  obtain ⟨step, -, stamps⟩ := Timed.exec_world step
  cases asks : op.asksRedis with
  | false =>
      have same : s'.stamps = s.stamps := by
        rw [stamps]
        cases op with
        | redis command => cases asks
        | _ => rfl
      rw [World.exec_store asks step] at stored
      exact Or.inl ⟨by rw [same], stored⟩
  | true =>
      cases op with
      | redis command =>
          have store := World.exec_redis step
          rw [store] at stored
          cases executed : c.executed with
          | false =>
              rw [executed] at stored
              have same : s'.stamps = s.stamps := by
                rw [stamps]
                cases command <;> simp [Timed.stamped, executed]
              exact Or.inl ⟨by rw [same], stored⟩
          | true =>
              rw [executed, if_pos rfl] at stored
              by_cases writes : Redis.writes command key
              · cases command with
                | get key' => exact writes.elim
                | mget keys => exact writes.elim
                | incr key' =>
                    obtain rfl : key = key' := writes
                    exact absurd rfl uncounted
                | delete key' =>
                    obtain rfl : key = key' := writes
                    simp [Redis.step, Redis.setEntry] at stored
                | set key' value ttl nx =>
                    obtain rfl : key = key' := writes
                    simp only [Redis.step] at stored
                    split at stored
                    · rename_i blocked
                      refine Or.inl ⟨?_, stored⟩
                      rw [stamps, Timed.stamped, executed, blocked]
                      rfl
                    · rename_i free
                      rw [Redis.setEntry_self] at stored
                      obtain rfl := Option.some.inj stored
                      refine Or.inr ⟨ttl, nx, rfl, ?_, rfl⟩
                      rw [stamps, Timed.stamped, executed, Bool.eq_false_iff.mpr free]
                      exact Function.update_self ..
              · rw [Redis.step_entries writes] at stored
                refine Or.inl ⟨?_, stored⟩
                rw [stamps]
                cases command with
                | set key' value ttl nx =>
                    simp only [Timed.stamped]
                    split
                    · exact Function.update_of_ne writes _ _
                    · rfl
                | _ => rfl
      | _ => cases asks

/-! ## The reads of articles -/

inductive ReadsArticles : (op : Op) → op.Reply → Prop where
  | article (id : ℤ) (found : Option ℤ) : ReadsArticles (.mysql (.selectArticle id)) (.ok found)
  | page (limit : ℤ) (after : Option Position) (author : Option ℤ)
      (rows : List ArticleSummaryOut) :
      ReadsArticles (.mysql (.selectPage limit after author)) (.ok rows)
  | refresh (id : ℤ) (reply : Except Exc Unit) : ReadsArticles (.mysql (.refreshArticle id)) reply

theorem Database.casStep_loadedFrom {db db' : Database} {id : ℤ} {expected stamp : DateTime}
    {change : ArticleRow → ArticleRow} {count : ℕ}
    (step : db.casStep i id expected change stamp = some (count, db')) :
    (db'.sessions i).loadedFrom = (db.sessions i).loadedFrom := by
  unfold casStep at step
  split at step
  · cases step
  dsimp only at step
  split at step
  · obtain ⟨-, rfl⟩ := Prod.mk.inj (Option.some.inj step)
    simp
  · split at step
    · split at step <;> obtain ⟨-, rfl⟩ := Prod.mk.inj (Option.some.inj step) <;> simp
    · obtain ⟨-, rfl⟩ := Prod.mk.inj (Option.some.inj step)
      simp

/-- Only a read of articles changes the observation of what was loaded last. -/
theorem Database.statementStep_loadedFrom {db db' : Database} {statement : Statement}
    {reply : Except Exc statement.Reply}
    (step : db.statementStep i c statement = some (reply, db')) :
    (db'.sessions i).loadedFrom = (db.sessions i).loadedFrom ∨
      ReadsArticles (.mysql statement) reply ∧
        (db'.sessions i).loadedFrom = some (db.viewed i) := by
  cases statement with
  | selectUser id =>
      simp only [statementStep] at step
      split at step <;> obtain ⟨-, rfl⟩ := Prod.mk.inj (Option.some.inj step) <;>
        exact Or.inl (by simp)
  | selectUserByEmail email =>
      simp only [statementStep] at step
      split at step <;> obtain ⟨-, rfl⟩ := Prod.mk.inj (Option.some.inj step) <;>
        exact Or.inl (by simp)
  | selectRole name =>
      obtain ⟨-, rfl⟩ := Prod.mk.inj (Option.some.inj step)
      exact Or.inl (by simp)
  | insertUser email passwordHash roleName =>
      rcases insertUser_cases step with ⟨-, rfl, -⟩ | ⟨-, rfl, -, -⟩ <;> exact Or.inl (by simp)
  | selectArticle id =>
      simp only [statementStep] at step
      split at step
      · split at step <;> obtain ⟨rfl, rfl⟩ := Prod.mk.inj (Option.some.inj step) <;>
          exact Or.inr ⟨.article _ _, by simp⟩
      · obtain ⟨rfl, rfl⟩ := Prod.mk.inj (Option.some.inj step)
        exact Or.inr ⟨.article _ _, by simp⟩
  | selectPage limit after author =>
      simp only [statementStep] at step
      split at step <;> obtain ⟨rfl, rfl⟩ := Prod.mk.inj (Option.some.inj step)
      · exact Or.inl (by simp)
      · exact Or.inr ⟨.page _ _ _ _, by simp⟩
  | insertArticle authorId title body =>
      simp only [statementStep] at step
      split at step
      · obtain ⟨-, rfl⟩ := Prod.mk.inj (Option.some.inj step)
        exact Or.inl (by simp)
      · cases step
  | refreshArticle id =>
      simp only [statementStep] at step
      split at step <;> obtain ⟨-, rfl⟩ := Prod.mk.inj (Option.some.inj step) <;>
        exact Or.inr ⟨.refresh _ _, by simp⟩
  | updateArticle id expected title body =>
      obtain ⟨⟨count, db''⟩, cas, same⟩ := Option.map_eq_some_iff.mp step
      obtain ⟨-, rfl⟩ := Prod.mk.inj same
      exact Or.inl (casStep_loadedFrom cas)
  | softDeleteArticle id expected deletedAt =>
      obtain ⟨⟨count, db''⟩, cas, same⟩ := Option.map_eq_some_iff.mp step
      obtain ⟨-, rfl⟩ := Prod.mk.inj same
      exact Or.inl (casStep_loadedFrom cas)

theorem World.exec_loadedFrom {w w' : World} (step : w.exec i c op = some (reply, w')) :
    (w'.db.sessions i).loadedFrom = (w.db.sessions i).loadedFrom ∨
      ReadsArticles op reply ∧ (w'.db.sessions i).loadedFrom = some (w.db.viewed i) := by
  by_cases aside : op.asksDatabase = false
  · rw [exec_db aside step]
    exact Or.inl rfl
  · cases op with
    | mysql statement =>
        simp only [exec] at step
        split at step
        · obtain ⟨-, rfl⟩ := Prod.mk.inj (Option.some.inj step)
          exact Or.inl (by simp)
        · obtain ⟨⟨reply, db⟩, answered, same⟩ := Option.map_eq_some_iff.mp step
          obtain ⟨rfl, rfl⟩ := Prod.mk.inj same
          exact Database.statementStep_loadedFrom answered
    | commit =>
        obtain ⟨-, rfl⟩ := Prod.mk.inj (Option.some.inj step)
        rcases Database.commitReply_cases w.db i c with done | same
        · simp only [done]
          exact Or.inl (by simp)
        · exact Or.inl (by simp only [same])
    | rollback =>
        obtain ⟨-, rfl⟩ := Prod.mk.inj (Option.some.inj step)
        rcases rollback_sessions w.db i with same | ended
        · exact Or.inl (by rw [same])
        · exact Or.inl (by rw [ended])
    | expireAll =>
        obtain ⟨-, rfl⟩ := Prod.mk.inj (Option.some.inj step)
        exact Or.inl (by simp)
    | _ => exact absurd rfl aside

end

/-! ## Replaying a schedule -/

inductive Turn where
  | step (i : Pid) (choice : Choice)
  | wait (now : ℚ)

def Op.written : Op → List String
  | .redis (.set key _ _ _) => [key]
  | .redis (.incr key) => [key]
  | _ => []

theorem World.exec_written {w w' : World} {i : Pid} {c : Choice} {op : Op} {reply : op.Reply}
    (step : w.exec i c op = some (reply, w')) {key : String} {entry : Entry}
    (stored : w'.store.entries key = some entry) :
    key ∈ op.written ∨ w.store.entries key = some entry := by
  cases asks : op.asksRedis with
  | false =>
      rw [exec_store asks step] at stored
      exact Or.inr stored
  | true =>
      cases op with
      | redis command =>
          rw [exec_redis step] at stored
          cases executed : c.executed with
          | false =>
              rw [executed] at stored
              exact Or.inr stored
          | true =>
              rw [executed, if_pos rfl] at stored
              by_cases writes : Redis.writes command key
              · cases command with
                | get key' => exact writes.elim
                | mget keys => exact writes.elim
                | set key' value ttl nx =>
                    obtain rfl : key = key' := writes
                    exact Or.inl (List.mem_singleton_self key)
                | incr key' =>
                    obtain rfl : key = key' := writes
                    exact Or.inl (List.mem_singleton_self key)
                | delete key' =>
                    obtain rfl : key = key' := writes
                    simp [Redis.step, Redis.setEntry] at stored
              · rw [Redis.step_entries writes] at stored
                exact Or.inr stored
      | _ => cases asks

def Timed.mayWait (s : Timed) (keys : List String) (now : ℚ) : Bool :=
  decide (s.now ≤ now) && keys.all fun key =>
    (s.world.store.entries key).isNone ||
      (s.stamps key).all fun stamp => decide (now < stamp.time + stamp.ttl)

def takeTurn (check : World → Pid → Op → Choice → Bool) (c : TimedSystem) (keys : List String) :
    Turn → Option (TimedSystem × List String)
  | .step i choice =>
      match c.code i with
      | .call op next =>
          if check c.state.world i op choice then
            (c.state.exec i choice op).map fun (reply, s) =>
              (⟨s, Function.update c.code i (next reply), Function.update c.started i true⟩,
                op.written ++ keys)
          else none
      | _ => none
  | .wait now =>
      if c.state.mayWait keys now then some (⟨{ c.state with now }, c.code, c.started⟩, keys)
      else none

def replayTurns (check : World → Pid → Op → Choice → Bool) (c : TimedSystem) (keys : List String) :
    List Turn → Option TimedSystem
  | [] => some c
  | turn :: rest =>
      (takeTurn check c keys turn).bind fun (c', keys') => replayTurns check c' keys' rest

def Covered (c : TimedSystem) (keys : List String) : Prop :=
  ∀ key entry, c.state.world.store.entries key = some entry → key ∈ keys

theorem passes_of_mayWait {env : World → World → Prop} {s : Timed} {keys : List String} {now : ℚ}
    (covered : ∀ key entry, s.world.store.entries key = some entry → key ∈ keys)
    (wait : s.mayWait keys now = true) : Passes env s { s with now } := by
  simp only [Timed.mayWait, Bool.and_eq_true, decide_eq_true_eq, List.all_eq_true] at wait
  refine ⟨Or.inl rfl, wait.1, rfl, fun key entry stamp stored _ own => ?_⟩
  have lasts := wait.2 key (covered key entry stored)
  rw [stored, own] at lasts
  simpa using lasts

theorem takeTurn_step {σ : Setting} {check : World → Pid → Op → Choice → Bool}
    (sound : ∀ w i op choice, check w i op choice = true → σ.allow w i op choice)
    {c c' : TimedSystem} {keys keys' : List String} {turn : Turn} (covered : Covered c keys)
    (next : takeTurn check c keys turn = some (c', keys')) :
    σ.Passing c c' ∧ Covered c' keys' := by
  cases turn with
  | step i choice =>
      simp only [takeTurn] at next
      split at next
      · rename_i op rest code
        split at next
        · rename_i checked
          obtain ⟨⟨reply, s⟩, exec, ⟨⟩⟩ := Option.map_eq_some_iff.mp next
          constructor
          · exact (Step.run i code ⟨choice, sound _ _ _ _ checked, exec⟩).steps
          · intro key entry stored
            rcases World.exec_written (Timed.exec_world exec).1 stored with written | before
            · exact List.mem_append_left _ written
            · exact List.mem_append_right _ (covered key entry before)
        · cases next
      · cases next
  | wait now =>
      simp only [takeTurn] at next
      split at next
      · rename_i wait
        obtain ⟨⟩ := next
        exact ⟨(Step.env (passes_of_mayWait covered wait)).steps, covered⟩
      · cases next

theorem replayTurns_passing {σ : Setting} {check : World → Pid → Op → Choice → Bool}
    (sound : ∀ w i op choice, check w i op choice = true → σ.allow w i op choice)
    {turns : List Turn} {c c' : TimedSystem} {keys : List String} (covered : Covered c keys)
    (run : replayTurns check c keys turns = some c') : σ.Passing c c' := by
  induction turns generalizing c keys with
  | nil =>
      obtain rfl := Option.some.inj run
      exact .refl
  | cons turn rest ih =>
      obtain ⟨⟨c₁, keys₁⟩, next, run⟩ := Option.bind_eq_some_iff.mp run
      obtain ⟨first, covered₁⟩ := takeTurn_step sound covered next
      exact first.trans (ih covered₁ run)

def replayKeys (check : World → Pid → Op → Choice → Bool) (c : TimedSystem) (keys : List String) :
    List Turn → Option (TimedSystem × List String)
  | [] => some (c, keys)
  | turn :: rest =>
      (takeTurn check c keys turn).bind fun (c', keys') => replayKeys check c' keys' rest

theorem replayKeys_passing {σ : Setting} {check : World → Pid → Op → Choice → Bool}
    (sound : ∀ w i op choice, check w i op choice = true → σ.allow w i op choice)
    {turns : List Turn} {c c' : TimedSystem} {keys keys' : List String} (covered : Covered c keys)
    (run : replayKeys check c keys turns = some (c', keys')) :
    σ.Passing c c' ∧ Covered c' keys' := by
  induction turns generalizing c keys with
  | nil =>
      obtain ⟨rfl, rfl⟩ := Prod.mk.inj (Option.some.inj run)
      exact ⟨.refl, covered⟩
  | cons turn rest ih =>
      obtain ⟨⟨c₁, keys₁⟩, next, run⟩ := Option.bind_eq_some_iff.mp run
      obtain ⟨first, covered₁⟩ := takeTurn_step sound covered next
      obtain ⟨others, last⟩ := ih covered₁ run
      exact ⟨first.trans others, last⟩

theorem Unstored.covered {c : TimedSystem} (empty : Unstored c.state.world) : Covered c [] := by
  intro key entry stored
  cases (empty.entries key).symm.trans stored

theorem Setting.exists_turns (σ : Setting) (check : World → Pid → Op → Choice → Bool)
    (sound : ∀ w i op choice, check w i op choice = true → σ.allow w i op choice)
    (c : TimedSystem) (empty : Unstored c.state.world) (turns : List Turn) (P : TimedSystem → Bool)
    (run : (replayTurns check c [] turns).any P = true) :
    ∃ c', σ.Passing c c' ∧ P c' = true := by
  have covered := empty.covered
  cases last : replayTurns check c [] turns with
  | none =>
      rw [last] at run
      cases run
  | some c' =>
      rw [last] at run
      exact ⟨c', replayTurns_passing sound covered last, run⟩

/-- Redis drops an entry, and it is so late. -/
def Timed.expire (s : Timed) (key : String) (now : ℚ) : Timed :=
  ⟨{ s.world with store := s.world.store.setEntry key none }, now, s.stamps⟩

/-- Whether nothing but this entry is stored, and its time to live is over then. -/
def Timed.mayExpire (s : Timed) (keys : List String) (key : String) (now : ℚ) : Bool :=
  decide (s.now ≤ now) && keys.all (· == key) && (s.world.store.entries key).any Entry.expires &&
    (s.stamps key).any fun stamp => decide (stamp.time + stamp.ttl ≤ now)

theorem passes_of_mayExpire {s : Timed} {keys : List String} {key : String} {now : ℚ}
    (covered : ∀ other entry, s.world.store.entries other = some entry → other ∈ keys)
    (may : s.mayExpire keys key now = true) : Passes Expires s (s.expire key now) := by
  simp only [Timed.mayExpire, Bool.and_eq_true, decide_eq_true_eq, List.all_eq_true] at may
  obtain ⟨⟨⟨later, only⟩, volatile⟩, -⟩ := may
  obtain ⟨entry, stored, expires⟩ := (Option.any_eq_true _ _).mp volatile
  refine ⟨Or.inr ⟨key, entry, stored, expires, rfl⟩, later, rfl, fun other entry' _ kept => ?_⟩
  have gone : (s.world.store.setEntry key none).entries other = none := by
    by_cases same : other = key
    · rw [same]
      exact Redis.setEntry_self ..
    · rw [Redis.setEntry_ne _ _ same]
      cases left : s.world.store.entries other with
      | none => rfl
      | some old => exact absurd (eq_of_beq (only other (covered other old left))) same
  cases gone.symm.trans kept

def replayExpiry (check : World → Pid → Op → Choice → Bool) (c : TimedSystem) (before : List Turn)
    (key : String) (now : ℚ) (after : List Turn) : Option TimedSystem :=
  (replayKeys check c [] before).bind fun (c', keys) =>
    if c'.state.mayExpire keys key now then
      replayTurns check ⟨c'.state.expire key now, c'.code, c'.started⟩ keys after
    else none

theorem Setting.exists_expiry (σ : Setting) (check : World → Pid → Op → Choice → Bool)
    (sound : ∀ w i op choice, check w i op choice = true → σ.allow w i op choice)
    (drops : ∀ w w', Expires w w' → σ.env w w') (c : TimedSystem) (empty : Unstored c.state.world)
    (before after : List Turn) (key : String) (now : ℚ) (P : TimedSystem → Bool)
    (run : (replayExpiry check c before key now after).any P = true) :
    ∃ c', σ.Passing c c' ∧ P c' = true := by
  obtain ⟨c', last, holds⟩ := (Option.any_eq_true _ _).mp run
  refine ⟨c', ?_, holds⟩
  obtain ⟨⟨c₁, keys⟩, first, last⟩ := Option.bind_eq_some_iff.mp last
  obtain ⟨run₁, covered⟩ := replayKeys_passing sound empty.covered first
  dsimp only at last
  split at last
  · rename_i may
    have passes := passes_of_mayExpire covered may
    have event : Step (TimedExec σ.allow) (Passes σ.env) c₁
        ⟨c₁.state.expire key now, c₁.code, c₁.started⟩ :=
      .env ⟨passes.world.imp_right (drops _ _), passes.now, passes.stamps, passes.alive⟩
    have covered' : Covered ⟨c₁.state.expire key now, c₁.code, c₁.started⟩ keys := by
      intro other entry stored
      rcases passes.world with same | moved
      · exact covered other entry (by rw [← same]; exact stored)
      · rcases moved.shrinks.entries other with same | ⟨gone, -⟩
        · exact covered other entry (same.symm.trans stored)
        · cases gone.symm.trans stored
    exact (run₁.trans event.steps).trans (replayTurns_passing sound covered' last)
  · cases last

end ContentPlatform
