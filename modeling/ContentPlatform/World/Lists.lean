import ContentPlatform.World.Timed

/-!
# What pages hold

A page is stored under the value of the counter that its request read before it loaded the page.
So it is out of sight of every reader as soon as the counter has been increased.
-/

set_option autoImplicit false

namespace ContentPlatform

open Program Py Prog Protocol

/-! ## Pages -/

def Table.Shows (table : Table) (limit : ℤ) (after : Option Position) (author : Option ℤ)
    (page : Page) : Prop :=
  splitPage limit (table.fetch (limit + 1) after author) = .ok page

/-- No two windows that are asked for have the same digest. -/
def Setting.Distinct (σ : Setting) (rt : Runtime) : Prop :=
  ∀ i j limit limit' after after' author, σ.requests i = .list limit after author →
    σ.requests j = .list limit' after' author →
    filterHash rt limit (cursorParts after) = filterHash rt limit' (cursorParts after') →
    limit = limit' ∧ cursorParts after = cursorParts after'

/-- A list request that has read its counter as `generation` and has not committed. -/
structure Lists (σ : Setting) (author : Option ℤ) (generation : ℤ) (i : Pid) (w : World) :
    Prop where
  request : ∃ limit after, σ.requests i = .list limit after author
  generation : (w.requests i).generation = some (counterKey author, generation)
  committed : (w.db.sessions i).committed = none

/-- A page from the committed state `n` is stored under `generation`, or a request that has read
the counter as that has loaded it. -/
inductive Holds (σ : Setting) (rt : Runtime) (author : Option ℤ) (generation : ℤ) (n : ℕ)
    (w : World) : Prop where
  | loaded {i : Pid} : Lists σ author generation i w → (w.db.sessions i).loadedFrom = some n →
      Holds σ rt author generation n w
  | stored {limit : ℤ} {parts : Option (ℤ × ℤ)} {entry : Entry} :
      w.store.entries (listKey rt generation author limit parts) = some entry →
      entry.provenance.loadedFrom = some n → Holds σ rt author generation n w

/-- What is stored under the key of a request is a page that answers it. -/
def Genuine (σ : Setting) (rt : Runtime) (w : World) : Prop :=
  ∀ i generation limit after author entry, σ.requests i = .list limit after author →
    w.store.entries (listKey rt generation author limit (cursorParts after)) = some entry →
      ∃ n ≤ w.db.version, entry.provenance.loadedFrom = some n ∧
        ∃ page, (w.db.history n).Shows limit after author page ∧ entry.value = encodePage rt page

/-- No page, and no request that may store one, is ahead of the value. -/
structure Within (σ : Setting) (rt : Runtime) (author : Option ℤ) (value : ℤ) (w : World) :
    Prop where
  reads : ∀ i generation, Lists σ author generation i w → generation ≤ value
  holds : ∀ generation n, Holds σ rt author generation n w → generation ≤ value

/-- A page from before commit `n` is stored, or about to be, under the value that its counter
reads as. -/
def Outdated (σ : Setting) (rt : Runtime) (author : Option ℤ) (n : ℕ) (w : World) : Prop :=
  ∃ m < n, Holds σ rt author (w.store.reading (counterKey author)) m w

/-- Whoever reads the counter from now on finds no page from before commit `n`. -/
def Cleared (σ : Setting) (rt : Runtime) (author : Option ℤ) (n : ℕ) (w : World) : Prop :=
  n ≤ w.db.version ∧ ¬Outdated σ rt author n w

/-- What is stored under `generation`, or is going to be, has seen commit `n`. -/
def Since (σ : Setting) (rt : Runtime) (author : Option ℤ) (generation : ℤ) (n : ℕ) (w : World) :
    Prop :=
  n ≤ w.db.version ∧ ∀ m, Holds σ rt author generation m w → n ≤ m

/-! ## What requests may send -/

inductive ListCommand (σ : Setting) (rt : Runtime) (i : Pid) (w : World) : RedisCommand → Prop where
  | get (key : String) : ListCommand σ rt i w (.get key)
  /-- A list request reads its counter before it loads anything. -/
  | mget {keys : List String} : (∀ limit after author, σ.requests i = .list limit after author →
        keys.getLast? = some (counterKey author) ∧ (w.db.sessions i).loadedFrom = none) →
      ListCommand σ rt i w (.mget keys)
  | aside {key : String} (body : String) (ttl : ℤ) (nx : Bool) : Redis.Aside rt key →
      ListCommand σ rt i w (.set key body ttl nx)
  /-- It stores the page that it has loaded under the value that it has read. -/
  | page {generation limit ttl : ℤ} {after : Option Position} {author : Option ℤ} {n : ℕ}
      {page : Page} : σ.requests i = .list limit after author → Lists σ author generation i w →
      n ≤ w.db.version → (w.db.sessions i).loadedFrom = some n →
      (w.db.history n).Shows limit after author page →
      ListCommand σ rt i w (.set (listKey rt generation author limit (cursorParts after))
        (encodePage rt page) ttl false)
  | delete {key : String} : Redis.Aside rt key → ListCommand σ rt i w (.delete key)
  | incr (author : Option ℤ) : ListCommand σ rt i w (.incr (counterKey author))

/-- Besides, the first statement of a list request is its load. -/
def ListPre (σ : Setting) (rt : Runtime) (i : Pid) (op : Op) (w : World) : Prop :=
  match op with
  | .redis command => ListCommand σ rt i w command
  | .mysql _ => ∀ limit after author, σ.requests i = .list limit after author →
      (w.db.transaction i).view = none
  | _ => True

/-! ## Steps -/

section
variable {σ : Setting} {rt : Runtime} {i : Pid} {w w' : World} {c : Choice} {op : Op}
  {reply : op.Reply} {author : Option ℤ}

/-- A request says that it has committed only when it does. -/
theorem World.exec_committed (step : w.exec i c op = some (reply, w')) :
    (w'.db.sessions i).committed = (w.db.sessions i).committed ∨
      op = .commit ∧ (w'.db.sessions i).committed = some w'.db.version := by
  by_cases commits : op = .commit
  · subst commits
    obtain ⟨-, rfl⟩ := Prod.mk.inj (Option.some.inj step)
    rcases Database.commitReply_cases w.db i c with done | same
    · exact Or.inr ⟨rfl, by simp [done]⟩
    · exact Or.inl (by simp only [same])
  · rcases World.exec_keeps step commits with kept | ⟨id, user, -, -, -, same⟩
    · exact Or.inl kept.committed
    · exact Or.inl same

/-- The cache is switched off by one interaction only. -/
theorem World.exec_undegraded (step : w.exec i c op = some (reply, w'))
    (kept : op ≠ .degradeCache) :
    (w'.requests i).degraded = (w.requests i).degraded := by
  by_cases isLocal : op.isLocal = true
  · rw [exec_local isLocal step]
  · cases op <;> first
      | exact absurd rfl isLocal
      | exact absurd rfl kept
      | skip
    case redis command =>
      have same : ((w.redisStep i command).2.requests i).degraded = (w.requests i).degraded :=
        observeGeneration_degraded w command
      simp only [exec] at step
      split at step
      · obtain ⟨-, rfl⟩ := Prod.mk.inj (Option.some.inj step)
        split
        · exact same
        · rfl
      · obtain ⟨-, rfl⟩ := Prod.mk.inj (Option.some.inj step)
        exact same
    case mysql statement =>
      simp only [exec] at step
      split at step
      · obtain ⟨-, rfl⟩ := Prod.mk.inj (Option.some.inj step)
        rfl
      · obtain ⟨_, -, same⟩ := Option.map_eq_some_iff.mp step
        obtain ⟨-, rfl⟩ := Prod.mk.inj same
        rfl
    case outOfFuel => cases step
    all_goals
      obtain ⟨-, rfl⟩ := Prod.mk.inj (Option.some.inj step)
      simp

/-- A request notes a counter only when it reads it. -/
theorem World.exec_generation (step : w.exec i c op = some (reply, w'))
    (aside : op.asksRedis = false) :
    (w'.requests i).generation = (w.requests i).generation := by
  by_cases isLocal : op.isLocal = true
  · rw [exec_local isLocal step]
  · cases op <;> first
      | exact absurd rfl isLocal
      | exact Bool.noConfusion aside
      | skip
    case mysql statement =>
      simp only [exec] at step
      split at step
      · obtain ⟨-, rfl⟩ := Prod.mk.inj (Option.some.inj step)
        rfl
      · obtain ⟨_, -, same⟩ := Option.map_eq_some_iff.mp step
        obtain ⟨-, rfl⟩ := Prod.mk.inj same
        rfl
    case outOfFuel => cases step
    all_goals
      obtain ⟨-, rfl⟩ := Prod.mk.inj (Option.some.inj step)
      simp

/-! ### Away from Redis -/

/-- Who lists after a step of another did so before it. -/
theorem Lists.undisturbed {j : Pid} {generation : ℤ} (lists : Lists σ author generation j w')
    (moved : Undisturbed j w w') : Lists σ author generation j w := by
  refine ⟨lists.request, ?_, ?_⟩
  · rw [← moved.request]
    exact lists.generation
  · rw [← moved.session]
    exact lists.committed

/-- A step away from Redis begins no listing. -/
theorem Lists.exec_aside {j : Pid} {generation : ℤ} (lists : Lists σ author generation j w')
    (step : w.exec i c op = some (reply, w')) (aside : op.asksRedis = false) :
    Lists σ author generation j w := by
  by_cases own : j = i
  · subst own
    refine ⟨lists.request, ?_, ?_⟩
    · rw [← World.exec_generation step aside]
      exact lists.generation
    · rcases World.exec_committed step with same | ⟨-, now⟩
      · rw [← same]
        exact lists.committed
      · rw [lists.committed] at now
        cases now
  · exact lists.undisturbed (World.exec_undisturbed step own)

/-- A list request that loads sees the latest committed state. -/
theorem Holds.exec_aside {generation : ℤ} {n : ℕ} (holds : Holds σ rt author generation n w')
    (owed : ListPre σ rt i op w) (step : w.exec i c op = some (reply, w'))
    (aside : op.asksRedis = false) :
    Holds σ rt author generation n w ∨ n = w.db.version ∧ ∃ j, Lists σ author generation j w := by
  cases holds with
  | @loaded j lists from_ =>
      have before := lists.exec_aside step aside
      by_cases own : j = i
      · subst own
        rcases World.exec_loadedFrom step with same | ⟨reads, now⟩
        · rw [same] at from_
          exact Or.inl (.loaded before from_)
        · have viewed : w.db.viewed j = w.db.version := by
            obtain ⟨limit, after, request⟩ := lists.request
            cases op with
            | mysql statement =>
                rw [Database.viewed, owed limit after author request]
                rfl
            | _ => cases reads
          rw [now, viewed] at from_
          exact Or.inr ⟨(Option.some.inj from_).symm, j, before⟩
      · rw [(World.exec_undisturbed step own).session] at from_
        exact Or.inl (.loaded before from_)
  | stored entry from_ =>
      rw [World.exec_store aside step] at entry
      exact Or.inl (.stored entry from_)

/-! ### Redis -/

variable {command : RedisCommand}

/-- What a command does to a counter: nothing, or it increases what the counter reads as. -/
theorem ListCommand.reading (may : ListCommand σ rt i w command) (by_ : Provenance)
    (author : Option ℤ) :
    (w.store.step by_ command).2.reading (counterKey author) = w.store.reading (counterKey author) ∨
      w.store.reading (counterKey author) <
        (w.store.step by_ command).2.reading (counterKey author) := by
  have kept : ¬Redis.writes command (counterKey author) →
      (w.store.step by_ command).2.reading (counterKey author) =
        w.store.reading (counterKey author) :=
    fun aside => Redis.reading_congr (Redis.step_entries aside)
  cases may with
  | get key => exact Or.inl rfl
  | mget reads => exact Or.inl rfl
  | aside body ttl nx other => exact Or.inl (kept fun same => other.counter author same.symm)
  | page request lists past loaded shows =>
      exact Or.inl (kept fun same => listKey_ne_counterKey rt _ _ _ author _ same.symm)
  | delete other => exact Or.inl (kept fun same => other.counter author same.symm)
  | incr author' =>
      by_cases same : author' = author
      · subst same
        rcases @Redis.step_incr w.store by_ (counterKey author') with more | unchanged
        · apply Or.inr
          omega
        · rw [unchanged]
          exact Or.inl rfl
      · exact Or.inl (kept fun equal => same (counterKey_injective equal).symm)

/-- An entry that is new under the key of a page is the page that the request has loaded. -/
theorem ListCommand.stored (may : ListCommand σ rt i w command) {generation limit : ℤ}
    {parts : Option (ℤ × ℤ)} {entry : Entry}
    (stored : (w.store.step (w.provenance i) command).2.entries
      (listKey rt generation author limit parts) = some entry) :
    w.store.entries (listKey rt generation author limit parts) = some entry ∨
      Lists σ author generation i w ∧ ∃ limit' after n page,
        σ.requests i = .list limit' after author ∧ n ≤ w.db.version ∧
        filterHash rt limit parts = filterHash rt limit' (cursorParts after) ∧
        (w.db.sessions i).loadedFrom = some n ∧ entry.provenance.loadedFrom = some n ∧
        (w.db.history n).Shows limit' after author page ∧ entry.value = encodePage rt page := by
  have kept : ¬Redis.writes command (listKey rt generation author limit parts) →
      w.store.entries (listKey rt generation author limit parts) = some entry := by
    intro aside
    rw [Redis.step_entries aside] at stored
    exact stored
  cases may with
  | get key => exact Or.inl stored
  | mget reads => exact Or.inl stored
  | aside body ttl nx other => exact Or.inl (kept fun same => other.page _ _ _ _ same.symm)
  | delete other => exact Or.inl (kept fun same => other.page _ _ _ _ same.symm)
  | incr author' => exact Or.inl (kept (listKey_ne_counterKey rt _ _ _ author' _))
  | @page generation' limit' ttl after' author' n page own lists past loaded shows =>
      by_cases same : listKey rt generation author limit parts =
          listKey rt generation' author' limit' (cursorParts after')
      · rw [same, show (w.store.step (w.provenance i) (.set (listKey rt generation' author' limit'
          (cursorParts after')) (encodePage rt page) ttl false)).2 = w.store.setEntry _ _ from rfl,
          Redis.setEntry_self] at stored
        obtain ⟨rfl, rfl, digest⟩ := listKey_injective rt same
        obtain rfl := Option.some.inj stored
        exact Or.inr ⟨lists, limit', after', n, page, own, past, digest, loaded, loaded, shows, rfl⟩
      · exact Or.inl (kept same)

/-- Who lists after a command did so before it, or has just read its counter. -/
theorem Lists.redis {j : Pid} {generation : ℤ} (may : ListCommand σ rt i w command)
    (lists : Lists σ author generation j (w.redisStep i command).2) :
    Lists σ author generation j w ∨
      generation = w.store.reading (counterKey author) ∧ (w.db.sessions j).loadedFrom = none := by
  have committed : (w.db.sessions j).committed = none := by
    rw [← World.redisStep_db (i := i) w command]
    exact lists.committed
  by_cases own : j = i
  · subst own
    have noted := lists.generation
    by_cases reads : ∃ keys, command = .mget keys
    · obtain ⟨keys, rfl⟩ := reads
      cases may with
      | mget first =>
          obtain ⟨limit, after, request⟩ := lists.request
          obtain ⟨last, unloaded⟩ := first limit after author request
          have now : ((w.redisStep j (.mget keys)).2.requests j).generation =
              some (counterKey author, w.store.reading (counterKey author)) := by
            show ((w.observeGeneration j (.mget keys)).requests j).generation = _
            simp only [World.observeGeneration, last, World.setRequest_requests]
          rw [now] at noted
          obtain ⟨-, rfl⟩ := Prod.mk.inj (Option.some.inj noted)
          exact Or.inr ⟨rfl, unloaded⟩
    · rw [redisStep_of_not_mget fun keys same => reads ⟨keys, same⟩] at noted
      exact Or.inl ⟨lists.request, noted, committed⟩
  · refine Or.inl ⟨lists.request, ?_, committed⟩
    rw [← World.redisStep_requests_ne w command own]
    exact lists.generation

/-- A command makes no page but the one that its request has loaded. -/
theorem Holds.redis {generation : ℤ} {n : ℕ} (may : ListCommand σ rt i w command)
    (holds : Holds σ rt author generation n (w.redisStep i command).2) :
    Holds σ rt author generation n w := by
  cases holds with
  | loaded lists from_ =>
      rw [World.redisStep_db] at from_
      rcases lists.redis may with before | ⟨-, unloaded⟩
      · exact .loaded before from_
      · rw [unloaded] at from_
        cases from_
  | stored entry from_ =>
      rw [redisStep_store] at entry
      rcases may.stored entry with before | ⟨lists, _, _, m, _, _, _, _, loaded, same, _⟩
      · exact .stored before from_
      · rw [same] at from_
        exact .loaded lists (loaded.trans from_)

theorem Genuine.redis (genuine : Genuine σ rt w) (distinct : σ.Distinct rt)
    (may : ListCommand σ rt i w command) : Genuine σ rt (w.redisStep i command).2 := by
  intro j generation limit after author entry request stored
  rw [redisStep_store] at stored
  rw [World.redisStep_db]
  rcases may.stored stored with before |
    ⟨-, limit', after', n, page, own, past, digest, -, same, shows, value⟩
  · exact genuine j generation limit after author entry request before
  · obtain ⟨rfl, parts⟩ := distinct j i limit limit' after after' author request own digest
    obtain rfl := cursorParts_injective parts
    exact ⟨n, past, same, page, shows, value⟩

/-! ### Any step -/

variable {allow : Allowance}

theorem ListPre.reading (owed : ListPre σ rt i op w) (step : Exec allow i op w reply w')
    (author : Option ℤ) :
    w'.store.reading (counterKey author) = w.store.reading (counterKey author) ∨
      w.store.reading (counterKey author) < w'.store.reading (counterKey author) := by
  cases asks : op.asksRedis with
  | false =>
      obtain ⟨c, -, step⟩ := step
      rw [World.exec_store asks step]
      exact Or.inl rfl
  | true =>
      cases op with
      | redis command =>
          rcases World.redis_cases step with ⟨rfl, -⟩ | ⟨rfl, -⟩
          · exact ListCommand.reading owed (w.provenance i) author
          · exact Or.inl rfl
      | _ => cases asks

theorem Lists.exec {j : Pid} {generation : ℤ} (lists : Lists σ author generation j w')
    (owed : ListPre σ rt i op w) (step : Exec allow i op w reply w') :
    Lists σ author generation j w ∨ generation = w.store.reading (counterKey author) := by
  cases asks : op.asksRedis with
  | false =>
      obtain ⟨c, -, step⟩ := step
      exact Or.inl (lists.exec_aside step asks)
  | true =>
      cases op with
      | redis command =>
          rcases World.redis_cases step with ⟨rfl, -⟩ | ⟨rfl, -⟩
          · exact (lists.redis owed).imp_right And.left
          · exact Or.inl lists
      | _ => cases asks

theorem Holds.exec {generation : ℤ} {n : ℕ} (holds : Holds σ rt author generation n w')
    (owed : ListPre σ rt i op w) (step : Exec allow i op w reply w') :
    Holds σ rt author generation n w ∨ n = w.db.version ∧ ∃ j, Lists σ author generation j w := by
  cases asks : op.asksRedis with
  | false =>
      obtain ⟨c, -, step⟩ := step
      exact holds.exec_aside owed step asks
  | true =>
      cases op with
      | redis command =>
          rcases World.redis_cases step with ⟨rfl, -⟩ | ⟨rfl, -⟩
          · exact Or.inl (holds.redis owed)
          · exact Or.inl holds
      | _ => cases asks

theorem Genuine.exec (genuine : Genuine σ rt w) (distinct : σ.Distinct rt)
    (owed : ListPre σ rt i op w) (step : Exec allow i op w reply w') : Genuine σ rt w' := by
  cases asks : op.asksRedis with
  | false =>
      obtain ⟨c, -, step⟩ := step
      have extended := exec_extends step
      intro j generation limit after author entry request stored
      rw [World.exec_store asks step] at stored
      obtain ⟨n, past, same, page, shows, value⟩ :=
        genuine j generation limit after author entry request stored
      refine ⟨n, past.trans extended.version, same, page, ?_, value⟩
      rw [extended.history n past]
      exact shows
  | true =>
      cases op with
      | redis command =>
          rcases World.redis_cases step with ⟨rfl, -⟩ | ⟨rfl, -⟩
          · exact genuine.redis distinct owed
          · exact genuine
      | _ => cases asks

theorem Within.exec (within : Within σ rt author (w.store.reading (counterKey author)) w)
    (owed : ListPre σ rt i op w) (step : Exec allow i op w reply w') :
    Within σ rt author (w'.store.reading (counterKey author)) w' := by
  have grows : w.store.reading (counterKey author) ≤ w'.store.reading (counterKey author) := by
    rcases owed.reading step author with same | more
    · exact same.ge
    · exact more.le
  constructor
  · intro j generation lists
    rcases lists.exec owed step with before | rfl
    · exact (within.reads j generation before).trans grows
    · exact grows
  · intro generation n holds
    rcases holds.exec owed step with before | ⟨-, j, before⟩
    · exact (within.holds generation n before).trans grows
    · exact (within.reads j generation before).trans grows

theorem Cleared.exec {n : ℕ} (seen : Cleared σ rt author n w)
    (within : Within σ rt author (w.store.reading (counterKey author)) w)
    (owed : ListPre σ rt i op w) (step : Exec allow i op w reply w') :
    Cleared σ rt author n w' := by
  obtain ⟨past, current⟩ := seen
  have extended : w.db.version ≤ w'.db.version := by
    obtain ⟨c, -, step⟩ := step
    exact (exec_extends step).version
  refine ⟨past.trans extended, ?_⟩
  rintro ⟨m, before, holds⟩
  rcases holds.exec owed step with old | ⟨rfl, -⟩
  · rcases owed.reading step author with same | more
    · rw [same] at old
      exact current ⟨m, before, old⟩
    · exact absurd (within.holds _ m old) (not_le.mpr more)
  · exact absurd before (not_lt.mpr past)

theorem Since.exec {generation : ℤ} {n : ℕ} (since : Since σ rt author generation n w)
    (owed : ListPre σ rt i op w) (step : Exec allow i op w reply w') :
    Since σ rt author generation n w' := by
  obtain ⟨past, current⟩ := since
  have extended : w.db.version ≤ w'.db.version := by
    obtain ⟨c, -, step⟩ := step
    exact (exec_extends step).version
  refine ⟨past.trans extended, fun m holds => ?_⟩
  rcases holds.exec owed step with old | ⟨rfl, -⟩
  · exact current m old
  · exact past

/-- Whoever reads the counter now finds under it what has seen the commit. -/
theorem Cleared.since {n : ℕ} (seen : Cleared σ rt author n w) :
    Since σ rt author (w.store.reading (counterKey author)) n w :=
  ⟨seen.1, fun m holds => not_lt.mp fun before => seen.2 ⟨m, before, holds⟩⟩

/-! ## What happens to Redis from outside -/

/-- The value may come into sight: nothing is ahead of it, and what is under it is from the latest
committed state. -/
structure Vacant (σ : Setting) (rt : Runtime) (author : Option ℤ) (value : ℤ) (w : World) :
    Prop where
  within : Within σ rt author value w
  latest : ∀ n, Holds σ rt author value n w → n = w.db.version

/-- Entries go that are no counters, and a counter changes to what does not read lower than before,
or to what is vacant. -/
inductive HarmlessEvent (σ : Setting) (rt : Runtime) (w : World) : World → Prop where
  | drop {key : String} : (∀ author, key ≠ counterKey author) →
      HarmlessEvent σ rt w { w with store := w.store.setEntry key none }
  | counter (author : Option ℤ) (entry : Option Entry) :
      (w.store.reading (counterKey author) ≤
          (w.store.setEntry (counterKey author) entry).reading (counterKey author) ∨
        Vacant σ rt author
          ((w.store.setEntry (counterKey author) entry).reading (counterKey author)) w) →
      HarmlessEvent σ rt w { w with store := w.store.setEntry (counterKey author) entry }

theorem HarmlessEvent.same (event : HarmlessEvent σ rt w w') :
    w'.db = w.db ∧ w'.requests = w.requests := by
  cases event <;> exact ⟨rfl, rfl⟩

theorem Lists.same {j : Pid} {generation : ℤ} (lists : Lists σ author generation j w')
    (db : w'.db = w.db) (requests : w'.requests = w.requests) :
    Lists σ author generation j w := by
  obtain ⟨request, noted, committed⟩ := lists
  rw [requests] at noted
  rw [db] at committed
  exact ⟨request, noted, committed⟩

/-- No page comes in from outside. -/
theorem HarmlessEvent.page (event : HarmlessEvent σ rt w w') {generation limit : ℤ}
    {parts : Option (ℤ × ℤ)} {entry : Entry}
    (stored : w'.store.entries (listKey rt generation author limit parts) = some entry) :
    w.store.entries (listKey rt generation author limit parts) = some entry := by
  cases event with
  | @drop key other =>
      by_cases same : listKey rt generation author limit parts = key
      · dsimp only at stored
        rw [same, Redis.setEntry_self] at stored
        cases stored
      · rwa [Redis.setEntry_ne w.store none same] at stored
  | counter author' content allowed =>
      rwa [Redis.setEntry_ne w.store content (listKey_ne_counterKey rt _ _ _ author' _)] at stored

theorem HarmlessEvent.holds (event : HarmlessEvent σ rt w w') {generation : ℤ} {n : ℕ}
    (holds : Holds σ rt author generation n w') : Holds σ rt author generation n w := by
  obtain ⟨db, requests⟩ := event.same
  cases holds with
  | loaded lists from_ =>
      rw [db] at from_
      exact .loaded (lists.same db requests) from_
  | stored entry from_ => exact .stored (event.page entry) from_

/-- A counter reads no lower than before, or its value is vacant. -/
theorem HarmlessEvent.reading (event : HarmlessEvent σ rt w w') (author : Option ℤ) :
    w.store.reading (counterKey author) ≤ w'.store.reading (counterKey author) ∨
      Vacant σ rt author (w'.store.reading (counterKey author)) w := by
  cases event with
  | drop other =>
      exact Or.inl (Redis.reading_congr (Redis.setEntry_ne w.store none (other author).symm)).ge
  | counter author' content allowed =>
      by_cases same : author' = author
      · subst same
        exact allowed
      · have apart : counterKey author ≠ counterKey author' :=
          fun equal => same (counterKey_injective equal).symm
        exact Or.inl (Redis.reading_congr (Redis.setEntry_ne w.store content apart)).ge

theorem Within.event (within : Within σ rt author (w.store.reading (counterKey author)) w)
    (event : HarmlessEvent σ rt w w') :
    Within σ rt author (w'.store.reading (counterKey author)) w' := by
  obtain ⟨db, requests⟩ := event.same
  have bound : Within σ rt author (w'.store.reading (counterKey author)) w := by
    rcases event.reading author with grows | vacant
    · exact ⟨fun j generation lists => (within.reads j generation lists).trans grows,
        fun generation n holds => (within.holds generation n holds).trans grows⟩
    · exact vacant.within
  exact ⟨fun j generation lists => bound.reads j generation (lists.same db requests),
    fun generation n holds => bound.holds generation n (event.holds holds)⟩

theorem Cleared.event {n : ℕ} (seen : Cleared σ rt author n w)
    (within : Within σ rt author (w.store.reading (counterKey author)) w)
    (event : HarmlessEvent σ rt w w') : Cleared σ rt author n w' := by
  obtain ⟨past, current⟩ := seen
  refine ⟨by rw [event.same.1]; exact past, ?_⟩
  rintro ⟨m, before, holds⟩
  have old := event.holds holds
  rcases event.reading author with grows | vacant
  · have same := le_antisymm (within.holds _ m old) grows
    rw [same] at old
    exact current ⟨m, before, old⟩
  · rw [vacant.latest m old] at before
    exact absurd before (not_lt.mpr past)

theorem Since.event {generation : ℤ} {n : ℕ} (since : Since σ rt author generation n w)
    (event : HarmlessEvent σ rt w w') : Since σ rt author generation n w' :=
  ⟨by rw [event.same.1]; exact since.1, fun m holds => since.2 m (event.holds holds)⟩

theorem Genuine.event (genuine : Genuine σ rt w) (event : HarmlessEvent σ rt w w') :
    Genuine σ rt w' := by
  intro i generation limit after author entry request stored
  rw [event.same.1]
  exact genuine i generation limit after author entry request (event.page stored)

/-! ## The protocol -/

/-- What is stored for a list answers it and is not ahead of its counter. -/
structure Listed (σ : Setting) (rt : Runtime) (w : World) : Prop where
  coherent : Coherent σ.requests w.db
  genuine : Genuine σ rt w
  within : ∀ author, Within σ rt author (w.store.reading (counterKey author)) w

/-- What happens outside the requests is harmless to the lists. -/
def Setting.Spares (σ : Setting) (rt : Runtime) : Prop :=
  ∀ w w', σ.env w w' → HarmlessEvent σ rt w w'

def Setting.lists (σ : Setting) (rt : Runtime) (distinct : σ.Distinct rt) (spares : σ.Spares rt) :
    Protocol Op Op.Reply World where
  exec := Exec σ.allow
  env := σ.env
  inv := Listed σ rt
  rely i w w' := Undisturbed i w w' ∧
    (∀ author n, Cleared σ rt author n w → Cleared σ rt author n w') ∧
    ∀ author generation n, Since σ rt author generation n w → Since σ rt author generation n w'
  pre i op w := rowsPre σ.requests i op w.db ∧ ListPre σ rt i op w
  rely_refl i w := ⟨Undisturbed.refl i w, fun _ _ seen => seen, fun _ _ _ since => since⟩
  rely_trans first second := ⟨first.1.trans second.1,
    fun author n seen => second.2.1 author n (first.2.1 author n seen),
    fun author generation n since =>
      second.2.2 author generation n (first.2.2 author generation n since)⟩
  step_inv kept owed step := ⟨σ.rows.step_inv kept.coherent owed.1 step,
    kept.genuine.exec distinct owed.2 step, fun author => (kept.within author).exec owed.2 step⟩
  step_rely kept owed step other := ⟨σ.rows.step_rely kept.coherent owed.1 step other,
    fun author _ seen => seen.exec (kept.within author) owed.2 step,
    fun _ _ _ since => since.exec owed.2 step⟩
  env_inv kept event := ⟨σ.rows.env_inv kept.coherent event, kept.genuine.event (spares _ _ event),
    fun author => (kept.within author).event (spares _ _ event)⟩
  env_rely kept event := ⟨σ.rows.env_rely kept.coherent event,
    fun author _ seen => seen.event (kept.within author) (spares _ _ event),
    fun _ _ _ since => since.event (spares _ _ event)⟩

end

end ContentPlatform
