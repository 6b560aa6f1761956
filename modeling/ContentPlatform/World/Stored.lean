import ContentPlatform.World.Served

/-!
# What requests store

A request stores only what it has loaded itself, under a key that names it, and moves
only counters and locks besides.  No page lies above the counter that its key follows.
-/

set_option autoImplicit false

namespace ContentPlatform

open Program Py Prog Protocol Text

/-! ## Counters and pages -/

namespace Redis

/-- The counters do not expire, and no page is ahead of the one it follows. -/
structure Behind (rt : Runtime) (store : Redis) : Prop where
  counts : ∀ author, 0 ≤ store.reading (counterKey author)
  stays : ∀ author entry, store.entries (counterKey author) = some entry → entry.expires = false
  pages : ∀ generation author limit parts entry,
    store.entries (listKey rt generation author limit parts) = some entry →
      generation ≤ store.reading (counterKey author)

structure Aside (rt : Runtime) (key : String) : Prop where
  counter : ∀ author, key ≠ counterKey author
  page : ∀ generation author limit parts, key ≠ listKey rt generation author limit parts

variable {rt : Runtime} {store store' : Redis} {key : String}

theorem aside_articleKey (rt : Runtime) (articleId : ℤ) : Aside rt (articleKey articleId) :=
  ⟨articleKey_ne_counterKey articleId,
    fun generation author limit parts =>
      articleKey_ne_listKey articleId rt generation limit author parts⟩

theorem aside_lockKey (rt : Runtime) (key : String) : Aside rt (lockKey key) :=
  ⟨lockKey_ne_counterKey key,
    fun generation author limit parts => lockKey_ne_listKey key rt generation limit author parts⟩

/-- A store that differs from one in entries aside only, and in pages that are not ahead. -/
theorem Behind.of_entries (kept : Behind rt store)
    (counters : ∀ author, store'.entries (counterKey author) = store.entries (counterKey author))
    (pages : ∀ generation author limit parts entry,
      store'.entries (listKey rt generation author limit parts) = some entry →
        generation ≤ store.reading (counterKey author)) : Behind rt store' := by
  have reading : ∀ author, store'.reading (counterKey author) = store.reading (counterKey author) :=
    fun author => reading_congr (counters author)
  refine ⟨fun author => ?_, fun author entry stored => ?_,
    fun generation author limit parts entry stored => ?_⟩
  · rw [reading]
    exact kept.counts author
  · rw [counters] at stored
    exact kept.stays author entry stored
  · rw [reading]
    exact pages generation author limit parts entry stored

theorem Behind.setEntry_aside (kept : Behind rt store) (aside : Aside rt key)
    (entry : Option Entry) :
    Behind rt (store.setEntry key entry) := by
  apply kept.of_entries
  · intro author
    exact setEntry_ne store entry (aside.counter author).symm
  · intro generation author limit parts entry' stored
    rw [setEntry_ne store entry (aside.page generation author limit parts).symm] at stored
    exact kept.pages generation author limit parts entry' stored

theorem Behind.setEntry_page (kept : Behind rt store) {generation limit : ℤ} {author : Option ℤ}
    {parts : Option (ℤ × ℤ)} (bound : generation ≤ store.reading (counterKey author))
    (entry : Option Entry) :
    Behind rt (store.setEntry (listKey rt generation author limit parts) entry) := by
  apply kept.of_entries
  · intro author'
    exact setEntry_ne store entry
      (listKey_ne_counterKey rt generation limit author author' parts).symm
  · intro generation' author' limit' parts' entry' stored
    by_cases same : listKey rt generation' author' limit' parts' =
        listKey rt generation author limit parts
    · obtain ⟨rfl, rfl, -⟩ := listKey_injective rt same
      exact bound
    · rw [setEntry_ne store entry same] at stored
      exact kept.pages generation' author' limit' parts' entry' stored

theorem Behind.incr (kept : Behind rt store) (by_ : Provenance) (author : Option ℤ) :
    Behind rt (store.step by_ (.incr (counterKey author))).2 ∧ ∀ author',
      store.reading (counterKey author') ≤
        (store.step by_ (.incr (counterKey author))).2.reading (counterKey author') := by
  rcases @step_incr store by_ (counterKey author) with more | same
  · have others : ∀ key, key ≠ counterKey author →
        (store.step by_ (.incr (counterKey author))).2.entries key = store.entries key := by
      intro key other
      exact step_entries other
    have grows : ∀ author', store.reading (counterKey author') ≤
        (store.step by_ (.incr (counterKey author))).2.reading (counterKey author') := by
      intro author'
      by_cases same : author' = author
      · subst same
        omega
      · rw [reading_congr (others _ fun equal => same (counterKey_injective equal))]
    refine ⟨⟨fun author' => (kept.counts author').trans (grows author'),
      fun author' entry stored => ?_, fun generation author' limit parts entry stored => ?_⟩, grows⟩
    · by_cases same : author' = author
      · subst same
        simp only [step] at stored
        split at stored
        · rw [setEntry_self] at stored
          obtain rfl := Option.some.inj stored
          cases before : store.entries (counterKey author') with
          | none => rfl
          | some old => exact kept.stays author' old before
        · exact kept.stays author' entry stored
      · rw [others _ fun equal => same (counterKey_injective equal)] at stored
        exact kept.stays author' entry stored
    · rw [others _ (listKey_ne_counterKey rt generation limit author' author parts)] at stored
      exact (kept.pages generation author' limit parts entry stored).trans (grows author')
  · rw [same]
    exact ⟨kept, fun _ => le_rfl⟩

end Redis

/-! ## What a request may send -/

/-- `random.uniform` draws from between its arguments. -/
def Draws (allow : Allowance) : Prop :=
  ∀ w i low high c, allow w i (.uniform low high) c → min low high ≤ c.number ∧
    c.number ≤ max low high

def longestTtl (baseSeconds : ℤ) (jitter : ℚ) : ℤ :=
  max 1 (roundHalfEven (baseSeconds + |(baseSeconds : ℚ)| * max jitter 0))

def Table.fetch (table : Table) (limit : ℤ) (after : Option Position) (author : Option ℤ) :
    List ArticleSummaryOut :=
  (table.select ⟨limit, after, author⟩ limit.toNat).map ArticleRow.summary

/-- The times to live that entries with this base are stored with. -/
structure TtlOf (allow : Allowance) (baseSeconds : ℤ) (jitter : ℚ) (ttl : ℤ) : Prop where
  least : 1 ≤ ttl
  most : Draws allow → ttl ≤ longestTtl baseSeconds jitter

inductive MaySend (σ : Setting) (rt : Runtime) (i : Pid) (w : World) : RedisCommand → Prop where
  | get (key : String) : MaySend σ rt i w (.get key)
  | mget (keys : List String) : MaySend σ rt i w (.mget keys)
  /-- What it has loaded, under the key of the article. -/
  | article {id ttl : ℤ} {n : ℕ} {row : ArticleRow} : σ.requests i = .get id →
      n ≤ w.db.version → (w.db.sessions i).loadedFrom = some n →
      (w.db.history n).find id = some row → row.live = true →
      TtlOf σ.allow rt.articleTtlSeconds rt.ttlJitter ttl →
      MaySend σ rt i w (.set (articleKey id) (rt.articleDumpJson row.out) ttl false)
  /-- The page it has loaded, under a counter it has read. -/
  | page {generation limit ttl : ℤ} {after : Option Position} {author : Option ℤ} {n : ℕ}
      {page : Page} : σ.requests i = .list limit after author →
      n ≤ w.db.version → (w.db.sessions i).loadedFrom = some n →
      splitPage limit ((w.db.history n).fetch (limit + 1) after author) = .ok page →
      generation ≤ w.store.reading (counterKey author) →
      TtlOf σ.allow rt.listTtlSeconds rt.ttlJitter ttl →
      MaySend σ rt i w (.set (listKey rt generation author limit (cursorParts after))
        (encodePage rt page) ttl false)
  | lock (key : String) (ttl : ℤ) : MaySend σ rt i w (.set (lockKey key) "1" ttl true)
  | unlock (key : String) : MaySend σ rt i w (.delete (lockKey key))
  | forget (id : ℤ) : MaySend σ rt i w (.delete (articleKey id))
  | count (author : Option ℤ) : MaySend σ rt i w (.incr (counterKey author))

def RedisCommand.Free (command : RedisCommand) : Prop :=
  ∀ (σ : Setting) (rt : Runtime) (i : Pid) (w : World), MaySend σ rt i w command

section
variable {σ : Setting} {rt : Runtime} {i : Pid} {w w' : World} {command : RedisCommand}

theorem MaySend.counter {key : String} (may : MaySend σ rt i w (.incr key)) :
    ∃ author, key = counterKey author := by
  cases may with
  | count author => exact ⟨author, rfl⟩

theorem MaySend.locked {key body : String} {ttl : ℤ}
    (may : MaySend σ rt i w (.set key body ttl true)) :
    ∃ other, key = lockKey other := by
  cases may with
  | lock other _ => exact ⟨other, rfl⟩

theorem MaySend.lasts {key body : String} {ttl : ℤ}
    (may : MaySend σ rt i w (.set key body ttl false)) : 1 ≤ ttl := by
  cases may with
  | article _ _ _ _ _ bound => exact bound.least
  | page _ _ _ _ _ bound => exact bound.least

theorem MaySend.behind (kept : Redis.Behind rt w.store) (may : MaySend σ rt i w command)
    (by_ : Provenance) :
    Redis.Behind rt (w.store.step by_ command).2 ∧ ∀ author,
      w.store.reading (counterKey author) ≤
        (w.store.step by_ command).2.reading (counterKey author) := by
  have counters : ∀ key entry, (∀ author, key ≠ counterKey author) → ∀ author,
      (w.store.setEntry key entry).reading (counterKey author) =
        w.store.reading (counterKey author) := fun key entry other author =>
    Redis.reading_congr (Redis.setEntry_ne w.store entry (other author).symm)
  have aside : ∀ key entry, Redis.Aside rt key → Redis.Behind rt (w.store.setEntry key entry) ∧
      ∀ author, w.store.reading (counterKey author) ≤
        (w.store.setEntry key entry).reading (counterKey author) := fun key entry other =>
    ⟨kept.setEntry_aside other entry,
      fun author => (counters key entry other.counter author).ge⟩
  cases may with
  | get key => exact ⟨kept, fun _ => le_rfl⟩
  | mget keys => exact ⟨kept, fun _ => le_rfl⟩
  | article _ _ _ _ _ _ => exact aside _ _ (Redis.aside_articleKey rt _)
  | page _ _ _ _ bound _ =>
      exact ⟨kept.setEntry_page bound _, fun author =>
        (counters _ _ (fun author => listKey_ne_counterKey rt _ _ _ author _) author).ge⟩
  | lock key ttl =>
      simp only [Redis.step]
      split
      · exact ⟨kept, fun _ => le_rfl⟩
      · exact aside _ _ (Redis.aside_lockKey rt key)
  | unlock key =>
      obtain ⟨behind, grows⟩ := aside (lockKey key) none (Redis.aside_lockKey rt key)
      exact ⟨⟨behind.counts, behind.stays, behind.pages⟩, grows⟩
  | forget id =>
      obtain ⟨behind, grows⟩ := aside (articleKey id) none (Redis.aside_articleKey rt id)
      exact ⟨⟨behind.counts, behind.stays, behind.pages⟩, grows⟩
  | count author => exact kept.incr by_ author

theorem World.redis_cases {allow : Allowance} {reply : Except Exc command.Reply}
    (step : Exec allow i (.redis command) w reply w') :
    (w' = (w.redisStep i command).2 ∧
      (reply = (w.redisStep i command).1 ∨ ∃ error, reply = .error error)) ∨
      (w' = w ∧ ∃ error, reply = .error error) := by
  obtain ⟨c, -, step⟩ := step
  simp only [World.exec] at step
  cases fault : c.fault with
  | none =>
      rw [fault] at step
      obtain ⟨rfl, rfl⟩ := Prod.mk.inj (Option.some.inj step)
      exact Or.inl ⟨rfl, Or.inl rfl⟩
  | some error =>
      rw [fault] at step
      obtain ⟨rfl, rfl⟩ := Prod.mk.inj (Option.some.inj step)
      by_cases applied : c.applied = true
      · rw [if_pos applied]
        exact Or.inl ⟨rfl, Or.inr ⟨error, rfl⟩⟩
      · rw [if_neg applied]
        exact Or.inr ⟨rfl, error, rfl⟩

theorem Redis.Behind.exec {allow : Allowance} {op : Op} {reply : op.Reply}
    (kept : Redis.Behind rt w.store)
    (may : ∀ command, op = .redis command → MaySend σ rt i w command)
    (step : Exec allow i op w reply w') :
    Redis.Behind rt w'.store ∧ ∀ author,
      w.store.reading (counterKey author) ≤ w'.store.reading (counterKey author) := by
  cases asks : op.asksRedis with
  | false =>
      obtain ⟨c, -, step⟩ := step
      rw [World.exec_store asks step]
      exact ⟨kept, fun _ => le_rfl⟩
  | true =>
      cases op with
      | redis command =>
          rcases World.redis_cases step with ⟨rfl, -⟩ | ⟨rfl, -⟩
          · exact (may command rfl).behind kept (w.provenance i)
          · exact ⟨kept, fun _ => le_rfl⟩
      | _ => cases asks

end

/-- Outside the requests, entries with an expiry disappear. -/
structure Shrinks (w w' : World) : Prop where
  entries : ∀ key, w'.store.entries key = w.store.entries key ∨
    w'.store.entries key = none ∧ ∃ entry, w.store.entries key = some entry ∧ entry.expires = true

theorem Expires.shrinks {w w' : World} (expires : Expires w w') : Shrinks w w' := by
  obtain ⟨key, entry, stored, volatile, rfl⟩ := expires
  refine ⟨fun other => ?_⟩
  by_cases same : other = key
  · subst same
    exact Or.inr ⟨Redis.setEntry_self .., entry, stored, volatile⟩
  · exact Or.inl (Redis.setEntry_ne _ _ same)

theorem Shrinks.behind {rt : Runtime} {w w' : World} (shrinks : Shrinks w w')
    (kept : Redis.Behind rt w.store) : Redis.Behind rt w'.store ∧ ∀ author,
      w.store.reading (counterKey author) ≤ w'.store.reading (counterKey author) := by
  have counters : ∀ author,
      w'.store.entries (counterKey author) = w.store.entries (counterKey author) := by
    intro author
    rcases shrinks.entries (counterKey author) with same | ⟨-, entry, stored, volatile⟩
    · exact same
    · rw [kept.stays author entry stored] at volatile
      cases volatile
  constructor
  · apply kept.of_entries counters
    intro generation author limit parts entry stored
    rcases shrinks.entries (listKey rt generation author limit parts) with same | ⟨gone, -⟩
    · rw [same] at stored
      exact kept.pages generation author limit parts entry stored
    · rw [gone] at stored
      cases stored
  · exact fun author => (Redis.reading_congr (counters author)).ge

def Setting.stores (σ : Setting) (rt : Runtime)
    (shrinks : ∀ w w', σ.env w w' → Shrinks w w') : Protocol Op Op.Reply World where
  exec := Exec σ.allow
  env := σ.env
  inv w := Coherent σ.requests w.db ∧ Redis.Behind rt w.store
  rely i w w' := Undisturbed i w w' ∧
    ∀ author, w.store.reading (counterKey author) ≤ w'.store.reading (counterKey author)
  pre i op w := rowsPre σ.requests i op w.db ∧
    ∀ command, op = .redis command → MaySend σ rt i w command
  rely_refl i w := ⟨Undisturbed.refl i w, fun _ => le_rfl⟩
  rely_trans first second := ⟨first.1.trans second.1,
    fun author => (first.2 author).trans (second.2 author)⟩
  step_inv kept owed step := ⟨σ.rows.step_inv kept.1 owed.1 step, (kept.2.exec owed.2 step).1⟩
  step_rely kept owed step other :=
    ⟨σ.rows.step_rely kept.1 owed.1 step other, (kept.2.exec owed.2 step).2⟩
  env_inv kept event :=
    ⟨σ.rows.env_inv kept.1 event, ((shrinks _ _ event).behind kept.2).1⟩
  env_rely kept event :=
    ⟨σ.rows.env_rely kept.1 event, ((shrinks _ _ event).behind kept.2).2⟩

end ContentPlatform
