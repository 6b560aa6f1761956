import ContentPlatform.World.Announced

/-!
# List requests

A list request that starts when no page from before a commit is in sight answers with a page that
has seen the commit, whether it loads the page or finds it in Redis.
-/

set_option autoImplicit false

namespace ContentPlatform

open Program Py Prog Protocol

/-! ## A list request -/

structure Untouched (s : Session) : Prop where
  unloaded : s.loadedFrom = none
  unseen : (s.transaction.getD .new).view = none
  empty : (s.transaction.getD .new).writes = []

/-- A request that has yet to read its counter, with no page from before commit `n` in sight. -/
def Asking (σ : Setting) (rt : Runtime) (i : Pid) (author : Option ℤ) (n : ℕ) (w : World) : Prop :=
  Own i (fun s r => Untouched s ∧ s.committed = none ∧ r.degraded = false) w ∧
    Cleared σ rt author n w

/-- A request that has read its counter; what is stored under the value has seen commit `n`. -/
def Reading (σ : Setting) (rt : Runtime) (i : Pid) (author : Option ℤ) (generation : ℤ) (n : ℕ)
    (w : World) : Prop :=
  Own i (fun s r => r.generation = some (counterKey author, generation) ∧ s.committed = none ∧
    r.degraded = false) w ∧ Since σ rt author generation n w

def ShowsSince (n : ℕ) (limit : ℤ) (after : Option Position) (author : Option ℤ) (page : Page)
    (w : World) : Prop :=
  ∃ m ≤ w.db.version, n ≤ m ∧ (w.db.history m).Shows limit after author page

theorem ShowsSince.extends_ {n : ℕ} {limit : ℤ} {after : Option Position} {author : Option ℤ}
    {page : Page} {w w' : World} (shows : ShowsSince n limit after author page w)
    (moved : Extends w.db w'.db) : ShowsSince n limit after author page w' := by
  obtain ⟨m, past, since, shown⟩ := shows
  refine ⟨m, past.trans moved.version, since, ?_⟩
  rw [moved.history m past]
  exact shown

def StoredSince (rt : Runtime) (n : ℕ) (limit : ℤ) (after : Option Position) (author : Option ℤ)
    (body : String) (w : World) : Prop :=
  ∃ page, body = encodePage rt page ∧ ShowsSince n limit after author page w

/-- A fact about the database that only request `i` itself can make false. -/
structure Resting (i : Pid) (D : World → Prop) : Prop where
  undisturbed : ∀ w w', D w → Undisturbed i w w' → D w'
  same : ∀ w w', D w → w'.db = w.db → D w'

section
variable {σ : Setting} {rt : Runtime} {distinct : σ.Distinct rt} {spares : σ.Spares rt} {i : Pid}
  {limit : ℤ} {after : Option Position} {author : Option ℤ} {generation : ℤ} {n : ℕ}
  {D : World → Prop} {command : RedisCommand} {w w' : World}

theorem Resting.untouched : Resting i (Own i fun s _ => Untouched s) := by
  refine ⟨fun _ _ holds moved => holds.undisturbed moved, fun w w' holds db => ?_⟩
  rw [Own, db]
  exact holds

theorem Resting.past (Q : Session → ℕ → Table → Prop) : Resting i (Past i fun s _ => Q s) := by
  refine ⟨fun _ _ holds moved => holds.undisturbed moved, fun w w' holds db => ?_⟩
  rw [Past, db]
  exact holds

theorem asking_stable : (σ.lists rt distinct spares).Stable i (Asking σ rt i author n) :=
  fun _ _ _ holds moved _ => ⟨holds.1.undisturbed moved.1, moved.2.1 _ _ holds.2⟩

theorem reading_stable :
    (σ.lists rt distinct spares).Stable i (Reading σ rt i author generation n) :=
  fun _ _ _ holds moved _ => ⟨holds.1.undisturbed moved.1, moved.2.2 _ _ _ holds.2⟩

theorem Resting.stable (resting : Resting i D) :
    (σ.lists rt distinct spares).Stable i fun w => Reading σ rt i author generation n w ∧ D w :=
  stable_and reading_stable fun w w' _ holds moved _ => resting.undisturbed w w' holds moved.1

theorem showsSince_stable (page : Page) :
    (σ.lists rt distinct spares).Stable i (ShowsSince n limit after author page) :=
  fun _ _ _ shows moved _ => shows.extends_ moved.1.db

theorem Reading.lists (reading : Reading σ rt i author generation n w)
    (request : σ.requests i = .list limit after author) : Lists σ author generation i w :=
  ⟨⟨limit, after, request⟩, reading.1.1, reading.1.2.1⟩

theorem Reading.redis (reading : Reading σ rt i author generation n w)
    (may : ListCommand σ rt i w command) (other : ∀ keys, command ≠ .mget keys) :
    Reading σ rt i author generation n (w.redisStep i command).2 := by
  obtain ⟨own, past, since⟩ := reading
  refine ⟨?_, ?_, fun m holds => since m (holds.redis may)⟩
  · rw [redisStep_of_not_mget other]
    exact own
  · rw [World.redisStep_db]
    exact past

theorem asks_reading (answers : Answers σ.allow) (resting : Resting i D)
    (other : ∀ keys, command ≠ .mget keys)
    (may : ∀ w, Reading σ rt i author generation n w → D w → ListCommand σ rt i w command)
    (answered : ∀ w : World, ∃ value, (w.redisStep i command).1 = .ok value) :
    Asks (σ.lists rt distinct spares) i (.redis command)
      (fun w => Reading σ rt i author generation n w ∧ D w)
      (okOr (fun _ w => Reading σ rt i author generation n w ∧ D w) fun _ => False) := by
  refine ⟨fun w _ holds => ⟨trivial, may w holds.1 holds.2⟩, fun w reply w' _ holds step _ => ?_⟩
  obtain ⟨rfl, rfl⟩ := answers.exec step
  obtain ⟨value, answer⟩ := answered w
  rw [answer]
  exact ⟨holds.1.redis (may w holds.1 holds.2) other,
    resting.same _ _ holds.2 (World.redisStep_db w command)⟩

theorem asks_page (answers : Answers σ.allow) (resting : Resting i D)
    (request : σ.requests i = .list limit after author) :
    Asks (σ.lists rt distinct spares) i
      (.redis (.get (listKey rt generation author limit (cursorParts after))))
      (fun w => Reading σ rt i author generation n w ∧ D w)
      (okOr (Hit (fun w => Reading σ rt i author generation n w ∧ D w)
        (StoredSince rt n limit after author))
        fun _ => False) := by
  refine ⟨fun w _ _ => ⟨trivial, .get _⟩, fun w reply w' kept holds step _ => ?_⟩
  obtain ⟨rfl, rfl⟩ := answers.exec step
  have holds' : Reading σ rt i author generation n (w.redisStep i (.get (listKey rt generation
      author limit (cursorParts after)))).2 ∧ D (w.redisStep i (.get (listKey rt generation
      author limit (cursorParts after)))).2 := by
    refine ⟨holds.1.redis (.get _) ?_, resting.same _ _ holds.2 (World.redisStep_db w _)⟩
    rintro keys ⟨⟩
  show Hit _ _ (w.store.value (listKey rt generation author limit (cursorParts after))) _
  cases found : w.store.entries (listKey rt generation author limit (cursorParts after)) with
  | none =>
      rw [Redis.value, found]
      exact holds'
  | some entry =>
      rw [Redis.value, found]
      obtain ⟨m, past, from_, page, shows, value⟩ :=
        kept.genuine i generation limit after author entry request found
      exact ⟨page, value, m, past, holds.1.2.2 m (.stored found from_), shows⟩

theorem storedSince_stable (body : String) :
    (σ.lists rt distinct spares).Stable i (StoredSince rt n limit after author body) := by
  rintro w w' kept ⟨page, same, shows⟩ moved kept'
  exact ⟨page, same, showsSince_stable (i := i) page w w' kept shows moved kept'⟩

/-! ### The counter -/

theorem generationKeys_last (author : Option ℤ) :
    (ArticleCache.generationKeys author).getLast? = some (counterKey author) := by
  cases author <;> rfl

theorem asks_counter (answers : Answers σ.allow)
    (request : σ.requests i = .list limit after author) :
    Asks (σ.lists rt distinct spares) i (.redis (.mget (ArticleCache.generationKeys author)))
      (Asking σ rt i author n)
      (okOr (fun values w => Reading σ rt i author
          (pickGeneration author (ArticleCache.generationPair values)) n w ∧
        Own i (fun s _ => Untouched s) w) fun _ => False) := by
  have owed : ∀ w, Asking σ rt i author n w →
      ListCommand σ rt i w (.mget (ArticleCache.generationKeys author)) := by
    intro w asking
    refine .mget fun limit' after' author' request' => ?_
    cases request.symm.trans request'
    exact ⟨generationKeys_last author, asking.1.1.unloaded⟩
  refine ⟨fun w _ asking => ⟨trivial, owed w asking⟩, fun w reply w' kept asking step _ => ?_⟩
  have may : ListPre σ rt i (.redis (.mget (ArticleCache.generationKeys author))) w := owed w asking
  have since := asking.2.since.exec may step
  obtain ⟨rfl, rfl⟩ := answers.exec step
  obtain ⟨⟨untouched, committed, degraded⟩, -⟩ := asking
  have noted : (w.redisStep i (.mget (ArticleCache.generationKeys author))).2.requests i =
      { w.requests i with generation := some (counterKey author, w.store.reading (counterKey author)) } := by
    show (w.observeGeneration i (.mget (ArticleCache.generationKeys author))).requests i = _
    simp only [World.observeGeneration, generationKeys_last, World.setRequest_requests]
  refine ⟨⟨?_, ?_⟩, ?_⟩
  · rw [pickGeneration_values, Own, noted, World.redisStep_db]
    exact ⟨rfl, committed, degraded⟩
  · rw [pickGeneration_values]
    exact since
  · rw [Own, World.redisStep_db]
    exact untouched

variable (service : ArticleService)

theorem getGenerations_since (answers : Answers σ.allow) (enabled : service.cache.enabled = true)
    (request : σ.requests i = .list limit after author) :
    (σ.lists rt distinct spares).Triple i (Asking σ rt i author n) (service.cache.getGenerations author)
      (okOr (fun pair w => Reading σ rt i author (pickGeneration author pair) n w ∧
        Own i (fun s _ => Untouched s) w) fun _ => False) := by
  have stable : ∀ values, (σ.lists rt distinct spares).Stable i fun w =>
      Reading σ rt i author (pickGeneration author (ArticleCache.generationPair values)) n w ∧
        Own i (fun s _ => Untouched s) w := fun _ => Resting.untouched.stable
  apply whenLive_triple Setting.lists_hosts answers service.cache (fun _ asking => asking.1.2.2)
    asking_stable
  · intro _
    apply Triple.bind (answered_triple Setting.lists_hosts stable
      (answers_triple asking_stable stable (asks_counter answers request)))
    · intro result
      cases result with
      | none =>
          rintro w - ⟨values, missing, -⟩
          cases missing
      | some values =>
          refine Triple.mono (A := fun w => Reading σ rt i author (pickGeneration author
              (ArticleCache.generationPair values)) n w ∧ Own i (fun s _ => Untouched s) w) ?_ ?_
            fun _ _ _ ended => ended
          · exact Triple.ret (stable values) fun _ _ holds => holds
          · rintro w - ⟨values', same, holds⟩
            cases same
            exact holds
    · exact fun _ _ _ impossible => impossible
  · intro disabled
    cases enabled.symm.trans disabled

/-! ### The load -/

/-- A step away from Redis that neither commits nor switches the cache off. -/
theorem Reading.exec {op : Op} {reply : op.Reply}
    (reading : Reading σ rt i author generation n w) (owed : ListPre σ rt i op w)
    (step : Exec σ.allow i op w reply w') (aside : op.asksRedis = false) (open_ : op ≠ .commit)
    (live : op ≠ .degradeCache) : Reading σ rt i author generation n w' := by
  refine ⟨?_, reading.2.exec owed step⟩
  obtain ⟨c, -, step⟩ := step
  obtain ⟨noted, committed, degraded⟩ := reading.1
  refine ⟨(World.exec_generation step aside).trans noted, ?_,
    (World.exec_undegraded step live).trans degraded⟩
  rcases World.exec_committed step with same | ⟨commits, -⟩
  · exact same.trans committed
  · exact absurd commits open_

def FoundSince (i : Pid) (n : ℕ) (Q : Table → Prop) : World → Prop :=
  Past i fun s _ m table => s.loadedFrom = some m ∧ n ≤ m ∧ Q table

theorem asks_selectPage (size : ℤ) :
    Asks (σ.lists rt distinct spares) i (.mysql (.selectPage size after author))
      (fun w => Reading σ rt i author generation n w ∧ Own i (fun s _ => Untouched s) w)
      (okOr (fun rows w => Reading σ rt i author generation n w ∧
          FoundSince i n (fun table => rows = table.fetch size after author) w)
        fun w => Reading σ rt i author generation n w ∧ Own i (fun s _ => Untouched s) w) := by
  have owed : ∀ w, Own i (fun s _ => Untouched s) w →
      ListPre σ rt i (.mysql (.selectPage size after author)) w :=
    fun w untouched _ _ _ _ => untouched.unseen
  refine ⟨fun w _ holds => ⟨trivial, owed w holds.2⟩, fun w reply w' kept holds step _ => ?_⟩
  obtain ⟨reading, untouched⟩ := holds
  have reading' := reading.exec (owed w untouched) step rfl
    (fun impossible => by cases impossible) fun impossible => by cases impossible
  have opened : Own i (fun s _ => Untouched s) { w with db := w.db.begin_ i } :=
    own_db (Database.begin_sessions ..) ⟨untouched.unloaded, untouched.unseen, untouched.empty⟩
  rcases mysql_cases step with ⟨-, ⟨error, rfl⟩, rfl⟩ | ⟨c, db', answered, rfl⟩
  · exact ⟨reading', opened⟩
  · have viewed : w.db.viewed i = w.db.version := by
      have unseen : (w.db.transaction i).view = none := untouched.unseen
      rw [Database.viewed, unseen]
      rfl
    have empty : (w.db.transaction i).writes = [] := untouched.empty
    simp only [Database.statementStep, Database.readTable, viewed, empty, Table.overlay_nil]
      at answered
    split at answered <;> obtain ⟨rfl, rfl⟩ := Prod.mk.inj (Option.some.inj answered)
    · exact ⟨reading', opened⟩
    · refine ⟨reading', w.db.version, le_rfl, ?_, ?_, rfl⟩
      · dsimp only
        rw [Database.readArticles_sessions, viewed]
      · exact reading.2.1

theorem asks_untouched_rollback :
    Asks (σ.lists rt distinct spares) i .rollback
      (fun w => Reading σ rt i author generation n w ∧ Own i (fun s _ => Untouched s) w)
      fun _ w => Reading σ rt i author generation n w ∧ Own i (fun s _ => Untouched s) w := by
  refine ⟨fun _ _ _ => ⟨trivial, trivial⟩, fun w reply w' kept holds step _ => ?_⟩
  obtain ⟨reading, untouched⟩ := holds
  have owed : ListPre σ rt i .rollback w := trivial
  refine ⟨reading.exec owed step rfl (fun impossible => by cases impossible)
    (fun impossible => by cases impossible), ?_⟩
  rw [rollback_exec step]
  rcases rollback_sessions w.db i with same | ended
  · exact own_db same untouched
  · exact own_db ended ⟨untouched.unloaded, rfl, rfl⟩

theorem loadPage_since :
    (σ.lists rt distinct spares).Triple i
      (fun w => Reading σ rt i author generation n w ∧ Own i (fun s _ => Untouched s) w)
      (service.loadPage limit after author)
      (okOr (fun page w => Reading σ rt i author generation n w ∧
        FoundSince i n (fun table => table.Shows limit after author page) w) fun _ => True) := by
  have stable : ∀ rows : List ArticleSummaryOut, (σ.lists rt distinct spares).Stable i fun w =>
      Reading σ rt i author generation n w ∧
        FoundSince i n (fun table => rows = table.fetch (limit + 1) after author) w :=
    fun rows => (Resting.past _).stable
  have read : (σ.lists rt distinct spares).Triple i
      (fun w => Reading σ rt i author generation n w ∧ Own i (fun s _ => Untouched s) w)
      (ArticleRepository.list service.rt (limit + 1) after author)
      (okOr (fun rows w => Reading σ rt i author generation n w ∧
          FoundSince i n (fun table => rows = table.fetch (limit + 1) after author) w)
        fun w => Reading σ rt i author generation n w ∧ Own i (fun s _ => Untouched s) w) :=
    guardedRead_triple Setting.lists_hosts Resting.untouched.stable stable Resting.untouched.stable
      (asks_selectPage (limit + 1)) (asks_selectPage (limit + 1)) asks_untouched_rollback
      fun _ holds _ => holds
  apply Triple.bind read
  · intro rows
    cases page : splitPage limit rows with
    | error error =>
        exact Triple.raise (stable rows) fun _ _ _ => trivial
    | ok page =>
        refine Triple.ret (stable rows) ?_
        rintro w - ⟨reading, m, past, loaded, since, rfl⟩
        exact ⟨reading, m, past, loaded, since, page⟩
  · exact fun _ _ _ _ => trivial

/-- What `random.uniform` draws changes nothing. -/
theorem jitteredTtl_keeps {A : World → Prop} (stable : (σ.lists rt distinct spares).Stable i A)
    (baseSeconds : ℤ) (jitter : ℚ) :
    (σ.lists rt distinct spares).Triple i A (jitteredTtl baseSeconds jitter)
      (okOr (fun _ => A) fun _ => False) := by
  unfold jitteredTtl
  split
  · exact Triple.ret stable fun _ _ holds => holds
  · exact triple_skip Setting.lists_hosts rfl stable fun _ =>
      Triple.ret stable fun _ _ holds => holds

def Op.Quiet (rt : Runtime) (op : Op) : Prop :=
  op.Harmless rt ∧ ∀ statement, op ≠ .mysql statement

theorem quiet_silent {op : Op} (silent : op.asksRedis = false)
    (other : ∀ statement, op ≠ .mysql statement) : op.Quiet rt :=
  ⟨harmless_of_silent silent, other⟩

/-- What only depends on the committed states, such interactions keep. -/
theorem quiet_triple {α : Type} {p : Py α} {B : World → Prop}
    (stable : (σ.lists rt distinct spares).Stable i B)
    (extends_ : ∀ w w', B w → Extends w.db w'.db → B w')
    (sends : p.Sends (Op.Quiet rt)) :
    (σ.lists rt distinct spares).Triple i B p fun _ => B := by
  apply Triple.of_sends sends stable
  · intro op w may _ _
    cases op with
    | redis command => exact ⟨trivial, may.1 command rfl σ i w⟩
    | mysql statement => exact absurd rfl (may.2 statement)
    | _ => exact ⟨trivial, trivial⟩
  · intro op w reply w' _ _ holds step _
    obtain ⟨c, -, step⟩ := step
    exact extends_ w w' holds (exec_extends step)

theorem loadAndStorePage_since (answers : Answers σ.allow) (same : service.rt = rt)
    (request : σ.requests i = .list limit after author) :
    (σ.lists rt distinct spares).Triple i
      (fun w => Reading σ rt i author generation n w ∧ Own i (fun s _ => Untouched s) w)
      (service.loadAndStorePage (listKey rt generation author limit (cursorParts after)) limit after
        author) (okOr (ShowsSince n limit after author) fun _ => True) := by
  subst same
  apply Triple.bind (loadPage_since service)
  · intro page
    have found : Resting i (FoundSince i n fun table => table.Shows limit after author page) :=
      Resting.past _
    have stable : (σ.lists service.rt distinct spares).Stable i fun w =>
        Reading σ service.rt i author generation n w ∧
          FoundSince i n (fun table => table.Shows limit after author page) w := found.stable
    apply Triple.bind (jitteredTtl_keeps stable _ _)
    · intro ttl
      have asks : Asks (σ.lists service.rt distinct spares) i
          (.redis (.set (listKey service.rt generation author limit (cursorParts after))
            (encodePage service.rt page) (max 1 ttl) false))
          (fun w => Reading σ service.rt i author generation n w ∧
            FoundSince i n (fun table => table.Shows limit after author page) w)
          (okOr (fun _ w => Reading σ service.rt i author generation n w ∧
            FoundSince i n (fun table => table.Shows limit after author page) w) fun _ => False) := by
        apply asks_reading answers found
        · exact fun _ impossible => by cases impossible
        · rintro w reading ⟨m, past, loaded, -, shows⟩
          exact .page request (reading.lists request) past loaded shows
        · exact fun _ => ⟨true, rfl⟩
      apply Triple.bind (effect_triple Setting.lists_hosts answers service.cache
        (fun w holds => holds.1.1.2.2) stable stable (fun _ => asks) fun _ _ holds => holds)
      · intro _
        refine Triple.ret stable ?_
        rintro w - ⟨-, m, past, -, since, shows⟩
        exact ⟨m, past, since, shows⟩
      · exact fun _ _ _ impossible => impossible.elim
    · exact fun _ _ _ impossible => impossible.elim
  · exact fun _ _ _ _ => trivial

/-! ### The whole request -/

def Decoded (A : World → Prop) (F : Page → World → Prop) : Option Page → World → Prop
  | none, w => A w
  | some page, w => F page w

theorem decodePage_since {A : World → Prop} (stable : (σ.lists rt distinct spares).Stable i A)
    (serializes : rt.Serializes) (body : Option String) :
    (σ.lists rt distinct spares).Triple i (Hit A (StoredSince rt n limit after author) body)
      (Prog.ofExcept (decodePage rt body))
      (okOr (Decoded A (ShowsSince n limit after author)) fun _ => True) := by
  cases body with
  | none => exact Triple.ret stable fun _ _ holds => holds
  | some body =>
      rintro w kept ⟨page, rfl, shows⟩
      rw [decodePage_encodePage serializes]
      exact Triple.ret (showsSince_stable page) (fun _ _ holds => holds) w kept shows

theorem asks_pageLock (answers : Answers σ.allow) (key : String) (ttl : ℤ) (resting : Resting i D) :
    Asks (σ.lists rt distinct spares) i (.redis (.set (lockKey key) "1" ttl true))
      (fun w => Reading σ rt i author generation n w ∧ D w)
      (okOr (fun _ w => Reading σ rt i author generation n w ∧ D w) fun _ => False) := by
  apply asks_reading answers resting
  · exact fun _ impossible => by cases impossible
  · exact fun _ _ _ => .aside "1" ttl true (Redis.aside_lockKey rt key)
  · intro w
    rw [redisStep_reply]
    simp only [Redis.step]
    split <;> exact ⟨_, rfl⟩

/-- The release of the lock, whatever the load came to. -/
theorem underLock_since {p : Py Page} {A : World → Prop}
    (inner : (σ.lists rt distinct spares).Triple i A p
      (okOr (ShowsSince n limit after author) fun _ => True)) (won : Bool) (key : String) :
    (σ.lists rt distinct spares).Triple i A (p.tryFinally (service.releaseIfWon won key))
      (okOr (ShowsSince n limit after author) fun _ => True) := by
  have release : (service.releaseIfWon won key).Sends (Op.Quiet rt) := by
    apply releaseIfWon_sends
    · exact fun op isLocal => ⟨harmless_local op isLocal, by rintro _ rfl; cases isLocal⟩
    · exact fun op asks => ⟨harmless_cache op asks, by rintro _ rfl; cases asks⟩
    · exact ⟨harmless_redis fun _ _ _ => .delete (Redis.aside_lockKey rt key),
        fun _ impossible => by cases impossible⟩
  apply Triple.tryFinally inner
  intro outcome
  cases outcome with
  | ok page =>
      apply (quiet_triple (showsSince_stable page)
        (fun _ _ shows moved => shows.extends_ moved) release).mono
      · exact fun _ _ shows => shows
      · intro ended w _ shows
        cases ended with
        | ok _ => exact ⟨showsSince_stable page, shows⟩
        | error error => exact ⟨fun _ _ _ _ _ _ => trivial, trivial⟩
  | error error =>
      apply (quiet_triple (B := fun _ => True) (fun _ _ _ _ _ _ => trivial)
        (fun _ _ _ _ => trivial) release).mono
      · exact fun _ _ _ => trivial
      · intro ended w _ _
        cases ended <;> exact ⟨fun _ _ _ _ _ _ => trivial, trivial⟩

theorem listArticles_since (answers : Answers σ.allow) (same : service.rt = rt)
    (enabled : service.cache.enabled = true) (serializes : rt.Serializes)
    (request : σ.requests i = .list limit after author) :
    (σ.lists rt distinct spares).Triple i (Asking σ rt i author n)
      (service.listArticles limit after author)
      (okOr (ShowsSince n limit after author) fun _ => True) := by
  subst same
  have stable : ∀ generation, (σ.lists service.rt distinct spares).Stable i fun w =>
      Reading σ service.rt i author generation n w ∧ Own i (fun s _ => Untouched s) w :=
    fun _ => Resting.untouched.stable
  have live : ∀ generation (w : World), Reading σ service.rt i author generation n w ∧
      Own i (fun s _ => Untouched s) w → Undegraded i w := fun _ w holds => holds.1.1.2.2
  have done : ∀ page : Page, (σ.lists service.rt distinct spares).Triple i
      (ShowsSince n limit after author page) (.ret page : Py Page)
      (okOr (ShowsSince n limit after author) fun _ => True) :=
    fun page => Triple.ret (showsSince_stable page) fun _ _ holds => holds
  unfold ArticleService.listArticles
  apply Triple.bind (getGenerations_since service answers enabled request)
  · intro pair
    have lookup : service.cache.enabled = true → Asks (σ.lists service.rt distinct spares) i
        (.redis (.get (listKey service.rt (pickGeneration author pair) author limit
          (cursorParts after))))
        (fun w => Reading σ service.rt i author (pickGeneration author pair) n w ∧
          Own i (fun s _ => Untouched s) w)
        (okOr (Hit (fun w => Reading σ service.rt i author (pickGeneration author pair) n w ∧
          Own i (fun s _ => Untouched s) w) (StoredSince service.rt n limit after author))
          fun _ => False) := fun _ => asks_page answers Resting.untouched request
    apply Triple.bind (fetch_triple Setting.lists_hosts answers service.cache (live _) _ _
      (stable _) storedSince_stable lookup)
    · intro body
      apply Triple.bind (decodePage_since (stable _) serializes body)
      · intro cached
        cases cached with
        | some page => exact done page
        | none =>
            apply Triple.bind (acquireLock_triple Setting.lists_hosts answers service.cache
              (live _) _ _ (stable _) fun _ => asks_pageLock answers _ _ Resting.untouched)
            · intro won
              apply Triple.bind (waitUnlessWon_triple Setting.lists_hosts answers (live _) service
                won _ (stable _) storedSince_stable (fun _ => ⟨trivial, trivial⟩) lookup)
              · intro waited
                apply Triple.bind (decodePage_since (stable _) serializes waited)
                · intro found
                  cases found with
                  | some page => exact done page
                  | none =>
                      exact underLock_since service
                        (loadAndStorePage_since service answers rfl request) won _
                · exact fun _ _ _ _ => trivial
              · exact fun _ _ _ _ => trivial
            · exact fun _ _ _ impossible => impossible.elim
      · exact fun _ _ _ _ => trivial
    · exact fun _ _ _ impossible => impossible.elim
  · exact fun _ _ _ impossible => impossible.elim

/-- How a list request ends that starts when no page from before commit `n` is in sight. -/
def AnswersSince (n : ℕ) (limit : ℤ) (after : Option Position) (author : Option ℤ) :
    Except Exc Response → World → Prop
  | .ok (.page page), w => ShowsSince n limit after author page w
  | _, _ => True

theorem AnswersSince.extends_ {outcome : Except Exc Response}
    (ended : AnswersSince n limit after author outcome w) (moved : Extends w.db w'.db) :
    AnswersSince n limit after author outcome w' := by
  cases outcome with
  | error error => trivial
  | ok response =>
      cases response with
      | page page => exact ShowsSince.extends_ ended moved
      | _ => trivial

theorem answersSince_stable (outcome : Except Exc Response) :
    (σ.lists rt distinct spares).Stable i (AnswersSince n limit after author outcome) :=
  fun _ _ _ ended moved _ => ended.extends_ moved.1.db

theorem serve_since (answers : Answers σ.allow) (app : App) (same : app.rt = rt)
    (enabled : app.cacheEnabled = true) (serializes : rt.Serializes)
    (request : σ.requests i = .list limit after author) :
    (σ.lists rt distinct spares).Triple i (Asking σ rt i author n) (app.serve (σ.requests i))
      (AnswersSince n limit after author) := by
  have keeps : ∀ {α : Type} {p : Py α} (outcome : Except Exc Response),
      p.Sends (Op.Quiet rt) →
      (σ.lists rt distinct spares).Triple i (AnswersSince n limit after author outcome) p
        fun _ => AnswersSince n limit after author outcome :=
    fun outcome sends => quiet_triple (answersSince_stable outcome)
      (fun _ _ ended moved => ended.extends_ moved) sends
  have listed : (σ.lists rt distinct spares).Triple i (Asking σ rt i author n)
      (app.handler (.list limit after author)) (AnswersSince n limit after author) := by
    apply Triple.bind (listArticles_since app.articles answers same enabled serializes request)
    · exact fun page => Triple.ret (showsSince_stable page) fun _ _ shows => shows
    · exact fun _ _ _ _ => trivial
  rw [request]
  apply getSession_triple (C := AnswersSince n limit after author) app.cache answersSince_stable
  · apply Triple.bind listed
    · intro response
      have committed := keeps (.ok response) (p := commit) (answer_sends (quiet_silent rfl
        fun _ impossible => by cases impossible) _)
      apply Triple.bind committed
      · exact fun _ => Triple.ret (answersSince_stable (.ok response)) fun _ _ ended => ended
      · exact fun _ _ _ _ => trivial
    · exact fun _ _ _ failed => failed
  · intro response
    have drains : (drainAfterCommit app.cache).Sends (Op.Quiet rt) := by
      apply drainAfterCommit_sends
      · exact fun op isLocal => ⟨harmless_local op isLocal, by rintro _ rfl; cases isLocal⟩
      · exact fun op asks => ⟨harmless_cache op asks, by rintro _ rfl; cases asks⟩
      · exact fun id => ⟨harmless_forget id, fun _ impossible => by cases impossible⟩
      · exact fun author => ⟨harmless_count author, fun _ impossible => by cases impossible⟩
      · exact quiet_silent rfl fun _ impossible => by cases impossible
    apply (keeps (.ok response) drains).mono fun _ _ ended => ended
    intro outcome w _ ended
    cases outcome with
    | ok _ => exact ended
    | error error => trivial
  · intro error
    have aborts : (rollback.bind fun _ => discardAfterCommit).Sends (Op.Quiet rt) := by
      apply Sends.bind (answer_sends (quiet_silent rfl fun _ impossible => by cases impossible) _)
      intro _
      exact Sends.bind (reply_sends (quiet_silent rfl fun _ impossible => by cases impossible) _)
        fun _ => trivial
    apply (keeps (.error error) aborts).mono fun _ _ _ => trivial
    intro outcome w _ _
    cases outcome <;> trivial

end

end ContentPlatform
