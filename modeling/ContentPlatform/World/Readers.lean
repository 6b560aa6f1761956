import ContentPlatform.World.Cached
import ContentPlatform.World.Run
import ContentPlatform.World.Stored
import Mathlib.Tactic.Linarith

/-!
# What the reads send

Every request of the service, whatever fails around it, sends Redis only what it may.
-/

set_option autoImplicit false

namespace ContentPlatform

open Program Py Prog Protocol

section
variable {σ : Setting} {rt : Runtime} {shrinks : ∀ w w', σ.env w w' → Shrinks w w'} {i : Pid}
  {α β : Type} {A : World → Prop}

theorem Setting.stores_hosts : Hosts (σ.stores rt shrinks) (Exec σ.allow) := by
  refine .of_world rfl fun i op w isLocal => ⟨σ.hosts.owed i op w isLocal, ?_⟩
  rintro command rfl
  cases isLocal

theorem Setting.stores_refines : Refines (σ.stores rt shrinks) σ.rows :=
  ⟨fun step => step, fun kept => kept.1, fun moved => moved.1⟩

theorem stores_own (Q : Session → RequestState → Prop) : (σ.stores rt shrinks).Stable i (Own i Q) :=
  fun _ _ _ holds moved _ => holds.undisturbed moved.1

theorem stores_past (Q : Session → RequestState → ℕ → Table → Prop) :
    (σ.stores rt shrinks).Stable i (Past i Q) :=
  fun _ _ _ holds moved _ => holds.undisturbed moved.1

theorem stores_true : (σ.stores rt shrinks).Stable i fun _ => True := fun _ _ _ _ _ _ => trivial

def AtLeast (author : Option ℤ) (generation : ℤ) (w : World) : Prop :=
  generation ≤ w.store.reading (counterKey author)

theorem stores_atLeast (author : Option ℤ) (generation : ℤ) :
    (σ.stores rt shrinks).Stable i (AtLeast author generation) :=
  fun _ _ _ holds moved _ => holds.trans (moved.2 author)

/-- A fact that neither the cache nor anything local to a request makes false. -/
structure Keeping (σ : Setting) (rt : Runtime) (shrinks : ∀ w w', σ.env w w' → Shrinks w w')
    (i : Pid) (A : World → Prop) : Prop where
  stable : (σ.stores rt shrinks).Stable i A
  step : ∀ w w', A w → w'.db = w.db →
    (∀ author, w.store.reading (counterKey author) ≤ w'.store.reading (counterKey author)) → A w'

theorem Keeping.pure (φ : Prop) : Keeping σ rt shrinks i fun _ => φ :=
  ⟨fun _ _ _ holds _ _ => holds, fun _ _ holds _ _ => holds⟩

theorem Keeping.true_ : Keeping σ rt shrinks i fun _ => True :=
  ⟨stores_true, fun _ _ _ _ _ => trivial⟩

theorem Keeping.ownSession (Q : Session → Prop) :
    Keeping σ rt shrinks i (Own i fun s _ => Q s) := by
  refine ⟨stores_own _, fun w w' holds db _ => ?_⟩
  rw [Own, db]
  exact holds

theorem Keeping.pastSession (Q : Session → ℕ → Table → Prop) :
    Keeping σ rt shrinks i (Past i fun s _ => Q s) := by
  refine ⟨stores_past _, fun w w' holds db _ => ?_⟩
  rw [Past, db]
  exact holds

theorem Keeping.atLeast (author : Option ℤ) (generation : ℤ) :
    Keeping σ rt shrinks i (AtLeast author generation) :=
  ⟨stores_atLeast author generation, fun _ _ holds _ grows => holds.trans (grows author)⟩

theorem Keeping.and {B : World → Prop} (first : Keeping σ rt shrinks i A)
    (second : Keeping σ rt shrinks i B) : Keeping σ rt shrinks i fun w => A w ∧ B w :=
  ⟨stable_and first.stable second.stable, fun w w' holds db grows =>
    ⟨first.step w w' holds.1 db grows, second.step w w' holds.2 db grows⟩⟩

/-- Away from the database, with commands that may be sent wherever `A` holds. -/
def CacheOnly (σ : Setting) (rt : Runtime) (i : Pid) (A : World → Prop) (op : Op) : Prop :=
  op.asksDatabase = false ∧ ∀ command, op = .redis command → ∀ w, A w → MaySend σ rt i w command

theorem aside_triple {p : Py α} (keeping : Keeping σ rt shrinks i A)
    (sends : p.Sends (CacheOnly σ rt i A)) :
    (σ.stores rt shrinks).Triple i A p fun _ => A := by
  have owed : ∀ op w, CacheOnly σ rt i A op → A w → (σ.stores rt shrinks).pre i op w := by
    intro op w aside holds
    refine ⟨?_, fun command same => aside.2 command same w holds⟩
    cases op with
    | mysql statement => cases aside.1
    | _ => trivial
  apply Triple.of_sends sends keeping.stable
  · intro op w aside _ holds
    exact owed op w aside holds
  · intro op w reply w' aside kept holds step _
    have grows := (kept.2.exec (owed op w aside holds).2 step).2
    obtain ⟨c, -, step⟩ := step
    exact keeping.step w w' holds (World.exec_db aside.1 step) grows

/-- The same with commands that nothing is asked of. -/
theorem free_aside {op : Op} (aside : op.asksDatabase = false)
    (free : ∀ command, op = .redis command → command.Free) : CacheOnly σ rt i A op :=
  ⟨aside, fun command same w _ => free command same σ rt i w⟩

/-- Requests that leave the state alone, and those about the cache. -/
theorem locals_cacheOnly (op : Op) (isLocal : op.isBookkeeping = true) :
    CacheOnly σ rt i A op := by
  apply free_aside
  · cases op <;> first | rfl | cases isLocal
  · rintro command rfl
    cases isLocal

theorem touch_cacheOnly (op : Op) (cache : op.asksCache = true) : CacheOnly σ rt i A op := by
  apply free_aside
  · cases op <;> first | rfl | cases cache
  · rintro command rfl
    cases cache

theorem spent_cacheOnly : CacheOnly σ rt i A .outOfFuel :=
  free_aside rfl fun command impossible => by cases impossible

theorem free_cacheOnly {command : RedisCommand} (free : command.Free) :
    CacheOnly σ rt i A (.redis command) := by
  apply free_aside rfl
  rintro _ ⟨⟩
  exact free

theorem free_get (key : String) : (RedisCommand.get key).Free := fun _ _ _ _ => .get key

theorem free_lock (key : String) (ttl : ℤ) : (RedisCommand.set (lockKey key) "1" ttl true).Free :=
  fun _ _ _ _ => .lock key ttl

theorem free_unlock (key : String) : (RedisCommand.delete (lockKey key)).Free :=
  fun _ _ _ _ => .unlock key

/-! ## The loads -/

structure Idle (s : Session) : Prop where
  article : s.article = .absent
  empty : (s.transaction.getD .new).writes = []

theorem idle_rollback {w : World} (idle : Own i (fun s _ => Idle s) w) :
    Own i (fun s _ => Idle s) { w with db := w.db.rollbackStep i } := by
  rcases rollback_sessions w.db i with same | ended
  · exact own_db same idle
  · exact own_db ended ⟨by rw [idle.article]; rfl, rfl⟩

/-- What request `i` reads is a committed state. -/
theorem idle_readTable {w : World} (idle : Own i (fun s _ => Idle s) w) :
    w.db.readTable i = w.db.history (w.db.viewed i) := by
  have empty : (w.db.transaction i).writes = [] := idle.empty
  rw [Database.readTable, empty, Table.overlay_nil]

theorem asks_rollback :
    Asks (σ.stores rt shrinks) i .rollback (Own i fun s _ => Idle s)
      fun _ => Own i fun s _ => Idle s := by
  refine ⟨fun w _ _ => ⟨trivial, fun command impossible => by cases impossible⟩,
    fun w reply w' _ idle step _ => ?_⟩
  rw [rollback_exec step]
  exact idle_rollback idle

def FoundLive (i : Pid) (id : ℤ) : Option ℤ → World → Prop
  | some article, w => article = id ∧ Past i (fun s _ n table => s.loadedFrom = some n ∧
      ∃ row, table.find id = some row ∧ row.live = true ∧ s.article = .loaded row) w
  | none, _ => True

theorem FoundLive.stable (id : ℤ) (found : Option ℤ) :
    (σ.stores rt shrinks).Stable i (FoundLive i id found) := by
  cases found with
  | none => exact stores_true
  | some article => exact fun _ _ _ holds moved _ => ⟨holds.1, holds.2.undisturbed moved.1⟩

theorem asks_load (id : ℤ) :
    Asks (σ.stores rt shrinks) i (.mysql (.selectArticle id)) (Own i fun s _ => Idle s)
      (okOr (FoundLive i id) (Own i fun s _ => Idle s)) := by
  refine ⟨fun w _ _ => ⟨trivial, fun command impossible => by cases impossible⟩,
    fun w reply w' kept idle step kept' => ?_⟩
  rcases mysql_cases step with ⟨-, ⟨error, rfl⟩, rfl⟩ | ⟨c, db', answered, rfl⟩
  · have opened : Own i (fun s _ => Idle s) { w with db := w.db.begin_ i } :=
      own_db (Database.begin_sessions ..) ⟨idle.article, idle.empty⟩
    exact opened
  · simp only [Database.statementStep, idle_readTable idle] at answered
    split at answered
    · rename_i row found
      split at answered <;> obtain ⟨rfl, rfl⟩ := Prod.mk.inj (Option.some.inj answered)
      · rename_i live
        have session : ((w.db.readArticles i).receiveArticle i row).sessions i =
            { w.db.sessions i with
              transaction := some { w.db.transaction i with view := some (w.db.viewed i) }
              loadedFrom := some (w.db.viewed i)
              article := .loaded row } := by
          rw [Database.receiveArticle_sessions, Database.readArticles_sessions, idle.article]
          rfl
        refine ⟨Table.find_id found, w.db.viewed i, kept.1.view i, ?_⟩
        dsimp only
        rw [session]
        exact ⟨rfl, row, found, live, rfl⟩
      · trivial
    · obtain ⟨rfl, rfl⟩ := Prod.mk.inj (Option.some.inj answered)
      trivial

theorem loadArticle_triple (service : ArticleService) (id : ℤ) :
    (σ.stores rt shrinks).Triple i (Own i fun s _ => Idle s) (service.load id)
      (okOr (fun article => FoundLive i id (some article)) fun _ => True) := by
  have read : (σ.stores rt shrinks).Triple i (Own i fun s _ => Idle s)
      (ArticleRepository.get service.rt id) (okOr (FoundLive i id) (Own i fun s _ => Idle s)) :=
    guardedRead_triple Setting.stores_hosts (stores_own _) (FoundLive.stable id) (stores_own _)
      (asks_load id) (asks_load id) asks_rollback fun _ idle _ => idle
  apply Triple.bind read
  · intro found
    cases found with
    | none => exact Triple.raise stores_true fun _ _ _ => trivial
    | some article =>
        exact Triple.ret (FoundLive.stable id (some article)) fun _ _ holds => holds
  · intro _ _ _ _
    trivial

def FoundRows (i : Pid) (limit : ℤ) (after : Option Position) (author : Option ℤ)
    (rows : List ArticleSummaryOut) : World → Prop :=
  Past i fun s _ n table => s.loadedFrom = some n ∧ rows = table.fetch limit after author

theorem FoundRows.stable (limit : ℤ) (after : Option Position) (author : Option ℤ)
    (rows : List ArticleSummaryOut) :
    (σ.stores rt shrinks).Stable i (FoundRows i limit after author rows) := stores_past _

theorem asks_rows (limit : ℤ) (after : Option Position) (author : Option ℤ) :
    Asks (σ.stores rt shrinks) i (.mysql (.selectPage limit after author))
      (Own i fun s _ => Idle s)
      (okOr (FoundRows i limit after author) (Own i fun s _ => Idle s)) := by
  refine ⟨fun w _ _ => ⟨trivial, fun command impossible => by cases impossible⟩,
    fun w reply w' kept idle step _ => ?_⟩
  have opened : Own i (fun s _ => Idle s) { w with db := w.db.begin_ i } :=
    own_db (Database.begin_sessions ..) ⟨idle.article, idle.empty⟩
  rcases mysql_cases step with ⟨-, ⟨error, rfl⟩, rfl⟩ | ⟨c, db', answered, rfl⟩
  · exact opened
  · simp only [Database.statementStep, idle_readTable idle] at answered
    split at answered <;> obtain ⟨rfl, rfl⟩ := Prod.mk.inj (Option.some.inj answered)
    · exact opened
    · refine ⟨w.db.viewed i, kept.1.view i, ?_, rfl⟩
      dsimp only
      rw [Database.readArticles_sessions]

def LoadedPage (i : Pid) (limit : ℤ) (after : Option Position) (author : Option ℤ) (page : Page) :
    World → Prop :=
  Past i fun s _ n table => s.loadedFrom = some n ∧
    splitPage limit (table.fetch (limit + 1) after author) = .ok page

theorem loadPage_triple (service : ArticleService) (limit : ℤ) (after : Option Position)
    (author : Option ℤ) :
    (σ.stores rt shrinks).Triple i (Own i fun s _ => Idle s) (service.loadPage limit after author)
      (okOr (LoadedPage i limit after author) fun _ => True) := by
  have read : (σ.stores rt shrinks).Triple i (Own i fun s _ => Idle s)
      (ArticleRepository.list service.rt (limit + 1) after author)
      (okOr (FoundRows i (limit + 1) after author) (Own i fun s _ => Idle s)) :=
    guardedRead_triple Setting.stores_hosts (stores_own _) (FoundRows.stable _ _ _) (stores_own _)
      (asks_rows _ _ _) (asks_rows _ _ _) asks_rollback fun _ idle _ => idle
  apply Triple.bind read
  · intro rows
    have stable : (σ.stores rt shrinks).Stable i (FoundRows i (limit + 1) after author rows) :=
      FoundRows.stable (limit + 1) after author rows
    cases page : splitPage limit rows with
    | error error => exact Triple.raise stable fun _ _ _ => trivial
    | ok page =>
        refine Triple.ret stable ?_
        rintro w - ⟨n, past, loaded, rfl⟩
        exact ⟨n, past, loaded, page⟩
  · intro _ _ _ _
    trivial

/-! ## Times to live -/

/-- The draw stays below the longest time to live, and the store does not go below one second. -/
theorem jitteredTtl_triple (keeping : Keeping σ rt shrinks i A) (baseSeconds : ℤ) (jitter : ℚ) :
    (σ.stores rt shrinks).Triple i A (jitteredTtl baseSeconds jitter)
      (okOr (fun ttl w => A w ∧ TtlOf σ.allow baseSeconds jitter (max 1 ttl)) fun _ => True) := by
  unfold jitteredTtl
  by_cases plain : jitter ≤ 0
  · rw [if_pos plain]
    refine Triple.ret keeping.stable fun w _ holds => ⟨holds, le_max_left 1 _, fun _ => ?_⟩
    rw [longestTtl, max_eq_right plain, mul_zero, add_zero, roundHalfEven_intCast]
  · rw [if_neg plain]
    refine triple_local Setting.stores_hosts rfl keeping.stable fun drawn => ?_
    refine Triple.ret (stable_pure _ keeping.stable) ?_
    rintro w - ⟨holds, v, c, allowed, step⟩
    refine ⟨holds, le_max_left 1 _, fun draws => ?_⟩
    obtain ⟨rfl, -⟩ := Prod.mk.inj (Option.some.inj step)
    have positive : 0 < jitter := not_le.mp plain
    have bound : c.number ≤ baseSeconds + |(baseSeconds : ℚ)| * max jitter 0 := by
      have high := (draws v i _ _ c allowed).2
      have spread : (baseSeconds : ℚ) * jitter ≤ |(baseSeconds : ℚ)| * jitter :=
        mul_le_mul_of_nonneg_right (le_abs_self _) positive.le
      have spread' : -((baseSeconds : ℚ) * jitter) ≤ |(baseSeconds : ℚ)| * jitter := by
        rw [← neg_mul]
        exact mul_le_mul_of_nonneg_right (neg_le_abs _) positive.le
      rw [max_eq_left positive.le]
      rcases le_max_iff.mp high with low | high
      · linarith
      · linarith
    rw [longestTtl]
    have rounded := roundHalfEven_mono bound
    omega

/-! ## The reads -/

variable (service : ArticleService)

theorem articleAttributes_stores (keeping : Keeping σ rt shrinks i A) (id : ℤ) :
    (σ.stores rt shrinks).Triple i A (articleAttributes id)
      (okOr (fun row w => A w ∧ (w.db.sessions i).article.read ArticleRow.id id = .ok row)
        fun _ => True) := by
  refine Triple.call (fun reply w => A w ∧ (w.db.sessions i).article.read ArticleRow.id id = reply)
    keeping.stable (fun w _ _ => ⟨trivial, fun command impossible => by cases impossible⟩)
    (fun w reply w' _ holds step _ => ?_) fun reply => ?_
  · obtain ⟨c, -, step⟩ := step
    obtain ⟨rfl, rfl⟩ := Prod.mk.inj (Option.some.inj step)
    exact ⟨holds, rfl⟩
  · have own : (σ.stores rt shrinks).Stable i
        (Own i fun s _ => s.article.read ArticleRow.id id = reply) := stores_own _
    have stable := stable_and keeping.stable own
    cases reply with
    | ok row => exact Triple.ret stable fun _ _ holds => holds
    | error error => exact Triple.raise stable fun _ _ _ => trivial

theorem storeBody_triple {key body : String} {ttl : ℤ} (keeping : Keeping σ rt shrinks i A)
    (may : ∀ w, A w → MaySend σ rt i w (.set key body (max 1 ttl) false)) :
    (σ.stores rt shrinks).Triple i A (service.cache.store key body ttl) fun _ => A := by
  apply aside_triple keeping
  apply store_sends locals_cacheOnly service.cache touch_cacheOnly
  refine ⟨rfl, ?_⟩
  rintro _ ⟨⟩
  exact may

def LoadedRow (i : Pid) (id : ℤ) (row : ArticleRow) : World → Prop :=
  Past i fun s _ n table => s.loadedFrom = some n ∧ table.find id = some row ∧ row.live = true

theorem loadAndStore_triple (same : service.rt = rt) {id : ℤ} (request : σ.requests i = .get id) :
    (σ.stores rt shrinks).Triple i (Own i fun s _ => Idle s) (service.loadAndStore id)
      (okOr (fun out w => ∃ row, out = row.out ∧ LoadedRow i id row w) fun _ => True) := by
  subst same
  have loaded : ∀ article, Keeping σ service.rt shrinks i (FoundLive i id (some article)) :=
    fun article => (Keeping.pure (article = id)).and (Keeping.pastSession _)
  have kept : ∀ row, Keeping σ service.rt shrinks i (LoadedRow i id row) :=
    fun row => Keeping.pastSession _
  apply Triple.bind (loadArticle_triple service id)
  · intro article
    apply Triple.bind (articleAttributes_stores (loaded article) article)
    · intro row
      apply Triple.mono (A := LoadedRow i id row)
        (B := okOr (fun out w => ∃ row, out = row.out ∧ LoadedRow i id row w) fun _ => True)
      · apply Triple.bind (jitteredTtl_triple (kept row) _ _)
        · intro ttl
          have bounded := (kept row).and (Keeping.pure (TtlOf σ.allow service.rt.articleTtlSeconds
            service.rt.ttlJitter (max 1 ttl)))
          apply Triple.bind (storeBody_triple service bounded ?_)
          · intro _
            exact Triple.ret bounded.stable fun _ _ holds => ⟨row, rfl, holds.1⟩
          · intro _ _ _ _
            trivial
          · rintro w ⟨⟨n, past, from_, found, live⟩, bound⟩
            exact .article request past from_ found live bound
        · intro _ _ _ _
          trivial
      · rintro w - ⟨⟨rfl, n, past, from_, held, found, live, slot⟩, read⟩
        obtain ⟨same, -⟩ := Slot.read_ok.mp read
        rw [slot] at same
        cases same
        exact ⟨n, past, from_, found, live⟩
      · exact fun _ _ _ ended => ended
    · intro _ _ _ _
      trivial
  · intro _ _ _ _
    trivial

/-! ### Pages -/

theorem loadPage_silent (limit : ℤ) (after : Option Position) (author : Option ℤ) :
    (service.loadPage limit after author).Sends fun op => op.asksRedis = false := by
  apply Sends.bind
  · apply guardedRead_sends
    · intro op isLocal
      cases op <;> first | rfl | cases isLocal
    · rfl
    · rfl
  · exact fun _ => sends_ofExcept _

theorem loadAndStorePage_triple (same : service.rt = rt) (generation : ℤ) {limit : ℤ}
    {after : Option Position} {author : Option ℤ}
    (request : σ.requests i = .list limit after author) :
    (σ.stores rt shrinks).Triple i
      (fun w => Own i (fun s _ => Idle s) w ∧ AtLeast author generation w)
      (service.loadAndStorePage (listKey rt generation author limit (cursorParts after)) limit after
        author) fun _ _ => True := by
  subst same
  have kept : ∀ page, Keeping σ service.rt shrinks i fun w =>
      LoadedPage i limit after author page w ∧ AtLeast author generation w :=
    fun page => (Keeping.pastSession _).and (Keeping.atLeast author generation)
  have framed := Triple.frame (P := σ.stores service.rt shrinks)
    (loadPage_silent service limit after author) (stores_atLeast (i := i) author generation) ?_
    (loadPage_triple service limit after author)
  · apply Triple.bind framed
    · intro page
      apply Triple.mono (A := fun w => LoadedPage i limit after author page w ∧
        AtLeast author generation w) (B := fun _ _ => True)
      · apply Triple.bind (jitteredTtl_triple (kept page) _ _)
        · intro ttl
          have bounded := (kept page).and (Keeping.pure (TtlOf σ.allow service.rt.listTtlSeconds
            service.rt.ttlJitter (max 1 ttl)))
          apply Triple.bind (storeBody_triple service bounded ?_)
          · intro _
            exact Triple.ret bounded.stable fun _ _ _ => trivial
          · intro _ _ _ _
            trivial
          · rintro w ⟨⟨⟨n, past, from_, split⟩, reached⟩, bound⟩
            exact .page request past from_ split reached bound
        · intro _ _ _ _
          trivial
      · exact fun _ _ holds => holds
      · exact fun _ _ _ ended => ended
    · intro _ _ _ _
      trivial
  · intro op w reply w' silent _ holds step
    obtain ⟨c, -, step⟩ := step
    rw [AtLeast, World.exec_store silent step]
    exact holds

/-! ### Single-flight reads -/

theorem underLock_stores {p : Py α}
    (inner : (σ.stores rt shrinks).Triple i A p fun _ _ => True) (won : Bool) (key : String) :
    (σ.stores rt shrinks).Triple i A (p.tryFinally (service.releaseIfWon won key))
      fun _ _ => True := by
  have release : (service.releaseIfWon won key).Sends (CacheOnly σ rt i fun _ => True) :=
    releaseIfWon_sends locals_cacheOnly touch_cacheOnly service (free_cacheOnly (free_unlock key)) won
  have released : (σ.stores rt shrinks).Triple i (fun _ => True)
      (service.releaseIfWon won key) fun _ _ => True := aside_triple Keeping.true_ release
  apply Triple.tryFinally inner
  intro outcome
  apply released.mono
  · exact fun _ _ holds => holds
  · intro ended w _ _
    cases ended <;> exact ⟨stores_true, trivial⟩

theorem fetch_stores (keeping : Keeping σ rt shrinks i A) (key : String) (entity : CacheEntity) :
    (σ.stores rt shrinks).Triple i A (service.cache.fetch key entity) fun _ => A :=
  aside_triple keeping (fetch_sends locals_cacheOnly service.cache touch_cacheOnly key entity
    (free_cacheOnly (free_get key)))

theorem acquireLock_stores (keeping : Keeping σ rt shrinks i A) (key : String) (ttl : ℤ) :
    (σ.stores rt shrinks).Triple i A (service.cache.acquireLock key ttl) fun _ => A :=
  aside_triple keeping (acquireLock_sends locals_cacheOnly service.cache touch_cacheOnly key ttl
    (free_cacheOnly (free_lock key _)))

theorem waitUnlessWon_stores (keeping : Keeping σ rt shrinks i A) (won : Bool) (key : String) :
    (σ.stores rt shrinks).Triple i A (service.waitUnlessWon won key) fun _ => A :=
  aside_triple keeping (waitUnlessWon_sends locals_cacheOnly touch_cacheOnly service
    spent_cacheOnly (free_cacheOnly (free_get key)) won)

theorem get_stores (same : service.rt = rt) {id : ℤ} (request : σ.requests i = .get id) :
    (σ.stores rt shrinks).Triple i (Own i fun s _ => Idle s) (service.get id) fun _ _ => True := by
  have idle : Keeping σ rt shrinks i (Own i fun s _ => Idle s) := Keeping.ownSession Idle
  have done : ∀ out : ArticleOut, (σ.stores rt shrinks).Triple i (Own i fun s _ => Idle s)
      (.ret out : Py ArticleOut) fun _ _ => True :=
    fun out => Triple.ret idle.stable fun _ _ _ => trivial
  unfold ArticleService.get
  apply Triple.bind (fetch_stores service idle _ _)
  · intro body
    cases decodeArticle service.rt body with
    | some out => exact done out
    | none =>
        apply Triple.bind (acquireLock_stores service idle _ _)
        · intro won
          apply Triple.bind (waitUnlessWon_stores service idle won _)
          · intro waited
            cases decodeArticle service.rt waited with
            | some out => exact done out
            | none =>
                have loads : (σ.stores rt shrinks).Triple i (Own i fun s _ => Idle s)
                    (service.loadAndStore id) fun _ _ => True :=
                  (loadAndStore_triple service same request).mono (fun _ _ holds => holds)
                    fun _ _ _ _ => trivial
                exact underLock_stores service loads won _
          · exact fun _ _ _ _ => trivial
        · exact fun _ _ _ _ => trivial
  · exact fun _ _ _ _ => trivial

/-- An admitted command that may fail; what it answered is told by `B`. -/
theorem answered_stores (keeping : Keeping σ rt shrinks i A) {operation : CacheOperation}
    {command : Py α} {B : α → World → Prop}
    (stable : ∀ value, (σ.stores rt shrinks).Stable i (B value))
    (first : (σ.stores rt shrinks).Triple i A command (okOr B A)) :
    (σ.stores rt shrinks).Triple i A (ArticleCache.answered operation command)
      (okOr (fun result w => match result with
        | some value => B value w
        | none => A w) fun _ => True) := by
  apply Triple.attempt_bind first
  intro outcome
  cases outcome with
  | ok value =>
      exact triple_skip Setting.stores_hosts rfl (stable value) fun _ =>
        Triple.ret (stable value) fun _ _ holds => holds
  | error error =>
      have raised : (σ.stores rt shrinks).Triple i A (.raise error : Py (Option α))
          (okOr (fun result w => match result with
            | some value => B value w
            | none => A w) fun _ => True) :=
        Triple.raise keeping.stable fun _ _ _ => trivial
      have degrades : (ArticleCache.degrade operation).Sends (CacheOnly σ rt i A) :=
        Sends.bind (reply_sends (touch_cacheOnly _ rfl) _) fun _ =>
          Sends.bind (reply_sends (touch_cacheOnly _ rfl) _) fun _ =>
            reply_sends (locals_cacheOnly _ rfl) _
      dsimp only
      split
      · apply Triple.bind (aside_triple keeping degrades)
        · intro _
          exact Triple.ret keeping.stable fun _ _ holds => holds
        · intro _ _ _ _
          trivial
      · exact raised

/-- The counter that the keys of these pages follow is the last that is asked for. -/
theorem pickGeneration_values (author : Option ℤ) (store : Redis) :
    pickGeneration author (ArticleCache.generationPair
      ((ArticleCache.generationKeys author).map store.value)) =
        store.reading (counterKey author) := by
  cases author <;> rfl

/-- What `MGET` of the counters answers lies at or below their readings from then on. -/
theorem getGenerations_stores (keeping : Keeping σ rt shrinks i A) (author : Option ℤ) :
    (σ.stores rt shrinks).Triple i A (service.cache.getGenerations author)
      (okOr (fun pair w => A w ∧ AtLeast author (pickGeneration author pair) w) fun _ => True) := by
  have zeros : (σ.stores rt shrinks).Triple i A (.ret (0, 0) : Py (ℤ × ℤ))
      (okOr (fun pair w => A w ∧ AtLeast author (pickGeneration author pair) w) fun _ => True) := by
    refine Triple.ret keeping.stable fun w kept holds => ⟨holds, ?_⟩
    have counts := kept.2.counts author
    cases author <;> exact counts
  have read : ∀ values : List (Option String), (σ.stores rt shrinks).Stable i fun w =>
      A w ∧ AtLeast author (pickGeneration author (ArticleCache.generationPair values)) w :=
    fun values => stable_and keeping.stable (stores_atLeast author _)
  unfold ArticleCache.getGenerations
  apply Triple.bind (aside_triple keeping (live_sends service.cache touch_cacheOnly))
  · intro live
    cases live with
    | false => exact zeros
    | true =>
        apply Triple.bind (answered_stores keeping read ?_)
        · intro result
          cases result with
          | none => exact zeros
          | some values => exact Triple.ret (read values) fun _ _ holds => holds
        · exact fun _ _ _ _ => trivial
        · apply redis_triple keeping.stable read keeping.stable
          refine ⟨fun w _ _ => ⟨trivial, ?_⟩, fun w reply w' _ holds step _ => ?_⟩
          · rintro _ ⟨⟩
            exact .mget _
          · have same : w'.db = w.db := by
              obtain ⟨c, -, step⟩ := step
              exact World.exec_db rfl step
            rcases World.redis_cases step with ⟨rfl, answer⟩ | ⟨rfl, error, rfl⟩
            · have holds' := keeping.step w _ holds same fun _ => le_rfl
              rcases answer with rfl | ⟨error, rfl⟩
              · refine ⟨holds', ?_⟩
                rw [AtLeast, pickGeneration_values]
                exact le_rfl
              · exact holds'
            · exact holds
  · exact fun _ _ _ _ => trivial

theorem list_stores (same : service.rt = rt) {limit : ℤ} {after : Option Position}
    {author : Option ℤ} (request : σ.requests i = .list limit after author) :
    (σ.stores rt shrinks).Triple i (Own i fun s _ => Idle s)
      (service.listArticles limit after author) fun _ _ => True := by
  subst same
  have idle : Keeping σ service.rt shrinks i (Own i fun s _ => Idle s) := Keeping.ownSession Idle
  unfold ArticleService.listArticles
  apply Triple.bind (getGenerations_stores service idle author)
  · intro pair
    have read : Keeping σ service.rt shrinks i fun w =>
        Own i (fun s _ => Idle s) w ∧ AtLeast author (pickGeneration author pair) w :=
      idle.and (Keeping.atLeast author _)
    have raised : ∀ error : Exc, (σ.stores service.rt shrinks).Triple i (fun w =>
        Own i (fun s _ => Idle s) w ∧ AtLeast author (pickGeneration author pair) w)
        (.raise error : Py Page) fun _ _ => True :=
      fun error => Triple.raise read.stable fun _ _ _ => trivial
    have done : ∀ page : Page, (σ.stores service.rt shrinks).Triple i (fun w =>
        Own i (fun s _ => Idle s) w ∧ AtLeast author (pickGeneration author pair) w)
        (.ret page : Py Page) fun _ _ => True :=
      fun page => Triple.ret read.stable fun _ _ _ => trivial
    apply Triple.bind (fetch_stores service read _ _)
    · intro body
      rcases decodePage service.rt body with error | _ | page
      · exact raised error
      · apply Triple.bind (acquireLock_stores service read _ _)
        · intro won
          apply Triple.bind (waitUnlessWon_stores service read won _)
          · intro waited
            rcases decodePage service.rt waited with error | _ | page
            · exact raised error
            · exact underLock_stores service
                (loadAndStorePage_triple service rfl _ request) won _
            · exact done page
          · exact fun _ _ _ _ => trivial
        · exact fun _ _ _ _ => trivial
      · exact done page
    · exact fun _ _ _ _ => trivial
  · exact fun _ _ _ _ => trivial

/-! ## The whole request -/

def Op.Free (op : Op) : Prop := ∀ command, op = .redis command → command.Free

def Owed (op : Op) : Prop := op.Free ∧ ∀ statement, op ≠ .mysql statement

theorem free_of_silent {op : Op} (silent : op.asksRedis = false) : op.Free := by
  rintro command rfl
  cases silent

theorem owed_local (op : Op) (isLocal : op.isBookkeeping = true) : Owed op :=
  ⟨free_of_silent (by cases op <;> first | rfl | cases isLocal), by rintro _ rfl; cases isLocal⟩

theorem owed_cache (op : Op) (asks : op.asksCache = true) : Owed op :=
  ⟨free_of_silent (by cases op <;> first | rfl | cases asks), by rintro _ rfl; cases asks⟩

theorem owed_redis {command : RedisCommand} (free : command.Free) : Owed (.redis command) := by
  refine ⟨?_, fun _ impossible => by cases impossible⟩
  rintro _ ⟨⟩
  exact free

theorem owed_forget (id : ℤ) : Owed (.redis (.delete (articleKey id))) :=
  owed_redis fun _ _ _ _ => .forget id

theorem owed_count (author : Option ℤ) : Owed (.redis (.incr (counterKey author))) :=
  owed_redis fun _ _ _ _ => .count author

theorem owed_commit : Owed .commit :=
  ⟨free_of_silent rfl, fun _ impossible => by cases impossible⟩

theorem owed_rollback : Owed .rollback :=
  ⟨free_of_silent rfl, fun _ impossible => by cases impossible⟩

theorem owed_popAfterCommit : Owed .popAfterCommit :=
  ⟨free_of_silent rfl, fun _ impossible => by cases impossible⟩

theorem drain_owed (cache : ArticleCache) : (drainAfterCommit cache).Sends Owed :=
  drainAfterCommit_sends owed_local cache owed_cache owed_forget owed_count owed_popAfterCommit

theorem abort_owed : (rollback.bind fun _ => discardAfterCommit).Sends Owed := by
  apply Sends.bind (answer_sends owed_rollback _)
  intro _
  exact Sends.bind (reply_sends owed_popAfterCommit _) fun _ => trivial

theorem Owed.pre {op : Op} (owed : Owed op) (w : World) : (σ.stores rt shrinks).pre i op w := by
  refine ⟨?_, fun command same => owed.1 command same σ rt i w⟩
  cases op with
  | mysql statement => exact absurd rfl (owed.2 statement)
  | _ => trivial

theorem owed_triple {p : Py α} (sends : p.Sends Owed) :
    (σ.stores rt shrinks).Triple i (fun _ => True) p fun _ _ => True := by
  apply Triple.of_sends sends stores_true
  · exact fun op w owed _ _ => owed.pre w
  · exact fun _ _ _ _ _ _ _ _ _ => trivial

theorem readSession_stores (cache : ArticleCache) {handler : Py Response}
    (first : (σ.stores rt shrinks).Triple i A handler fun _ _ => True) :
    (σ.stores rt shrinks).Triple i A (getSession cache handler) fun _ _ => True := by
  apply getSession_triple (C := fun _ _ => True) cache fun _ => stores_true
  · apply Triple.bind first
    · intro value
      apply Triple.bind (owed_triple (answer_sends owed_commit _))
      · exact fun _ => Triple.ret stores_true fun _ _ _ => trivial
      · exact fun _ _ _ _ => trivial
    · exact fun _ _ _ _ => trivial
  · intro value
    exact owed_triple (drain_owed cache)
  · intro error
    exact owed_triple abort_owed

theorem serve_free (app : App) {request : Request}
    (silent : ∀ command, ¬request.commands app.rt command) : (app.serve request).Sends Op.Free := by
  apply getSession_sends (fun op isLocal => (owed_local op isLocal).1) app.cache
    (fun op asks => (owed_cache op asks).1) (fun id => (owed_forget id).1)
    fun author => (owed_count author).1
  · apply (handler_sends app request).mono
    rintro op footprint command rfl
    exact absurd footprint (silent command)
  · exact free_of_silent rfl
  · exact free_of_silent rfl
  · exact free_of_silent rfl

def Unbegun (i : Pid) : World → Prop := Own i fun s r => s = .new ∧ r = .new

theorem serve_stores (app : App) (same : app.rt = rt) :
    (σ.stores rt shrinks).Triple i (Unbegun i) (app.serve (σ.requests i)) fun _ _ => True := by
  have idle : ∀ w, Unbegun i w → Own i (fun s _ => Idle s) w := by
    rintro w ⟨session, -⟩
    exact ⟨by rw [session]; rfl, by rw [session]; rfl⟩
  have fresh : ∀ w, Unbegun i w → Own i Fresh w := by
    rintro w ⟨session, state⟩
    rw [Own, session, state]
    exact ⟨rfl, rfl, rfl, rfl, rfl, rfl⟩
  have read : ∀ handler : Py Response,
      (σ.stores rt shrinks).Triple i (Own i fun s _ => Idle s) handler (fun _ _ => True) →
      (σ.stores rt shrinks).Triple i (Unbegun i) (getSession app.cache handler) fun _ _ => True :=
    fun handler triple => (readSession_stores app.cache triple).mono (fun w _ => idle w)
      fun _ _ _ ended => ended
  have other : (∀ command, ¬(σ.requests i).commands app.rt command) →
      (σ.stores rt shrinks).Triple i (Unbegun i) (app.serve (σ.requests i)) fun _ _ => True := by
    intro silent
    apply Triple.mono (A := Own i Fresh) (B := Served σ i)
    · apply Triple.refine Setting.stores_refines (serve_free app silent) _ (serve_triple app)
      exact fun op w free _ owed => ⟨owed, fun command same => free command same σ rt i w⟩
    · exact fun w _ => fresh w
    · exact fun _ _ _ _ => trivial
  cases request : σ.requests i with
  | get id =>
      apply read
      apply Triple.bind (get_stores app.articles same request)
      · exact fun _ => Triple.ret stores_true fun _ _ _ => trivial
      · exact fun _ _ _ _ => trivial
  | list limit after author =>
      apply read
      apply Triple.bind (list_stores app.articles same request)
      · exact fun _ => Triple.ret stores_true fun _ _ _ => trivial
      · exact fun _ _ _ _ => trivial
  | create principal title body =>
      rw [request] at other
      exact other fun _ => id
  | update principal id title body expected =>
      rw [request] at other
      exact other fun _ impossible => impossible
  | delete principal id expected =>
      rw [request] at other
      exact other fun _ impossible => impossible
  | register email password =>
      rw [request] at other
      exact other fun _ impossible => impossible
  | login email password =>
      rw [request] at other
      exact other fun _ impossible => impossible

structure Unstored (w : World) : Prop where
  entries : ∀ key, w.store.entries key = none

theorem Unstored.behind {w : World} (empty : Unstored w) : Redis.Behind rt w.store := by
  have reading : ∀ author, w.store.reading (counterKey author) = 0 := by
    intro author
    rw [Redis.reading, Redis.value, empty.entries]
    rfl
  refine ⟨fun author => (reading author).ge, fun author entry stored => ?_,
    fun generation author limit parts entry stored => ?_⟩
  · rw [empty.entries] at stored
    cases stored
  · rw [empty.entries] at stored
    cases stored

variable (shrinks) in
theorem Initial.allStores {w : World} (start : Initial w) (empty : Unstored w) (app : App) :
    (σ.stores app.rt shrinks).AllSafe (fun _ _ _ => True) (app.start σ.requests w) := by
  have kept : (σ.stores app.rt shrinks).inv w := ⟨start.coherent σ.requests, empty.behind⟩
  exact ⟨kept, fun i => serve_stores app rfl w kept ⟨start.sessions i, start.requests i⟩⟩

end

end ContentPlatform
