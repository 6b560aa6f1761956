import ContentPlatform.World.Timed

/-!
# Readers that share a load

All requests read one article.  Where the lock of its key can be created by one of them
only, the leader, no other reads the database, and all are answered with the same row.
-/

set_option autoImplicit false

namespace ContentPlatform

open Program Py Prog Protocol

/-- Only the leader is given the lock of a key that nobody holds. -/
def Allowance.led (allow : Allowance) (key : String) (leader : Pid) : Allowance :=
  fun w i op c => allow w i op c ∧ ∀ body ttl, op = .redis (.set (lockKey key) body ttl true) →
    w.store.entries (lockKey key) = none → i = leader

def Setting.led (σ : Setting) (key : String) (leader : Pid) : Setting :=
  { σ with allow := σ.allow.led key leader }

def HasLoaded (i : Pid) (w : World) : Prop := (w.db.sessions i).loadedFrom ≠ none

/-- All requests read the article, and Redis answers and forgets nothing. -/
structure Setting.Sharing (σ : Setting) (id : ℤ) : Prop where
  requests : ∀ i, σ.requests i = .get id
  answers : Answers σ.allow
  keeps : ∀ w w', σ.env w w' → w'.store = w.store

/-- The clock of a request that waits does not reach the end of its budget. -/
def Setting.Patient (σ : Setting) (timeout : ℚ) : Prop :=
  ∀ i w w' c c', σ.allow w i .loopTime c → σ.allow w' i .loopTime c' →
    c'.number < c.number + timeout

section
variable (rt : Runtime) (id : ℤ) (row : ArticleRow) (leader : Pid)

inductive FlightCommand (w : World) : RedisCommand → Prop where
  | get (key : String) : FlightCommand w (.get key)
  | lock (body : String) (ttl : ℤ) :
      FlightCommand w (.set (lockKey (articleKey id)) body ttl true)
  | store (ttl : ℤ) : HasLoaded leader w →
      FlightCommand w (.set (articleKey id) (rt.articleDumpJson row.out) ttl false)
  | unlock : FlightCommand w (.delete (lockKey (articleKey id)))

/-- What a reader may ask for: only the leader reads the database, once. -/
def FlightPre (i : Pid) (op : Op) (w : World) : Prop :=
  match op with
  | .mysql statement => statement = .selectArticle id ∧ i = leader ∧ ¬HasLoaded i w
  | .redis command => FlightCommand rt id row leader w command
  | .afterCommit _ => False
  | _ => True

/-- What is stored is the row that the leader has read. -/
structure Flight (requests : Pid → Request) (w : World) : Prop where
  coherent : Coherent requests w.db
  root : (w.db.history 0).find id = some row
  body : ∀ entry, w.store.entries (articleKey id) = some entry →
    entry.value = rt.articleDumpJson row.out ∧ HasLoaded leader w
  only : ∀ i, HasLoaded i w → i = leader

end

section
variable {σ : Setting} {rt : Runtime} {id : ℤ} {row : ArticleRow} {leader i j : Pid}
  {w w' : World} {op : Op} {reply : op.Reply} {c : Choice}

theorem HasLoaded.exec (loaded : HasLoaded j w) (step : w.exec i c op = some (reply, w')) :
    HasLoaded j w' := by
  by_cases own : j = i
  · subst own
    rcases World.exec_loadedFrom step with same | ⟨-, reads⟩
    · rw [HasLoaded, same]
      exact loaded
    · rw [HasLoaded, reads]
      simp
  · rw [HasLoaded, (World.exec_undisturbed step own).session]
    exact loaded

theorem HasLoaded.undisturbed (loaded : HasLoaded i w) (moved : Undisturbed i w w') :
    HasLoaded i w' := by
  rw [HasLoaded, moved.session]
  exact loaded

theorem Flight.find {requests : Pid → Request} (kept : Flight rt id row leader requests w)
    (gets : ∀ i, requests i = .get id) {n : ℕ} (past : n ≤ w.db.version) :
    (w.db.history n).find id = some row := by
  induction n with
  | zero => exact kept.root
  | succ n ih =>
      have step := kept.coherent.evolves n past id
      rw [ih (Nat.le_of_succ_le past), gets] at step
      cases next : (w.db.history (n + 1)).find id with
      | none =>
          rw [next] at step
          exact step.elim
      | some new =>
          rw [next] at step
          rcases step with rfl | ⟨-, -, replaces⟩
          · rfl
          · exact replaces.elim

theorem FlightCommand.entries {command : RedisCommand} (by_ : Provenance)
    (may : FlightCommand rt id row leader w command) :
    (w.store.step by_ command).2.entries (articleKey id) = w.store.entries (articleKey id) ∨
      HasLoaded leader w ∧ ∃ entry, entry.value = rt.articleDumpJson row.out ∧
        (w.store.step by_ command).2.entries (articleKey id) = some entry := by
  cases may with
  | get key => exact Or.inl rfl
  | lock body ttl =>
      exact Or.inl (Redis.step_entries (lockKey_ne_articleKey (articleKey id) id).symm)
  | store ttl loaded => exact Or.inr ⟨loaded, _, rfl, Redis.setEntry_self ..⟩
  | unlock => exact Or.inl (Redis.step_entries (lockKey_ne_articleKey (articleKey id) id).symm)

theorem Flight.exec (kept : Flight rt id row leader σ.requests w)
    (owed : rowsPre σ.requests i op w.db ∧ FlightPre rt id row leader i op w)
    (step : Exec (σ.allow.led (articleKey id) leader) i op w reply w') :
    Flight rt id row leader σ.requests w' := by
  have coherent : Coherent σ.requests w'.db :=
    (σ.led (articleKey id) leader).rows.step_inv kept.coherent owed.1 step
  obtain ⟨c, -, exec⟩ := step
  refine ⟨coherent, ?_, fun entry stored => ?_, fun j loaded => ?_⟩
  · have states := (World.exec_undisturbed exec (Nat.succ_ne_self i)).db
    rw [states.history 0 (Nat.zero_le _)]
    exact kept.root
  · have before : w.store.entries (articleKey id) = some entry →
        entry.value = rt.articleDumpJson row.out ∧ HasLoaded leader w' :=
      fun same => (kept.body entry same).imp_right fun loaded => loaded.exec exec
    cases asks : op.asksRedis with
    | false =>
        rw [World.exec_store asks exec] at stored
        exact before stored
    | true =>
        cases op with
        | redis command =>
            rw [World.exec_redis exec] at stored
            split at stored
            · rcases FlightCommand.entries (w.provenance i) owed.2 with same | ⟨loaded, own, value, same⟩
              · exact before (same.symm.trans stored)
              · obtain rfl := Option.some.inj (same.symm.trans stored)
                exact ⟨value, loaded.exec exec⟩
            · exact before stored
        | _ => cases asks
  · by_cases own : j = i
    · subst own
      rcases World.exec_loadedFrom exec with same | ⟨reads, -⟩
      · apply kept.only j
        rw [HasLoaded, ← same]
        exact loaded
      · cases reads with
        | article id' found => exact owed.2.2.1
        | page limit after author rows => exact owed.2.2.1
        | refresh id' reply => exact owed.2.2.1
    · apply kept.only j
      rw [HasLoaded, ← (World.exec_undisturbed exec own).session]
      exact loaded

variable (rt id row leader) in
/-- The protocol of the readers under a leader. -/
def Setting.flight (σ : Setting) (sharing : σ.Sharing id) : Protocol Op Op.Reply World where
  exec := Exec (σ.allow.led (articleKey id) leader)
  env := σ.env
  inv := Flight rt id row leader σ.requests
  rely i w w' := Undisturbed i w w' ∧ (HasLoaded leader w → HasLoaded leader w')
  pre i op w := rowsPre σ.requests i op w.db ∧ FlightPre rt id row leader i op w
  rely_refl i w := ⟨Undisturbed.refl i w, fun loaded => loaded⟩
  rely_trans first second := ⟨first.1.trans second.1, second.2 ∘ first.2⟩
  step_inv kept owed step := kept.exec owed step
  step_rely := by
    rintro i j op w reply w' - - ⟨c, -, step⟩ other
    exact ⟨World.exec_undisturbed step other, fun loaded => loaded.exec step⟩
  env_inv := by
    intro w w' kept moved
    have outside := σ.outside w w' moved
    refine ⟨outside.coherent kept.coherent, ?_, fun entry stored => ?_, fun j loaded => ?_⟩
    · rw [(outside.undisturbed 0).db.history 0 (Nat.zero_le _)]
      exact kept.root
    · rw [sharing.keeps w w' moved] at stored
      exact (kept.body entry stored).imp_right fun loaded =>
        loaded.undisturbed (outside.undisturbed leader)
    · apply kept.only j
      rw [HasLoaded, ← (outside.undisturbed j).session]
      exact loaded
  env_rely := by
    intro i w w' _ moved
    have outside := σ.outside w w' moved
    exact ⟨outside.undisturbed i, fun loaded => loaded.undisturbed (outside.undisturbed leader)⟩

/-! ## What a reader knows -/

structure Arriving (s : Session) (r : RequestState) : Prop where
  article : s.article = .absent
  empty : (s.transaction.getD .new).writes = []
  unread : s.loadedFrom = none
  healthy : r.degraded = false
  queue : r.queue = []

structure Landed (row : ArticleRow) (s : Session) (r : RequestState) : Prop where
  article : s.article = .loaded row
  read : s.loadedFrom ≠ none
  healthy : r.degraded = false
  queue : r.queue = []

def Finishing (leader i : Pid) (w : World) : Prop :=
  Own i (fun _ r => r.degraded = false ∧ r.queue = []) w ∧ HasLoaded leader w

variable {sharing : σ.Sharing id} {α : Type}

theorem flight_hosts :
    Hosts (σ.flight rt id row leader sharing) (Exec (σ.allow.led (articleKey id) leader)) := by
  refine .of_world rfl fun i op w isLocal => ⟨σ.hosts.owed i op w isLocal, ?_⟩
  cases op <;> trivial

theorem flight_answers (sharing : σ.Sharing id) :
    Answers (σ.allow.led (articleKey id) leader) :=
  ⟨fun w i command c allowed => sharing.answers.redis w i command c allowed.1,
    fun w i c allowed => sharing.answers.breaker w i c allowed.1⟩

theorem flight_own (Q : Session → RequestState → Prop) :
    (σ.flight rt id row leader sharing).Stable i (Own i Q) :=
  fun _ _ _ holds moved _ => holds.undisturbed moved.1

theorem flight_pure (φ : Prop) : (σ.flight rt id row leader sharing).Stable i fun _ => φ :=
  fun _ _ _ holds _ _ => holds

theorem flight_finishing :
    (σ.flight rt id row leader sharing).Stable i (Finishing leader i) :=
  fun _ _ _ holds moved _ => ⟨holds.1.undisturbed moved.1, moved.2 holds.2⟩

def FoundBody (rt : Runtime) (row : ArticleRow) (leader i : Pid) (body : String) (w : World) :
    Prop :=
  body = rt.articleDumpJson row.out ∧ Finishing leader i w

theorem flight_foundBody (body : String) :
    (σ.flight rt id row leader sharing).Stable i (FoundBody rt row leader i body) :=
  fun w w' kept holds moved kept' => ⟨holds.1, flight_finishing w w' kept holds.2 moved kept'⟩

theorem Arriving.undegraded (w : World) (arriving : Own i Arriving w) : Undegraded i w :=
  arriving.healthy

/-- What a Redis command leaves of what belongs to a request. -/
theorem redisStep_own {command : RedisCommand} {Q : Session → RequestState → Prop}
    (other : ∀ keys, command ≠ .mget keys) (holds : Own i Q w) :
    Own i Q (w.redisStep i command).2 := by
  rw [redisStep_of_not_mget other]
  exact holds

theorem asks_get : Asks (σ.flight rt id row leader sharing) i (.redis (.get (articleKey id)))
    (Own i Arriving) (okOr (Hit (Own i Arriving) (FoundBody rt row leader i)) fun _ => False) := by
  refine ⟨fun w _ _ => ⟨trivial, .get _⟩, fun w reply w' kept arriving step _ => ?_⟩
  obtain ⟨rfl, rfl⟩ := (flight_answers sharing).exec step
  have same : Own i Arriving (w.redisStep i (.get (articleKey id))).2 :=
    redisStep_own (fun _ impossible => by cases impossible) arriving
  cases stored : w.store.entries (articleKey id) with
  | none =>
      have missing : w.store.value (articleKey id) = none := by rw [Redis.value, stored]; rfl
      rw [redisStep_reply, Redis.step, missing]
      exact same
  | some entry =>
      obtain ⟨value, loaded⟩ := kept.body entry stored
      have found : w.store.value (articleKey id) = some entry.value := by
        rw [Redis.value, stored]
        rfl
      rw [redisStep_reply, Redis.step, found]
      exact ⟨value, ⟨same.healthy, same.queue⟩, loaded⟩

theorem fetch_flight (cache : ArticleCache) (entity : CacheEntity) :
    (σ.flight rt id row leader sharing).Triple i (Own i Arriving)
      (cache.fetch (articleKey id) entity)
      (okOr (Hit (Own i Arriving) (FoundBody rt row leader i)) fun _ => False) :=
  fetch_triple flight_hosts (flight_answers sharing) cache Arriving.undegraded (articleKey id) entity
    (flight_own _) flight_foundBody fun _ => asks_get

theorem asks_lock (ttl : ℤ) : Asks (σ.flight rt id row leader sharing) i
    (.redis (.set (lockKey (articleKey id)) "1" ttl true)) (Own i Arriving)
    (okOr (fun acquired w => Own i Arriving w ∧ (acquired = true → i = leader)) fun _ => False) := by
  refine ⟨fun w _ _ => ⟨trivial, .lock _ _⟩, fun w reply w' _ arriving step _ => ?_⟩
  have given : w.store.entries (lockKey (articleKey id)) = none → i = leader := by
    obtain ⟨c, ⟨-, led⟩, -⟩ := step
    exact led _ _ rfl
  obtain ⟨rfl, rfl⟩ := (flight_answers sharing).exec step
  have same : Own i Arriving
      (w.redisStep i (.set (lockKey (articleKey id)) "1" ttl true)).2 :=
    redisStep_own (fun _ impossible => by cases impossible) arriving
  rw [redisStep_reply, Redis.step]
  split
  · exact ⟨same, fun impossible => by cases impossible⟩
  · rename_i free
    refine ⟨same, fun _ => given ?_⟩
    cases stored : w.store.entries (lockKey (articleKey id)) with
    | none => rfl
    | some entry =>
        rw [stored] at free
        exact absurd rfl free

theorem acquireLock_flight (cache : ArticleCache) (enabled : cache.enabled = true) (ttl : ℤ) :
    (σ.flight rt id row leader sharing).Triple i (Own i Arriving)
      (cache.acquireLock (articleKey id) ttl)
      (okOr (fun won w => Own i Arriving w ∧ (won = true → i = leader)) fun _ => False) := by
  have stable : ∀ acquired : Bool, (σ.flight rt id row leader sharing).Stable i fun w =>
      Own i Arriving w ∧ (acquired = true → i = leader) :=
    fun _ => stable_pure _ (flight_own _)
  apply whenLive_triple flight_hosts (flight_answers sharing) cache Arriving.undegraded (flight_own _)
  · intro _
    apply Triple.bind (answered_triple flight_hosts stable
      (answers_triple (flight_own _) stable (asks_lock _)))
    · intro result
      cases result with
      | none =>
          rintro w - ⟨value, impossible, -⟩
          cases impossible
      | some acquired =>
          apply Triple.mono (A := fun w => Own i Arriving w ∧ (acquired = true → i = leader))
            (B := okOr (fun won w => Own i Arriving w ∧ (won = true → i = leader)) fun _ => False)
          · exact Triple.ret (stable acquired) fun _ _ holds => holds
          · rintro w - ⟨value, same, holds⟩
            cases same
            exact holds
          · exact fun _ _ _ ended => ended
    · exact fun _ _ _ impossible => impossible
  · intro disabled
    cases enabled.symm.trans disabled

/-! ## The wait -/

/-- A reader that has lost waits until it finds the row. -/
theorem pollUntil_flight (service : ArticleService)
    (patient : σ.Patient service.rt.lockTimeoutSeconds) {first : Choice} {v : World}
    (read : σ.allow v i .loopTime first) (polls : ℕ) :
    (σ.flight rt id row leader sharing).Triple i (Own i Arriving)
      (service.pollUntil (articleKey id) (first.number + service.rt.lockTimeoutSeconds) polls)
      (okOr (fun found w => ∃ body, found = some body ∧ FoundBody rt row leader i body w)
        fun _ => ¬σ.Calm) := by
  have early : ∀ now : ℚ, (∃ v', Exec (σ.allow.led (articleKey id) leader) i .loopTime v' now v') →
      now < first.number + service.rt.lockTimeoutSeconds := by
    rintro now ⟨v', c, ⟨allowed, -⟩, step⟩
    obtain ⟨rfl, -⟩ := Prod.mk.inj (Option.some.inj step)
    exact patient i v v' first c read allowed
  induction polls with
  | zero =>
      rw [ArticleService.pollUntil]
      refine triple_local flight_hosts rfl (flight_own _) fun now => ?_
      rintro w kept ⟨arriving, clock⟩
      dsimp only [Prog.ret_cont]
      rw [if_pos (early now clock)]
      exact fun w' _ _ => ⟨⟨trivial, trivial⟩, fun never => never.elim⟩
  | succ polls ih =>
      rw [ArticleService.pollUntil]
      refine triple_local flight_hosts rfl (flight_own _) fun now => ?_
      rintro w kept ⟨arriving, clock⟩
      dsimp only [Prog.ret_cont]
      rw [if_pos (early now clock)]
      refine triple_local flight_hosts rfl (flight_own Arriving) (fun slept => ?_) w kept arriving
      cases slept with
      | error error =>
          refine Triple.raise (stable_and (flight_own _) (flight_pure _)) ?_
          rintro w' - ⟨-, v', c, ⟨allowed, -⟩, step⟩ calm
          have answer := (Prod.mk.inj (Option.some.inj step)).1
          rw [World.waited, (calm v' i _ c allowed).1] at answer
          cases answer
      | ok _ =>
          apply Triple.mono (A := Own i Arriving) _ (fun _ _ holds => holds.1)
            fun _ _ _ ended => ended
          show (σ.flight rt id row leader sharing).Triple i (Own i Arriving)
            (Prog.bind (service.cache.peek (articleKey id)) _) _
          apply Triple.bind (peek_triple flight_hosts (flight_answers sharing) service.cache
            Arriving.undegraded (articleKey id) (flight_own _) flight_foundBody fun _ => asks_get)
          · intro found
            cases found with
            | none => exact ih
            | some body =>
                exact Triple.ret (flight_foundBody body) fun _ _ holds => ⟨body, rfl, holds⟩
          · exact fun _ _ _ impossible => impossible.elim

/-- The winner goes on to its load, and whoever lost finds the row. -/
def AfterWait (rt : Runtime) (row : ArticleRow) (leader i : Pid) : Option String → World → Prop
  | none, w => Own i Arriving w ∧ i = leader
  | some body, w => FoundBody rt row leader i body w

theorem waitUnlessWon_flight (service : ArticleService)
    (patient : σ.Patient service.rt.lockTimeoutSeconds) (won : Bool) :
    (σ.flight rt id row leader sharing).Triple i
      (fun w => Own i Arriving w ∧ (won = true → i = leader))
      (service.waitUnlessWon won (articleKey id))
      (okOr (AfterWait rt row leader i) fun _ => ¬σ.Calm) := by
  cases won with
  | true =>
      exact Triple.ret (stable_pure _ (flight_own _)) fun _ _ holds => ⟨holds.1, holds.2 rfl⟩
  | false =>
      refine triple_local flight_hosts rfl (stable_pure _ (flight_own _)) fun now => ?_
      rintro w kept ⟨⟨arriving, -⟩, v, c, ⟨allowed, -⟩, step⟩
      obtain ⟨rfl, -⟩ := Prod.mk.inj (Option.some.inj step)
      apply ((pollUntil_flight service patient allowed service.rt.polls) w kept arriving).mono
      intro outcome w' _ ended
      cases outcome with
      | ok found =>
          obtain ⟨body, rfl, holds⟩ := ended
          exact holds
      | error error => exact ended

/-! ## The load -/

theorem asks_flightRollback : Asks (σ.flight rt id row leader sharing) i .rollback
    (fun w => Own i Arriving w ∧ ¬σ.Calm) fun _ w => Own i Arriving w ∧ ¬σ.Calm := by
  refine ⟨fun _ _ _ => ⟨trivial, trivial⟩, fun w reply w' _ holds step _ => ⟨?_, holds.2⟩⟩
  obtain ⟨c, -, step⟩ := step
  obtain ⟨-, rfl⟩ := Prod.mk.inj (Option.some.inj step)
  have arriving : Arriving (w.db.sessions i) (w.requests i) := holds.1
  rcases rollback_sessions w.db i with same | ended
  · exact own_db same arriving
  · exact own_db ended ⟨by rw [arriving.article]; rfl, rfl, arriving.unread, arriving.healthy,
      arriving.queue⟩

def FoundRow (row : ArticleRow) (i : Pid) : Option ℤ → World → Prop
  | some article, w => article = row.id ∧ Own i (Landed row) w
  | none, _ => False

/-- The leader reads the row as it is. -/
theorem asks_flightLoad (live : row.live = true) (lead : i = leader) :
    Asks (σ.flight rt id row leader sharing) i (.mysql (.selectArticle id)) (Own i Arriving)
      (okOr (FoundRow row i) fun w => Own i Arriving w ∧ ¬σ.Calm) := by
  refine ⟨fun w _ arriving => ⟨trivial, rfl, lead, fun loaded => loaded arriving.unread⟩,
    fun w reply w' kept arriving step _ => ?_⟩
  have arriving : Arriving (w.db.sessions i) (w.requests i) := arriving
  have view : w.db.readTable i = w.db.history (w.db.viewed i) := by
    have empty : (w.db.transaction i).writes = [] := arriving.empty
    rw [Database.readTable, empty, Table.overlay_nil]
  have found := kept.find sharing.requests (kept.coherent.view i)
  obtain ⟨c, ⟨allowed, -⟩, step⟩ := step
  rcases mysql_cases ⟨c, allowed, step⟩ with ⟨hectic, ⟨error, rfl⟩, rfl⟩ | ⟨c', db', answered, rfl⟩
  · exact ⟨own_db (Database.begin_sessions ..) ⟨arriving.article, arriving.empty, arriving.unread,
      arriving.healthy, arriving.queue⟩, hectic⟩
  · simp only [Database.statementStep, view, found, live, if_true] at answered
    obtain ⟨rfl, rfl⟩ := Prod.mk.inj (Option.some.inj answered)
    have session : ((w.db.readArticles i).receiveArticle i row).sessions i =
        { w.db.sessions i with
          transaction := some { w.db.transaction i with view := some (w.db.viewed i) }
          loadedFrom := some (w.db.viewed i)
          article := .loaded row } := by
      rw [Database.receiveArticle_sessions, Database.readArticles_sessions, arriving.article]
      rfl
    refine ⟨rfl, own_db session ⟨rfl, ?_, arriving.healthy, arriving.queue⟩⟩
    simp

theorem flight_foundRow (found : Option ℤ) :
    (σ.flight rt id row leader sharing).Stable i (FoundRow row i found) := by
  cases found with
  | none => exact stable_false
  | some article =>
      intro w w' kept holds moved kept'
      exact ⟨holds.1, flight_own (Landed row) w w' kept holds.2 moved kept'⟩

/-- A reader whose load has failed, which takes more than Redis. -/
def LoadFailed (σ : Setting) (i : Pid) (w : World) : Prop :=
  Own i (fun _ r => r.degraded = false) w ∧ ¬σ.Calm

theorem load_flight (service : ArticleService) (live : row.live = true) (lead : i = leader) :
    (σ.flight rt id row leader sharing).Triple i (Own i Arriving) (service.load id)
      (okOr (fun article w => article = row.id ∧ Own i (Landed row) w) (LoadFailed σ i)) := by
  have hectic : (σ.flight rt id row leader sharing).Stable i
      fun w => Own i Arriving w ∧ ¬σ.Calm := stable_and (flight_own _) (flight_pure _)
  have load : Asks (σ.flight rt id row leader sharing) i (.mysql (.selectArticle id))
      (Own i Arriving) (okOr (FoundRow row i) fun w => Own i Arriving w ∧ ¬σ.Calm) :=
    asks_flightLoad live lead
  have read : (σ.flight rt id row leader sharing).Triple i (Own i Arriving)
      (ArticleRepository.get service.rt id)
      (okOr (FoundRow row i) fun w => Own i Arriving w ∧ ¬σ.Calm) := by
    apply guardedRead_triple flight_hosts (flight_own _) flight_foundRow hectic load
    · exact ⟨fun w kept holds => load.owed w kept holds.1,
        fun w reply w' kept holds step kept' => load.step w reply w' kept holds.1 step kept'⟩
    · exact asks_flightRollback
    · rintro w arriving ⟨c, v, ⟨allowed, -⟩, closed⟩
      exact ⟨arriving, refused_not_calm ⟨c, v, allowed, closed⟩⟩
  apply Triple.bind read
  · intro found
    cases found with
    | none => exact fun _ _ impossible => impossible.elim
    | some article => exact Triple.ret (flight_foundRow (some article)) fun _ _ holds => holds
  · intro error w _ holds
    have arriving : Arriving (w.db.sessions i) (w.requests i) := holds.1
    exact ⟨arriving.healthy, holds.2⟩

theorem articleAttributes_flight :
    (σ.flight rt id row leader sharing).Triple i (Own i (Landed row)) (articleAttributes row.id)
      (okOr (fun found w => found = row ∧ Own i (Landed row) w) fun _ => False) := by
  apply Triple.call (fun (reply : Except Exc ArticleRow) w => reply = .ok row ∧
    Own i (Landed row) w) (flight_own _)
  · exact fun _ _ _ => ⟨trivial, trivial⟩
  · rintro w reply w' - landed ⟨c, -, step⟩ -
    obtain ⟨rfl, rfl⟩ := Prod.mk.inj (Option.some.inj step)
    have held : Landed row (w.db.sessions i) (w.requests i) := landed
    refine ⟨?_, landed⟩
    rw [held.article, Slot.read, if_pos rfl]
  · intro reply
    have stable : (σ.flight rt id row leader sharing).Stable i
        fun w => reply = .ok row ∧ Own i (Landed row) w :=
      stable_and (flight_pure _) (flight_own _)
    cases reply with
    | ok found => exact Triple.ret stable fun _ _ holds => ⟨Except.ok.inj holds.1, holds.2⟩
    | error error => exact Triple.raise stable fun _ _ holds => by cases holds.1

theorem jitteredTtl_flight (base : ℤ) (jitter : ℚ) :
    (σ.flight rt id row leader sharing).Triple i (Own i (Landed row)) (jitteredTtl base jitter)
      (okOr (fun _ => Own i (Landed row)) fun _ => False) := by
  unfold jitteredTtl
  split
  · exact Triple.ret (flight_own _) fun _ _ holds => holds
  · exact triple_skip flight_hosts rfl (flight_own _) fun _ =>
      Triple.ret (flight_own _) fun _ _ holds => holds

theorem Landed.undegraded (w : World) (landed : Own i (Landed row) w) : Undegraded i w :=
  landed.healthy

/-- The leader stores the row it has read. -/
theorem asks_flightStore (lead : i = leader) (ttl : ℤ) :
    Asks (σ.flight rt id row leader sharing) i
      (.redis (.set (articleKey id) (rt.articleDumpJson row.out) ttl false)) (Own i (Landed row))
      (okOr (fun _ => Own i (Landed row)) fun _ => False) := by
  refine ⟨fun w _ landed => ⟨trivial, .store ttl ?_⟩, fun w reply w' _ landed step _ => ?_⟩
  · have held : Landed row (w.db.sessions i) (w.requests i) := landed
    rw [← lead]
    exact held.read
  · obtain ⟨rfl, rfl⟩ := (flight_answers sharing).exec step
    exact redisStep_own (fun _ impossible => by cases impossible) landed

theorem asks_flightUnlock (Q : Session → RequestState → Prop) (φ : Prop) :
    Asks (σ.flight rt id row leader sharing) i (.redis (.delete (lockKey (articleKey id))))
      (fun w => Own i Q w ∧ φ) (okOr (fun _ w => Own i Q w ∧ φ) fun _ => False) := by
  refine ⟨fun w _ _ => ⟨trivial, .unlock⟩, fun w reply w' _ holds step _ => ?_⟩
  obtain ⟨rfl, rfl⟩ := (flight_answers sharing).exec step
  exact ⟨redisStep_own (fun _ impossible => by cases impossible) holds.1, holds.2⟩

theorem loadAndStore_flight (service : ArticleService) (same : service.rt = rt)
    (live : row.live = true) (lead : i = leader) :
    (σ.flight rt id row leader sharing).Triple i (Own i Arriving) (service.loadAndStore id)
      (okOr (fun out w => Own i (Landed row) w ∧ out = row.out) (LoadFailed σ i)) := by
  subst same
  have landed : (σ.flight service.rt id row leader sharing).Stable i (Own i (Landed row)) :=
    flight_own _
  have stored : ∀ ttl, (σ.flight service.rt id row leader sharing).Triple i (Own i (Landed row))
      (service.cache.setArticle id (service.rt.articleDumpJson row.out) ttl)
      (okOr (fun _ => Own i (Landed row)) fun _ => False) :=
    fun ttl => effect_triple flight_hosts (flight_answers sharing) service.cache Landed.undegraded
      landed landed (fun _ => asks_flightStore lead _) fun _ _ holds => holds
  apply Triple.bind (load_flight service live lead)
  · rintro _ w kept ⟨rfl, holds⟩
    apply Triple.bind articleAttributes_flight _ _ w kept holds
    · rintro _ w kept ⟨rfl, holds⟩
      apply Triple.bind (jitteredTtl_flight _ _) _ _ w kept holds
      · intro ttl
        apply Triple.bind (stored ttl)
        · exact fun _ => Triple.ret landed fun _ _ holds => ⟨holds, rfl⟩
        · exact fun _ _ _ impossible => impossible.elim
      · exact fun _ _ _ impossible => impossible.elim
    · exact fun _ _ _ impossible => impossible.elim
  · exact fun _ _ _ failed => failed

/-! ## The whole request -/

theorem underLock_flight (service : ArticleService) (same : service.rt = rt)
    (live : row.live = true) (lead : i = leader) (won : Bool) :
    (σ.flight rt id row leader sharing).Triple i (Own i Arriving)
      ((service.loadAndStore id).tryFinally (service.releaseIfWon won (articleKey id)))
      (okOr (fun out w => Own i (Landed row) w ∧ out = row.out) fun _ => ¬σ.Calm) := by
  have released : ∀ (Q : Session → RequestState → Prop) (φ : Prop),
      (∀ s r, Q s r → r.degraded = false) →
      (σ.flight rt id row leader sharing).Triple i (fun w => Own i Q w ∧ φ)
        (service.releaseIfWon won (articleKey id))
        (okOr (fun _ w => Own i Q w ∧ φ) fun _ => False) :=
    fun Q φ healthy => releaseIfWon_triple flight_hosts (flight_answers sharing)
      (fun w holds => healthy _ _ holds.1) service won (articleKey id) (stable_pure _ (flight_own Q))
      fun _ => asks_flightUnlock Q φ
  apply Triple.tryFinally (loadAndStore_flight service same live lead)
  intro outcome
  cases outcome with
  | ok out =>
      apply (released (Landed row) (out = row.out) fun _ _ landed => landed.healthy).mono
      · exact fun _ _ holds => holds
      · intro ended w _ holds
        cases ended with
        | ok _ => exact ⟨stable_pure _ (flight_own _), holds⟩
        | error _ => exact holds.elim
  | error error =>
      apply (released (fun _ r => r.degraded = false) (¬σ.Calm) fun _ _ healthy => healthy).mono
      · exact fun _ _ holds => holds
      · intro ended w _ holds
        cases ended with
        | ok _ => exact ⟨flight_pure _, holds.2⟩
        | error _ => exact holds.elim

def Delivered (row : ArticleRow) (leader i : Pid) (out : ArticleOut) (w : World) : Prop :=
  out = row.out ∧ Finishing leader i w

theorem flight_delivered (out : ArticleOut) :
    (σ.flight rt id row leader sharing).Stable i (Delivered row leader i out) :=
  fun w w' kept holds moved kept' => ⟨holds.1, flight_finishing w w' kept holds.2 moved kept'⟩

theorem get_flight (service : ArticleService) (same : service.rt = rt)
    (serializes : rt.Serializes) (enabled : service.cache.enabled = true) (live : row.live = true)
    (patient : σ.Patient rt.lockTimeoutSeconds) :
    (σ.flight rt id row leader sharing).Triple i (Own i Arriving) (service.get id)
      (okOr (Delivered row leader i) fun _ => ¬σ.Calm) := by
  subst same
  have decoded : decodeArticle service.rt (some (service.rt.articleDumpJson row.out)) =
      some row.out := serializes.article row.out
  have delivered : (σ.flight service.rt id row leader sharing).Triple i
      (FoundBody service.rt row leader i (service.rt.articleDumpJson row.out)) (.ret row.out)
      (okOr (Delivered row leader i) fun _ => ¬σ.Calm) :=
    Triple.ret (flight_foundBody _) fun _ _ holds => ⟨rfl, holds.2⟩
  have load : ∀ won : Bool, (σ.flight service.rt id row leader sharing).Triple i
      (fun w => Own i Arriving w ∧ i = leader)
      ((service.loadAndStore id).tryFinally (service.releaseIfWon won (articleKey id)))
      (okOr (Delivered row leader i) fun _ => ¬σ.Calm) := by
    rintro won w kept ⟨arriving, lead⟩
    apply (underLock_flight service rfl live lead won w kept arriving).mono
    intro outcome w' _ ended
    cases outcome with
    | ok out =>
        have landed : Landed row (w'.db.sessions i) (w'.requests i) := ended.1
        refine ⟨ended.2, ⟨landed.healthy, landed.queue⟩, ?_⟩
        rw [← lead]
        exact landed.read
    | error error => exact ended
  unfold ArticleService.get
  apply Triple.bind (fetch_flight service.cache .article)
  · intro body
    cases body with
    | some body =>
        rintro w kept ⟨rfl, holds⟩
        rw [decoded]
        exact delivered w kept ⟨rfl, holds⟩
    | none =>
        apply Triple.bind (acquireLock_flight service.cache enabled _)
        · intro won
          apply Triple.bind (waitUnlessWon_flight service patient won)
          · intro waited
            cases waited with
            | some body =>
                rintro w kept ⟨rfl, holds⟩
                rw [decoded]
                exact delivered w kept ⟨rfl, holds⟩
            | none => exact load won
          · exact fun _ _ _ hectic => hectic
        · exact fun _ _ _ impossible => impossible.elim
  · exact fun _ _ _ impossible => impossible.elim

theorem drainAfterCommit_flight (cache : ArticleCache) :
    (σ.flight rt id row leader sharing).Triple i (Finishing leader i) (drainAfterCommit cache)
      (okOr (fun _ => HasLoaded leader) fun _ => False) := by
  have stable : (σ.flight rt id row leader sharing).Stable i (HasLoaded leader) :=
    fun _ _ _ loaded moved _ => moved.2 loaded
  apply Triple.call (fun (callbacks : List Invalidation) w => HasLoaded leader w ∧ callbacks = [])
    flight_finishing
  · exact fun _ _ _ => ⟨trivial, trivial⟩
  · rintro w reply w' - ⟨own, loaded⟩ ⟨c, -, step⟩ -
    refine ⟨loaded.exec step, ?_⟩
    obtain ⟨rfl, -⟩ := Prod.mk.inj (Option.some.inj step)
    exact own.2
  · rintro callbacks w kept ⟨loaded, rfl⟩
    exact Triple.ret stable (fun _ _ holds => holds) w kept loaded

theorem commit_flight :
    (σ.flight rt id row leader sharing).Triple i (Finishing leader i) commit
      (okOr (fun _ => Finishing leader i) fun _ => ¬σ.Calm) := by
  apply Triple.call (fun (reply : Except Exc Unit) w => Finishing leader i w ∧
    ((∃ error, reply = .error error) → ¬σ.Calm)) flight_finishing
  · exact fun _ _ _ => ⟨trivial, trivial⟩
  · rintro w reply w' - ⟨own, loaded⟩ ⟨c, ⟨allowed, -⟩, step⟩ -
    refine ⟨⟨?_, loaded.exec step⟩, ?_⟩
    · obtain ⟨-, rfl⟩ := Prod.mk.inj (Option.some.inj step)
      exact own
    · rintro ⟨error, rfl⟩ calm
      have answer := (Prod.mk.inj (Option.some.inj step)).1
      unfold Database.commitReply at answer
      split at answer
      · rename_i fault
        rw [(calm w i _ c allowed).1] at fault
        cases fault
      · cases answer
  · intro reply
    cases reply with
    | ok _ => exact Triple.ret (stable_pure _ flight_finishing) fun _ _ holds => holds.1
    | error error =>
        exact Triple.raise (stable_pure _ flight_finishing) fun _ _ holds => holds.2 ⟨error, rfl⟩

/-- How a reader ends: with the row that the leader has read, unless more than Redis fails. -/
theorem serve_flight (app : App) (serializes : app.rt.Serializes)
    (enabled : app.cacheEnabled = true)
    (live : row.live = true) (patient : σ.Patient app.rt.lockTimeoutSeconds) :
    (σ.flight app.rt id row leader sharing).Triple i (Own i Arriving) (app.serve (.get id))
      (okOr (fun response w => HasLoaded leader w ∧ response = .article row.out)
        fun _ => ¬σ.Calm) := by
  have loaded : (σ.flight app.rt id row leader sharing).Stable i (HasLoaded leader) :=
    fun _ _ _ loaded moved _ => moved.2 loaded
  apply getSession_triple (C := okOr (fun response w => Finishing leader i w ∧
    response = .article row.out) fun _ => ¬σ.Calm)
  · intro outcome
    cases outcome with
    | ok response => exact stable_pure _ loaded
    | error error => exact flight_pure _
  · apply Triple.bind (C := okOr (fun response w => Finishing leader i w ∧
      response = .article row.out) fun _ => ¬σ.Calm)
    · apply Triple.bind (get_flight app.articles rfl serializes enabled live patient)
      · intro out
        exact Triple.ret (flight_delivered out) fun _ _ holds => ⟨holds.2, congrArg _ holds.1⟩
      · exact fun _ _ _ hectic => hectic
    · rintro response w kept ⟨finishing, rfl⟩
      apply Triple.bind commit_flight _ _ w kept finishing
      · exact fun _ => Triple.ret flight_finishing fun _ _ holds => ⟨holds, rfl⟩
      · exact fun _ _ _ hectic => hectic
    · exact fun _ _ _ hectic => hectic
  · rintro response w kept ⟨finishing, rfl⟩
    apply (drainAfterCommit_flight app.cache w kept finishing).mono
    intro outcome w' _ ended
    cases outcome with
    | ok _ => exact ⟨ended, rfl⟩
    | error _ => exact ended.elim
  · intro error
    have sends : (rollback.bind fun _ => discardAfterCommit).Sends fun op =>
        op = .rollback ∨ op = .popAfterCommit :=
      Sends.bind (answer_sends (Or.inl rfl) _) fun _ =>
        Sends.bind (reply_sends (Or.inr rfl) _) fun _ => trivial
    have aborted : (σ.flight app.rt id row leader sharing).Triple i (fun _ => ¬σ.Calm)
        (rollback.bind fun _ => discardAfterCommit) fun _ _ => ¬σ.Calm := by
      apply Triple.of_sends sends (flight_pure _)
      · rintro op w (rfl | rfl) - - <;> exact ⟨trivial, trivial⟩
      · exact fun _ _ _ _ _ _ hectic _ _ => hectic
    apply aborted.mono
    · exact fun _ _ hectic => hectic
    · intro outcome _ _ hectic
      cases outcome <;> exact hectic

end

end ContentPlatform
