import ContentPlatform.World.Cached
import ContentPlatform.World.Lists

/-!
# What a callback does to the lists

Once the callback of a write has run, no list that the write concerns has a page in sight from
before its commit.
-/

set_option autoImplicit false

namespace ContentPlatform

open Program Py Prog Protocol

/-! ## Interactions that anybody may send -/

def RedisCommand.Harmless (rt : Runtime) (command : RedisCommand) : Prop :=
  ∀ (σ : Setting) (i : Pid) (w : World), ListCommand σ rt i w command

def Op.Harmless (rt : Runtime) (op : Op) : Prop :=
  ∀ command, op = .redis command → command.Harmless rt

def Op.CacheOnly (rt : Runtime) (op : Op) : Prop := op.Harmless rt ∧ op.asksDatabase = false

section
variable {rt : Runtime}

theorem harmless_of_silent {op : Op} (silent : op.asksRedis = false) : op.Harmless rt := by
  rintro command rfl
  cases silent

theorem harmless_redis {command : RedisCommand} (harmless : command.Harmless rt) :
    Op.Harmless rt (.redis command) := by
  rintro _ ⟨⟩
  exact harmless

theorem harmless_forget (id : ℤ) : Op.Harmless rt (.redis (.delete (articleKey id))) :=
  harmless_redis fun _ _ _ => .delete (Redis.aside_articleKey rt id)

theorem harmless_count (author : Option ℤ) : Op.Harmless rt (.redis (.incr (counterKey author))) :=
  harmless_redis fun _ _ _ => .incr author

theorem harmless_flight {id : ℤ} {command : RedisCommand}
    (sent : flightOf (articleKey id) command) :
    command.Harmless rt := by
  intro σ i w
  cases command with
  | get key => exact .get key
  | mget keys => exact sent.elim
  | set key body ttl nx =>
      rcases sent with ⟨rfl, -⟩ | ⟨rfl, -⟩
      · exact .aside body ttl nx (Redis.aside_articleKey rt id)
      · exact .aside body ttl nx (Redis.aside_lockKey rt _)
  | delete key =>
      obtain rfl : key = lockKey (articleKey id) := sent
      exact .delete (Redis.aside_lockKey rt _)
  | incr key => exact sent.elim

theorem harmless_local (op : Op) (isLocal : op.isBookkeeping = true) : op.Harmless rt := by
  rintro command rfl
  cases isLocal

theorem harmless_cache (op : Op) (asks : op.asksCache = true) : op.Harmless rt := by
  rintro command rfl
  cases asks

theorem handler_harmless (app : App) {request : Request}
    (other : ∀ limit after author, request ≠ .list limit after author) :
    (app.handler request).Sends (Op.Harmless app.rt) := by
  apply (handler_sends app request).mono
  rintro op footprint command rfl
  cases request with
  | get id => exact harmless_flight footprint
  | list limit after author => exact absurd rfl (other limit after author)
  | create principal title body => exact False.elim footprint
  | update principal id title body expected => exact False.elim footprint
  | delete principal id expected => exact False.elim footprint
  | register email password => exact False.elim footprint
  | login email password => exact False.elim footprint

theorem serve_harmless (app : App) {request : Request}
    (other : ∀ limit after author, request ≠ .list limit after author) :
    (app.serve request).Sends (Op.Harmless app.rt) := by
  apply getSession_sends harmless_local app.cache harmless_cache harmless_forget harmless_count
  · exact handler_harmless app other
  · exact harmless_of_silent rfl
  · exact harmless_of_silent rfl
  · exact harmless_of_silent rfl

end

section
variable {σ : Setting} {rt : Runtime} {distinct : σ.Distinct rt} {spares : σ.Spares rt} {i : Pid}

theorem Setting.lists_hosts : Hosts (σ.lists rt distinct spares) (Exec σ.allow) := by
  refine .of_world rfl fun i op w isLocal => ⟨σ.hosts.owed i op w isLocal, ?_⟩
  cases op with
  | redis command => cases isLocal
  | mysql statement => cases isLocal
  | _ => trivial

theorem Setting.lists_refines : Refines (σ.lists rt distinct spares) σ.rows :=
  ⟨fun step => step, fun kept => kept.coherent, fun moved => moved.1⟩

/-- What a request that lists nothing owes the articles table is all it owes. -/
theorem harmless_owed (other : ∀ limit after author, σ.requests i ≠ .list limit after author)
    (op : Op) (w : World) (harmless : op.Harmless rt) (owed : rowsPre σ.requests i op w.db) :
    (σ.lists rt distinct spares).pre i op w := by
  refine ⟨owed, ?_⟩
  cases op with
  | redis command => exact harmless command rfl σ i w
  | mysql statement => exact fun limit after author same => absurd same (other limit after author)
  | _ => trivial

/-- An interaction that leaves MySQL alone may be sent by anybody. -/
theorem cacheOnly_owed (op : Op) (w : World) (cacheOnly : op.CacheOnly rt) :
    (σ.lists rt distinct spares).pre i op w := by
  cases op with
  | redis command => exact ⟨trivial, cacheOnly.1 command rfl σ i w⟩
  | mysql statement => cases cacheOnly.2
  | _ => exact ⟨trivial, trivial⟩

end

/-! ## The callback of a write -/

/-- Every `INCR` of a callback increases its counter, or finds no page from before the commit in
sight in the lists of the write. -/
def Setting.Bumps (σ : Setting) (rt : Runtime) : Prop :=
  ∀ w i author c, σ.allow w i (.redis (.incr (counterKey author))) c →
    (w.store.incremented (counterKey author)).isSome = true ∨
      ∀ n, (w.db.sessions i).committed = some n → ∀ callback ∈ (w.requests i).drained,
        ¬Outdated σ rt none n w ∧ ¬Outdated σ rt (some callback.authorId) n w

/-- Request `i` has left the committed state `n`, and has seen to these lists. -/
def Telling (σ : Setting) (rt : Runtime) (i : Pid) (callback : Invalidation) (n : ℕ)
    (told : List (Option ℤ)) (w : World) : Prop :=
  Own i (fun s r => s.committed = some n ∧ r.degraded = false ∧ r.drained = [callback]) w ∧
    n ≤ w.db.version ∧ ∀ author ∈ told, Cleared σ rt author n w

/-- Request `i` has left the committed state `n`, and no list of this author has a page from
before it in sight. -/
structure Told (σ : Setting) (rt : Runtime) (i : Pid) (authorId : ℤ) (n : ℕ) (w : World) :
    Prop where
  committed : (w.db.sessions i).committed = some n
  all : Cleared σ rt none n w
  own : Cleared σ rt (some authorId) n w

section
variable {σ : Setting} {rt : Runtime} {distinct : σ.Distinct rt} {spares : σ.Spares rt} {i : Pid}
  {callback : Invalidation} {n : ℕ} {told : List (Option ℤ)} {authorId : ℤ}

theorem telling_stable :
    (σ.lists rt distinct spares).Stable i (Telling σ rt i callback n told) :=
  fun _ _ _ holds moved _ => ⟨holds.1.undisturbed moved.1, holds.2.1.trans moved.1.db.version,
    fun author member => moved.2.1 author n (holds.2.2 author member)⟩

theorem told_stable : (σ.lists rt distinct spares).Stable i (Told σ rt i authorId n) :=
  fun _ _ _ holds moved _ => ⟨by rw [moved.1.session]; exact holds.committed,
    moved.2.1 _ n holds.all, moved.2.1 _ n holds.own⟩

theorem Telling.undegraded (w : World) (telling : Telling σ rt i callback n told w) :
    Undegraded i w :=
  telling.1.2.1

theorem Told.exec {allow : Allowance} {op : Op} {w w' : World} {reply : op.Reply}
    (holds : Told σ rt i authorId n w) (kept : Listed σ rt w) (owed : ListPre σ rt i op w)
    (step : Exec allow i op w reply w') (other : op ≠ .commit) : Told σ rt i authorId n w' := by
  refine ⟨?_, holds.all.exec (kept.within none) owed step,
    holds.own.exec (kept.within (some authorId)) owed step⟩
  obtain ⟨c, -, step⟩ := step
  rcases World.exec_committed step with same | ⟨commits, -⟩
  · exact same.trans holds.committed
  · exact absurd commits other

/-- What a callback has done, harmless interactions do not undo. -/
theorem told_triple {α : Type} {p : Py α}
    (sends : p.Sends (Op.CacheOnly rt)) :
    (σ.lists rt distinct spares).Triple i (Told σ rt i authorId n) p
      fun _ => Told σ rt i authorId n := by
  apply Triple.of_sends sends told_stable
  · exact fun op w may _ _ => cacheOnly_owed op w may
  · intro op w reply w' may kept holds step _
    have owed : (σ.lists rt distinct spares).pre i op w := cacheOnly_owed op w may
    apply holds.exec kept owed.2 step
    rintro rfl
    cases may.2

theorem asks_forget (answers : Answers σ.allow) (id : ℤ) :
    Asks (σ.lists rt distinct spares) i (.redis (.delete (articleKey id)))
      (Telling σ rt i callback n told)
      (okOr (fun _ => Telling σ rt i callback n told) fun _ => False) := by
  have may : ∀ w, ListPre σ rt i (.redis (.delete (articleKey id))) w :=
    fun w => .delete (Redis.aside_articleKey rt id)
  refine ⟨fun w _ _ => ⟨trivial, may w⟩, fun w reply w' kept telling step _ => ?_⟩
  have seen := fun author member =>
    (telling.2.2 author member).exec (kept.within author) (may w) step
  obtain ⟨rfl, rfl⟩ := answers.exec step
  refine ⟨?_, telling.2.1, seen⟩
  rw [redisStep_of_not_mget fun _ impossible => by cases impossible]
  exact telling.1

/-- An `INCR` of a callback: the list is seen to, or all of them are. -/
theorem asks_bump (answers : Answers σ.allow) (bumps : σ.Bumps rt) (author : Option ℤ) :
    Asks (σ.lists rt distinct spares) i (.redis (.incr (counterKey author)))
      (Telling σ rt i callback n told)
      (okOr (fun _ => Telling σ rt i callback n (author :: told)) (Told σ rt i callback.authorId n)) := by
  have may : ∀ w, ListPre σ rt i (.redis (.incr (counterKey author))) w := fun w => .incr author
  refine ⟨fun w _ _ => ⟨trivial, may w⟩, fun w reply w' kept telling step _ => ?_⟩
  have seen := fun list (before : Cleared σ rt list n w) =>
    before.exec (kept.within list) (may w) step
  obtain ⟨c, allowed, -⟩ := id step
  obtain ⟨rfl, rfl⟩ := answers.exec step
  obtain ⟨own, past, already⟩ := telling
  have kept_own : Own i (fun s r => s.committed = some n ∧ r.degraded = false ∧
      r.drained = [callback]) (w.redisStep i (.incr (counterKey author))).2 := by
    rw [redisStep_of_not_mget fun _ impossible => by cases impossible]
    exact own
  cases counts : w.store.incremented (counterKey author) with
  | some value =>
      have answer : (w.redisStep i (.incr (counterKey author))).1 = .ok value := by
        simp only [redisStep_reply, Redis.step, counts]
      rw [answer]
      refine ⟨kept_own, past, fun list member => ?_⟩
      rcases List.mem_cons.mp member with rfl | member
      · refine ⟨past, ?_⟩
        rintro ⟨m, -, holds⟩
        have bound := (kept.within list).holds _ m (holds.redis (may w))
        have grown : (w.redisStep i (.incr (counterKey list))).2.store.reading (counterKey list) =
            w.store.reading (counterKey list) + 1 :=
          Redis.step_incr_ok (n := value) answer
        omega
      · exact seen list (already list member)
  | none =>
      have answer : (w.redisStep i (.incr (counterKey author))).1 = .error .redisError := by
        simp only [redisStep_reply, Redis.step, counts]
      rw [answer]
      rcases bumps w i author c allowed with counted | blind
      · rw [counts] at counted
        cases counted
      · obtain ⟨all, mine⟩ := blind n own.1 callback (by rw [own.2.2]; exact List.mem_singleton_self _)
        exact ⟨kept_own.1, seen none ⟨past, all⟩, seen (some callback.authorId) ⟨past, mine⟩⟩

variable (answers : Answers σ.allow) (bumps : σ.Bumps rt) (cache : ArticleCache)
  (enabled : cache.enabled = true)
include answers bumps enabled

theorem bumpGenerations_tells :
    (σ.lists rt distinct spares).Triple i (Telling σ rt i callback n [])
      (cache.bumpGenerations (some callback.authorId))
      (okOr (fun _ => Told σ rt i callback.authorId n) (Told σ rt i callback.authorId n)) := by
  apply whenLive_triple Setting.lists_hosts answers cache Telling.undegraded telling_stable
  · intro _
    have both : (σ.lists rt distinct spares).Triple i (Telling σ rt i callback n [])
        (do
          let _ ← redis (.incr generationKey)
          let _ ← redis (.incr (authorGenerationKey callback.authorId)) : Py Unit)
        (okOr (fun _ => Told σ rt i callback.authorId n) (Told σ rt i callback.authorId n)) := by
      apply Triple.bind (redis_triple telling_stable (fun _ => telling_stable) told_stable
        (asks_bump answers bumps none))
      · intro _
        apply Triple.bind (redis_triple telling_stable (fun _ => telling_stable) told_stable
          (asks_bump answers bumps (some callback.authorId)))
        · intro _
          refine Triple.ret telling_stable ?_
          intro w _ telling
          exact ⟨telling.1.1, telling.2.2 none (by simp), telling.2.2 (some callback.authorId) (by simp)⟩
        · exact fun _ _ _ failed => failed
      · exact fun _ _ _ failed => failed
    have after : ∀ {α : Type} {p : Py α}, p.Sends (Op.CacheOnly rt) →
        (σ.lists rt distinct spares).Triple i (Told σ rt i callback.authorId n) p
          (okOr (fun _ => Told σ rt i callback.authorId n) (Told σ rt i callback.authorId n)) := by
      intro α p sends
      apply (told_triple sends).mono fun _ _ holds => holds
      intro outcome _ _ ended
      cases outcome <;> exact ended
    have silent : ∀ {op : Op}, op.asksRedis = false → op.asksDatabase = false → op.CacheOnly rt :=
      fun noCommand aside => ⟨harmless_of_silent noCommand, aside⟩
    have asked : (σ.lists rt distinct spares).Triple i (Telling σ rt i callback n [])
        (ArticleCache.answered .incr (do
          let _ ← redis (.incr generationKey)
          let _ ← redis (.incr (authorGenerationKey callback.authorId)) : Py Unit))
        (okOr (fun _ => Told σ rt i callback.authorId n) (Told σ rt i callback.authorId n)) := by
      apply Triple.attempt_bind both
      intro outcome
      cases outcome with
      | ok _ => exact after ⟨silent rfl rfl, fun _ => trivial⟩
      | error error =>
          dsimp only
          split
          · exact after ⟨silent rfl rfl, fun _ => ⟨silent rfl rfl, fun _ =>
              ⟨silent rfl rfl, fun _ => trivial⟩⟩⟩
          · exact after trivial
    apply Triple.bind asked
    · exact fun _ => Triple.ret told_stable fun _ _ holds => holds
    · exact fun _ _ _ failed => failed
  · intro disabled
    cases enabled.symm.trans disabled

theorem runInvalidation_tells :
    (σ.lists rt distinct spares).Triple i (Telling σ rt i callback n [])
      (runInvalidation cache callback)
      (okOr (fun _ => Told σ rt i callback.authorId n) (Told σ rt i callback.authorId n)) := by
  have given : (σ.lists rt distinct spares).Triple i (Telling σ rt i callback n [])
      (invalidateGiven cache callback.articleId)
      (okOr (fun _ => Telling σ rt i callback n []) fun _ => False) := by
    cases callback.articleId with
    | none => exact Triple.ret telling_stable fun _ _ holds => holds
    | some articleId =>
        apply effect_triple Setting.lists_hosts answers cache Telling.undegraded telling_stable
          telling_stable (fun _ => asks_forget answers articleId)
        exact fun _ _ holds => holds
  apply Triple.bind given
  · exact fun _ => bumpGenerations_tells answers bumps cache enabled
  · exact fun _ _ _ impossible => impossible.elim

theorem drainAfterCommit_tells :
    (σ.lists rt distinct spares).Triple i
      (fun w => Own i (fun s r => s.committed = some n ∧ r.degraded = false ∧
        r.queue = [callback]) w ∧ n ≤ w.db.version)
      (drainAfterCommit cache) fun _ => Told σ rt i callback.authorId n := by
  have stable : (σ.lists rt distinct spares).Stable i fun w =>
      Own i (fun s r => s.committed = some n ∧ r.degraded = false ∧ r.queue = [callback]) w ∧
        n ≤ w.db.version :=
    fun _ _ _ holds moved _ => ⟨holds.1.undisturbed moved.1, holds.2.trans moved.1.db.version⟩
  refine Triple.call (fun callbacks w => Telling σ rt i callback n [] w ∧ callbacks = [callback])
    stable (fun _ _ _ => ⟨trivial, trivial⟩) (fun w reply w' _ holds step _ => ?_) fun callbacks => ?_
  · obtain ⟨c, -, step⟩ := step
    obtain ⟨rfl, rfl⟩ := Prod.mk.inj (Option.some.inj step)
    obtain ⟨⟨committed, degraded, queue⟩, past⟩ := holds
    refine ⟨⟨?_, past, fun author member => by cases member⟩, queue⟩
    show (w.db.sessions i).committed = some n ∧ _
    rw [World.setRequest_requests]
    exact ⟨committed, degraded, queue⟩
  · rintro w kept ⟨telling, rfl⟩
    refine (Triple.attempt_bind (runInvalidation_tells answers bumps cache enabled)
      fun outcome => ?_) w kept telling
    cases outcome with
    | ok _ => exact told_triple trivial
    | error error =>
        dsimp only
        split
        · exact told_triple trivial
        · exact told_triple trivial

end

/-! ## The whole request -/

/-- How a request ends: a write that succeeds has left no page from before its commit in sight. -/
def Announces (σ : Setting) (rt : Runtime) (i : Pid) : Except Exc Response → World → Prop
  | .ok response, w => (σ.requests i).writes = true →
      ∃ n ≤ w.db.version, ∃ authorId, Told σ rt i authorId n w ∧
        (σ.requests i).Stands response authorId (w.db.history n)
  | .error _, _ => True

def Awaiting (i : Pid) : World → Prop := Own i fun s r => Fresh s r ∧ r.degraded = false

section
variable {σ : Setting} {rt : Runtime} {distinct : σ.Distinct rt} {spares : σ.Spares rt} {i : Pid}

theorem Announces.stable (outcome : Except Exc Response) :
    (σ.lists rt distinct spares).Stable i (Announces σ rt i outcome) := by
  intro w w' kept tells moved kept'
  cases outcome with
  | error error => trivial
  | ok response =>
      intro writes
      obtain ⟨n, past, authorId, told, stands⟩ := tells writes
      refine ⟨n, past.trans moved.1.db.version, authorId, told_stable w w' kept told moved kept', ?_⟩
      rw [moved.1.db.history n past]
      exact stands

theorem sends_all {α : Type} (p : Py α) : p.Sends fun _ => True := by
  induction p with
  | ret value => trivial
  | raise error => trivial
  | call op next ih => exact ⟨trivial, ih⟩

theorem writes_list_nothing (writes : (σ.requests i).writes = true) (limit : ℤ)
    (after : Option Position) (author : Option ℤ) : σ.requests i ≠ .list limit after author := by
  intro request
  rw [request] at writes
  cases writes

/-- A write switches its cache off in none of its statements. -/
theorem untilCommit_undegraded (app : App) (writes : (σ.requests i).writes = true) :
    (untilCommit (app.handler (σ.requests i))).Sends fun op => op ≠ .degradeCache := by
  have silent : ∀ command, ¬(σ.requests i).commands app.rt command := by
    intro command sent
    cases request : σ.requests i <;> rw [request] at writes sent <;>
      first | exact sent | cases writes
  apply Sends.bind
  · apply (handler_sends app (σ.requests i)).mono
    rintro op footprint rfl
    obtain ⟨command, sent⟩ := footprint
    exact silent command sent
  · intro response
    exact Sends.bind (answer_sends (fun impossible => by cases impossible) _) fun _ => trivial

/-- In a protocol over that of the articles table, a write leaves its cache on until it commits. -/
theorem untilCommit_awaiting {P : Protocol Op Op.Reply World} (refines : Refines P σ.rows)
    (app : App) (writes : (σ.requests i).writes = true) {allowed : Op → Prop}
    (sends : (untilCommit (app.handler (σ.requests i))).Sends allowed)
    (owed : ∀ op w, allowed op → P.inv w → rowsPre σ.requests i op w.db → P.pre i op w) :
    P.Triple i (Awaiting i) (untilCommit (app.handler (σ.requests i)))
      fun outcome w => Closed σ i outcome w ∧ Undegraded i w := by
  have closes : P.Triple i (Own i Fresh) (untilCommit (app.handler (σ.requests i))) (Closed σ i) :=
    Triple.refine refines sends owed (untilCommit_triple app)
  have stable : P.Stable i (Undegraded i) := by
    intro w w' _ undegraded moved _
    rw [Undegraded, (refines.rely moved).request]
    exact undegraded
  apply (Triple.frame (untilCommit_undegraded app writes) stable _ closes).mono
  · exact fun _ _ awaiting => ⟨awaiting.1, awaiting.2⟩
  · exact fun _ _ _ ended => ended
  · intro op w reply w' kept _ undegraded step
    obtain ⟨c, -, step⟩ := refines.exec step
    exact (World.exec_undegraded step kept).trans undegraded

/-- The drain of a write keeps the committed state that it left. -/
theorem drain_announces (answers : Answers σ.allow) (bumps : σ.Bumps rt) (app : App)
    (enabled : app.cacheEnabled = true) (writes : (σ.requests i).writes = true)
    (response : Response) :
    (σ.lists rt distinct spares).Triple i
      (fun w => Closed σ i (.ok response) w ∧ Undegraded i w) (drainAfterCommit app.cache)
      fun outcome => Announces σ rt i (outcome.map fun _ => response) := by
  intro w kept closed
  obtain ⟨⟨⟨n, past, committed, -, rest⟩, -⟩, undegraded⟩ := closed
  rw [if_pos writes] at rest
  obtain ⟨authorId, stands, queue⟩ := rest
  have lasts : (σ.lists rt distinct spares).Stable i fun w => n ≤ w.db.version ∧
      (σ.requests i).Stands response authorId (w.db.history n) := by
    intro w w' _ holds moved _
    refine ⟨holds.1.trans moved.1.db.version, ?_⟩
    rw [moved.1.db.history n holds.1]
    exact holds.2
  have author : ((σ.requests i).invalidation authorId).authorId = authorId := by
    cases σ.requests i <;> rfl
  have tells : (σ.lists rt distinct spares).Triple i
      (fun w => Own i (fun s r => s.committed = some n ∧ r.degraded = false ∧
        r.queue = [(σ.requests i).invalidation authorId]) w ∧ n ≤ w.db.version)
      (drainAfterCommit app.cache) fun _ => Told σ rt i authorId n := by
    apply (drainAfterCommit_tells answers bumps app.cache enabled).mono
    · exact fun _ _ holds => holds
    · intro outcome w _ told
      rwa [author] at told
  have sent : (drainAfterCommit app.cache).Sends fun _ => True := sends_all _
  have drained := Triple.frame sent lasts (fun op w reply w' _ _ holds step => ?_) tells
  · apply (drained w kept ⟨⟨⟨committed, undegraded, queue⟩, past⟩, past, stands⟩).mono
    intro outcome w' _ ended
    cases outcome with
    | error error => trivial
    | ok _ => exact fun _ => ⟨n, ended.2.1, authorId, ended.1, ended.2.2⟩
  · obtain ⟨c, -, step⟩ := step
    have extended := exec_extends step
    refine ⟨holds.1.trans extended.version, ?_⟩
    rw [extended.history n holds.1]
    exact holds.2

/-- A request that lists nothing keeps the rules of the lists. -/
theorem other_lists (answers : Answers σ.allow) (bumps : σ.Bumps rt) (app : App)
    (same : app.rt = rt) (enabled : app.cacheEnabled = true)
    (other : ∀ limit after author, σ.requests i ≠ .list limit after author) :
    (σ.lists rt distinct spares).Triple i (Awaiting i) (app.serve (σ.requests i))
      (Announces σ rt i) := by
  cases writes : (σ.requests i).writes with
  | false =>
      subst same
      have served : (σ.lists app.rt distinct spares).Triple i (Own i Fresh)
          (app.serve (σ.requests i)) (Served σ i) :=
        Triple.refine Setting.lists_refines (serve_harmless app other)
          (fun op w sent _ owed => harmless_owed other op w sent owed) (serve_triple app)
      apply served.mono fun _ _ awaiting => awaiting.1
      intro outcome w _ _
      cases outcome with
      | error error => trivial
      | ok response =>
          intro impossible
          rw [writes] at impossible
          cases impossible
  | true =>
      subst same
      have harmless : (untilCommit (app.handler (σ.requests i))).Sends (Op.Harmless app.rt) := by
        apply Sends.bind (handler_harmless app other)
        intro response
        exact Sends.bind (answer_sends (harmless_of_silent rfl) _) fun _ => trivial
      have closes : (σ.lists app.rt distinct spares).Triple i (Awaiting i)
          (untilCommit (app.handler (σ.requests i))) fun outcome w =>
            Closed σ i outcome w ∧ Undegraded i w :=
        untilCommit_awaiting Setting.lists_refines app writes harmless
          fun op w sent _ owed => harmless_owed other op w sent owed
      apply getSession_triple app.cache Announces.stable closes
        (drain_announces answers bumps app enabled writes)
      intro error
      have rolled : (rollback.bind fun _ => discardAfterCommit).Sends fun op =>
          op.asksRedis = false ∧ ∀ statement, op ≠ .mysql statement := by
        apply Sends.bind (answer_sends ⟨rfl, fun _ impossible => by cases impossible⟩ _)
        intro _
        exact Sends.bind (reply_sends ⟨rfl, fun _ impossible => by cases impossible⟩ _)
          fun _ => trivial
      have aborted : (σ.lists app.rt distinct spares).Triple i (fun _ => True)
          (rollback.bind fun _ => discardAfterCommit) fun _ _ => True := by
        apply Triple.of_sends rolled fun _ _ _ _ _ _ => trivial
        · intro op w may _ _
          cases op with
          | mysql statement => exact absurd rfl (may.2 statement)
          | redis command => cases may.1
          | _ => exact ⟨trivial, trivial⟩
        · exact fun _ _ _ _ _ _ _ _ _ => trivial
      apply aborted.mono fun _ _ _ => trivial
      intro outcome w _ _
      cases outcome <;> trivial

end

end ContentPlatform
