import ContentPlatform.World.Frame

/-!
# What each method asks for

A method sends what its parts send.  Requests that leave the state alone are
always among `allowed`; the others are named one by one.
-/

set_option autoImplicit false

namespace ContentPlatform

open Program Py Prog

def Op.asksCache : Op → Bool
  | .cacheDegraded | .degradeCache | .breakerAllow .redis | .breakerSuccess .redis
  | .breakerFailure .redis | .secondsUntilProbe .redis => true
  | _ => false

def Op.readsAttribute : Op → Bool
  | .articleAttributes _ | .userAttributes _ => true
  | _ => false

/-- What leaves the state alone and asks neither the cache nor an instance. -/
def Op.isBookkeeping (op : Op) : Bool := op.isLocal && !op.asksCache && !op.readsAttribute

section
variable {α : Type} {allowed : Op → Prop}
  (locals : ∀ op, op.isBookkeeping = true → allowed op)

include locals

/-! ## Guarded calls -/

variable {policy : DependencyPolicy} {operation : Py α}
  {onRetry : Option (Py Unit)}

theorem guardedCall_sends {retry : Bool} (first : operation.Sends allowed)
    (hook : ∀ retry, onRetry = some retry → retry.Sends allowed) :
    (guardedCall policy .mysql operation onRetry retry).Sends allowed := by
  have raises : ∀ error : Exc, Sends allowed (.raise error : Py α) := fun _ => trivial
  refine Sends.bind (reply_sends (locals _ rfl) _) fun admitted => ?_
  cases admitted with
  | false => exact Sends.bind (reply_sends (locals _ rfl) _) fun _ => raises _
  | true =>
      have hook' : ∀ given, (if retry then onRetry else none) = some given →
          given.Sends allowed := by
        intro given same
        split at same
        · exact hook given same
        · cases same
      refine Sends.bind (timeoutBlock_sends (retryLoop_sends (fun _ => locals _ rfl)
        (fun _ => locals _ rfl) first hook' _ 0)).attempt fun result => ?_
      cases result with
      | ok value => exact Sends.bind (reply_sends (locals _ rfl) _) fun _ => trivial
      | error error =>
          have other : Sends allowed (if error.isException then
              (do breakerSuccess .mysql; .raise error : Py α) else .raise error) := by
            split
            · exact Sends.bind (reply_sends (locals _ rfl) _) fun _ => trivial
            · trivial
          have failure : ∀ error : Exc,
              Sends allowed (do breakerFailure .mysql; .raise error : Py α) :=
            fun _ => Sends.bind (reply_sends (locals _ rfl) _) fun _ => trivial
          cases error with
          | timeoutError => exact Sends.bind (reply_sends (locals _ rfl) _) fun _ => failure _
          | domain kind message =>
              cases kind with
              | dependencyUnavailable retryAfter => exact failure _
              | upstreamTimeout retryAfter =>
                  exact Sends.bind (reply_sends (locals _ rfl) _) fun _ => failure _
              | _ => exact other
          | _ => exact other

theorem guardedRead_sends {statement : Statement} (may : allowed (.mysql statement))
    (rollback : allowed .rollback) :
    (guardedRead policy .mysql (mysql statement)).Sends allowed := by
  refine guardedCall_sends locals (answer_sends may _) fun retry same => ?_
  obtain rfl := Option.some.inj same
  exact answer_sends rollback _

theorem guardedWrite_sends (first : operation.Sends allowed) :
    (guardedWrite policy .mysql operation).Sends allowed :=
  guardedCall_sends locals first fun _ impossible => nomatch impossible

/-! ## Cache methods -/

variable (cache : ArticleCache)
  (touch : ∀ op, op.asksCache = true → allowed op)
include touch

omit locals in
theorem live_sends : cache.live.Sends allowed := by
  unfold ArticleCache.live
  split
  · refine call_sends (touch _ rfl) fun degraded => ?_
    cases degraded with
    | true => trivial
    | false => exact reply_sends (touch _ rfl) _
  · trivial

theorem answered_sends {command : Py α} {operation : CacheOperation}
    (first : command.Sends allowed) :
    (ArticleCache.answered operation command).Sends allowed := by
  refine Sends.bind first.attempt fun result => ?_
  cases result with
  | ok value => exact Sends.bind (reply_sends (touch _ rfl) _) fun _ => trivial
  | error error =>
      dsimp only
      split
      · exact Sends.bind (Sends.bind (reply_sends (touch _ rfl) _) fun _ =>
          Sends.bind (reply_sends (touch _ rfl) _) fun _ =>
            reply_sends (locals _ rfl) _) fun _ => trivial
      · trivial

omit locals in
theorem whenLive_sends {p q : Py α} (first : p.Sends allowed) (otherwise : q.Sends allowed) :
    (cache.live.bind fun live => if live then p else q).Sends allowed := by
  refine Sends.bind (live_sends cache touch) fun live => ?_
  cases live with
  | true => exact first
  | false => exact otherwise

theorem peek_sends (key : String) (may : allowed (.redis (.get key))) :
    (cache.peek key).Sends allowed := by
  refine whenLive_sends cache touch ?_ trivial
  refine Sends.bind (answered_sends locals touch (answer_sends may _)) fun result => ?_
  cases result <;> trivial

theorem fetch_sends (key : String) (entity : CacheEntity) (may : allowed (.redis (.get key))) :
    (cache.fetch key entity).Sends allowed := by
  refine whenLive_sends cache touch ?_ trivial
  refine Sends.bind (answered_sends locals touch (answer_sends may _)) fun result => ?_
  rcases result with _ | _ | value
  · trivial
  · exact Sends.bind (reply_sends (locals _ rfl) _) fun _ => trivial
  · exact Sends.bind (reply_sends (locals _ rfl) _) fun _ => trivial

theorem getGenerations_sends (authorId : Option ℤ)
    (may : allowed (.redis (.mget (ArticleCache.generationKeys authorId)))) :
    (cache.getGenerations authorId).Sends allowed := by
  refine whenLive_sends cache touch ?_ trivial
  refine Sends.bind (answered_sends locals touch (answer_sends may _)) fun result => ?_
  cases result <;> trivial

theorem store_sends (key body : String) (ttlSeconds : ℤ)
    (may : allowed (.redis (.set key body (max 1 ttlSeconds) false))) :
    (cache.store key body ttlSeconds).Sends allowed :=
  whenLive_sends cache touch
    (Sends.bind (answered_sends locals touch (answer_sends may _)) fun _ => trivial) trivial

theorem invalidateArticle_sends (articleId : ℤ)
    (may : allowed (.redis (.delete (articleKey articleId)))) :
    (cache.invalidateArticle articleId).Sends allowed :=
  whenLive_sends cache touch
    (Sends.bind (answered_sends locals touch (answer_sends may _)) fun _ => trivial) trivial

theorem bumpGenerations_sends (authorId : Option ℤ) (may : ∀ author, author = none ∨
      author = authorId → allowed (.redis (.incr (counterKey author)))) :
    (cache.bumpGenerations authorId).Sends allowed := by
  refine whenLive_sends cache touch ?_ trivial
  refine Sends.bind (answered_sends locals touch ?_) fun _ => trivial
  refine Sends.bind (answer_sends (may none (Or.inl rfl)) _) fun _ => ?_
  cases authorId with
  | none => trivial
  | some authorId =>
      exact Sends.bind (answer_sends (may (some authorId) (Or.inr rfl)) _) fun _ => trivial

theorem acquireLock_sends (key : String) (ttlSeconds : ℤ)
    (may : allowed (.redis (.set (lockKey key) "1" (max 1 ttlSeconds) true))) :
    (cache.acquireLock key ttlSeconds).Sends allowed := by
  refine whenLive_sends cache touch ?_ trivial
  refine Sends.bind (answered_sends locals touch (answer_sends may _)) fun result => ?_
  cases result <;> trivial

theorem releaseLock_sends (key : String) (may : allowed (.redis (.delete (lockKey key)))) :
    (cache.releaseLock key).Sends allowed :=
  whenLive_sends cache touch
    (Sends.bind (answered_sends locals touch (answer_sends may _)) fun _ => trivial) trivial

/-! ### Single-flight reads -/

variable (service : ArticleService)

theorem pollUntil_sends (spent : allowed .outOfFuel) {key : String}
    (may : allowed (.redis (.get key))) (deadline : ℚ) (polls : ℕ) :
    (service.pollUntil key deadline polls).Sends allowed := by
  induction polls with
  | zero =>
      rw [ArticleService.pollUntil]
      refine Sends.bind (reply_sends (locals _ rfl) _) fun now => ?_
      split
      · exact ⟨spent, fun never => nomatch never⟩
      · trivial
  | succ polls ih =>
      rw [ArticleService.pollUntil]
      refine Sends.bind (reply_sends (locals _ rfl) _) fun now => ?_
      split
      · refine Sends.bind (answer_sends (locals _ rfl) _) fun _ => ?_
        refine Sends.bind (peek_sends locals service.cache touch key may) fun body => ?_
        cases body with
        | some body => trivial
        | none => exact ih
      · trivial

theorem waitUnlessWon_sends (spent : allowed .outOfFuel) {key : String}
    (may : allowed (.redis (.get key))) (won : Bool) :
    (service.waitUnlessWon won key).Sends allowed := by
  cases won with
  | true => trivial
  | false =>
      exact Sends.bind (reply_sends (locals _ rfl) _) fun _ =>
        pollUntil_sends locals touch service spent may _ _

theorem releaseIfWon_sends {key : String} (may : allowed (.redis (.delete (lockKey key))))
    (won : Bool) : (service.releaseIfWon won key).Sends allowed := by
  cases won with
  | true => exact releaseLock_sends locals service.cache touch key may
  | false => trivial

/-! ### Around a handler -/

variable (forget : ∀ id, allowed (.redis (.delete (articleKey id))))
  (count : ∀ author, allowed (.redis (.incr (counterKey author))))
include forget count

theorem runInvalidation_sends (callback : Invalidation) :
    (runInvalidation cache callback).Sends allowed := by
  apply Sends.bind
  · cases callback.articleId with
    | none => trivial
    | some id => exact invalidateArticle_sends locals cache touch id (forget id)
  · intro _
    exact bumpGenerations_sends locals cache touch _ fun author _ => count author

theorem drainAfterCommit_sends (pops : allowed .popAfterCommit) :
    (drainAfterCommit cache).Sends allowed := by
  apply Sends.bind (reply_sends pops _)
  intro callbacks
  induction callbacks with
  | nil => trivial
  | cons callback rest ih =>
      apply Sends.bind (runInvalidation_sends locals cache touch forget count callback).attempt
      intro result
      cases result with
      | ok _ => exact ih
      | error error =>
          dsimp only
          split
          · exact ih
          · trivial

theorem getSession_sends {handler : Py α} (first : handler.Sends allowed)
    (commits : allowed .commit)
    (pops : allowed .popAfterCommit) (rollbacks : allowed .rollback) :
    (getSession cache handler).Sends allowed := by
  have whole : (untilCommit handler).Sends allowed :=
    Sends.bind first fun _ => Sends.bind (answer_sends commits _) fun _ => trivial
  apply Sends.bind whole.attempt
  intro outcome
  cases outcome with
  | ok value =>
      exact Sends.bind (drainAfterCommit_sends locals cache touch forget count pops) fun _ => trivial
  | error error =>
      apply Sends.bind (answer_sends rollbacks _)
      intro _
      apply Sends.bind
      · exact Sends.bind (reply_sends pops _) fun _ => trivial
      · exact fun _ => trivial

end

/-! ## Requests -/

/-- What a handler may ask for: these statements and these Redis commands, and neither the end
of its transaction nor its queue of invalidations.  Only who asks Redis asks its breaker and
degrades the cache. -/
def Footprint (statements : Statement → Prop) (commands : RedisCommand → Prop)
    (queues : Prop) : Op → Prop
  | .mysql statement => statements statement
  | .redis command => commands command
  | .cacheDegraded | .degradeCache | .breakerAllow .redis | .breakerSuccess .redis
  | .breakerFailure .redis | .secondsUntilProbe .redis => ∃ command, commands command
  | .afterCommit _ => queues
  | .commit | .popAfterCommit => False
  | _ => True

section
variable {statements : Statement → Prop} {commands : RedisCommand → Prop} {queues : Prop}

theorem footprint_local (op : Op) (isLocal : op.isBookkeeping = true) :
    Footprint statements commands queues op := by
  cases op with
  | breakerAllow dependency => cases dependency <;> trivial
  | breakerSuccess dependency => cases dependency <;> trivial
  | breakerFailure dependency => cases dependency <;> trivial
  | secondsUntilProbe dependency => cases dependency <;> trivial
  | _ => trivial

/-- Who sends a command to Redis may ask the rest of the cache too. -/
theorem footprint_cache {command : RedisCommand} (may : commands command) {op : Op}
    (cache : op.asksCache = true) : Footprint statements commands queues op := by
  cases op with
  | cacheDegraded => exact ⟨command, may⟩
  | degradeCache => exact ⟨command, may⟩
  | breakerAllow dependency => cases dependency <;> first | exact ⟨command, may⟩ | trivial
  | breakerSuccess dependency => cases dependency <;> first | exact ⟨command, may⟩ | trivial
  | breakerFailure dependency => cases dependency <;> first | exact ⟨command, may⟩ | trivial
  | secondsUntilProbe dependency => cases dependency <;> first | exact ⟨command, may⟩ | trivial
  | _ => cases cache

theorem jitteredTtl_sends (base : ℤ) (jitter : ℚ) :
    (jitteredTtl base jitter).Sends (Footprint statements commands queues) := by
  unfold jitteredTtl
  split
  · trivial
  · exact Sends.bind (reply_sends trivial _) fun _ => trivial

variable (service : ArticleService)

theorem articleGet_sends (rt : Runtime) {articleId : ℤ}
    (may : statements (.selectArticle articleId)) :
    (ArticleRepository.get rt articleId).Sends (Footprint statements commands queues) :=
  guardedRead_sends footprint_local may trivial

theorem load_sends {articleId : ℤ} (may : statements (.selectArticle articleId)) :
    (service.load articleId).Sends (Footprint statements commands queues) := by
  refine Sends.bind (articleGet_sends service.rt may) fun found => ?_
  cases found <;> trivial

theorem raiseConflictOrNotFound_sends {α : Type} {articleId : ℤ}
    (may : statements (.selectArticle articleId)) :
    (service.raiseConflictOrNotFound articleId : Py α).Sends
      (Footprint statements commands queues) := by
  refine Sends.bind (articleGet_sends service.rt may) fun found => ?_
  cases found <;> trivial

theorem articleAttributes_sends (articleId : ℤ) :
    (articleAttributes articleId).Sends (Footprint statements commands queues) :=
  answer_sends trivial _

theorem userAttributes_sends (userId : ℤ) :
    (userAttributes userId).Sends (Footprint statements commands queues) :=
  answer_sends trivial _

theorem authorize_sends (actor article : ℤ) :
    (ArticleService.authorize actor article).Sends (Footprint statements commands queues) := by
  refine Sends.bind (articleAttributes_sends article) fun row => ?_
  refine Sends.bind (userAttributes_sends actor) fun user => ?_
  split
  · refine Sends.bind (userAttributes_sends actor) fun again => ?_
    split <;> trivial
  · trivial

theorem invalidateAfterCommit_sends (authorId : ℤ) (articleId : Option ℤ) (may : queues) :
    (service.invalidateAfterCommit authorId articleId).Sends
      (Footprint statements commands queues) := by
  unfold ArticleService.invalidateAfterCommit
  split
  · exact reply_sends may _
  · trivial

/-! ### Reads through the cache -/

/-- The commands of a single-flight read of one key. -/
structure SingleFlight (commands : RedisCommand → Prop) (key : String) : Prop where
  get : commands (.get key)
  set : ∀ body ttl, commands (.set key body ttl false)
  lock : ∀ ttl, commands (.set (lockKey key) "1" ttl true)
  unlock : commands (.delete (lockKey key))

theorem get_sends {articleId : ℤ} (may : statements (.selectArticle articleId))
    (flight : SingleFlight commands (articleKey articleId)) :
    (service.get articleId).Sends (Footprint statements commands queues) := by
  have locals : ∀ op : Op, op.isBookkeeping = true →
      Footprint statements commands queues op := footprint_local
  have touch : ∀ op : Op, op.asksCache = true → Footprint statements commands queues op :=
    fun _ => footprint_cache flight.get
  refine Sends.bind (fetch_sends locals service.cache touch _ _ flight.get) fun body => ?_
  split
  · trivial
  refine Sends.bind (acquireLock_sends locals service.cache touch _ _ (flight.lock _)) fun won => ?_
  refine Sends.bind (waitUnlessWon_sends locals touch service trivial flight.get won) fun waited => ?_
  split
  · trivial
  refine Sends.tryFinally ?_ (releaseIfWon_sends locals touch service flight.unlock won)
  refine Sends.bind (load_sends service may) fun article => ?_
  refine Sends.bind (articleAttributes_sends article) fun row => ?_
  refine Sends.bind (jitteredTtl_sends _ _) fun ttl => ?_
  exact Sends.bind (store_sends locals service.cache touch _ _ _ (flight.set _ _)) fun _ => trivial

theorem loadPage_sends {limit : ℤ} {after : Option Position} {author : Option ℤ}
    (may : statements (.selectPage (limit + 1) after author)) :
    (service.loadPage limit after author).Sends (Footprint statements commands queues) :=
  Sends.bind (guardedRead_sends footprint_local may trivial) fun _ =>
    sends_ofExcept _

theorem listArticles_sends {limit : ℤ} {after : Option Position} {author : Option ℤ}
    (may : statements (.selectPage (limit + 1) after author))
    (generations : commands (.mget (ArticleCache.generationKeys author)))
    (flight : ∀ generation, SingleFlight commands
      (listKey service.rt generation author limit (cursorParts after))) :
    (service.listArticles limit after author).Sends (Footprint statements commands queues) := by
  have locals : ∀ op : Op, op.isBookkeeping = true →
      Footprint statements commands queues op := footprint_local
  have touch : ∀ op : Op, op.asksCache = true → Footprint statements commands queues op :=
    fun _ => footprint_cache generations
  refine Sends.bind (getGenerations_sends locals service.cache touch author generations)
    fun counters => ?_
  refine Sends.bind (fetch_sends locals service.cache touch _ _ (flight _).get) fun body => ?_
  refine Sends.bind (sends_ofExcept _) fun cached => ?_
  split
  · trivial
  refine Sends.bind (acquireLock_sends locals service.cache touch _ _ ((flight _).lock _))
    fun won => ?_
  refine Sends.bind (waitUnlessWon_sends locals touch service trivial (flight _).get won)
    fun waited => ?_
  refine Sends.bind (sends_ofExcept _) fun found => ?_
  split
  · trivial
  refine Sends.tryFinally ?_ (releaseIfWon_sends locals touch service (flight _).unlock won)
  refine Sends.bind (loadPage_sends service may) fun page => ?_
  refine Sends.bind (jitteredTtl_sends _ _) fun ttl => ?_
  exact Sends.bind (store_sends locals service.cache touch _ _ _ ((flight _).set _ _))
    fun _ => trivial

/-! ### Writes and accounts, which never ask Redis -/

theorem userRead_sends (rt : Runtime) (statement : Statement) (may : statements statement) :
    (guardedRead (rt.policy .mysql) .mysql (mysql statement)).Sends
      (Footprint statements commands queues) :=
  guardedRead_sends footprint_local may trivial

theorem create_sends {title body : String} (insert : ∀ authorId,
      statements (.insertArticle authorId title body))
    (refresh : ∀ id, statements (.refreshArticle id)) (queue : queues) (actor : ℤ) :
    (service.create actor title body).Sends (Footprint statements commands queues) := by
  refine Sends.bind (userAttributes_sends actor) fun _ => ?_
  refine Sends.bind (userAttributes_sends actor) fun user => ?_
  refine Sends.bind (guardedWrite_sends footprint_local ?_) fun article => ?_
  · refine Sends.bind (answer_sends (insert _) _) fun articleId => ?_
    exact Sends.bind (answer_sends (refresh _) _) fun _ => trivial
  refine Sends.bind (userAttributes_sends actor) fun user => ?_
  refine Sends.bind (invalidateAfterCommit_sends service _ _ queue) fun _ => ?_
  exact Sends.bind (articleAttributes_sends article) fun _ => trivial

theorem updateCas_sends (rt : Runtime) {id : ℤ} {expected : DateTime} {title body : String}
    (may : statements (.updateArticle id expected title body)) :
    (ArticleRepository.updateCas rt id expected title body).Sends
      (Footprint statements commands queues) := by
  refine guardedWrite_sends footprint_local ?_
  refine Sends.bind (answer_sends may _) fun count => ?_
  exact Sends.bind (reply_sends trivial _) fun _ => trivial

theorem softDeleteCas_sends (rt : Runtime) {id : ℤ} {expected : DateTime}
    (may : ∀ deletedAt, statements (.softDeleteArticle id expected deletedAt)) :
    (ArticleRepository.softDeleteCas rt id expected).Sends
      (Footprint statements commands queues) := by
  refine guardedWrite_sends footprint_local ?_
  refine Sends.bind (reply_sends trivial _) fun deletedAt => ?_
  refine Sends.bind (answer_sends (may _) _) fun count => ?_
  exact Sends.bind (reply_sends trivial _) fun _ => trivial

theorem update_sends {id : ℤ} {title body : String} {expected : DateTime}
    (select : statements (.selectArticle id))
    (compare : statements (.updateArticle id expected title body)) (queue : queues) (actor : ℤ) :
    (service.update actor id title body expected).Sends
      (Footprint statements commands queues) := by
  refine Sends.bind (load_sends service select) fun article => ?_
  refine Sends.bind (authorize_sends actor article) fun _ => ?_
  refine Sends.bind (articleAttributes_sends article) fun row => ?_
  refine Sends.bind (updateCas_sends service.rt compare) fun count => ?_
  split
  · exact raiseConflictOrNotFound_sends service select
  · refine Sends.bind (invalidateAfterCommit_sends service _ _ queue) fun _ => ?_
    refine Sends.bind (load_sends service select) fun article => ?_
    exact Sends.bind (articleAttributes_sends article) fun _ => trivial

theorem delete_sends {id : ℤ} {expected : DateTime} (select : statements (.selectArticle id))
    (compare : ∀ deletedAt, statements (.softDeleteArticle id expected deletedAt))
    (queue : queues) (actor : ℤ) :
    (service.delete actor id expected).Sends (Footprint statements commands queues) := by
  refine Sends.bind (load_sends service select) fun article => ?_
  refine Sends.bind (authorize_sends actor article) fun _ => ?_
  refine Sends.bind (articleAttributes_sends article) fun row => ?_
  refine Sends.bind (softDeleteCas_sends service.rt compare) fun count => ?_
  split
  · exact raiseConflictOrNotFound_sends service select
  · exact invalidateAfterCommit_sends service _ _ queue

theorem hashPassword_sends (password : String) :
    (hashPassword password).Sends (Footprint statements commands queues) :=
  answer_sends trivial _

theorem verifyPassword_sends (password passwordHash : String) :
    (verifyPassword password passwordHash).Sends (Footprint statements commands queues) :=
  answer_sends trivial _

theorem dummyHash_sends : dummyHash.Sends (Footprint statements commands queues) := by
  refine Sends.bind (reply_sends trivial _) fun hash => ?_
  cases hash with
  | some hash => trivial
  | none => exact Sends.bind (hashPassword_sends _) fun _ => reply_sends trivial _

theorem register_sends (rt : Runtime) (email password : String)
    (byEmail : statements (.selectUserByEmail email)) (role : statements (.selectRole "user"))
    (insert : ∀ hash role, statements (.insertUser email hash role)) :
    (AuthService.register rt email password).Sends (Footprint statements commands queues) := by
  refine Sends.bind (userRead_sends rt _ byEmail) fun found => ?_
  cases found with
  | some user => trivial
  | none =>
      refine Sends.bind (hashPassword_sends _) fun hash => ?_
      refine guardedWrite_sends footprint_local ?_
      refine Sends.bind ?_ fun role => answer_sends (insert _ _) _
      refine Sends.bind (answer_sends role _) fun found => ?_
      cases found <;> trivial

theorem login_sends (rt : Runtime) (email password : String)
    (byEmail : statements (.selectUserByEmail email)) :
    (AuthService.login rt email password).Sends (Footprint statements commands queues) := by
  refine Sends.bind (userRead_sends rt _ byEmail) fun found => ?_
  cases found with
  | none =>
      refine Sends.bind dummyHash_sends fun hash => ?_
      exact Sends.bind (verifyPassword_sends _ _) fun _ => trivial
  | some user =>
      refine Sends.bind (userAttributes_sends user) fun row => ?_
      refine Sends.bind (verifyPassword_sends _ _) fun fits => ?_
      split
      · refine Sends.bind (userAttributes_sends user) fun _ => ?_
        refine Sends.bind (userAttributes_sends user) fun _ => ?_
        exact Sends.bind (reply_sends trivial _) fun _ => reply_sends trivial _
      · trivial

theorem getCurrentUser_sends (app : App) (principal : Option ℤ)
    (may : ∀ id, statements (.selectUser id)) :
    (app.getCurrentUser principal).Sends (Footprint statements commands queues) := by
  cases principal with
  | none => trivial
  | some userId =>
      refine Sends.bind (userRead_sends app.rt _ (may userId)) fun found => ?_
      cases found <;> trivial

end

def Request.statements : Request → Statement → Prop
  | .get articleId, statement => statement = .selectArticle articleId
  | .list limit after author, statement => statement = .selectPage (limit + 1) after author
  | .register email _, .selectUserByEmail email' => email' = email
  | .register _ _, .selectRole _ => True
  | .register email _, .insertUser email' _ _ => email' = email
  | .register _ _, _ => False
  | .login email _, statement => statement = .selectUserByEmail email
  | _, .insertUser _ _ _ => False
  | _, _ => True

def flightOf (key : String) : RedisCommand → Prop
  | .get key' => key' = key
  | .set key' _ _ nx => (key' = key ∧ nx = false) ∨ (key' = lockKey key ∧ nx = true)
  | .delete key' => key' = lockKey key
  | _ => False

/-- The commands of a handler; those of its callback come after. -/
def Request.commands (rt : Runtime) : Request → RedisCommand → Prop
  | .get articleId, command => flightOf (articleKey articleId) command
  | .list limit after author, command =>
      command = .mget (ArticleCache.generationKeys author) ∨
        ∃ generation, flightOf (listKey rt generation author limit (cursorParts after)) command
  | _, _ => False

def Request.writes : Request → Bool
  | .create _ _ _ | .update _ _ _ _ _ | .delete _ _ _ => true
  | _ => false

theorem handler_sends (app : App) (request : Request) :
    (app.handler request).Sends
      (Footprint request.statements (request.commands app.rt) (request.writes = true)) := by
  cases request with
  | create principal title body =>
      refine Sends.bind (getCurrentUser_sends app principal fun _ => trivial) fun actor => ?_
      exact Sends.bind (create_sends app.articles (fun _ => trivial) (fun _ => trivial) rfl _)
        fun _ => trivial
  | get articleId =>
      refine Sends.bind (get_sends app.articles rfl ?_) fun _ => trivial
      exact ⟨rfl, fun _ _ => Or.inl ⟨rfl, rfl⟩, fun _ => Or.inr ⟨rfl, rfl⟩, rfl⟩
  | list limit after author =>
      refine Sends.bind (listArticles_sends app.articles rfl (Or.inl rfl) fun generation => ?_)
        fun _ => trivial
      exact ⟨Or.inr ⟨generation, rfl⟩, fun _ _ => Or.inr ⟨generation, Or.inl ⟨rfl, rfl⟩⟩,
        fun _ => Or.inr ⟨generation, Or.inr ⟨rfl, rfl⟩⟩, Or.inr ⟨generation, rfl⟩⟩
  | update principal id title body expected =>
      refine Sends.bind (getCurrentUser_sends app principal fun _ => trivial) fun actor => ?_
      exact Sends.bind (update_sends app.articles trivial trivial rfl _) fun _ => trivial
  | delete principal id expected =>
      refine Sends.bind (getCurrentUser_sends app principal fun _ => trivial) fun actor => ?_
      exact Sends.bind (delete_sends app.articles trivial (fun _ => trivial) rfl _)
        fun _ => trivial
  | register email password =>
      refine Sends.bind (register_sends app.rt email password rfl trivial fun _ _ => rfl)
        fun user => ?_
      exact Sends.bind (userAttributes_sends user) fun _ => trivial
  | login email password =>
      exact Sends.bind (login_sends app.rt email password rfl) fun _ => trivial

theorem serve_statements (app : App) (request : Request) :
    (app.serve request).Sends fun op => ∀ statement, op = .mysql statement →
      request.statements statement := by
  have silent : ∀ op : Op, (∀ statement, op ≠ .mysql statement) → ∀ statement,
      op = .mysql statement → request.statements statement :=
    fun op other statement same => absurd same (other statement)
  have locals : ∀ op : Op, op.isBookkeeping = true → ∀ statement,
      op = .mysql statement → request.statements statement := by
    rintro op isLocal statement rfl
    cases isLocal
  have touch : ∀ op : Op, op.asksCache = true → ∀ statement,
      op = .mysql statement → request.statements statement := by
    rintro op asks statement rfl
    cases asks
  apply getSession_sends locals app.cache touch
  · exact fun id => silent _ fun _ impossible => by cases impossible
  · exact fun author => silent _ fun _ impossible => by cases impossible
  · apply (handler_sends app request).mono
    rintro op footprint statement rfl
    exact footprint
  · exact silent _ fun _ impossible => by cases impossible
  · exact silent _ fun _ impossible => by cases impossible
  · exact silent _ fun _ impossible => by cases impossible

end ContentPlatform
