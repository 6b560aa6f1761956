import ContentPlatform.Api.Middleware
import ContentPlatform.Program.Chronicle
import ContentPlatform.Resilience.Failures

/-!
# Where exceptions come from

An exception that leaves an endpoint is no fault of a dependency, or it says that MySQL did not
answer, or it is the failure of an interaction around which nothing catches it.  The request's own
exchanges tell which.
-/

set_option autoImplicit false

namespace ContentPlatform

open Program Py Text

/-! ## Where an exception comes from -/

def Op.failure : (op : Op) → op.Reply → Option Exc
  | .redis _, .error error => some error
  | .mysql _, .error error => some error
  | .commit, .error error => some error
  | .rollback, .error error => some error
  | .articleAttributes _, .error error => some error
  | .userAttributes _, .error error => some error
  | .sleep _, .error error => some error
  | .backoff _, .error error => some error
  | .hashPassword _, .error error => some error
  | .verifyPassword _ _, .error error => some error
  | _, _ => none

def Op.contains : Op → Exc → Bool
  | .mysql _, error => error.isTransient || error == .callExpired
  | .redis _, error => error.isCacheFailure
  | .backoff _, error => error == .timeoutError || error == .callExpired
  | _, _ => false

/-- The exception is no fault of a dependency: neither transient nor a failure of the cache, nor a
cancellation, and it does not say that a dependency is down. -/
def Exc.isOwn (error : Exc) : Bool :=
  error.isException && !error.isTransient && !error.isCacheFailure && !error.isDependencyDown

abbrev Exchanges := List (Interaction Op.Reply)

/-- A statement failed with the exception, or what a guarded read does between its attempts. -/
inductive MysqlHit (xs : Exchanges) (error : Exc) : Prop
  | statement (statement : Statement) : ⟨.mysql statement, .error error⟩ ∈ xs → MysqlHit xs error
  | rollback : ⟨.rollback, .error error⟩ ∈ xs → MysqlHit xs error
  | backoff (longest : ℚ) : ⟨.backoff longest, .error error⟩ ∈ xs → MysqlHit xs error

/-- MySQL did not answer: the circuit was open, or a fault was reported to the breaker. -/
inductive MysqlDown (xs : Exchanges) : Prop
  | refused : ⟨.breakerAllow .mysql, false⟩ ∈ xs → MysqlDown xs
  | faulted (error : Exc) : MysqlHit xs error →
      error.isTransient ∨ error = .callExpired ∨ error.isDependencyDown →
      ⟨.breakerFailure .mysql, ()⟩ ∈ xs → MysqlDown xs

/-- Where an exception comes from that is raised after these exchanges. -/
inductive Explained (xs : Exchanges) (error : Exc) : Prop
  | own : error.isOwn = true → Explained xs error
  | down : error.isDependencyDown = true → MysqlDown xs → Explained xs error
  | failed (op : Op) (reply : op.Reply) : ⟨op, reply⟩ ∈ xs → op.failure reply = some error →
      op.contains error = false → Explained xs error

def Among (xs : Exchanges) (op : Op) (_ : Unit) (reply : op.Reply) (_ : Unit) : Prop :=
  (⟨op, reply⟩ : Interaction Op.Reply) ∈ xs

abbrev Explains (xs : Exchanges) {α : Type} (p : Py α) : Prop := Fails (Among xs) (Explained xs) p

section
variable {α β : Type} {xs : Exchanges}

theorem Fails.tryFinally {S : Type} {exec : (op : Op) → S → op.Reply → S → Prop} {φ : Exc → Prop}
    {body : Py α} {final : Py Unit} (first : Fails exec φ body) (last : Fails exec φ final) :
    Fails exec φ (body.tryFinally final) := by
  intro s
  apply wp_complete
  intro outcome s' run error same
  subst same
  obtain ⟨middle, s₁, before, after⟩ := Runs.of_cont run
  cases middle with
  | ok value =>
      obtain ⟨ended, s₂, tail, rest⟩ := Runs.of_cont after
      cases ended with
      | ok value => cases rest
      | error error' =>
          cases rest
          exact wp_sound _ _ _ _ _ (last _) tail _ rfl
  | error error' =>
      obtain ⟨ended, s₂, tail, rest⟩ := Runs.of_cont after
      cases ended with
      | ok value =>
          cases rest
          exact wp_sound _ _ _ _ _ (first _) before _ rfl
      | error error'' =>
          cases rest
          exact wp_sound _ _ _ _ _ (last _) tail _ rfl

theorem Explains.own {error : Exc} (own : error.isOwn = true) :
    Explains xs (.raise error : Py α) := Fails.raise (.own own)

theorem Explains.ofExcept {result : Except Exc α}
    (own : ∀ error, result = .error error → error.isOwn = true) :
    Explains xs (.ofExcept result : Py α) := by
  cases result with
  | ok value => exact Fails.ret value
  | error error => exact Explains.own (own error rfl)

theorem Explains.reply {op : Op} (next : op.Reply → α) :
    Explains xs (.call op fun reply => .ret (next reply)) :=
  Fails.call fun _ _ _ _ => Fails.ret _

theorem Explains.answer {op : Op} {next : op.Reply → Except Exc α}
    (bare : ∀ error, op.contains error = false)
    (same : ∀ reply error, next reply = .error error → op.failure reply = some error) :
    Explains xs (.call op fun reply => .ofExcept (next reply)) :=
  Fails.answer fun _ reply _ error member shape =>
    .failed op reply member (same reply error shape) (bare error)

/-! ## Guarded calls -/

def Raw (xs : Exchanges) (error : Exc) : Prop := error.isOwn = true ∨ MysqlHit xs error

inductive Retried (xs : Exchanges) (error : Exc) : Prop
  | own : error.isOwn = true → Retried xs error
  | translated (cause : Exc) : error.isDependencyDown = true → MysqlHit xs cause →
      cause.isTransient = true → Retried xs error
  | answer : MysqlHit xs error → error.isTransient = false → Retried xs error
  | wait (longest : ℚ) : ⟨.backoff longest, .error error⟩ ∈ xs → Retried xs error

def Budgeted (xs : Exchanges) (error : Exc) : Prop :=
  (Retried xs error ∧ error ≠ .callExpired) ∨ (error = .timeoutError ∧ MysqlHit xs .callExpired)

variable {policy : DependencyPolicy} {operation : Py α} {onRetry : Option (Py Unit)}

theorem retryLoop_retried {dependency : Dependency} (first : Fails (Among xs) (Raw xs) operation)
    (hooks : ∀ hook, onRetry = some hook → Fails (Among xs) (Raw xs) hook)
    (remaining started : ℕ) : Fails (Among xs) (Retried xs)
      (retryLoop policy dependency operation onRetry remaining started) := by
  have answered : ∀ error : Exc, error.isTransient = false → Raw xs error → Retried xs error := by
    rintro error plain (own | hit)
    · exact .own own
    · exact .answer hit plain
  induction remaining generalizing started with
  | zero =>
      rw [retryLoop]
      apply Fails.attempt_bind (attemptOnce_fails started first hooks)
      · exact fun value => observeRetry_fails started .success (Fails.ret value)
      · intro error raw
        dsimp only
        split
        · rename_i fault
          refine observeRetry_fails started .exhausted (Fails.raise ?_)
          rcases raw with own | hit
          · simp [Exc.isOwn, fault] at own
          · exact .translated error (translate_down _ _) hit fault
        · rename_i plain
          exact Fails.raise (answered error (Bool.eq_false_iff.mpr plain) raw)
  | succ remaining ih =>
      rw [retryLoop]
      apply Fails.attempt_bind (attemptOnce_fails started first hooks)
      · exact fun value => observeRetry_fails started .success (Fails.ret value)
      · intro error raw
        dsimp only
        split
        · apply Fails.call
          intro s reply s' member
          cases reply with
          | ok _ => exact ih (started + 1)
          | error failure => exact Fails.raise (.wait _ member)
        · rename_i plain
          exact Fails.raise (answered error (Bool.eq_false_iff.mpr plain) raw)

theorem timeoutBlock_budgeted (inner : Fails (Among xs) (Retried xs) operation) :
    Fails (Among xs) (Budgeted xs) (timeoutBlock operation) := by
  apply Fails.attempt_bind inner
  · exact fun value => Fails.ret value
  · intro error retried
    by_cases expired : error = .callExpired
    · subst expired
      refine Fails.raise (Or.inr ⟨rfl, ?_⟩)
      cases retried with
      | own own => cases own
      | translated cause down => cases down
      | answer hit => exact hit
      | wait longest member => exact .backoff longest member
    · have raised : Fails (Among xs) (Budgeted xs) (.raise error : Py α) :=
        Fails.raise (Or.inl ⟨retried, expired⟩)
      cases error <;> first | exact absurd rfl expired | exact raised

/-- The budget ran out, or a wait did. -/
theorem Budgeted.late (budgeted : Budgeted xs .timeoutError)
    (told : ⟨.breakerFailure .mysql, ()⟩ ∈ xs) : MysqlDown xs := by
  rcases budgeted with ⟨retried, -⟩ | ⟨-, hit⟩
  · cases retried with
    | own own => cases own
    | translated cause down => cases down
    | answer hit plain => cases plain
    | wait longest member => exact .faulted _ (.backoff longest member) (Or.inl rfl) told
  · exact .faulted _ hit (Or.inr (Or.inl rfl)) told

theorem Budgeted.down {error : Exc} (budgeted : Budgeted xs error)
    (down : error.isDependencyDown = true) (told : ⟨.breakerFailure .mysql, ()⟩ ∈ xs) :
    MysqlDown xs := by
  rcases budgeted with ⟨retried, -⟩ | ⟨rfl, -⟩
  · cases retried with
    | own own => simp [Exc.isOwn, down] at own
    | translated cause _ hit fault => exact .faulted cause hit (Or.inl fault) told
    | answer hit => exact .faulted error hit (Or.inr (Or.inr down)) told
    | wait longest member =>
        exact .faulted error (.backoff longest member) (Or.inr (Or.inr down)) told
  · cases down

/-- Every other exception goes on as it came. -/
theorem Budgeted.explained {error : Exc} (budgeted : Budgeted xs error)
    (up : error.isDependencyDown = false) (early : error ≠ .timeoutError) :
    Explained xs error := by
  rcases budgeted with ⟨retried, whole⟩ | ⟨late, -⟩
  · have waited : ∀ longest, (⟨.backoff longest, .error error⟩ : Interaction Op.Reply) ∈ xs →
        Explained xs error := fun longest member =>
      .failed (.backoff longest) (.error error) member rfl (by simp [Op.contains, early, whole])
    cases retried with
    | own own => exact .own own
    | translated _ down => rw [up] at down; cases down
    | answer hit plain =>
        cases hit with
        | statement statement member =>
            exact .failed _ _ member rfl (by simp [Op.contains, plain, whole])
        | rollback member => exact .failed _ _ member rfl rfl
        | backoff longest member => exact waited longest member
    | wait longest member => exact waited longest member
  · exact absurd late early

theorem guardedCall_explained (retry : Bool) (first : Fails (Among xs) (Raw xs) operation)
    (hooks : ∀ hook, onRetry = some hook → Fails (Among xs) (Raw xs) hook) :
    Explains xs (guardedCall policy .mysql operation onRetry retry) := by
  apply Fails.call
  intro s admitted s' member
  cases admitted with
  | false => exact Fails.call fun _ _ _ _ => Fails.raise (.down rfl (.refused member))
  | true =>
      have kept : ∀ hook, (if retry then onRetry else none) = some hook →
          Fails (Among xs) (Raw xs) hook := by
        intro hook same
        split at same
        · exact hooks hook same
        · cases same
      have reported : ∀ error, Explained xs error → Explains xs (if error.isException then
          (do breakerSuccess .mysql; .raise error : Py α) else .raise error) := by
        intro error holds
        split
        · exact Fails.call fun _ _ _ _ => Fails.raise holds
        · exact Fails.raise holds
      apply Fails.attempt_bind (timeoutBlock_budgeted (retryLoop_retried first kept _ 0))
      · exact fun value => Fails.call fun _ _ _ _ => Fails.ret value
      · intro error budgeted
        cases error with
        | timeoutError =>
            exact Fails.call fun _ _ _ _ => Fails.call fun _ _ _ told =>
              Fails.raise (.down (translate_down _ _) (budgeted.late told))
        | domain kind message =>
            cases kind with
            | dependencyUnavailable retryAfter =>
                exact Fails.call fun _ _ _ told => Fails.raise (.down rfl (budgeted.down rfl told))
            | upstreamTimeout retryAfter =>
                exact Fails.call fun _ _ _ _ => Fails.call fun _ _ _ told =>
                  Fails.raise (.down rfl (budgeted.down rfl told))
            | _ => exact reported _ (budgeted.explained rfl (by simp))
        | _ => exact reported _ (budgeted.explained rfl (by simp))

theorem statement_raw (statement : Statement) :
    Fails (Among xs) (Raw xs) (mysql statement) := by
  apply Fails.answer
  intro _ reply _ error member same
  rw [show reply = .error error from same] at member
  exact Or.inr (.statement statement member)

theorem guardedRead_explained (statement : Statement) :
    Explains xs (guardedRead policy .mysql (mysql statement)) := by
  refine guardedCall_explained true (statement_raw statement) fun hook same => ?_
  obtain rfl := Option.some.inj same
  apply Fails.answer
  intro _ reply _ error member same
  rw [show reply = .error error from same] at member
  exact Or.inr (.rollback member)

theorem guardedWrite_explained (body : Fails (Among xs) (Raw xs) operation) :
    Explains xs (guardedWrite policy .mysql operation) :=
  guardedCall_explained false body (by rintro _ ⟨⟩)

/-! ## The cache -/

def RedisHit (xs : Exchanges) (error : Exc) : Prop :=
  ∃ command : RedisCommand, ⟨.redis command, .error error⟩ ∈ xs

theorem redis_hit (command : RedisCommand) : Fails (Among xs) (RedisHit xs) (redis command) := by
  apply Fails.answer
  intro _ reply _ error member same
  rw [show reply = .error error from same] at member
  exact ⟨command, member⟩

section
variable (cache : ArticleCache)

theorem live_explained : Explains xs cache.live := by
  unfold ArticleCache.live
  split
  · refine Fails.call fun _ degraded _ _ => ?_
    cases degraded with
    | true => exact Fails.ret _
    | false => exact Explains.reply _
  · exact Fails.ret _

/-- No failure of a command that counts as one of the cache gets out. -/
theorem answered_explained {command : Py α} (operation : CacheOperation)
    (hit : Fails (Among xs) (RedisHit xs) command) :
    Explains xs (ArticleCache.answered operation command) := by
  apply Fails.attempt_bind hit
  · exact fun value => Fails.call fun _ _ _ _ => Fails.ret _
  · rintro error ⟨command, member⟩
    dsimp only
    split
    · exact Fails.call fun _ _ _ _ => Fails.call fun _ _ _ _ => Fails.call fun _ _ _ _ =>
        Fails.ret _
    · rename_i other
      exact Fails.raise (.failed _ _ member rfl (Bool.eq_false_iff.mpr other))

theorem whenLive_explained {p q : Py α} (first : Explains xs p) (otherwise : Explains xs q) :
    Explains xs (Prog.bind cache.live fun live => if live then p else q) := by
  refine Fails.bind (live_explained cache) fun live => ?_
  cases live with
  | true => exact first
  | false => exact otherwise

theorem peek_explained (key : String) : Explains xs (cache.peek key) := by
  refine whenLive_explained cache ?_ (Fails.ret _)
  refine Fails.bind (answered_explained .get (redis_hit _)) fun found => ?_
  cases found with
  | some value => exact Fails.ret _
  | none => exact Fails.ret _

theorem fetch_explained (key : String) (entity : CacheEntity) :
    Explains xs (cache.fetch key entity) := by
  refine whenLive_explained cache ?_ (Fails.ret _)
  refine Fails.bind (answered_explained .get (redis_hit _)) fun found => ?_
  rcases found with _ | _ | value
  · exact Fails.ret _
  · exact Fails.call fun _ _ _ _ => Fails.ret _
  · exact Fails.call fun _ _ _ _ => Fails.ret _

theorem getGenerations_explained (author : Option ℤ) :
    Explains xs (cache.getGenerations author) := by
  refine whenLive_explained cache ?_ (Fails.ret _)
  refine Fails.bind (answered_explained .get (redis_hit _)) fun found => ?_
  cases found with
  | some values => exact Fails.ret _
  | none => exact Fails.ret _

theorem store_explained (key body : String) (ttl : ℤ) : Explains xs (cache.store key body ttl) :=
  whenLive_explained cache
    (Fails.bind (answered_explained .set (redis_hit _)) fun _ => Fails.ret _) (Fails.ret _)

theorem invalidateArticle_explained (articleId : ℤ) :
    Explains xs (cache.invalidateArticle articleId) :=
  whenLive_explained cache
    (Fails.bind (answered_explained .delete (redis_hit _)) fun _ => Fails.ret _) (Fails.ret _)

theorem bumpGenerations_explained (author : Option ℤ) :
    Explains xs (cache.bumpGenerations author) := by
  refine whenLive_explained cache (Fails.bind (answered_explained .incr ?_) fun _ => Fails.ret _)
    (Fails.ret _)
  refine Fails.bind (redis_hit _) fun _ => ?_
  cases author with
  | some author => exact Fails.bind (redis_hit _) fun _ => Fails.ret _
  | none => exact Fails.ret _

theorem acquireLock_explained (key : String) (ttl : ℤ) :
    Explains xs (cache.acquireLock key ttl) := by
  refine whenLive_explained cache ?_ (Fails.ret _)
  refine Fails.bind (answered_explained .lock (redis_hit _)) fun found => ?_
  cases found with
  | some acquired => exact Fails.ret _
  | none => exact Fails.ret _

theorem releaseLock_explained (key : String) : Explains xs (cache.releaseLock key) :=
  whenLive_explained cache
    (Fails.bind (answered_explained .lock (redis_hit _)) fun _ => Fails.ret _) (Fails.ret _)

end

/-! ## Services -/

theorem articleAttributes_explained (articleId : ℤ) : Explains xs (articleAttributes articleId) :=
  Explains.answer (fun _ => rfl) (by rintro reply error ⟨⟩; rfl)

theorem userAttributes_explained (userId : ℤ) : Explains xs (userAttributes userId) :=
  Explains.answer (fun _ => rfl) (by rintro reply error ⟨⟩; rfl)

theorem hashPassword_explained (password : String) : Explains xs (hashPassword password) :=
  Explains.answer (fun _ => rfl) (by rintro reply error ⟨⟩; rfl)

theorem verifyPassword_explained (password passwordHash : String) :
    Explains xs (verifyPassword password passwordHash) :=
  Explains.answer (fun _ => rfl) (by rintro reply error ⟨⟩; rfl)

theorem sleep_explained (seconds : ℚ) : Explains xs (sleep seconds) :=
  Explains.answer (fun _ => rfl) (by rintro reply error ⟨⟩; rfl)

theorem commit_explained : Explains xs commit :=
  Explains.answer (fun _ => rfl) (by rintro reply error ⟨⟩; rfl)

theorem rollback_explained : Explains xs rollback :=
  Explains.answer (fun _ => rfl) (by rintro reply error ⟨⟩; rfl)

/-! ### What is decoded -/

/-- What is decoded fails with exceptions of its own. -/
structure Runtime.Decodes (rt : Runtime) : Prop where
  loads : ∀ text error, rt.jsonLoads text = .error error → error.isOwn = true
  floats : ∀ literal error, rt.floatToInt literal = .error error → error.isOwn = true

/-- A computation whose failures are its own. -/
def OwnFailures {α : Type} (result : Except Exc α) : Prop :=
  ∀ error, result = .error error → error.isOwn = true

theorem OwnFailures.bind {result : Except Exc α} {next : α → Except Exc β}
    (first : OwnFailures result) (rest : ∀ value, OwnFailures (next value)) :
    OwnFailures (result.bind next) := by
  intro error failed
  cases result with
  | ok value => exact rest value error failed
  | error error' =>
      obtain rfl := Except.error.inj failed
      exact first _ rfl

theorem OwnFailures.map {result : Except Exc α} {f : α → β} (own : OwnFailures result) :
    OwnFailures (result.map f) := by
  intro error failed
  cases result with
  | ok value => cases failed
  | error error' =>
      obtain rfl := Except.error.inj failed
      exact own _ rfl

theorem OwnFailures.ok (value : α) : OwnFailures (.ok value : Except Exc α) := by
  rintro _ ⟨⟩

theorem OwnFailures.error {error : Exc} (own : error.isOwn = true) :
    OwnFailures (.error error : Except Exc α) := by
  rintro _ ⟨⟩
  exact own

theorem getItem_own (value : Json) (name : String) : OwnFailures (getItem value name) := by
  unfold getItem
  split
  · split
    · exact .ok _
    · exact .error rfl
  · exact .error rfl

theorem subscript_own (value : Json) (index : ℕ) : OwnFailures (subscript value index) := by
  unfold subscript
  split
  · split
    · exact .ok _
    · exact .error rfl
  · split
    · exact .ok _
    · exact .error rfl
  · exact .error rfl
  · exact .error rfl

section
variable {rt : Runtime} (decodes : rt.Decodes)
include decodes

theorem jsonToInt_own (value : Json) : OwnFailures (jsonToInt rt value) := by
  unfold jsonToInt
  split
  · exact .ok _
  · exact .ok _
  · exact decodes.floats _
  · split
    · exact .ok _
    · exact .error rfl
  · exact .error rfl

theorem decodeNext_own (rawNext : Json) : OwnFailures (decodeNext rt rawNext) := by
  have continued : ∀ createdAt : DateTime, OwnFailures (Except.bind (subscript rawNext 1)
      fun second => Except.bind (jsonToInt rt second) fun articleId =>
        .ok ((createdAt, articleId) : Position)) := fun _ =>
    OwnFailures.bind (subscript_own _ _) fun second =>
      OwnFailures.bind (jsonToInt_own decodes second) fun _ => .ok _
  refine OwnFailures.bind (subscript_own _ _) fun first => ?_
  cases first with
  | str text =>
      dsimp only
      split
      · exact continued _
      · exact .error rfl
  | _ => exact .error rfl

theorem decodePayload_own (body : String) : OwnFailures (decodePayload rt body) := by
  refine OwnFailures.bind (decodes.loads body) fun payload => ?_
  refine OwnFailures.bind (getItem_own _ _) fun listed => ?_
  split
  · exact .error rfl
  · split
    · exact .error rfl
    · exact OwnFailures.bind (getItem_own _ _) fun _ => .ok _

theorem decodePage_own (body : Option String) : OwnFailures (decodePage rt body) := by
  unfold decodePage
  split
  · exact .ok _
  · rename_i body
    split
    · exact .ok _
    · exact .ok _
    · exact .ok _
    · rename_i error _ _ _ failed
      exact .error (decodePayload_own decodes body error failed)
    · exact .ok _
    · rename_i rawNext _ _
      split
      · exact .ok _
      · exact .ok _
      · exact .ok _
      · exact .ok _
      · rename_i error _ _ _ failed
        exact .error (decodeNext_own decodes _ error failed)

end

theorem splitPage_own (limit : ℤ) (rows : List ArticleSummaryOut) :
    OwnFailures (splitPage limit rows) := by
  unfold splitPage
  split
  · exact .ok _
  · split
    · exact .ok _
    · exact .error rfl

theorem strOfInt_own (n : ℤ) : OwnFailures (strOfInt n) := by
  unfold strOfInt
  split
  · exact .ok _
  · exact .error rfl

theorem encodeCursor_own (createdAt : DateTime) (articleId : ℤ) :
    OwnFailures (encodeCursor createdAt articleId) :=
  OwnFailures.bind (strOfInt_own _) fun _ => OwnFailures.bind (strOfInt_own _) fun _ => .ok _

theorem decodeCursor_own (cursor : String) : OwnFailures (decodeCursor cursor) := by
  unfold decodeCursor
  split
  · exact .error rfl
  · split
    · exact .ok _
    · exact .error rfl

theorem parseIfMatch_own (rt : Runtime) (ifMatch : Option String) :
    OwnFailures (parseIfMatch rt ifMatch) := by
  unfold parseIfMatch
  split
  · exact .error rfl
  · split
    · exact .ok _
    · exact .error rfl

/-! ### The article service -/

theorem jitteredTtl_explained (base : ℤ) (jitter : ℚ) : Explains xs (jitteredTtl base jitter) := by
  unfold jitteredTtl
  split
  · exact Fails.ret _
  · exact Fails.call fun _ _ _ _ => Fails.ret _

section
variable (service : ArticleService)

theorem load_explained (articleId : ℤ) : Explains xs (service.load articleId) := by
  refine Fails.bind (guardedRead_explained _) fun found => ?_
  cases found with
  | none => exact Explains.own rfl
  | some article => exact Fails.ret _

theorem loadPage_explained (limit : ℤ) (after : Option Position) (author : Option ℤ) :
    Explains xs (service.loadPage limit after author) :=
  Fails.bind (guardedRead_explained _) fun _ => Explains.ofExcept (splitPage_own _ _)

theorem pollUntil_explained (key : String) (deadline : ℚ) (polls : ℕ) :
    Explains xs (service.pollUntil key deadline polls) := by
  induction polls with
  | zero =>
      rw [ArticleService.pollUntil]
      refine Fails.call fun _ time _ _ => ?_
      show Explains xs (if time < deadline then _ else _)
      split
      · exact Fails.call fun _ reply _ _ => reply.elim
      · exact Fails.ret _
  | succ polls ih =>
      rw [ArticleService.pollUntil]
      refine Fails.call fun _ time _ _ => ?_
      show Explains xs (if time < deadline then _ else _)
      split
      · refine Fails.bind (sleep_explained _) fun _ => ?_
        refine Fails.bind (peek_explained service.cache key) fun body => ?_
        cases body with
        | some body => exact Fails.ret _
        | none => exact ih
      · exact Fails.ret _

theorem waitUnlessWon_explained (won : Bool) (key : String) :
    Explains xs (service.waitUnlessWon won key) := by
  cases won with
  | true => exact Fails.ret _
  | false => exact Fails.call fun _ _ _ _ => pollUntil_explained service key _ _

theorem releaseIfWon_explained (won : Bool) (key : String) :
    Explains xs (service.releaseIfWon won key) := by
  cases won with
  | true => exact releaseLock_explained service.cache key
  | false => exact Fails.ret _

theorem get_explained (articleId : ℤ) : Explains xs (service.get articleId) := by
  refine Fails.bind (fetch_explained service.cache _ _) fun body => ?_
  split
  · exact Fails.ret _
  refine Fails.bind (acquireLock_explained service.cache _ _) fun won => ?_
  refine Fails.bind (waitUnlessWon_explained service won _) fun waited => ?_
  split
  · exact Fails.ret _
  refine Fails.tryFinally ?_ (releaseIfWon_explained service won _)
  refine Fails.bind (load_explained service articleId) fun article => ?_
  refine Fails.bind (articleAttributes_explained article) fun row => ?_
  refine Fails.bind (jitteredTtl_explained _ _) fun ttl => ?_
  exact Fails.bind (store_explained service.cache _ _ _) fun _ => Fails.ret _

theorem listArticles_explained (decodes : service.rt.Decodes) (limit : ℤ) (after : Option Position)
    (author : Option ℤ) : Explains xs (service.listArticles limit after author) := by
  refine Fails.bind (getGenerations_explained service.cache author) fun counters => ?_
  refine Fails.bind (fetch_explained service.cache _ _) fun body => ?_
  refine Fails.bind (Explains.ofExcept (decodePage_own decodes _)) fun cached => ?_
  split
  · exact Fails.ret _
  refine Fails.bind (acquireLock_explained service.cache _ _) fun won => ?_
  refine Fails.bind (waitUnlessWon_explained service won _) fun waited => ?_
  refine Fails.bind (Explains.ofExcept (decodePage_own decodes _)) fun found => ?_
  split
  · exact Fails.ret _
  refine Fails.tryFinally ?_ (releaseIfWon_explained service won _)
  refine Fails.bind (loadPage_explained service limit after author) fun page => ?_
  refine Fails.bind (jitteredTtl_explained _ _) fun ttl => ?_
  exact Fails.bind (store_explained service.cache _ _ _) fun _ => Fails.ret _

theorem authorize_explained (actor article : ℤ) :
    Explains xs (ArticleService.authorize actor article) := by
  refine Fails.bind (articleAttributes_explained article) fun row => ?_
  refine Fails.bind (userAttributes_explained actor) fun user => ?_
  split
  · refine Fails.bind (userAttributes_explained actor) fun user => ?_
    split
    · exact Explains.own rfl
    · exact Fails.ret _
  · exact Fails.ret _

theorem invalidateAfterCommit_explained (authorId : ℤ) (articleId : Option ℤ) :
    Explains xs (service.invalidateAfterCommit authorId articleId) := by
  unfold ArticleService.invalidateAfterCommit
  split
  · exact Explains.reply _
  · exact Fails.ret _

theorem raiseConflictOrNotFound_explained (articleId : ℤ) :
    Explains xs (service.raiseConflictOrNotFound articleId : Py α) := by
  refine Fails.bind (guardedRead_explained _) fun found => ?_
  cases found with
  | none => exact Explains.own rfl
  | some article => exact Explains.own rfl

theorem compareAndSet_raw (statement : Statement) (next : statement.Reply → ℕ) :
    Fails (Among xs) (Raw xs) (Prog.bind (mysql statement) fun count =>
      Prog.bind expireAll fun _ => .ret (next count)) :=
  Fails.bind (statement_raw statement) fun _ => Fails.call fun _ _ _ _ => Fails.ret _

theorem create_explained (actor : ℤ) (title body : String) :
    Explains xs (service.create actor title body) := by
  refine Fails.bind (userAttributes_explained actor) fun _ => ?_
  refine Fails.bind (userAttributes_explained actor) fun user => ?_
  refine Fails.bind (guardedWrite_explained ?_) fun article => ?_
  · refine Fails.bind (statement_raw (.insertArticle _ _ _)) fun article => ?_
    exact Fails.bind (statement_raw (.refreshArticle article)) fun _ => Fails.ret _
  refine Fails.bind (userAttributes_explained actor) fun user => ?_
  refine Fails.bind (invalidateAfterCommit_explained service _ _) fun _ => ?_
  exact Fails.bind (articleAttributes_explained article) fun _ => Fails.ret _

theorem update_explained (actor articleId : ℤ) (title body : String) (expected : DateTime) :
    Explains xs (service.update actor articleId title body expected) := by
  refine Fails.bind (load_explained service articleId) fun article => ?_
  refine Fails.bind (authorize_explained actor article) fun _ => ?_
  refine Fails.bind (articleAttributes_explained article) fun row => ?_
  refine Fails.bind (guardedWrite_explained
    (compareAndSet_raw (.updateArticle articleId expected title body) id)) fun count => ?_
  split
  · exact raiseConflictOrNotFound_explained service articleId
  · refine Fails.bind (invalidateAfterCommit_explained service _ _) fun _ => ?_
    refine Fails.bind (load_explained service articleId) fun article => ?_
    exact Fails.bind (articleAttributes_explained article) fun _ => Fails.ret _

theorem delete_explained (actor articleId : ℤ) (expected : DateTime) :
    Explains xs (service.delete actor articleId expected) := by
  refine Fails.bind (load_explained service articleId) fun article => ?_
  refine Fails.bind (authorize_explained actor article) fun _ => ?_
  refine Fails.bind (articleAttributes_explained article) fun row => ?_
  refine Fails.bind (guardedWrite_explained (Fails.call fun _ deletedAt _ _ =>
    compareAndSet_raw (.softDeleteArticle articleId expected deletedAt) id)) fun count => ?_
  split
  · exact raiseConflictOrNotFound_explained service articleId
  · exact invalidateAfterCommit_explained service _ _

end

/-! ### Accounts -/

theorem dummyHash_explained : Explains xs dummyHash := by
  refine Fails.bind (Explains.reply _) fun hash => ?_
  cases hash with
  | some hash => exact Fails.ret _
  | none => exact Fails.bind (hashPassword_explained _) fun _ => Explains.reply _

theorem register_explained (rt : Runtime) (email password : String) :
    Explains xs (AuthService.register rt email password) := by
  refine Fails.bind (guardedRead_explained _) fun found => ?_
  cases found with
  | some user => exact Explains.own rfl
  | none =>
      refine Fails.bind (hashPassword_explained password) fun hash => ?_
      refine guardedWrite_explained (Fails.bind ?_ fun role => statement_raw (.insertUser _ _ _))
      refine Fails.bind (statement_raw (.selectRole "user")) fun found => ?_
      cases found with
      | some role => exact Fails.ret _
      | none => exact Fails.raise (Or.inl rfl)

theorem login_explained (rt : Runtime) (email password : String) :
    Explains xs (AuthService.login rt email password) := by
  refine Fails.bind (guardedRead_explained _) fun found => ?_
  cases found with
  | none =>
      refine Fails.bind dummyHash_explained fun hash => ?_
      exact Fails.bind (verifyPassword_explained _ _) fun _ => Explains.own rfl
  | some user =>
      refine Fails.bind (userAttributes_explained user) fun row => ?_
      refine Fails.bind (verifyPassword_explained _ _) fun fits => ?_
      split
      · refine Fails.bind (userAttributes_explained user) fun row => ?_
        refine Fails.bind (userAttributes_explained user) fun row => ?_
        exact Fails.call fun _ _ _ _ => Fails.call fun _ _ _ _ => Fails.ret _
      · exact Explains.own rfl

/-! ## Sessions and endpoints -/

theorem runInvalidation_explained (cache : ArticleCache) (callback : Invalidation) :
    Explains xs (runInvalidation cache callback) := by
  refine Fails.bind ?_ fun _ => bumpGenerations_explained cache _
  cases callback.articleId with
  | some articleId => exact invalidateArticle_explained cache articleId
  | none => exact Fails.ret _

theorem runCallbacks_explained (cache : ArticleCache) (callbacks : List Invalidation) :
    Explains xs (runCallbacks cache callbacks) := by
  induction callbacks with
  | nil => exact Fails.ret _
  | cons callback rest ih =>
      refine Fails.attempt_bind (runInvalidation_explained cache callback) (fun _ => ih) ?_
      intro error explained
      dsimp only
      split
      · exact ih
      · exact Fails.raise explained

theorem getSession_explained (cache : ArticleCache) {handler : Py α} (first : Explains xs handler) :
    Explains xs (getSession cache handler) := by
  have whole : Explains xs (untilCommit handler) :=
    Fails.bind first fun _ => Fails.bind commit_explained fun _ => Fails.ret _
  refine Fails.attempt_bind whole (fun value => ?_) fun error explained => ?_
  · refine Fails.bind ?_ fun _ => Fails.ret _
    exact Fails.call fun _ _ _ _ => runCallbacks_explained cache _
  · refine Fails.bind rollback_explained fun _ => ?_
    exact Fails.call fun _ _ _ _ => Fails.raise explained

section
variable (app : App)

theorem getCurrentUser_explained (principal : Option ℤ) :
    Explains xs (app.getCurrentUser principal) := by
  cases principal with
  | none => exact Explains.own rfl
  | some userId =>
      refine Fails.bind (guardedRead_explained _) fun found => ?_
      cases found with
      | none => exact Explains.own rfl
      | some user => exact Fails.ret _

theorem conditional_explained (principal : Option ℤ) (ifMatch : Option String)
    {next : ℤ → DateTime → Py α} (rest : ∀ actor expected, Explains xs (next actor expected)) :
    Explains xs (getSession app.cache (Prog.bind (app.getCurrentUser principal) fun actor =>
      Prog.bind (.ofExcept (parseIfMatch app.rt ifMatch)) (next actor))) := by
  refine getSession_explained app.cache ?_
  refine Fails.bind (getCurrentUser_explained app principal) fun actor => ?_
  exact Fails.bind (Explains.ofExcept (parseIfMatch_own _ _)) fun expected => rest actor expected

variable (decodes : app.rt.Decodes)
include decodes

theorem handler_explained (request : Request) : Explains xs (app.handler request) := by
  cases request with
  | create principal title body =>
      refine Fails.bind (getCurrentUser_explained app principal) fun actor => ?_
      exact Fails.bind (create_explained app.articles actor title body) fun _ => Fails.ret _
  | get articleId => exact Fails.bind (get_explained app.articles articleId) fun _ => Fails.ret _
  | list limit after author =>
      exact Fails.bind (listArticles_explained app.articles decodes limit after author)
        fun _ => Fails.ret _
  | update principal articleId title body expected =>
      refine Fails.bind (getCurrentUser_explained app principal) fun actor => ?_
      exact Fails.bind (update_explained app.articles actor articleId title body expected)
        fun _ => Fails.ret _
  | delete principal articleId expected =>
      refine Fails.bind (getCurrentUser_explained app principal) fun actor => ?_
      exact Fails.bind (delete_explained app.articles actor articleId expected)
        fun _ => Fails.ret _
  | register email password =>
      refine Fails.bind (register_explained app.rt email password) fun user => ?_
      exact Fails.bind (userAttributes_explained user) fun _ => Fails.ret _
  | login email password =>
      exact Fails.bind (login_explained app.rt email password) fun _ => Fails.ret _

theorem serve_explained (request : Request) : Explains xs (app.serve request) :=
  getSession_explained app.cache (handler_explained app decodes request)

theorem listRoute_explained (limit : ℤ) (cursor : Option String) (author : Option ℤ) :
    Explains xs (app.listRoute limit cursor author) := by
  apply getSession_explained
  cases cursor
  case' none =>
    refine Fails.bind (Fails.ret none) fun after => ?_
  case' some cursor =>
    have position : OwnFailures ((decodeCursor cursor).map some) :=
      OwnFailures.map (decodeCursor_own cursor)
    refine Fails.bind (Explains.ofExcept position) fun after => ?_
  all_goals
    refine Fails.bind (listArticles_explained app.articles decodes _ _ _) fun page => ?_
    split
    · exact Fails.bind (Explains.ofExcept (encodeCursor_own _ _)) fun _ => Fails.ret _
    · exact Fails.ret _

theorem withPrincipal_explained (principal : Option Principal) {endpoint : Option ℤ → Py Response}
    (rest : ∀ userId, Explains xs (endpoint userId)) :
    Explains xs (app.withPrincipal principal endpoint) := by
  unfold App.withPrincipal
  split
  · exact rest none
  · split
    · exact rest _
    · rename_i error failed
      exact getSession_explained app.cache (Explains.own (jsonToInt_own decodes _ error failed))

/-- Whatever an endpoint raises is explained by what it was answered. -/
theorem endpoint_explained (principal : Option Principal) (endpoint : Endpoint) :
    Explains xs (app.endpoint principal endpoint) := by
  cases endpoint with
  | createArticle title body =>
      exact Fails.bind (withPrincipal_explained app decodes principal
        fun userId => serve_explained app decodes _) fun _ => Fails.ret _
  | listArticles limit cursor author =>
      exact Fails.bind (listRoute_explained app decodes limit cursor author) fun _ => Fails.ret _
  | getArticle articleId =>
      exact Fails.bind (serve_explained app decodes (.get articleId)) fun _ => Fails.ret _
  | updateArticle articleId title body ifMatch =>
      refine Fails.bind (withPrincipal_explained app decodes principal fun userId => ?_)
        fun _ => Fails.ret _
      refine conditional_explained app userId ifMatch fun actor expected => ?_
      exact Fails.bind (update_explained app.articles actor articleId title body expected)
        fun _ => Fails.ret _
  | deleteArticle articleId ifMatch =>
      refine Fails.bind (withPrincipal_explained app decodes principal fun userId => ?_)
        fun _ => Fails.ret _
      refine conditional_explained app userId ifMatch fun actor expected => ?_
      exact Fails.bind (delete_explained app.articles actor articleId expected)
        fun _ => Fails.ret _
  | register payload =>
      exact Fails.bind (serve_explained app decodes _) fun _ => Fails.ret _
  | login payload =>
      exact Fails.bind (serve_explained app decodes _) fun _ => Fails.ret _
  | invalid resolved errors =>
      refine Fails.bind ?_ fun _ => Fails.ret _
      cases resolved with
      | nothing => exact Explains.own rfl
      | session => exact getSession_explained app.cache (Explains.own rfl)
      | currentUser =>
          rw [App.invalid]
          refine withPrincipal_explained app decodes principal fun userId => ?_
          refine getSession_explained app.cache (Fails.bind (getCurrentUser_explained app userId) ?_)
          exact fun _ => Explains.own rfl

end

end

end ContentPlatform
