import ContentPlatform.Cache.ArticleCache
import ContentPlatform.Program.Sequential

/-!
# The latch of a cache instance

What one instance of the cache asks of Redis, of the breaker and of the metrics over any sequence
of calls, whatever Redis and the breaker answer.
-/

set_option autoImplicit false

namespace ContentPlatform

open Program Py

structure Exchange where
  op : Op
  reply : op.Reply

namespace Exchange

def isCommand : Exchange → Bool
  | ⟨.redis _, _⟩ => true
  | _ => false

def failed : Exchange → Bool
  | ⟨.redis _, .error _⟩ => true
  | _ => false

def consults : Exchange → Bool
  | ⟨.breakerAllow .redis, _⟩ => true
  | _ => false

def reportsFailure : Exchange → Bool
  | ⟨.breakerFailure .redis, _⟩ => true
  | _ => false

def reports : Exchange → Bool
  | ⟨.breakerSuccess .redis, _⟩ => true
  | ⟨.breakerFailure .redis, _⟩ => true
  | _ => false

def countsError : Exchange → Bool
  | ⟨.observe (.cacheError _), _⟩ => true
  | _ => false

def latches : Exchange → Bool
  | ⟨.degradeCache, _⟩ => true
  | _ => false

def countsLookup : Exchange → Bool
  | ⟨.observe (.cacheHit _), _⟩ => true
  | ⟨.observe (.cacheMiss _), _⟩ => true
  | _ => false

end Exchange

def degradedAfter (log : List Exchange) : Bool := log.any Exchange.latches

/-- Redis answers, or fails with one of `CACHE_FAILURES`. -/
def Admissible (log : List Exchange) : Exchange → Prop
  | ⟨.redis _, .error error⟩ => error.isCacheFailure = true
  | ⟨.cacheDegraded, degraded⟩ => degraded = degradedAfter log
  | _ => True

/-- The environment of one instance; its state is what has happened so far. -/
def InstanceExec (op : Op) (log : List Exchange) (reply : op.Reply) (log' : List Exchange) :
    Prop :=
  log' = log ++ [⟨op, reply⟩] ∧ Admissible log ⟨op, reply⟩

inductive CacheCall where
  | getArticle (articleId : ℤ)
  | getListPage (key : String)
  | peek (key : String)
  | getGenerations (authorId : Option ℤ)
  | setArticle (articleId : ℤ) (body : String) (ttlSeconds : ℤ)
  | setListPage (key body : String) (ttlSeconds : ℤ)
  | invalidateArticle (articleId : ℤ)
  | bumpGenerations (authorId : Option ℤ)
  | acquireLock (key : String) (ttlSeconds : ℤ)
  | releaseLock (key : String)

def CacheCall.run (cache : ArticleCache) : CacheCall → Py Unit
  | .getArticle articleId => do let _ ← cache.getArticle articleId
  | .getListPage key => do let _ ← cache.getListPage key
  | .peek key => do let _ ← cache.peek key
  | .getGenerations authorId => do let _ ← cache.getGenerations authorId
  | .setArticle articleId body ttlSeconds => cache.setArticle articleId body ttlSeconds
  | .setListPage key body ttlSeconds => cache.setListPage key body ttlSeconds
  | .invalidateArticle articleId => cache.invalidateArticle articleId
  | .bumpGenerations authorId => cache.bumpGenerations authorId
  | .acquireLock key ttlSeconds => do let _ ← cache.acquireLock key ttlSeconds
  | .releaseLock key => cache.releaseLock key

/-- Calls of one instance, one after the other: how each ends and what it does. -/
inductive AwaitedCalls (cache : ArticleCache) :
    List CacheCall → List Exchange → List (Except Exc Unit × List Exchange) → Prop where
  | nil (log : List Exchange) : AwaitedCalls cache [] log []
  | cons {call : CacheCall} {calls : List CacheCall} {log exchanges : List Exchange}
      {outcome : Except Exc Unit} {rest : List (Except Exc Unit × List Exchange)} :
      Runs InstanceExec (call.run cache) log outcome (log ++ exchanges) →
      AwaitedCalls cache calls (log ++ exchanges) rest →
      AwaitedCalls cache (call :: calls) log ((outcome, exchanges) :: rest)

/-! ## One call -/

/-- What the commands of one call come to. -/
inductive CommandTrace {α : Type} : Except Exc α → List Exchange → Prop where
  | answered {value : α} {sent : List Exchange} : sent ≠ [] →
      (∀ e ∈ sent, e.isCommand = true ∧ e.failed = false) → CommandTrace (.ok value) sent
  | failed {error : Exc} {sent : List Exchange} {last : Exchange} :
      (∀ e ∈ sent, e.isCommand = true ∧ e.failed = false) → last.failed = true →
      error.isCacheFailure = true → CommandTrace (.error error) (sent ++ [last])

/-- What an admitted call does. -/
inductive AdmittedTrace : List Exchange → Prop where
  | answered {sent lookups : List Exchange} : sent ≠ [] →
      (∀ e ∈ sent, e.isCommand = true ∧ e.failed = false) →
      (∀ e ∈ lookups, e.countsLookup = true) →
      AdmittedTrace (sent ++ ⟨.breakerSuccess .redis, ()⟩ :: lookups)
  | failed {sent : List Exchange} {last : Exchange} {operation : CacheOperation} :
      (∀ e ∈ sent, e.isCommand = true ∧ e.failed = false) → last.failed = true →
      AdmittedTrace (sent ++ last :: [⟨.degradeCache, ()⟩, ⟨.breakerFailure .redis, ()⟩,
        ⟨.observe (.cacheError operation), ()⟩])

/-- What a call does, of an instance that has `degraded` or not. -/
inductive CallTrace : (degraded : Bool) → List Exchange → Prop where
  | disabled (degraded : Bool) : CallTrace degraded []
  | latched : CallTrace true [⟨.cacheDegraded, true⟩]
  | refused : CallTrace false [⟨.cacheDegraded, false⟩, ⟨.breakerAllow .redis, false⟩]
  | admitted {exchanges : List Exchange} : AdmittedTrace exchanges →
      CallTrace false (⟨.cacheDegraded, false⟩ :: ⟨.breakerAllow .redis, true⟩ :: exchanges)

section
variable {α β : Type}

def Commanded (log : List Exchange) (outcome : Except Exc α) (log' : List Exchange) : Prop :=
  ∃ sent, log' = log ++ sent ∧ CommandTrace outcome sent

def Admits (log : List Exchange) (outcome : Except Exc α) (log' : List Exchange) : Prop :=
  (∃ value, outcome = .ok value) ∧
    ∃ exchanges, log' = log ++ exchanges ∧ AdmittedTrace exchanges

def Called (log : List Exchange) (outcome : Except Exc α) (log' : List Exchange) : Prop :=
  (∃ value, outcome = .ok value) ∧
    ∃ exchanges, log' = log ++ exchanges ∧ CallTrace (degradedAfter log) exchanges

variable {log : List Exchange}

theorem redis_commanded (command : RedisCommand) :
    wp InstanceExec (redis command) (Commanded log) log := by
  intro reply log' step
  obtain ⟨rfl, admissible⟩ := step
  cases reply with
  | ok value =>
      refine ⟨_, rfl, .answered (List.cons_ne_nil _ _) ?_⟩
      intro e member
      obtain rfl := List.mem_singleton.mp member
      exact ⟨rfl, rfl⟩
  | error error =>
      have none_before : ∀ e ∈ ([] : List Exchange), e.isCommand = true ∧ e.failed = false := by
        intro e member
        cases member
      exact ⟨_, rfl, .failed none_before rfl admissible⟩

/-- A command after others of the same call. -/
theorem Commanded.after {sent log' : List Exchange} {outcome : Except Exc α}
    (answered : ∀ e ∈ sent, e.isCommand = true ∧ e.failed = false)
    (next : Commanded (log ++ sent) outcome log') : Commanded log outcome log' := by
  obtain ⟨later, rfl, trace⟩ := next
  refine ⟨sent ++ later, List.append_assoc _ _ _, ?_⟩
  have both : ∀ others : List Exchange,
      (∀ e ∈ others, e.isCommand = true ∧ e.failed = false) →
        ∀ e ∈ sent ++ others, e.isCommand = true ∧ e.failed = false := by
    intro others own e member
    rcases List.mem_append.mp member with first | second
    · exact answered e first
    · exact own e second
  cases trace with
  | answered nonempty own =>
      exact .answered (List.append_ne_nil_of_right_ne_nil _ nonempty) (both _ own)
  | failed own fault caught =>
      rw [← List.append_assoc]
      exact .failed (both _ own) fault caught

/-- `bump_generations` sends one command or two. -/
theorem bump_commanded (authorId : Option ℤ) :
    wp InstanceExec (do
      let _ ← redis (.incr generationKey)
      match authorId with
      | some authorId =>
          let _ ← redis (.incr (authorGenerationKey authorId))
      | none => return ()) (Commanded log) log := by
  apply (wp_bind _ _ _ _).mpr
  apply wp_mono (redis_commanded (.incr generationKey))
  intro outcome log' first
  cases outcome with
  | error error =>
      obtain ⟨sent, rfl, trace⟩ := first
      cases trace with
      | failed own fault caught => exact ⟨_, rfl, .failed own fault caught⟩
  | ok value =>
      obtain ⟨sent, rfl, trace⟩ := first
      cases trace with
      | answered nonempty own =>
          cases authorId with
          | none => exact ⟨sent, rfl, .answered nonempty own⟩
          | some authorId =>
              apply (wp_bind _ _ _ _).mpr
              apply wp_mono (redis_commanded (.incr (authorGenerationKey authorId)))
              intro outcome log' second
              obtain ⟨later, rfl, trace⟩ := second.after own
              cases trace with
              | answered nonempty own => exact ⟨later, rfl, .answered nonempty own⟩
              | failed own fault caught => exact ⟨_, rfl, .failed own fault caught⟩

/-- What follows a command that was answered comes to a method that was. -/
theorem answered_admits {operation : CacheOperation} {command : Py α} {next : Option α → Py β}
    (sends : wp InstanceExec command (Commanded log) log)
    (onAnswer : ∀ value before, wp InstanceExec (next (some value)) (fun outcome log' =>
      (∃ value, outcome = .ok value) ∧
        ∃ lookups, log' = before ++ lookups ∧ ∀ e ∈ lookups, e.countsLookup = true) before)
    (onFailure : ∃ value, next none = .ret value) :
    wp InstanceExec ((ArticleCache.answered operation command).bind next) (Admits log) log := by
  apply (wp_bind _ _ _ _).mpr
  apply (wp_bind _ _ _ _).mpr
  apply (wp_attempt _ _ _).mpr
  apply wp_mono sends
  intro outcome log' ended
  obtain ⟨sent, rfl, trace⟩ := ended
  cases trace with
  | @answered value sent nonempty own =>
      intro reply log' step
      obtain ⟨rfl, -⟩ := step
      apply wp_mono (onAnswer value _)
      intro outcome log' ended
      obtain ⟨returned, lookups, rfl, metrics⟩ := ended
      refine ⟨returned, _, ?_, .answered nonempty own metrics⟩
      simp
  | @failed error sent last own fault caught =>
      simp only [caught, if_true]
      intro reply log' step
      obtain ⟨rfl, -⟩ := step
      intro reply log' step
      obtain ⟨rfl, -⟩ := step
      intro reply log' step
      obtain ⟨rfl, -⟩ := step
      obtain ⟨value, same⟩ := onFailure
      show wp InstanceExec (next none) (Admits log) _
      rw [same]
      exact ⟨⟨value, rfl⟩, _, by simp, @AdmittedTrace.failed sent last operation own fault⟩

/-- The three gates, and the method behind them. -/
theorem whenLive_called (cache : ArticleCache) {p : Py α} (value : α)
    (admitted : ∀ before, wp InstanceExec p (Admits before) before) :
    wp InstanceExec (cache.live.bind fun live => if live then p else .ret value) (Called log)
      log := by
  apply (wp_bind _ _ _ _).mpr
  unfold ArticleCache.live
  split
  · intro degraded log' step
    obtain ⟨rfl, known⟩ := step
    obtain rfl : degraded = degradedAfter log := known
    cases latched : degradedAfter log with
    | true =>
        refine ⟨⟨value, rfl⟩, _, rfl, ?_⟩
        rw [latched]
        exact .latched
    | false =>
        intro live log' step
        obtain ⟨rfl, -⟩ := step
        cases live with
        | false =>
            refine ⟨⟨value, rfl⟩, _, List.append_assoc _ _ _, ?_⟩
            rw [latched]
            exact .refused
        | true =>
            apply wp_mono (admitted _)
            intro outcome log' ended
            obtain ⟨returned, exchanges, rfl, trace⟩ := ended
            have whole : CallTrace (degradedAfter log)
                (⟨.cacheDegraded, false⟩ :: ⟨.breakerAllow .redis, true⟩ :: exchanges) := by
              rw [latched]
              exact .admitted trace
            exact ⟨returned, _, by simp, whole⟩
  · exact ⟨⟨value, rfl⟩, [], (List.append_nil _).symm, .disabled _⟩

/-- An answer that is handed on as it is. -/
theorem returns_no_lookup (value : α) (before : List Exchange) :
    wp InstanceExec (.ret value : Py α) (fun outcome log' =>
      (∃ value, outcome = .ok value) ∧
        ∃ lookups, log' = before ++ lookups ∧ ∀ e ∈ lookups, e.countsLookup = true) before := by
  refine ⟨⟨value, rfl⟩, [], (List.append_nil _).symm, ?_⟩
  intro e member
  cases member

theorem Called.discard {p : Py α} (called : wp InstanceExec p (Called log) log) :
    wp InstanceExec (do let _ ← p : Py Unit) (Called log) log := by
  apply (wp_bind _ _ _ _).mpr
  apply wp_mono called
  intro outcome log' ended
  obtain ⟨⟨value, rfl⟩, trace⟩ := ended
  exact ⟨⟨(), rfl⟩, trace⟩

theorem effect_called (cache : ArticleCache) (operation : CacheOperation) {command : Py α}
    (sends : ∀ before, wp InstanceExec command (Commanded before) before) :
    wp InstanceExec (cache.live.bind fun live =>
        if live then (do let _ ← ArticleCache.answered operation command : Py Unit) else .ret ())
      (Called log) log := by
  apply whenLive_called
  intro before
  exact answered_admits (sends before) (fun _ later => returns_no_lookup () later) ⟨(), rfl⟩

theorem fetch_called (cache : ArticleCache) (key : String) (entity : CacheEntity) :
    wp InstanceExec (cache.fetch key entity) (Called log) log := by
  apply whenLive_called
  intro before
  refine answered_admits (redis_commanded (.get key)) ?_ ⟨none, rfl⟩
  intro found later
  cases found with
  | none =>
      intro reply log' step
      obtain ⟨rfl, -⟩ := step
      refine ⟨⟨none, rfl⟩, _, rfl, ?_⟩
      intro e member
      obtain rfl := List.mem_singleton.mp member
      rfl
  | some body =>
      intro reply log' step
      obtain ⟨rfl, -⟩ := step
      refine ⟨⟨some body, rfl⟩, _, rfl, ?_⟩
      intro e member
      obtain rfl := List.mem_singleton.mp member
      rfl

/-- None of the ten operations raises. -/
theorem CacheCall.called (cache : ArticleCache) (call : CacheCall) :
    wp InstanceExec (call.run cache) (Called log) log := by
  cases call with
  | getArticle articleId => exact Called.discard (fetch_called cache _ _)
  | getListPage key => exact Called.discard (fetch_called cache _ _)
  | peek key =>
      apply Called.discard
      apply whenLive_called
      intro before
      exact answered_admits (redis_commanded _) returns_no_lookup ⟨none, rfl⟩
  | getGenerations authorId =>
      apply Called.discard
      apply whenLive_called
      intro before
      exact answered_admits (redis_commanded _) (fun values later => returns_no_lookup _ later)
        ⟨(0, 0), rfl⟩
  | setArticle articleId body ttlSeconds =>
      exact effect_called cache .set fun _ => redis_commanded _
  | setListPage key body ttlSeconds => exact effect_called cache .set fun _ => redis_commanded _
  | invalidateArticle articleId => exact effect_called cache .delete fun _ => redis_commanded _
  | bumpGenerations authorId => exact effect_called cache .incr fun _ => bump_commanded authorId
  | acquireLock key ttlSeconds =>
      apply Called.discard
      apply whenLive_called
      intro before
      exact answered_admits (redis_commanded _) returns_no_lookup ⟨true, rfl⟩
  | releaseLock key => exact effect_called cache .lock fun _ => redis_commanded _

end

/-! ## Any number of calls -/

/-- What is done in order by an instance that had `degraded` or not. -/
structure LatchKept (degraded : Bool) (log : List Exchange) : Prop where
  stopped : degraded = true → ∀ e ∈ log, e.isCommand = false ∧ e.consults = false
  after : ∀ before failure rest, log = before ++ failure :: rest → failure.failed = true →
    ∀ e ∈ rest, e.isCommand = false ∧ e.consults = false
  latched : ∀ e ∈ log, e.failed = true → degradedAfter log = true
  failures : degraded.toNat + log.countP Exchange.reportsFailure ≤
    (degraded || degradedAfter log).toNat
  errors : degraded.toNat + log.countP Exchange.countsError ≤
    (degraded || degradedAfter log).toNat

@[simp] theorem degradedAfter_append (first second : List Exchange) :
    degradedAfter (first ++ second) = (degradedAfter first || degradedAfter second) :=
  List.any_append

theorem LatchKept.nil (degraded : Bool) : LatchKept degraded [] := by
  constructor
  · intro _ e member
    cases member
  · intro before failure rest same
    simp at same
  · intro e member
    cases member
  · simp [degradedAfter]
  · simp [degradedAfter]

theorem LatchKept.append {degraded : Bool} {first second : List Exchange}
    (one : LatchKept degraded first)
    (two : LatchKept (degraded || degradedAfter first) second) :
    LatchKept degraded (first ++ second) := by
  constructor
  · intro off e member
    rcases List.mem_append.mp member with early | late
    · exact one.stopped off e early
    · exact two.stopped (by simp [off]) e late
  · intro before failure rest same fault e member
    rcases List.append_eq_append_iff.mp same with ⟨between, rfl, tail⟩ | ⟨between, rfl, tail⟩
    · exact two.after between failure rest tail fault e member
    · cases between with
      | nil =>
          exact two.after [] failure rest (by simpa using tail.symm) fault e member
      | cons head between =>
          obtain ⟨rfl, rfl⟩ := List.cons.inj tail
          have latched := one.latched failure (by simp) fault
          rcases List.mem_append.mp member with early | late
          · exact one.after before failure between rfl fault e early
          · exact two.stopped (by simp [latched]) e late
  · intro e member fault
    rw [degradedAfter_append]
    rcases List.mem_append.mp member with early | late
    · simp [one.latched e early fault]
    · simp [two.latched e late fault]
  · have early := one.failures
    have late := two.failures
    rw [List.countP_append, degradedAfter_append, ← Bool.or_assoc]
    omega
  · have early := one.errors
    have late := two.errors
    rw [List.countP_append, degradedAfter_append, ← Bool.or_assoc]
    omega

/-- An interaction that neither fails nor latches, reports a failure or counts one. -/
structure Exchange.Harmless (e : Exchange) : Prop where
  failed : e.failed = false
  latches : e.latches = false
  reportsFailure : e.reportsFailure = false
  countsError : e.countsError = false

theorem LatchKept.of_harmless {degraded : Bool} {log : List Exchange}
    (stopped : degraded = true → ∀ e ∈ log, e.isCommand = false ∧ e.consults = false)
    (harmless : ∀ e ∈ log, e.Harmless) : LatchKept degraded log := by
  have unlatched : degradedAfter log = false := by
    simp only [degradedAfter, List.any_eq_false, Bool.not_eq_true]
    exact fun e member => (harmless e member).latches
  have failures : log.countP Exchange.reportsFailure = 0 := by
    simp only [List.countP_eq_zero, Bool.not_eq_true]
    exact fun e member => (harmless e member).reportsFailure
  have errors : log.countP Exchange.countsError = 0 := by
    simp only [List.countP_eq_zero, Bool.not_eq_true]
    exact fun e member => (harmless e member).countsError
  constructor
  · exact stopped
  · intro before failure rest same fault
    have member : failure ∈ log := by simp [same]
    rw [(harmless failure member).failed] at fault
    cases fault
  · intro e member fault
    rw [(harmless e member).failed] at fault
    cases fault
  · simp [failures, unlatched]
  · simp [errors, unlatched]

theorem Exchange.of_answered {e : Exchange} (answered : e.isCommand = true ∧ e.failed = false) :
    e.Harmless ∧ e.reports = false := by
  obtain ⟨op, reply⟩ := e
  cases op with
  | redis command => exact ⟨⟨answered.2, rfl, rfl, rfl⟩, rfl⟩
  | _ => exact absurd answered.1 Bool.false_ne_true

theorem Exchange.of_lookup {e : Exchange} (lookup : e.countsLookup = true) :
    e.Harmless ∧ e.reports = false := by
  obtain ⟨op, reply⟩ := e
  cases op with
  | observe metric =>
      cases metric with
      | cacheError operation => exact absurd lookup Bool.false_ne_true
      | _ => exact ⟨⟨rfl, rfl, rfl, rfl⟩, rfl⟩
  | _ => exact absurd lookup Bool.false_ne_true

theorem Exchange.of_failed {e : Exchange} (fault : e.failed = true) :
    e.latches = false ∧ e.reportsFailure = false ∧ e.countsError = false ∧ e.reports = false := by
  obtain ⟨op, reply⟩ := e
  cases op with
  | redis command => exact ⟨rfl, rfl, rfl, rfl⟩
  | _ => exact absurd fault Bool.false_ne_true

/-- `_degrade` after the command that failed. -/
theorem LatchKept.of_failure {last : Exchange} (operation : CacheOperation)
    (fault : last.failed = true) :
    LatchKept false [last, ⟨.degradeCache, ()⟩, ⟨.breakerFailure .redis, ()⟩,
      ⟨.observe (.cacheError operation), ()⟩] := by
  obtain ⟨unlatched, unreported, uncounted, -⟩ := Exchange.of_failed fault
  have latched : degradedAfter [last, ⟨.degradeCache, ()⟩, ⟨.breakerFailure .redis, ()⟩,
      ⟨.observe (.cacheError operation), ()⟩] = true := by
    simp [degradedAfter, Exchange.latches]
  have quiet : ∀ e ∈ [(⟨.degradeCache, ()⟩ : Exchange), ⟨.breakerFailure .redis, ()⟩,
      ⟨.observe (.cacheError operation), ()⟩], e.isCommand = false ∧ e.consults = false := by
    simp [Exchange.isCommand, Exchange.consults]
  constructor
  · intro off
    cases off
  · intro before failure rest same _ e member
    apply quiet e
    cases before with
    | nil =>
        rw [(List.cons.inj same).2]
        exact member
    | cons head before =>
        rw [(List.cons.inj same).2]
        exact List.mem_append_right _ (List.mem_cons_of_mem _ member)
  · intro _ _ _
    exact latched
  · simp only [latched, List.countP_cons, unreported]
    simp [Exchange.reportsFailure]
  · simp only [latched, List.countP_cons, uncounted]
    simp [Exchange.countsError]

theorem CallTrace.kept {degraded : Bool} {exchanges : List Exchange}
    (trace : CallTrace degraded exchanges) : LatchKept degraded exchanges := by
  have unlatched : ∀ log : List Exchange, false = true →
      ∀ e ∈ log, e.isCommand = false ∧ e.consults = false := by
    intro log off
    cases off
  have gates : ∀ allowed, ∀ e ∈ [(⟨.cacheDegraded, false⟩ : Exchange),
      ⟨.breakerAllow .redis, allowed⟩], e.Harmless := by
    intro allowed e member
    rcases List.mem_cons.mp member with rfl | member
    · exact ⟨rfl, rfl, rfl, rfl⟩
    · obtain rfl := List.mem_singleton.mp member
      exact ⟨rfl, rfl, rfl, rfl⟩
  cases trace with
  | disabled => exact .nil degraded
  | latched =>
      apply LatchKept.of_harmless
      · intro _ e member
        obtain rfl := List.mem_singleton.mp member
        exact ⟨rfl, rfl⟩
      · intro e member
        obtain rfl := List.mem_singleton.mp member
        exact ⟨rfl, rfl, rfl, rfl⟩
  | refused => exact .of_harmless (unlatched _) (gates false)
  | @admitted exchanges admitted =>
      apply LatchKept.append (.of_harmless (unlatched _) (gates true))
      cases admitted with
      | @answered sent lookups _ own metrics =>
          apply LatchKept.of_harmless (unlatched _)
          intro e member
          rcases List.mem_append.mp member with early | late
          · exact (Exchange.of_answered (own e early)).1
          · rcases List.mem_cons.mp late with rfl | late
            · exact ⟨rfl, rfl, rfl, rfl⟩
            · exact (Exchange.of_lookup (metrics e late)).1
      | @failed sent last operation own fault =>
          have harmless : ∀ e ∈ sent, e.Harmless := by
            intro e member
            exact (Exchange.of_answered (own e member)).1
          have before : LatchKept false sent := .of_harmless (unlatched _) harmless
          have still : degradedAfter sent = false := by
            simp only [degradedAfter, List.any_eq_false, Bool.not_eq_true]
            exact fun e member => (harmless e member).latches
          apply LatchKept.append before
          rw [still]
          exact .of_failure operation fault

theorem CallTrace.reports_once {degraded : Bool} {exchanges : List Exchange}
    (trace : CallTrace degraded exchanges) (sends : ∃ e ∈ exchanges, e.isCommand = true) :
    exchanges.countP Exchange.reports = 1 := by
  obtain ⟨e, member, command⟩ := sends
  have silent : ∀ sent : List Exchange, (∀ e ∈ sent, e.isCommand = true ∧ e.failed = false) →
      sent.countP Exchange.reports = 0 := by
    intro sent own
    simp only [List.countP_eq_zero, Bool.not_eq_true]
    exact fun e member => (Exchange.of_answered (own e member)).2
  cases trace with
  | disabled => cases member
  | latched =>
      obtain rfl := List.mem_singleton.mp member
      cases command
  | refused =>
      rcases List.mem_cons.mp member with rfl | member
      · cases command
      · obtain rfl := List.mem_singleton.mp member
        cases command
  | @admitted exchanges admitted =>
      cases admitted with
      | @answered sent lookups _ own metrics =>
          have unreported : lookups.countP Exchange.reports = 0 := by
            simp only [List.countP_eq_zero, Bool.not_eq_true]
            exact fun e member => (Exchange.of_lookup (metrics e member)).2
          simp [List.countP_cons, List.countP_append, silent sent own, unreported,
            Exchange.reports]
      | @failed sent last operation own fault =>
          simp only [List.countP_cons, List.countP_append, silent sent own,
            (Exchange.of_failed fault).2.2.2]
          simp [Exchange.reports]

def allExchanges (done : List (Except Exc Unit × List Exchange)) : List Exchange :=
  (done.map Prod.snd).flatten

theorem AwaitedCalls.kept {cache : ArticleCache} {calls : List CacheCall} {log : List Exchange}
    {done : List (Except Exc Unit × List Exchange)} (run : AwaitedCalls cache calls log done) :
    LatchKept (degradedAfter log) (allExchanges done) ∧
      ∀ one ∈ done, one.1 = .ok () ∧ ∃ degraded, CallTrace degraded one.2 := by
  induction run with
  | nil log =>
      refine ⟨.nil _, ?_⟩
      intro one member
      cases member
  | @cons call calls log exchanges outcome rest run _ ih =>
      obtain ⟨⟨value, rfl⟩, own, same, trace⟩ := wp_sound _ _ _ _ _ (call.called cache) run
      obtain rfl := List.append_cancel_left same
      rw [degradedAfter_append] at ih
      refine ⟨trace.kept.append ih.1, ?_⟩
      intro one member
      rcases List.mem_cons.mp member with rfl | member
      · exact ⟨rfl, _, trace⟩
      · exact ih.2 one member

/-- For every sequence of calls of one instance, of any answers of Redis and of the breaker: no
call raises; after the first command that fails no command is sent and the breaker is not
consulted; at most one failure is reported and one counted; and every call that sent a command
reported one result. -/
theorem cache_instance_fails_at_most_once (cache : ArticleCache) (calls : List CacheCall)
    {done : List (Except Exc Unit × List Exchange)} (run : AwaitedCalls cache calls [] done) :
    (∀ one ∈ done, one.1 = .ok ()) ∧
      (∀ before failure rest, allExchanges done = before ++ failure :: rest →
        failure.failed = true → ∀ e ∈ rest, e.isCommand = false ∧ e.consults = false) ∧
      (allExchanges done).countP Exchange.reportsFailure ≤ 1 ∧
      (allExchanges done).countP Exchange.countsError ≤ 1 ∧
      ∀ one ∈ done, (∃ e ∈ one.2, e.isCommand = true) → one.2.countP Exchange.reports = 1 := by
  obtain ⟨kept, each⟩ := run.kept
  have once : ∀ degraded : Bool, degraded.toNat ≤ 1 := Bool.toNat_le
  refine ⟨fun one member => (each one member).1, kept.after, ?_, ?_, ?_⟩
  · have bound := kept.failures.trans (once _)
    omega
  · have bound := kept.errors.trans (once _)
    omega
  · intro one member sends
    obtain ⟨-, degraded, trace⟩ := each one member
    exact trace.reports_once sends

/-- A Redis that answers nothing, behind a closed breaker. -/
def deadRedis : (op : Op) → List Exchange → Option op.Reply
  | .redis _, _ => some (.error .redisError)
  | .cacheDegraded, log => some (degradedAfter log)
  | .breakerAllow _, _ => some true
  | .degradeCache, _ => some ()
  | .breakerFailure _, _ => some ()
  | .observe _, _ => some ()
  | _, _ => none

theorem deadRedis_exec (op : Op) (log : List Exchange) (reply : op.Reply) (log' : List Exchange)
    (answered : (deadRedis op log).map (fun reply => (reply, log ++ [⟨op, reply⟩])) =
      some (reply, log')) : InstanceExec op log reply log' := by
  obtain ⟨given, same, paired⟩ := Option.map_eq_some_iff.mp answered
  obtain ⟨rfl, rfl⟩ := Prod.mk.inj paired
  refine ⟨rfl, ?_⟩
  cases op with
  | redis command =>
      obtain rfl := Option.some.inj same
      rfl
  | cacheDegraded => exact (Option.some.inj same).symm
  | _ => trivial

/-- The lookup fails; the store after it is not sent. -/
theorem cache_instance_fails_at_most_once_of_two : ∃ done,
    AwaitedCalls ⟨true⟩ [.getArticle 42, .setArticle 42 "" 300] [] done ∧
    (allExchanges done).countP Exchange.reportsFailure ≤ 1 := by
  have lookup : Runs InstanceExec ((CacheCall.getArticle 42).run ⟨true⟩) [] (.ok ())
      ([] ++ [⟨.cacheDegraded, false⟩, ⟨.breakerAllow .redis, true⟩,
        ⟨.redis (.get (articleKey 42)), .error .redisError⟩, ⟨.degradeCache, ()⟩,
        ⟨.breakerFailure .redis, ()⟩, ⟨.observe (.cacheError .get), ()⟩]) :=
    execute_runs deadRedis_exec rfl
  have store : Runs InstanceExec ((CacheCall.setArticle 42 "" 300).run ⟨true⟩)
      ([] ++ [⟨.cacheDegraded, false⟩, ⟨.breakerAllow .redis, true⟩,
        ⟨.redis (.get (articleKey 42)), .error .redisError⟩, ⟨.degradeCache, ()⟩,
        ⟨.breakerFailure .redis, ()⟩, ⟨.observe (.cacheError .get), ()⟩]) (.ok ())
      (_ ++ [⟨.cacheDegraded, true⟩]) := execute_runs deadRedis_exec rfl
  have run := AwaitedCalls.cons lookup (.cons store (.nil _))
  exact ⟨_, run, (cache_instance_fails_at_most_once ⟨true⟩ _ run).2.2.1⟩

end ContentPlatform
