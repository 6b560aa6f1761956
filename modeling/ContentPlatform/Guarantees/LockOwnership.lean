import ContentPlatform.Schemas
import ContentPlatform.World.Locks

/-!
# Who releases a lock

A lock is released by the request that it was created for, as long as no release comes
from a request that created none or whose lock has expired.
-/

set_option autoImplicit false

namespace ContentPlatform

open Program Py Prog Protocol

section
variable {σ : Setting} {shrinks : ∀ w w', σ.env w w' → Shrinks w w'} {i : Pid} {key : String}
  {α : Type} {A : Held → Prop}

/-! ## What a request knows of its locks -/

def Unasked (i : Pid) (s : Held) : Prop := ∀ key, s.status i (lockKey key) = .unasked

def SwitchedOff (i : Pid) (s : Held) : Prop := (s.timed.world.requests i).degraded = true

/-- What is known of a request that counts as the winner of a lock. -/
def Winner (i : Pid) (key : String) (s : Held) : Prop :=
  SwitchedOff i s ∨ s.Releasing i (lockKey key)

/-- A fact about the locks of request `i` that only its own locking changes. -/
structure Locking (σ : Setting) (shrinks : ∀ w w', σ.env w w' → Shrinks w w') (i : Pid)
    (A : Held → Prop) : Prop where
  stable : (σ.locks shrinks).Stable i A
  step : ∀ s s', A s → (∀ key, s'.status i (lockKey key) = s.status i (lockKey key)) →
    (SwitchedOff i s → SwitchedOff i s') → A s'

theorem Locking.true_ : Locking σ shrinks i fun _ => True :=
  ⟨fun _ _ _ _ _ _ => trivial, fun _ _ _ _ _ => trivial⟩

theorem Locking.unasked : Locking σ shrinks i (Unasked i) := by
  refine ⟨fun s s' _ unasked spared _ key => ?_, fun s s' unasked same _ key => ?_⟩
  · rcases spared.status (lockKey key) with same | ⟨held, -⟩
    · exact same.trans (unasked key)
    · cases (unasked key).symm.trans held
  · exact (same key).trans (unasked key)

theorem Locking.releasing (key : String) :
    Locking σ shrinks i fun s => s.Releasing i (lockKey key) := by
  refine ⟨fun s s' _ releasing spared _ => ?_, fun s s' releasing same _ => ?_⟩
  · rcases spared.status (lockKey key) with same | ⟨-, expired⟩
    · exact ⟨by rw [same]; exact releasing.admitted, by rw [same]; exact releasing.first⟩
    · exact ⟨by rw [expired]; decide, by rw [expired]; decide⟩
  · exact ⟨by rw [same]; exact releasing.admitted, by rw [same]; exact releasing.first⟩

theorem Locking.switchedOff : Locking σ shrinks i (SwitchedOff i) := by
  refine ⟨fun s s' _ off spared _ => ?_, fun _ _ off _ stays => stays off⟩
  rw [SwitchedOff, spared.request]
  exact off

theorem Locking.or {B : Held → Prop} (first : Locking σ shrinks i A)
    (second : Locking σ shrinks i B) : Locking σ shrinks i fun s => A s ∨ B s := by
  refine ⟨fun s s' kept holds spared kept' => ?_, fun s s' holds same stays => ?_⟩
  · exact holds.imp (first.stable s s' kept · spared kept') (second.stable s s' kept · spared kept')
  · exact holds.imp (first.step s s' · same stays) (second.step s s' · same stays)

theorem Locking.winner (key : String) : Locking σ shrinks i (Winner i key) :=
  Locking.switchedOff.or (Locking.releasing key)

theorem Locking.imp (φ : Prop) (locking : Locking σ shrinks i A) :
    Locking σ shrinks i fun s => φ → A s :=
  ⟨fun s s' kept holds spared kept' given => locking.stable s s' kept (holds given) spared kept',
    fun s s' holds same stays given => locking.step s s' (holds given) same stays⟩

/-! ## Away from the locks -/

def LockFree (op : Op) : Prop :=
  ∀ command, op = .redis command → ∀ key, ¬Redis.writes command (lockKey key)

theorem lockFree_silent {op : Op} (silent : op.asksRedis = false) : LockFree op := by
  rintro command rfl
  cases silent

theorem lockFree_local (op : Op) (isLocal : op.isBookkeeping = true) :
    LockFree op := lockFree_silent (by cases op <;> first | rfl | cases isLocal)

theorem lockFree_cache (op : Op) (asks : op.asksCache = true) : LockFree op :=
  lockFree_silent (by cases op <;> first | rfl | cases asks)

theorem lockFree_redis {command : RedisCommand}
    (aside : ∀ key, ¬Redis.writes command (lockKey key)) : LockFree (.redis command) := by
  rintro _ ⟨⟩
  exact aside

theorem lockFree_get (key : String) : LockFree (.redis (.get key)) := lockFree_redis fun _ => id

theorem lockFree_forget (id : ℤ) : LockFree (.redis (.delete (articleKey id))) :=
  lockFree_redis fun key => lockKey_ne_articleKey key id

theorem lockFree_count (author : Option ℤ) : LockFree (.redis (.incr (counterKey author))) :=
  lockFree_redis fun key => lockKey_ne_counterKey key author

theorem lockFree_triple {p : Py α} (locking : Locking σ shrinks i A) (sends : p.Sends LockFree) :
    (σ.locks shrinks).Triple i A p fun _ => A := by
  apply Triple.of_sends sends locking.stable
  · intro op s aside _ _ command same
    exact .aside (aside command same)
  · rintro op s reply s' aside - holds ⟨c, ⟨-, exec, status⟩, -⟩ -
    apply locking.step s s' holds
    · intro key
      rw [status, Held.marked_key fun command same => aside command same key]
    · exact World.exec_degraded (Timed.exec_world exec).1

/-! ## The cache methods -/

def OnValue (B : α → Held → Prop) : Except Exc α → Held → Prop
  | .ok value, s => B value s
  | .error _, _ => True

/-- An answer, or none and a cache that is switched off. -/
def AnsweredOr (i : Pid) (B : α → Held → Prop) : Option α → Held → Prop
  | some value, s => B value s
  | none, s => SwitchedOff i s

theorem degrade_triple (operation : CacheOperation) :
    (σ.locks shrinks).Triple i (fun _ => True) (ArticleCache.degrade operation)
      fun _ => SwitchedOff i := by
  apply Triple.call (fun _ => SwitchedOff i) Locking.true_.stable
  · rintro s - - command impossible
    cases impossible
  · rintro s reply s' - - ⟨c, ⟨-, exec, -⟩, -⟩ -
    obtain ⟨-, world⟩ := Prod.mk.inj (Option.some.inj (Timed.exec_world exec).1)
    rw [SwitchedOff, ← world, World.setRequest_requests]
  · intro _
    have rest : (Prog.bind (breakerFailure .redis) fun _ =>
        observe (.cacheError operation)).Sends LockFree :=
      Sends.bind (reply_sends (lockFree_cache _ rfl) _) fun _ =>
        reply_sends (lockFree_local _ rfl) _
    exact lockFree_triple Locking.switchedOff rest

/-- An admitted command; where it fails, the cache is switched off. -/
theorem answered_locks {operation : CacheOperation} {command : Py α} {B : α → Held → Prop}
    (locking : ∀ value, Locking σ shrinks i (B value))
    (first : (σ.locks shrinks).Triple i A command (OnValue B)) :
    (σ.locks shrinks).Triple i A (ArticleCache.answered operation command)
      (OnValue (AnsweredOr i B)) := by
  apply Triple.attempt_bind first
  intro outcome
  cases outcome with
  | ok value =>
      apply Triple.bind (C := fun _ => B value)
      · exact lockFree_triple (locking value) (reply_sends (lockFree_cache _ rfl) _)
      · exact fun _ => Triple.ret (locking value).stable fun _ _ holds => holds
      · exact fun _ _ _ _ => trivial
  | error error =>
      have raised : (σ.locks shrinks).Triple i (fun _ => True) (.raise error : Py (Option α))
          (OnValue (AnsweredOr i B)) := Triple.raise Locking.true_.stable fun _ _ _ => trivial
      dsimp only
      split
      · apply Triple.bind (degrade_triple operation)
        · exact fun _ => Triple.ret Locking.switchedOff.stable fun _ _ off => off
        · exact fun _ _ _ _ => trivial
      · exact raised

theorem setLock_triple (key : String) (ttl : ℤ) :
    (σ.locks shrinks).Triple i (Unasked i) (redis (.set (lockKey key) "1" ttl true))
      (OnValue fun acquired s => acquired = true → s.Releasing i (lockKey key)) := by
  apply Triple.call (fun (reply : Except Exc Bool) s => reply = .ok true →
    s.Releasing i (lockKey key))
    Locking.unasked.stable
  · rintro s - unasked _ ⟨⟩
    exact .ask (unasked key)
  · rintro s reply s' - unasked ⟨c, ⟨-, exec, status⟩, -⟩ - rfl
    have world := (Timed.exec_world exec).1
    -- only a command that Redis executed answers
    have executed : c.executed = true := by
      rw [Choice.executed]
      cases fault : c.fault with
      | none => rfl
      | some error =>
          simp only [World.exec, fault] at world
          cases Option.some.inj world
    have free : s.entry (lockKey key) = none := by
      cases stored : s.entry (lockKey key) with
      | none => rfl
      | some entry =>
          have taken : s.timed.world.store.entries (lockKey key) = some entry := stored
          simp [World.exec, World.redisStep, Redis.step, taken] at world
          cases fault : c.fault with
          | none =>
              rw [fault] at world
              cases Option.some.inj world
          | some error =>
              rw [fault] at world
              cases Option.some.inj world
    have held : s'.status i (lockKey key) = .held := by
      rw [status, Held.marked, executed, if_pos rfl, free]
      exact Held.setStatus_self _
    exact ⟨by rw [held]; decide, by rw [held]; decide⟩
  · intro reply
    have stable := ((Locking.releasing key).imp (reply = .ok true) : Locking σ shrinks i _).stable
    cases reply with
    | ok acquired => exact Triple.ret stable fun s _ won same => won (congrArg _ same)
    | error error => exact Triple.raise stable fun _ _ _ => trivial

variable (cache : ArticleCache)

/-- Who counts as the winner may release the lock, or its cache is switched off. -/
theorem acquireLock_locks (key : String) (ttl : ℤ) :
    (σ.locks shrinks).Triple i (Unasked i) (cache.acquireLock key ttl)
      (OnValue fun won s => won = true → Winner i key s) := by
  have asked : ∀ acquired : Bool, Locking σ shrinks i fun s =>
      acquired = true → s.Releasing i (lockKey key) := fun acquired =>
    (Locking.releasing key).imp (acquired = true)
  have unasked : ∀ s, Unasked i s → Winner i key s := by
    intro s unasked
    exact Or.inr ⟨by rw [unasked]; decide, by rw [unasked]; decide⟩
  apply Triple.bind (lockFree_triple Locking.unasked (live_sends cache lockFree_cache))
  · intro live
    cases live with
    | false => exact Triple.ret Locking.unasked.stable fun s _ holds _ => unasked s holds
    | true =>
        apply Triple.bind (answered_locks asked (setLock_triple key _))
        · intro result
          cases result with
          | none => exact Triple.ret Locking.switchedOff.stable fun _ _ off _ => Or.inl off
          | some acquired =>
              exact Triple.ret (asked acquired).stable fun _ _ holds won => Or.inr (holds won)
        · exact fun _ _ _ _ => trivial
  · exact fun _ _ _ _ => trivial

theorem releaseLock_locks (key : String) :
    (σ.locks shrinks).Triple i (Winner i key) (cache.releaseLock key) fun _ _ => True := by
  have done : ∀ {p : Py Unit}, p.Sends LockFree →
      (σ.locks shrinks).Triple i (fun _ => True) p fun _ _ => True :=
    fun sends => lockFree_triple Locking.true_ sends
  -- a live cache has not been switched off
  have live : (σ.locks shrinks).Triple i (Winner i key) cache.live
      (OnValue fun live s => live = true → s.Releasing i (lockKey key)) := by
    unfold ArticleCache.live
    split
    · apply Triple.call (fun degraded s => degraded = false → s.Releasing i (lockKey key))
        (Locking.winner key).stable
      · rintro s - - command impossible
        cases impossible
      · rintro s reply s' - winner ⟨c, ⟨-, exec, status⟩, -⟩ - rfl
        obtain ⟨off, world⟩ := Prod.mk.inj (Option.some.inj (Timed.exec_world exec).1)
        rcases winner with on | releasing
        · cases off.symm.trans on
        · have same : s'.status = s.status := status
          exact ⟨by rw [same]; exact releasing.admitted, by rw [same]; exact releasing.first⟩
      · intro degraded
        have known := ((Locking.releasing key).imp (degraded = false) : Locking σ shrinks i _)
        cases degraded with
        | true => exact Triple.ret known.stable fun _ _ _ impossible => by cases impossible
        | false =>
            apply Triple.mono (lockFree_triple known (reply_sends (lockFree_cache _ rfl) _))
            · exact fun _ _ holds => holds
            · intro outcome s _ holds
              cases outcome with
              | ok live => exact fun _ => holds rfl
              | error error => trivial
    · exact Triple.ret (Locking.winner key).stable fun _ _ _ impossible => by cases impossible
  have unlock : (σ.locks shrinks).Triple i (fun s => s.Releasing i (lockKey key))
      (redis (.delete (lockKey key))) (OnValue fun _ _ => True) := by
    apply Triple.call (fun _ _ => True) (Locking.releasing key).stable
    · rintro s - releasing _ ⟨⟩
      exact .release releasing
    · exact fun _ _ _ _ _ _ _ => trivial
    · intro reply
      apply (done (sends_ofExcept reply)).mono
      · exact fun _ _ _ => trivial
      · intro outcome _ _ _
        cases outcome <;> trivial
  apply Triple.bind live
  · intro live
    cases live with
    | false =>
        exact Triple.ret ((Locking.releasing key).imp (false = true)).stable fun _ _ _ => trivial
    | true =>
        apply Triple.mono (A := fun s => s.Releasing i (lockKey key)) (B := fun _ _ => True)
        · apply Triple.bind (answered_locks (fun _ => Locking.true_) unlock)
          · intro result
            have last : (Prog.ret () : Py Unit).Sends LockFree := trivial
            exact (done last).mono (fun _ _ _ => trivial) fun _ _ _ _ => trivial
          · exact fun _ _ _ _ => trivial
        · exact fun _ _ holds => holds rfl
        · exact fun _ _ _ _ => trivial
  · exact fun _ _ _ _ => trivial

/-! ## The reads -/

variable (service : ArticleService)

theorem underLock_locks {p : Py α} {won : Bool} (sends : p.Sends LockFree) :
    (σ.locks shrinks).Triple i (fun s => won = true → Winner i key s)
      (p.tryFinally (service.releaseIfWon won key)) fun _ _ => True := by
  have known := ((Locking.winner key).imp (won = true) : Locking σ shrinks i _)
  have released : (σ.locks shrinks).Triple i (fun s => won = true → Winner i key s)
      (service.releaseIfWon won key) fun _ _ => True := by
    cases won with
    | false => exact Triple.ret known.stable fun _ _ _ => trivial
    | true =>
        exact (releaseLock_locks service.cache key).mono (fun _ _ holds => holds rfl)
          fun _ _ _ ended => ended
  apply Triple.tryFinally (lockFree_triple known sends)
  intro outcome
  apply released.mono
  · exact fun _ _ holds => holds
  · intro ended s _ _
    cases ended <;> exact ⟨Locking.true_.stable, trivial⟩

theorem lockFree_footprint {p : Py α}
    (sends : p.Sends (Footprint (fun _ => True) (fun _ => False) True)) : p.Sends LockFree := by
  apply sends.mono
  rintro op footprint command rfl
  exact footprint.elim

theorem loadAndStore_lockFree (id : ℤ) : (service.loadAndStore id).Sends LockFree := by
  apply Sends.bind (lockFree_footprint (load_sends service trivial))
  intro article
  apply Sends.bind (lockFree_footprint (articleAttributes_sends article))
  intro row
  apply Sends.bind (lockFree_footprint (jitteredTtl_sends _ _))
  intro ttl
  apply Sends.bind
  · exact store_sends lockFree_local service.cache lockFree_cache _ _ _
      (lockFree_redis fun key => lockKey_ne_articleKey key id)
  · exact fun _ => trivial

theorem loadAndStorePage_lockFree (generation limit : ℤ) (after : Option Position)
    (author : Option ℤ) :
    (service.loadAndStorePage (listKey service.rt generation author limit (cursorParts after)) limit
      after author).Sends LockFree := by
  apply Sends.bind (lockFree_footprint (loadPage_sends service trivial))
  intro page
  apply Sends.bind (lockFree_footprint (jitteredTtl_sends _ _))
  intro ttl
  apply Sends.bind
  · exact store_sends lockFree_local service.cache lockFree_cache _ _ _
      (lockFree_redis fun key => lockKey_ne_listKey key _ _ _ _ _)
  · exact fun _ => trivial

/-- What follows the attempt to get the lock, whatever the wait finds. -/
theorem singleFlight_locks {found : Option String → Py α}
    {load : Py α} (sends : load.Sends LockFree) (won : Bool)
    (rest : ∀ body, (found body).Sends LockFree ∨
      found body = load.tryFinally (service.releaseIfWon won key)) :
    (σ.locks shrinks).Triple i (fun s => won = true → Winner i key s)
      ((service.waitUnlessWon won key).bind found) fun _ _ => True := by
  have known := ((Locking.winner key).imp (won = true) : Locking σ shrinks i _)
  apply Triple.bind (lockFree_triple known (waitUnlessWon_sends lockFree_local lockFree_cache service
    (lockFree_silent rfl) (lockFree_get key) won))
  · intro body
    rcases rest body with free | same
    · exact (lockFree_triple known free).mono (fun _ _ holds => holds) fun _ _ _ _ => trivial
    · rw [same]
      exact underLock_locks service sends
  · exact fun _ _ _ _ => trivial

theorem get_locks (id : ℤ) :
    (σ.locks shrinks).Triple i (Unasked i) (service.get id) fun _ _ => True := by
  unfold ArticleService.get
  apply Triple.bind (lockFree_triple Locking.unasked (fetch_sends lockFree_local service.cache
    lockFree_cache _ _ (lockFree_get _)))
  · intro body
    cases decodeArticle service.rt body with
    | some out => exact Triple.ret Locking.unasked.stable fun _ _ _ => trivial
    | none =>
        apply Triple.bind (acquireLock_locks service.cache (articleKey id) _)
        · intro won
          apply singleFlight_locks service (loadAndStore_lockFree service id)
          intro waited
          cases decodeArticle service.rt waited with
          | some out => exact Or.inl trivial
          | none => exact Or.inr rfl
        · exact fun _ _ _ _ => trivial
  · exact fun _ _ _ _ => trivial

theorem list_locks (limit : ℤ) (after : Option Position) (author : Option ℤ) :
    (σ.locks shrinks).Triple i (Unasked i) (service.listArticles limit after author)
      fun _ _ => True := by
  unfold ArticleService.listArticles
  apply Triple.bind (lockFree_triple Locking.unasked (getGenerations_sends lockFree_local
    service.cache lockFree_cache author (lockFree_redis fun _ => id)))
  · intro pair
    apply Triple.bind (lockFree_triple Locking.unasked (fetch_sends lockFree_local service.cache
      lockFree_cache _ _ (lockFree_get _)))
    · intro body
      rcases decodePage service.rt body with error | _ | page
      · exact Triple.raise Locking.unasked.stable fun _ _ _ => trivial
      · apply Triple.bind (acquireLock_locks service.cache _ _)
        · intro won
          apply singleFlight_locks service (loadAndStorePage_lockFree service _ limit after author)
          intro waited
          rcases decodePage service.rt waited with error | _ | page
          · exact Or.inl trivial
          · exact Or.inr rfl
          · exact Or.inl trivial
        · exact fun _ _ _ _ => trivial
      · exact Triple.ret Locking.unasked.stable fun _ _ _ => trivial
    · exact fun _ _ _ _ => trivial
  · exact fun _ _ _ _ => trivial

/-! ## The whole request -/

theorem readSession_locks (cache : ArticleCache) {handler : Py Response}
    (first : (σ.locks shrinks).Triple i (Unasked i) handler fun _ _ => True) :
    (σ.locks shrinks).Triple i (Unasked i) (getSession cache handler) fun _ _ => True := by
  have silent : ∀ {β : Type} {p : Py β}, p.Sends LockFree →
      (σ.locks shrinks).Triple i (fun _ => True) p fun _ _ => True :=
    fun sends => lockFree_triple Locking.true_ sends
  apply getSession_triple (C := fun _ _ => True) cache fun _ => Locking.true_.stable
  · apply Triple.bind first
    · intro value
      apply silent
      exact Sends.bind (answer_sends (lockFree_silent rfl) _) fun _ => trivial
    · exact fun _ _ _ _ => trivial
  · intro value
    exact silent (drainAfterCommit_sends lockFree_local cache lockFree_cache lockFree_forget
      lockFree_count (lockFree_silent rfl))
  · intro error
    apply silent
    apply Sends.bind (answer_sends (lockFree_silent rfl) _)
    intro _
    exact Sends.bind (reply_sends (lockFree_silent rfl) _) fun _ => trivial

/-- Requests that send no command of their own leave the locks alone. -/
theorem serve_lockFree (app : App) {request : Request}
    (silent : ∀ command, ¬request.commands app.rt command) :
    (app.serve request).Sends LockFree := by
  apply getSession_sends lockFree_local app.cache lockFree_cache lockFree_forget lockFree_count
  · apply (handler_sends app request).mono
    rintro op footprint command rfl
    exact absurd footprint (silent command)
  · exact lockFree_silent rfl
  · exact lockFree_silent rfl
  · exact lockFree_silent rfl

theorem serve_locks (app : App) (request : Request) :
    (σ.locks shrinks).Triple i (Unasked i) (app.serve request) fun _ _ => True := by
  have other : (∀ command, ¬request.commands app.rt command) →
      (σ.locks shrinks).Triple i (Unasked i) (app.serve request) fun _ _ => True :=
    fun silent => (lockFree_triple Locking.unasked (serve_lockFree app silent)).mono
      (fun _ _ holds => holds) fun _ _ _ _ => trivial
  cases request with
  | get id =>
      apply readSession_locks
      apply Triple.bind (get_locks app.articles id)
      · exact fun _ => Triple.ret Locking.true_.stable fun _ _ _ => trivial
      · exact fun _ _ _ _ => trivial
  | list limit after author =>
      apply readSession_locks
      apply Triple.bind (list_locks app.articles limit after author)
      · exact fun _ => Triple.ret Locking.true_.stable fun _ _ _ => trivial
      · exact fun _ _ _ _ => trivial
  | create principal title body => exact other fun _ => id
  | update principal id title body expected => exact other fun _ impossible => impossible
  | delete principal id expected => exact other fun _ impossible => impossible
  | register email password => exact other fun _ impossible => impossible
  | login email password => exact other fun _ impossible => impossible

variable (shrinks) in
theorem App.allLocks (app : App) (w : World) (now : ℚ) :
    (σ.locks shrinks).AllSafe (fun _ _ _ => True) (app.startUnlocked σ.requests w now) := by
  have locked : Locked (app.startUnlocked σ.requests w now).state := by
    constructor
    · intro i key held
      cases held
    · intro key entry stamp _ stamped
      cases stamped
  exact ⟨locked, fun i => serve_locks app (σ.requests i) _ locked fun _ => rfl⟩

/-! ## The guarantee -/

/-- The lock that is stored under a key, if any, is the one that request `i` created. -/
def OwnLock (i : Pid) (key : String) (s : Timed) : Prop :=
  ∀ entry, s.world.store.entries (lockKey key) = some entry →
    ∃ stamp, s.stamps (lockKey key) = some stamp ∧ stamp.by_ = i

/-- In every run of any requests, whatever fails, whatever a breaker refuses and whatever Redis
drops, a request that is about to release a lock is the one that the stored lock was created for
exactly if its own has been created and has not expired, or nothing is stored; as long as all
releases before were such. -/
theorem lock_released_by_holder (σ : Setting) (shrinks : ∀ w w', σ.env w w' → Shrinks w w')
    (app : App) (w : World) (now : ℚ) {c : HeldSystem}
    (run : σ.Careful (app.startUnlocked σ.requests w now) c) (i : Pid) (key : String)
    (next : Except Exc Unit → Py Response)
    (code : c.code i = .call (.redis (.delete (lockKey key))) next) :
    OwnLock i key c.state.timed ↔ c.state.MayDelete i key := by
  have all := (app.allLocks shrinks w now).steps run
  have locked : Locked c.state := all.inv
  have may : c.state.MayLock i (.delete (lockKey key)) := all.owed (i := i) code _ rfl
  constructor
  · intro own stored
    obtain ⟨entry, present⟩ := Option.isSome_iff_exists.mp stored
    obtain ⟨stamp, stamped, rfl⟩ := own entry present
    have held := locked.stamped key entry stamp present stamped
    exact ⟨by rw [held]; decide, by rw [held]; decide⟩
  · intro careful entry present
    have intact := careful (by rw [Held.entry, present]; rfl)
    have releasing : c.state.Releasing i (lockKey key) := by
      generalize same : RedisCommand.delete (lockKey key) = command at may
      cases may with
      | aside aside =>
          subst same
          exact absurd rfl (aside key)
      | ask _ => cases same
      | release releasing =>
          rw [RedisCommand.delete.injEq] at same
          rw [same]
          exact releasing
    obtain ⟨_, stamp, -, stamped, by_⟩ := locked.held i key (intact.held releasing)
    exact ⟨stamp, stamped, by_⟩

end

/-! ## A load that outlasts its lock -/

def readersOf (count : ℕ) : TimedSystem :=
  App.startAt ⟨defaultRuntime fun _ => "", true⟩ (requestsOf (List.replicate count (.get 1)))
    (World.fresh editedArticle 2 [ann]) 0

def releases (i by_ : Pid) (c : TimedSystem) : Bool :=
  match c.code i with
  | .call (.redis (.delete key)) _ =>
      key == lockKey (articleKey 1) && (c.state.world.store.entries key).isSome &&
        (c.state.stamps key).any fun stamp => stamp.by_ == by_
  | _ => false

theorem exists_release {i by_ : Pid} {c : TimedSystem} (about : releases i by_ c = true) :
    (∃ next, c.code i = .call (.redis (.delete (lockKey (articleKey 1)))) next) ∧
      ∃ entry stamp, c.state.world.store.entries (lockKey (articleKey 1)) = some entry ∧
        c.state.stamps (lockKey (articleKey 1)) = some stamp ∧ stamp.by_ = by_ := by
  unfold releases at about
  split at about
  · rename_i key next code
    simp only [Bool.and_eq_true, beq_iff_eq] at about
    obtain ⟨⟨rfl, stored⟩, made⟩ := about
    obtain ⟨entry, stored⟩ := Option.isSome_iff_exists.mp stored
    obtain ⟨stamp, stamped, by_⟩ := (Option.any_eq_true _ _).mp made
    exact ⟨⟨next, code⟩, entry, stamp, stored, stamped, eq_of_beq by_⟩
  · cases about

/-- A load takes two and a half seconds, and its lock lasts for two: by then another request has
the lock, and the first deletes it. -/
theorem lock_released_by_another :
    ∃ c, (Setting.free (requestsOf [.get 1, .get 1])).Passing (readersOf 2) c ∧
      ∃ next s', c.code 0 = .call (.redis (.delete (lockKey (articleKey 1)))) next ∧
        TimedExec (Setting.free (requestsOf [.get 1, .get 1])).allow 0
          (.redis (.delete (lockKey (articleKey 1)))) c.state (.ok ()) s' ∧
        ¬OwnLock 0 (articleKey 1) c.state := by
  obtain ⟨c, run, about⟩ := (Setting.free (requestsOf [.get 1, .get 1])).exists_expiry
    (fun _ _ _ _ => true) (fun _ _ _ _ _ => trivial) (fun _ _ => id) (readersOf 2)
    ⟨fun _ => rfl⟩ (List.replicate 9 (.step 0 {}))
    (List.replicate 9 (.step 1 {}) ++ List.replicate 10 (.step 0 {})) (lockKey (articleKey 1))
    (5 / 2) (releases 0 1) (by decide +kernel)
  obtain ⟨⟨next, code⟩, entry, stamp, stored, stamped, by_⟩ := exists_release about
  refine ⟨c, run, next, _, code, ⟨{}, trivial, rfl⟩, fun own => ?_⟩
  obtain ⟨stamp', stamped', mine⟩ := own entry stored
  obtain rfl := Option.some.inj (stamped.symm.trans stamped')
  cases by_.symm.trans mine

def Setting.keeping (requests : Pid → Request) : Setting :=
  ⟨requests, fun _ _ op c => ∀ key, op = .redis (.delete key) → c.executed = false, Expires,
    fun _ _ => Expires.outside⟩

def keeps (_ : World) (_ : Pid) (op : Op) (c : Choice) : Bool :=
  match op with
  | .redis (.delete _) => !c.executed
  | _ => true

/-- A reader that comes to release the lock it has created. -/
theorem lock_released_by_holder_of_one :
    ∃ c, (Setting.keeping (requestsOf [.get 1])).Careful
        (App.startUnlocked ⟨defaultRuntime fun _ => "", true⟩ (requestsOf [.get 1])
          (World.fresh editedArticle 2 [ann]) 0) c ∧
      OwnLock 0 (articleKey 1) c.state.timed ∧ c.state.MayDelete 0 (articleKey 1) := by
  obtain ⟨d, run, about⟩ := (Setting.keeping (requestsOf [.get 1])).exists_turns keeps
    (fun w i op c checked key same => by
      subst same
      simpa [keeps] using checked)
    (readersOf 1) ⟨fun _ => rfl⟩ (List.replicate 19 (.step 0 {})) (releases 0 0)
    (by decide +kernel)
  obtain ⟨⟨next, code⟩, entry, stamp, stored, stamped, by_⟩ := exists_release about
  obtain ⟨c, careful, rfl⟩ := Setting.Passing.careful (σ := Setting.keeping (requestsOf [.get 1]))
    (c := App.startUnlocked ⟨defaultRuntime fun _ => "", true⟩ (requestsOf [.get 1])
      (World.fresh editedArticle 2 [ann]) 0) (fun w i key choice allowed => allowed _ rfl) run
  have own : OwnLock 0 (articleKey 1) c.state.timed := fun _ _ => ⟨stamp, stamped, by_⟩
  exact ⟨c, careful, own, (lock_released_by_holder (Setting.keeping (requestsOf [.get 1]))
    (fun _ _ => Expires.shrinks) ⟨defaultRuntime fun _ => "", true⟩
    (World.fresh editedArticle 2 [ann]) 0 careful 0 (articleKey 1) next code).mp own⟩

end ContentPlatform
