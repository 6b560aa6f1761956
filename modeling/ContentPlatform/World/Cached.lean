import ContentPlatform.World.Guarded

/-!
# Proof rules for the cache methods

Rules for a participant whose Redis commands are answered and whose cache is not
degraded: then the cache is live exactly if it is enabled.
-/

set_option autoImplicit false

namespace ContentPlatform

open Program Py Protocol

/-- No Redis command fails for reasons of its own, and the breaker of Redis is closed. -/
structure Answers (allow : Allowance) : Prop where
  redis : ∀ w i command c, allow w i (.redis command) c → c.fault = none
  breaker : ∀ w i c, allow w i (.breakerAllow .redis) c → c.flag = true

/-! ## Redis under these rules -/

section
variable {allow : Allowance} (answers : Answers allow) {i : Pid} {w w' : World}

theorem Answers.exec {command : RedisCommand} {reply : Except Exc command.Reply}
    (answers : Answers allow) (step : Exec allow i (.redis command) w reply w') :
    reply = (w.redisStep i command).1 ∧ w' = (w.redisStep i command).2 := by
  obtain ⟨c, allowed, step⟩ := step
  simp only [World.exec, answers.redis w i command c allowed] at step
  obtain ⟨rfl, rfl⟩ := Prod.mk.inj (Option.some.inj step)
  exact ⟨rfl, rfl⟩

/-- A command other than `MGET` changes nothing but the store. -/
theorem redisStep_of_not_mget {command : RedisCommand} (other : ∀ keys, command ≠ .mget keys) :
    (w.redisStep i command).2 = { w with store := (w.store.step (w.provenance i) command).2 } := by
  cases command with
  | mget keys => exact absurd rfl (other keys)
  | _ => rfl

@[simp] theorem redisStep_store (command : RedisCommand) :
    (w.redisStep i command).2.store = (w.store.step (w.provenance i) command).2 := rfl

@[simp] theorem redisStep_reply (command : RedisCommand) :
    (w.redisStep i command).1 = (w.store.step (w.provenance i) command).1 := rfl

end

def Undegraded (i : Pid) (w : World) : Prop := (w.requests i).degraded = false

/-- What a lookup tells: nothing new, or `F` about the body it found. -/
def Hit (A : World → Prop) (F : String → World → Prop) : Option String → World → Prop
  | none, w => A w
  | some body, w => F body w

section
variable {P : Protocol Op Op.Reply World} {allow : Allowance} (hosts : Hosts P (Exec allow))
  (answers : Answers allow) {i : Pid} {α β : Type} {A : World → Prop}

theorem redis_triple {command : RedisCommand} {B : command.Reply → World → Prop}
    {E : World → Prop} (stableA : P.Stable i A) (stableB : ∀ value, P.Stable i (B value))
    (stableE : P.Stable i E) (asks : Asks P i (.redis command) A (okOr B E)) :
    P.Triple i A (redis command) (okOr B E) := by
  refine asks.triple stableA fun reply => ?_
  cases reply with
  | ok value => exact Triple.ret (stableB value) fun _ _ holds => holds
  | error error => exact Triple.raise stableE fun _ _ holds => holds

theorem answers_triple {command : RedisCommand} {B : command.Reply → World → Prop}
    (stableA : P.Stable i A) (stableB : ∀ value, P.Stable i (B value))
    (asks : Asks P i (.redis command) A (okOr B fun _ => False)) :
    P.Triple i A (redis command) (okOr B fun _ => False) :=
  redis_triple stableA stableB stable_false asks

variable (cache : ArticleCache)

include hosts in
theorem answered_triple {operation : CacheOperation} {command : Py α} {B : α → World → Prop}
    (stableB : ∀ value, P.Stable i (B value))
    (first : P.Triple i A command (okOr B fun _ => False)) :
    P.Triple i A (ArticleCache.answered operation command)
      (okOr (fun result w => ∃ value, result = some value ∧ B value w) fun _ => False) := by
  refine Triple.attempt_bind first fun outcome => ?_
  cases outcome with
  | ok value =>
      exact triple_skip hosts rfl (stableB value) fun _ =>
        Triple.ret (stableB value) fun _ _ holds => ⟨value, rfl, holds⟩
  | error error => exact fun _ _ impossible => impossible.elim

variable (fresh : ∀ w, A w → Undegraded i w)
include hosts answers fresh

theorem live_triple (stable : P.Stable i A) :
    P.Triple i A cache.live (okOr (fun live w => A w ∧ live = cache.enabled) fun _ => False) := by
  unfold ArticleCache.live
  cases enabled : cache.enabled with
  | false => exact Triple.ret stable fun _ _ holds => ⟨holds, rfl⟩
  | true =>
      rw [if_pos rfl]
      refine Triple.call (fun degraded w => A w ∧ degraded = false) stable
        (fun w _ _ => hosts.owed i _ w rfl) (fun w reply w' _ holds step _ => ?_) fun degraded => ?_
      · rw [hosts.exec] at step
        obtain ⟨c, -, step⟩ := step
        obtain ⟨rfl, rfl⟩ := Prod.mk.inj (Option.some.inj step)
        exact ⟨holds, fresh w holds⟩
      cases degraded with
      | true => exact fun _ _ impossible => Bool.noConfusion impossible.2
      | false =>
          refine triple_local hosts rfl (stable_pure _ stable) fun admitted => ?_
          refine Triple.ret ?_ ?_
          · exact stable_pure _ (stable_pure _ stable)
          · rintro w - ⟨⟨holds, -⟩, v, c, allowed, step⟩
            have flag : c.flag = admitted := (Prod.mk.inj (Option.some.inj step)).1
            exact ⟨holds, flag.symm.trans (answers.breaker v i c allowed)⟩

theorem whenLive_triple {p q : Py α} {C : Except Exc α → World → Prop} (stable : P.Stable i A)
    (on : cache.enabled = true → P.Triple i A p C)
    (off : cache.enabled = false → P.Triple i A q C) :
    P.Triple i A (cache.live.bind fun live => if live then p else q) C := by
  refine Triple.bind (live_triple hosts answers cache fresh stable) (fun live => ?_)
    fun _ _ _ impossible => impossible.elim
  cases live with
  | true =>
      exact fun w kept holds => on holds.2.symm w kept holds.1
  | false =>
      exact fun w kept holds => off holds.2.symm w kept holds.1

/-! ## The methods -/

variable {F : String → World → Prop}

theorem fetch_triple (key : String) (entity : CacheEntity) (stableA : P.Stable i A)
    (stableF : ∀ body, P.Stable i (F body))
    (asks : cache.enabled = true →
      Asks P i (.redis (.get key)) A (okOr (Hit A F) fun _ => False)) :
    P.Triple i A (cache.fetch key entity) (okOr (Hit A F) fun _ => False) := by
  have stableHit : ∀ found, P.Stable i (Hit A F found) := fun found => by
    cases found with
    | none => exact stableA
    | some body => exact stableF body
  refine whenLive_triple hosts answers cache fresh stableA (fun on => ?_)
    fun _ => Triple.ret stableA fun _ _ holds => holds
  refine Triple.bind (answered_triple hosts stableHit
    (answers_triple stableA stableHit (asks on))) (fun result => ?_) fun _ _ _ impossible => impossible
  rcases result with _ | _ | body
  · rintro w - ⟨value, missing, -⟩
    cases missing
  · refine Triple.mono (A := A) ?_ ?_ fun _ _ _ ended => ended
    · exact triple_skip hosts rfl stableA fun _ => Triple.ret stableA fun _ _ holds => holds
    · rintro w - ⟨value, same, holds⟩
      cases same
      exact holds
  · refine Triple.mono (A := F body) ?_ ?_ fun _ _ _ ended => ended
    · exact triple_skip hosts rfl (stableF body) fun _ =>
        Triple.ret (stableF body) fun _ _ holds => holds
    · rintro w - ⟨value, same, holds⟩
      cases same
      exact holds

theorem peek_triple (key : String) (stableA : P.Stable i A) (stableF : ∀ body, P.Stable i (F body))
    (asks : cache.enabled = true →
      Asks P i (.redis (.get key)) A (okOr (Hit A F) fun _ => False)) :
    P.Triple i A (cache.peek key) (okOr (Hit A F) fun _ => False) := by
  have stableHit : ∀ found, P.Stable i (Hit A F found) := fun found => by
    cases found with
    | none => exact stableA
    | some body => exact stableF body
  refine whenLive_triple hosts answers cache fresh stableA (fun on => ?_)
    fun _ => Triple.ret stableA fun _ _ holds => holds
  refine Triple.bind (answered_triple hosts stableHit
    (answers_triple stableA stableHit (asks on))) (fun result => ?_) fun _ _ _ impossible => impossible
  cases result with
  | none =>
      rintro w - ⟨value, missing, -⟩
      cases missing
  | some found =>
      refine Triple.mono (A := Hit A F found) ?_ ?_ fun _ _ _ ended => ended
      · exact Triple.ret (stableHit found) fun _ _ holds => holds
      · rintro w - ⟨value, same, holds⟩
        cases same
        exact holds

theorem effect_triple {command : RedisCommand} {operation : CacheOperation} {B : World → Prop}
    (stableA : P.Stable i A) (stableB : P.Stable i B)
    (asks : cache.enabled = true →
      Asks P i (.redis command) A (okOr (fun _ => B) fun _ => False))
    (off : cache.enabled = false → ∀ w, A w → B w) :
    P.Triple i A (cache.live.bind fun live =>
        if live then (do let _ ← ArticleCache.answered operation (redis command) : Py Unit)
        else .ret ())
      (okOr (fun _ => B) fun _ => False) := by
  refine whenLive_triple hosts answers cache fresh stableA (fun on => ?_)
    fun disabled => Triple.ret stableA fun w _ holds => off disabled w holds
  refine Triple.bind (answered_triple hosts (fun _ => stableB)
    (answers_triple stableA (fun _ => stableB) (asks on))) (fun result => ?_)
    fun _ _ _ impossible => impossible
  refine Triple.mono (A := B) (Triple.ret stableB fun _ _ holds => holds) ?_
    fun _ _ _ ended => ended
  rintro w - ⟨value, -, holds⟩
  exact holds

theorem acquireLock_triple (key : String) (ttl : ℤ) (stableA : P.Stable i A)
    (asks : cache.enabled = true →
      Asks P i (.redis (.set (lockKey key) "1" (max 1 ttl) true)) A
        (okOr (fun _ => A) fun _ => False)) :
    P.Triple i A (cache.acquireLock key ttl) (okOr (fun _ => A) fun _ => False) := by
  refine whenLive_triple hosts answers cache fresh stableA (fun on => ?_)
    fun _ => Triple.ret stableA fun _ _ holds => holds
  refine Triple.bind (answered_triple hosts (fun _ => stableA)
    (answers_triple stableA (fun _ => stableA) (asks on))) (fun result => ?_)
    fun _ _ _ impossible => impossible
  refine Triple.mono (A := A) ?_ ?_ fun _ _ _ ended => ended
  · cases result <;> exact Triple.ret stableA fun _ _ holds => holds
  · rintro w - ⟨value, -, holds⟩
    exact holds

/-! ### The loser of the lock -/

variable (service : ArticleService)

/-- The waiting may be interrupted; then nothing is known. -/
theorem pollUntil_triple (key : String) (deadline : ℚ) (polls : ℕ) (stableA : P.Stable i A)
    (stableF : ∀ body, P.Stable i (F body)) (spent : ∀ w, P.pre i .outOfFuel w)
    (asks : service.cache.enabled = true →
      Asks P i (.redis (.get key)) A (okOr (Hit A F) fun _ => False)) :
    P.Triple i A (service.pollUntil key deadline polls) (okOr (Hit A F) fun _ => True) := by
  induction polls with
  | zero =>
      rw [ArticleService.pollUntil]
      refine triple_skip hosts rfl stableA fun now => ?_
      dsimp only [Prog.ret_cont]
      split
      · exact fun w _ holds w' _ _ => ⟨spent w', fun never => nomatch never⟩
      · exact Triple.ret stableA fun _ _ holds => holds
  | succ polls ih =>
      rw [ArticleService.pollUntil]
      refine triple_skip hosts rfl stableA fun now => ?_
      dsimp only [Prog.ret_cont]
      split
      · refine triple_skip hosts rfl stableA fun slept => ?_
        cases slept with
        | error error => exact Triple.raise stableA fun _ _ _ => trivial
        | ok _ =>
            show P.Triple i A (Prog.bind (service.cache.peek key) _) _
            refine Triple.bind (peek_triple hosts answers service.cache fresh key stableA stableF
              asks) (fun found => ?_) fun _ _ _ impossible => impossible.elim
            cases found with
            | none => exact ih
            | some body => exact Triple.ret (stableF body) fun _ _ holds => holds
      · exact Triple.ret stableA fun _ _ holds => holds

theorem waitUnlessWon_triple (won : Bool) (key : String) (stableA : P.Stable i A)
    (stableF : ∀ body, P.Stable i (F body)) (spent : ∀ w, P.pre i .outOfFuel w)
    (asks : service.cache.enabled = true →
      Asks P i (.redis (.get key)) A (okOr (Hit A F) fun _ => False)) :
    P.Triple i A (service.waitUnlessWon won key) (okOr (Hit A F) fun _ => True) := by
  cases won with
  | true => exact Triple.ret stableA fun _ _ holds => holds
  | false =>
      exact triple_skip hosts rfl stableA fun now =>
        pollUntil_triple hosts answers fresh service key _ _ stableA stableF spent asks

theorem releaseIfWon_triple (won : Bool) (key : String) (stableA : P.Stable i A)
    (asks : service.cache.enabled = true →
      Asks P i (.redis (.delete (lockKey key))) A (okOr (fun _ => A) fun _ => False)) :
    P.Triple i A (service.releaseIfWon won key) (okOr (fun _ => A) fun _ => False) := by
  cases won with
  | true =>
      exact effect_triple hosts answers service.cache fresh stableA stableA asks
        fun _ _ holds => holds
  | false => exact Triple.ret stableA fun _ _ holds => holds

end

end ContentPlatform
