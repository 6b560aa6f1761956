import ContentPlatform.Program.Sequential
import ContentPlatform.World.Footprint
import Mathlib.Tactic.Linarith

/-!
# One read on its own

What a read sees is the list of its interactions with their answers, and the clock of its
event loop.  Redis answers every command on its own: with what it may hold under the key, with
nothing, or with an error that counts as a failure of the cache.
-/

set_option autoImplicit false

namespace ContentPlatform

open Program Py Prog

abbrev Event := (op : Op) × op.Reply

structure Seen where
  events : List Event
  now : ℚ

/-- A body this service writes under a key. -/
structure Written (rt : Runtime) (key body : String) : Prop where
  article : ∀ id, key = articleKey id → ∃ out, body = rt.articleDumpJson out
  page : ∀ generation author limit after, key = listKey rt generation author limit after →
    ∃ page, body = encodePage rt page

/-- `bodies` tells which bodies Redis may hold under a key. -/
def RedisCommand.Permitted (bodies : String → String → Prop) :
    (command : RedisCommand) → Except Exc command.Reply → Prop
  | .get key, .ok (some body) => bodies key body
  | _, .error error => error.isCacheFailure = true
  | _, _ => True

/-- The database and the breaker answer anything; a wait comes to its end. -/
def Op.Permitted (bodies : String → String → Prop) : (op : Op) → op.Reply → Prop
  | .redis command, reply => command.Permitted bodies reply
  | .sleep _, reply => reply = .ok ()
  | _, _ => True

/-- The clock of the loop: it can be read, and a wait takes `δ` at least. -/
def Op.Ticks (δ : ℚ) : (op : Op) → op.Reply → ℚ → ℚ → Prop
  | .loopTime, reply, now, _ => reply = now
  | .sleep _, _, now, now' => now + δ ≤ now'
  | _, _, _, _ => True

structure ReadsFrom (bodies : String → String → Prop) (δ : ℚ) (op : Op) (s : Seen)
    (reply : op.Reply) (s' : Seen) : Prop where
  permitted : op.Permitted bodies reply
  events : s'.events = s.events ++ [⟨op, reply⟩]
  now : s.now ≤ s'.now
  ticks : op.Ticks δ reply s.now s'.now

/-- Redis holds what this service wrote. -/
abbrev Reads (rt : Runtime) (δ : ℚ) := ReadsFrom (Written rt) δ

section
variable {bodies : String → String → Prop} {δ : ℚ} {s s' : Seen} {α β : Type}

/-- Everything but the end of the polls is answered. -/
theorem exists_reads (op : Op) (asked : op ≠ .outOfFuel) (s : Seen) :
    ∃ reply s', ReadsFrom bodies δ op s reply s' := by
  have answer : ∃ reply : op.Reply, op.Permitted bodies reply ∧
      ∃ now, s.now ≤ now ∧ op.Ticks δ reply s.now now := by
    have anyTime : ∃ now, s.now ≤ now ∧ True := ⟨s.now, le_rfl, trivial⟩
    have absent : ∃ error : Exc, error.isCacheFailure = true := ⟨.osError, rfl⟩
    obtain ⟨failure, counts⟩ := absent
    cases op with
    | redis command =>
        refine ⟨.error failure, ?_, anyTime⟩
        cases command <;> exact counts
    | sleep seconds =>
        exact ⟨.ok (), rfl, max s.now (s.now + δ), le_max_left _ _, le_max_right _ _⟩
    | loopTime => exact ⟨s.now, trivial, s.now, le_rfl, rfl⟩
    | outOfFuel => exact absurd rfl asked
    | mysql statement => exact ⟨.error failure, trivial, anyTime⟩
    | commit => exact ⟨.ok (), trivial, anyTime⟩
    | rollback => exact ⟨.ok (), trivial, anyTime⟩
    | expireAll => exact ⟨(), trivial, anyTime⟩
    | articleAttributes id => exact ⟨.error failure, trivial, anyTime⟩
    | userAttributes id => exact ⟨.error failure, trivial, anyTime⟩
    | afterCommit callback => exact ⟨(), trivial, anyTime⟩
    | popAfterCommit => exact ⟨[], trivial, anyTime⟩
    | cacheDegraded => exact ⟨false, trivial, anyTime⟩
    | degradeCache => exact ⟨(), trivial, anyTime⟩
    | breakerAllow dependency => exact ⟨true, trivial, anyTime⟩
    | breakerSuccess dependency => exact ⟨(), trivial, anyTime⟩
    | breakerFailure dependency => exact ⟨(), trivial, anyTime⟩
    | secondsUntilProbe dependency => exact ⟨0, trivial, anyTime⟩
    | observe metric => exact ⟨(), trivial, anyTime⟩
    | backoff longest => exact ⟨.ok (), trivial, anyTime⟩
    | uniform low high => exact ⟨low, trivial, anyTime⟩
    | utcnow => exact ⟨epoch, trivial, anyTime⟩
    | hashPassword password => exact ⟨.ok "", trivial, anyTime⟩
    | verifyPassword password passwordHash => exact ⟨.ok true, trivial, anyTime⟩
    | dummyHash => exact ⟨none, trivial, anyTime⟩
    | setDummyHash hash => exact ⟨(), trivial, anyTime⟩
    | encodeToken sub role issuedAt => exact ⟨"", trivial, anyTime⟩
  obtain ⟨reply, permitted, now, later, ticks⟩ := answer
  exact ⟨reply, ⟨s.events ++ [⟨op, reply⟩], now⟩, permitted, rfl, later, ticks⟩

/-- Nothing that was seen is forgotten, and the clock does not go back. -/
structure Later (s s' : Seen) : Prop where
  events : s.events <+: s'.events
  now : s.now ≤ s'.now

theorem Later.refl (s : Seen) : Later s s := ⟨List.prefix_rfl, le_rfl⟩

theorem Later.trans {s'' : Seen} (first : Later s s') (second : Later s' s'') : Later s s'' :=
  ⟨first.events.trans second.events, first.now.trans second.now⟩

theorem ReadsFrom.later {op : Op} {reply : op.Reply} (step : ReadsFrom bodies δ op s reply s') :
    Later s s' :=
  ⟨⟨[⟨op, reply⟩], step.events.symm⟩, step.now⟩

/-! ## Rules -/

variable {post : Except Exc α → Seen → Prop}

theorem reads_call {op : Op} {next : op.Reply → Py α} (asked : op ≠ .outOfFuel)
    (rest : ∀ reply s', ReadsFrom bodies δ op s reply s' →
      Ends (ReadsFrom bodies δ) (next reply) post s') :
    Ends (ReadsFrom bodies δ) (.call op next) post s :=
  Ends.call (exists_reads op asked s) rest

/-- The program returns, with what `B` says of the value. -/
def Gives (bodies : String → String → Prop) (δ : ℚ) (p : Py α) (B : α → Seen → Prop) (s : Seen) :
    Prop :=
  Ends (ReadsFrom bodies δ) p
    (fun outcome s' => (∃ value, outcome = .ok value ∧ B value s') ∧ Later s s') s

theorem Gives.ret {value : α} {B : α → Seen → Prop} (holds : B value s) :
    Gives bodies δ (.ret value) B s :=
  Ends.ret ⟨⟨value, rfl, holds⟩, Later.refl s⟩

theorem Gives.bind {p : Py α} {f : α → Py β} {B : α → Seen → Prop}
    {after : Except Exc β → Seen → Prop} (first : Gives bodies δ p B s)
    (next : ∀ value s', Later s s' → B value s' → Ends (ReadsFrom bodies δ) (f value) after s') :
    Ends (ReadsFrom bodies δ) (p.bind f) after s := by
  apply Ends.bind first
  · rintro value s' ⟨⟨_, ⟨⟩, holds⟩, later⟩
    exact next value s' later holds
  · rintro error s' ⟨⟨_, ⟨⟩, _⟩, _⟩

theorem Gives.then {p : Py α} {f : α → Py β} {B : α → Seen → Prop} {C : β → Seen → Prop}
    (first : Gives bodies δ p B s)
    (next : ∀ value s', Later s s' → B value s' → Gives bodies δ (f value) C s') :
    Gives bodies δ (p.bind f) C s := by
  apply first.bind
  intro value s' later holds
  apply Ends.mono (next value s' later holds)
  rintro outcome s'' ⟨given, later'⟩
  exact ⟨given, later.trans later'⟩

theorem Gives.call {op : Op} {next : op.Reply → Py α} {B : α → Seen → Prop}
    (asked : op ≠ .outOfFuel)
    (rest : ∀ reply s', ReadsFrom bodies δ op s reply s' → Gives bodies δ (next reply) B s') :
    Gives bodies δ (.call op next) B s := by
  apply reads_call asked
  intro reply s' step
  apply Ends.mono (rest reply s' step)
  rintro outcome s'' ⟨given, later⟩
  exact ⟨given, step.later.trans later⟩

theorem Gives.reply {op : Op} {next : op.Reply → α} (asked : op ≠ .outOfFuel) :
    Gives bodies δ (.call op fun reply => .ret (next reply)) (fun _ _ => True) s :=
  Gives.call asked fun _ _ _ => Gives.ret trivial

/-! ## Cache methods -/

variable (cache : ArticleCache)

theorem gives_live : Gives bodies δ cache.live (fun _ _ => True) s := by
  unfold ArticleCache.live
  split
  · apply Gives.call (by simp)
    intro degraded s' step
    cases degraded with
    | true => exact Gives.ret trivial
    | false => exact Gives.reply (by simp)
  · exact Gives.ret trivial

def Commands (bodies : String → String → Prop) (δ : ℚ) (p : Py α) (B : α → Seen → Prop) (s : Seen) :
    Prop :=
  Ends (ReadsFrom bodies δ) p (fun outcome s' => Later s s' ∧
    match outcome with
    | .ok value => B value s'
    | .error error => error.isCacheFailure = true) s

/-- What Redis answered to a command. -/
structure Answered (bodies : String → String → Prop) (command : RedisCommand)
    (value : command.Reply) (s : Seen) : Prop where
  seen : ⟨.redis command, .ok value⟩ ∈ s.events
  permitted : command.Permitted bodies (.ok value)

theorem Answered.later {command : RedisCommand} {value : command.Reply}
    (answered : Answered bodies command value s) (later : Later s s') :
    Answered bodies command value s' :=
  ⟨later.events.subset answered.seen, answered.permitted⟩

theorem commands_redis (command : RedisCommand) :
    Commands bodies δ (redis command) (Answered bodies command) s := by
  apply reads_call (by simp)
  intro reply s' step
  cases reply with
  | ok value =>
      apply Ends.ret
      refine ⟨step.later, ?_, step.permitted⟩
      rw [step.events]
      exact List.mem_append_right _ (List.mem_singleton.mpr rfl)
  | error error =>
      apply Ends.raise
      refine ⟨step.later, ?_⟩
      have permitted := step.permitted
      cases command <;> exact permitted

theorem gives_answered {operation : CacheOperation} {command : Py α} {B : α → Seen → Prop}
    (stable : ∀ value s s', B value s → Later s s' → B value s')
    (first : Commands bodies δ command B s) :
    Gives bodies δ (ArticleCache.answered operation command)
      (fun result s' => ∀ value, result = some value → B value s') s := by
  apply Ends.attempt_bind first
  rintro outcome s' ⟨later, holds⟩
  have rest : Gives bodies δ (match outcome with
      | .ok value => do ArticleCache.succeed; return some value
      | .error error => if error.isCacheFailure then do
            ArticleCache.degrade operation; return none
          else .raise error)
      (fun result s' => ∀ value, result = some value → B value s') s' := by
    cases outcome with
    | ok value =>
        apply Gives.call (by simp)
        intro _ s'' step
        apply Gives.ret
        rintro _ ⟨⟩
        exact stable value s' s'' holds step.later
    | error error =>
        dsimp only at holds ⊢
        rw [if_pos holds]
        apply Gives.call (by simp)
        intro _ _ _
        apply Gives.call (by simp)
        intro _ _ _
        apply Gives.call (by simp)
        intro _ _ _
        apply Gives.ret
        rintro _ ⟨⟩
  apply Ends.mono rest
  rintro result s'' ⟨given, later'⟩
  exact ⟨given, later.trans later'⟩

/-- One command of a live cache, and what is made of its answer. -/
theorem gives_whenLive {p q : Py α} {B : α → Seen → Prop}
    (on : ∀ s', Later s s' → Gives bodies δ p B s')
    (off : ∀ s', Later s s' → Gives bodies δ q B s') :
    Gives bodies δ (cache.live.bind fun live => if live then p else q) B s := by
  apply (gives_live cache).then
  intro live s' later _
  cases live with
  | true => exact on s' later
  | false => exact off s' later

def Found (bodies : String → String → Prop) (key : String) (found : Option String) (s : Seen) :
    Prop :=
  ∀ body, found = some body → Answered bodies (.get key) (some body) s

theorem gives_get (key : String) :
    Gives bodies δ (ArticleCache.answered .get (redis (.get key)))
      (fun result s' => ∀ value, result = some value → Answered bodies (.get key) value s') s :=
  gives_answered (fun _ _ _ holds later => holds.later later) (commands_redis _)

theorem gives_peek (key : String) : Gives bodies δ (cache.peek key) (Found bodies key) s := by
  apply gives_whenLive
  · intro s' _
    apply (gives_get key).then
    intro result s'' _ holds
    cases result with
    | none =>
        apply Gives.ret
        rintro body ⟨⟩
    | some value =>
        apply Gives.ret
        rintro body rfl
        exact holds _ rfl
  · intro s' _
    apply Gives.ret
    rintro body ⟨⟩

theorem gives_fetch (key : String) (entity : CacheEntity) :
    Gives bodies δ (cache.fetch key entity) (Found bodies key) s := by
  apply gives_whenLive
  · intro s' _
    apply (gives_get key).then
    intro result s'' _ holds
    rcases result with _ | _ | body
    · apply Gives.ret
      rintro body ⟨⟩
    · apply Gives.call (by simp)
      intro _ _ _
      apply Gives.ret
      rintro body ⟨⟩
    · apply Gives.call (by simp)
      intro _ s₁ step
      apply Gives.ret
      rintro _ ⟨⟩
      exact (holds _ rfl).later step.later
  · intro s' _
    apply Gives.ret
    rintro body ⟨⟩

theorem gives_getGenerations (author : Option ℤ) :
    Gives bodies δ (cache.getGenerations author) (fun _ _ => True) s := by
  apply gives_whenLive
  · intro s' _
    apply (gives_answered (fun _ _ _ holds later => holds.later later) (commands_redis _)).then
    intro result _ _ _
    cases result <;> exact Gives.ret trivial
  · intro s' _
    exact Gives.ret trivial

theorem gives_effect (operation : CacheOperation) (command : RedisCommand) :
    Gives bodies δ (cache.live.bind fun live =>
        if live then (do let _ ← ArticleCache.answered operation (redis command) : Py Unit)
        else .ret ()) (fun _ _ => True) s := by
  apply gives_whenLive
  · intro s' _
    apply (gives_answered (fun _ _ _ holds later => holds.later later) (commands_redis _)).then
    intro _ _ _ _
    exact Gives.ret trivial
  · intro s' _
    exact Gives.ret trivial

theorem gives_acquireLock (key : String) (ttl : ℤ) :
    Gives bodies δ (cache.acquireLock key ttl) (fun _ _ => True) s := by
  apply gives_whenLive
  · intro s' _
    apply (gives_answered (fun _ _ _ holds later => holds.later later) (commands_redis _)).then
    intro result _ _ _
    cases result <;> exact Gives.ret trivial
  · intro s' _
    exact Gives.ret trivial

theorem gives_jitteredTtl (base : ℤ) (jitter : ℚ) :
    Gives bodies δ (jitteredTtl base jitter) (fun _ _ => True) s := by
  unfold jitteredTtl
  split
  · exact Gives.ret trivial
  · exact Gives.reply (by simp)

/-! ## The loser of the lock -/

variable (service : ArticleService)

/-- The polls that are left reach the deadline. -/
theorem gives_pollUntil (key : String) (deadline : ℚ) (polls : ℕ)
    (enough : deadline ≤ s.now + polls * δ) :
    Gives bodies δ (service.pollUntil key deadline polls) (Found bodies key) s := by
  have nothing : ∀ s', Gives bodies δ (.ret none) (Found bodies key) s' := by
    intro s'
    apply Gives.ret
    rintro body ⟨⟩
  induction polls generalizing s with
  | zero =>
      rw [ArticleService.pollUntil]
      apply Gives.call (by simp)
      intro now s' step
      have read : now = s.now := step.ticks
      rw [Prog.ret_cont, if_neg (by rw [read]; simpa using enough)]
      exact nothing s'
  | succ polls ih =>
      rw [ArticleService.pollUntil]
      apply Gives.call (by simp)
      intro now s' step
      have read : now = s.now := step.ticks
      rw [Prog.ret_cont]
      split
      · apply Gives.call (by simp)
        intro slept s₁ wait
        have awake : slept = .ok () := wait.permitted
        subst awake
        apply (gives_peek service.cache key).then
        intro found s₂ later holds
        cases found with
        | some body => exact Gives.ret holds
        | none =>
            apply ih
            have waited : s'.now + δ ≤ s₁.now := wait.ticks
            calc deadline ≤ s.now + ((polls + 1 : ℕ) : ℚ) * δ := enough
              _ = s.now + δ + polls * δ := by push_cast; ring
              _ ≤ s'.now + δ + polls * δ := by linarith [step.now]
              _ ≤ s₁.now + polls * δ := by linarith
              _ ≤ s₂.now + polls * δ := by linarith [later.now]
      · exact nothing s'

theorem gives_waitUnlessWon (won : Bool) (key : String)
    (enough : service.rt.lockTimeoutSeconds ≤ service.rt.polls * δ) :
    Gives bodies δ (service.waitUnlessWon won key) (Found bodies key) s := by
  cases won with
  | true =>
      apply Gives.ret
      rintro body ⟨⟩
  | false =>
      apply Gives.call (by simp)
      intro now s' step
      have read : now = s.now := step.ticks
      apply gives_pollUntil
      rw [read]
      linarith [step.now]

theorem gives_releaseIfWon (won : Bool) (key : String) :
    Gives bodies δ (service.releaseIfWon won key) (fun _ _ => True) s := by
  cases won with
  | true => exact gives_effect service.cache .lock _
  | false => exact Gives.ret trivial

end

end ContentPlatform
