import ContentPlatform.Program.Sequential
import ContentPlatform.World.Footprint

/-!
# One request on its own

The request has the database to itself; what Redis holds and answers, and what the
breaker of Redis says, is anything at any time.
-/

set_option autoImplicit false

namespace ContentPlatform

open Program Py Prog

def Op.onCache (op : Op) : Bool := op.asksCache || op.asksRedis

def World.withStore (w : World) (store : Redis) : World := { w with store }

/-- `turn` counts the interactions that are not with the cache. -/
structure Alone where
  world : World
  turn : ℕ

/-- `elsewhere` is what the environment decides at the interactions that are not with the cache,
one after the other.  Before any interaction with the cache the other clients may leave any store,
and a command may fail with any `Exception`. -/
def Solo (i : Pid) (elsewhere : ℕ → Choice) (op : Op) (s : Alone) (reply : op.Reply) (s' : Alone) :
    Prop :=
  if op.onCache then
    s'.turn = s.turn ∧ ∃ c store, (∀ error, c.fault = some error → error.isException = true) ∧
      (s.world.withStore store).exec i c op = some (reply, s'.world)
  else s'.turn = s.turn + 1 ∧ s.world.exec i (elsewhere s.turn) op = some (reply, s'.world)

/-- One such environment: nobody else uses Redis, and `cache` is what it decides there. -/
def soloAnswer (i : Pid) (elsewhere : ℕ → Choice) (cache : Choice) (op : Op) (s : Alone) :
    Option (op.Reply × Alone) :=
  if op.onCache then (s.world.exec i cache op).map fun (reply, w) => (reply, ⟨w, s.turn⟩)
  else (s.world.exec i (elsewhere s.turn) op).map fun (reply, w) => (reply, ⟨w, s.turn + 1⟩)

theorem soloAnswer_sound (i : Pid) (elsewhere : ℕ → Choice) (cache : Choice)
    (calm : ∀ error, cache.fault = some error → error.isException = true) (op : Op) (s : Alone)
    (reply : op.Reply) (s' : Alone)
    (answer : soloAnswer i elsewhere cache op s = some (reply, s')) :
    Solo i elsewhere op s reply s' := by
  unfold soloAnswer at answer
  unfold Solo
  by_cases asks : op.onCache = true
  · rw [if_pos asks] at answer ⊢
    obtain ⟨⟨reply, w⟩, step, ⟨⟩⟩ := Option.map_eq_some_iff.mp answer
    exact ⟨rfl, cache, s.world.store, calm, step⟩
  · rw [if_neg asks] at answer ⊢
    obtain ⟨⟨reply, w⟩, step, ⟨⟩⟩ := Option.map_eq_some_iff.mp answer
    exact ⟨rfl, step⟩

section
variable {i : Pid} {elsewhere : ℕ → Choice} {α β : Type}

/-! ## Away from the cache -/

theorem World.exec_withStore (w : World) (i : Pid) (c : Choice) {op : Op}
    (aside : op.onCache = false) (store : Redis) :
    (w.withStore store).exec i c op =
      (w.exec i c op).map fun (reply, w') => (reply, w'.withStore store) := by
  cases op with
  | redis command => cases aside
  | mysql statement =>
      simp only [exec]
      cases c.fault with
      | some error => rfl
      | none =>
          rw [Option.map_map]
          rfl
  | hashPassword password =>
      simp only [exec]
      cases c.fault <;> rfl
  | verifyPassword password passwordHash =>
      simp only [exec]
      cases c.fault <;> rfl
  | _ => rfl

/-- The same world with another store, at the same interaction. -/
def SameButStore (s s' : Alone) : Prop :=
  s'.turn = s.turn ∧ ∃ store, s'.world = s.world.withStore store

/-- A program that never asks the cache does the same whatever Redis holds. -/
theorem Runs.sameButStore {p : Py α} (sends : p.Sends fun op => op.onCache = false)
    {s s₁ s' : Alone} {outcome : Except Exc α} (related : SameButStore s s')
    (run : Runs (Solo i elsewhere) p s outcome s₁) :
    Ends (Solo i elsewhere) p (fun outcome' s₁' => outcome' = outcome ∧ SameButStore s₁ s₁') s' := by
  apply Runs.agree sends _ related run
  intro op s reply s₁ s' aside related step
  obtain ⟨turn, store, world⟩ := related
  have answer : s'.world.exec i (elsewhere s'.turn) op =
      some (reply, s₁.world.withStore store) := by
    rw [Solo, aside] at step
    rw [world, turn, World.exec_withStore s.world i _ aside store, step.2]
    rfl
  constructor
  · refine ⟨reply, ⟨s₁.world.withStore store, s'.turn + 1⟩, ?_⟩
    rw [Solo, aside]
    exact ⟨rfl, answer⟩
  · intro reply' s₁' step'
    rw [Solo, aside] at step step'
    rw [answer] at step'
    obtain ⟨rfl, same⟩ := Prod.mk.inj (Option.some.inj step'.2)
    exact ⟨rfl, step'.1.trans (turn ▸ step.1.symm), store, same.symm⟩

/-! ## The cache -/

def Spares (i : Pid) (elsewhere : ℕ → Choice) (p : Py α) (Q : Except Exc α → Prop) : Prop :=
  ∀ s, Ends (Solo i elsewhere) p (fun outcome s' => Q outcome ∧ s'.world.db = s.world.db) s

def Calm (outcome : Except Exc α) : Prop :=
  ∀ error, outcome = .error error → error.isException = true

theorem Spares.ret {value : α} {Q : Except Exc α → Prop} (holds : Q (.ok value)) :
    Spares i elsewhere (.ret value) Q :=
  fun _ => Ends.ret ⟨holds, rfl⟩

theorem Spares.raise {error : Exc} {Q : Except Exc α → Prop} (holds : Q (.error error)) :
    Spares i elsewhere (.raise error : Py α) Q :=
  fun _ => Ends.raise ⟨holds, rfl⟩

theorem Spares.bind {p : Py α} {f : α → Py β} {Q : Except Exc α → Prop}
    {R : Except Exc β → Prop} (first : Spares i elsewhere p Q)
    (next : ∀ value, Q (.ok value) → Spares i elsewhere (f value) R)
    (failed : ∀ error, Q (.error error) → R (.error error)) :
    Spares i elsewhere (p.bind f) R := by
  intro s
  apply Ends.bind (first s)
  · rintro value s' ⟨holds, same⟩
    rw [← same]
    exact next value holds s'
  · rintro error s' ⟨holds, same⟩
    exact ⟨failed error holds, same⟩

theorem Spares.attempt_bind {p : Py α} {next : Except Exc α → Py β} {Q : Except Exc α → Prop}
    {R : Except Exc β → Prop} (first : Spares i elsewhere p Q)
    (rest : ∀ outcome, Q outcome → Spares i elsewhere (next outcome) R) :
    Spares i elsewhere (p.attempt.bind next) R := by
  intro s
  apply Ends.attempt_bind (first s)
  rintro outcome s' ⟨holds, same⟩
  rw [← same]
  exact rest outcome holds s'

theorem Spares.call {op : Op} {next : op.Reply → Py α} {Q : Except Exc α → Prop}
    (aside : op.asksDatabase = false) (answered : ∀ w c, (World.exec w i c op).isSome = true)
    (rest : ∀ reply, (∃ s s', Solo i elsewhere op s reply s') → Spares i elsewhere (next reply) Q) :
    Spares i elsewhere (.call op next) Q := by
  intro s
  apply Ends.call
  · cases cache : op.onCache with
    | true =>
        obtain ⟨⟨reply, w⟩, answer⟩ := Option.isSome_iff_exists.mp
          (answered (s.world.withStore s.world.store) {})
        refine ⟨reply, ⟨w, s.turn⟩, ?_⟩
        rw [Solo, cache]
        exact ⟨rfl, {}, s.world.store, fun error impossible => (by cases impossible), answer⟩
    | false =>
        obtain ⟨⟨reply, w⟩, answer⟩ := Option.isSome_iff_exists.mp
          (answered s.world (elsewhere s.turn))
        refine ⟨reply, ⟨w, s.turn + 1⟩, ?_⟩
        rw [Solo, cache]
        exact ⟨rfl, answer⟩
  · intro reply s' step
    have same : s'.world.db = s.world.db := by
      have step := step
      unfold Solo at step
      split at step
      · obtain ⟨-, c, store, -, step⟩ := step
        have same := World.exec_db aside step
        exact same
      · exact World.exec_db aside step.2
    rw [← same]
    exact rest reply ⟨s, s', step⟩ s'

/-- A request whose answer decides nothing. -/
theorem Spares.skip {op : Op} {next : op.Reply → Py α} {Q : Except Exc α → Prop}
    (aside : op.asksDatabase = false) (answered : ∀ w c, (World.exec w i c op).isSome = true)
    (rest : ∀ reply, Spares i elsewhere (next reply) Q) :
    Spares i elsewhere (.call op next) Q :=
  Spares.call aside answered fun reply _ => rest reply

/-- A command fails as its environment says, or because a counter is not a number. -/
theorem Spares.redis (command : RedisCommand) :
    Spares i elsewhere (Py.redis command) Calm := by
  apply Spares.call rfl
  · intro w c
    simp only [World.exec]
    cases c.fault <;> rfl
  · rintro reply ⟨s, s', -, c, store, calm, step⟩
    cases reply with
    | ok value => exact Spares.ret fun error impossible => (by cases impossible)
    | error error =>
        apply Spares.raise
        rintro _ ⟨⟩
        simp only [World.exec] at step
        cases fault : c.fault with
        | some given =>
            rw [fault] at step
            obtain ⟨same, -⟩ := Prod.mk.inj (Option.some.inj step)
            cases same
            exact calm _ fault
        | none =>
            rw [fault] at step
            obtain ⟨same, -⟩ := Prod.mk.inj (Option.some.inj step)
            obtain rfl := Redis.step_error _ same
            rfl

/-! ### The methods that invalidate -/

theorem calm_ok (value : α) : Calm (.ok value : Except Exc α) := by
  intro error impossible
  cases impossible

theorem Spares.calm_bind {p : Py α} {f : α → Py β} (first : Spares i elsewhere p Calm)
    (next : ∀ value, Spares i elsewhere (f value) Calm) :
    Spares i elsewhere (p.bind f) Calm := by
  apply first.bind
  · intro value _
    exact next value
  · rintro error calm _ ⟨⟩
    exact calm error rfl

theorem spares_live (cache : ArticleCache) : Spares i elsewhere cache.live Calm := by
  unfold ArticleCache.live
  split
  · apply Spares.skip rfl (fun _ _ => rfl)
    intro degraded
    cases degraded with
    | true => exact Spares.ret (calm_ok _)
    | false =>
        apply Spares.skip rfl (fun _ _ => rfl)
        intro admitted
        exact Spares.ret (calm_ok _)
  · exact Spares.ret (calm_ok _)

theorem spares_answered {operation : CacheOperation} {command : Py α}
    (first : Spares i elsewhere command Calm) :
    Spares i elsewhere (ArticleCache.answered operation command) Calm := by
  apply first.attempt_bind
  intro outcome calm
  cases outcome with
  | ok value =>
      apply Spares.skip rfl (fun _ _ => rfl)
      intro _
      exact Spares.ret (calm_ok _)
  | error error =>
      dsimp only
      split
      · apply Spares.skip rfl (fun _ _ => rfl)
        intro _
        apply Spares.skip rfl (fun _ _ => rfl)
        intro _
        apply Spares.skip rfl (fun _ _ => rfl)
        intro _
        exact Spares.ret (calm_ok _)
      · apply Spares.raise
        rintro _ ⟨⟩
        exact calm error rfl

theorem spares_whenLive (cache : ArticleCache) {p : Py Unit} (inner : Spares i elsewhere p Calm) :
    Spares i elsewhere (cache.live.bind fun live => if live then p else .ret ()) Calm := by
  apply (spares_live cache).calm_bind
  intro live
  cases live with
  | true => exact inner
  | false => exact Spares.ret (calm_ok _)

theorem spares_runInvalidation (cache : ArticleCache) (callback : Invalidation) :
    Spares i elsewhere (runInvalidation cache callback) Calm := by
  have given : Spares i elsewhere (invalidateGiven cache callback.articleId) Calm := by
    cases callback.articleId with
    | none => exact Spares.ret (calm_ok _)
    | some articleId =>
        apply spares_whenLive
        apply (spares_answered (Spares.redis _)).calm_bind
        intro _
        exact Spares.ret (calm_ok _)
  apply given.calm_bind
  intro _
  apply spares_whenLive
  apply Spares.calm_bind
  · apply spares_answered
    apply (Spares.redis _).calm_bind
    intro _
    apply (Spares.redis _).calm_bind
    intro _
    exact Spares.ret (calm_ok _)
  · intro _
    exact Spares.ret (calm_ok _)

/-- Whatever the callbacks raise stays inside the drain. -/
theorem spares_runCallbacks (cache : ArticleCache) (callbacks : List Invalidation) :
    Spares i elsewhere (runCallbacks cache callbacks) fun outcome => outcome = .ok () := by
  induction callbacks with
  | nil => exact Spares.ret rfl
  | cons callback rest ih =>
      apply (spares_runInvalidation cache callback).attempt_bind
      intro outcome calm
      cases outcome with
      | ok _ => exact ih
      | error error =>
          dsimp only
          rw [if_pos (calm error rfl)]
          exact ih

theorem spares_drainAfterCommit (cache : ArticleCache) :
    Spares i elsewhere (drainAfterCommit cache) fun outcome => outcome = .ok () := by
  apply Spares.skip rfl (fun _ _ => rfl)
  intro callbacks
  exact spares_runCallbacks cache callbacks

end

end ContentPlatform
