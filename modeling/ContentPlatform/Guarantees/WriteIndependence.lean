import ContentPlatform.World.Alone
import ContentPlatform.World.Run
import ContentPlatform.Schemas

/-!
# Writes do not depend on the cache

Two runs of one write request, from the same database and with the same answers of everything but
Redis.
-/

set_option autoImplicit false

namespace ContentPlatform

open Program Py Prog

variable {i : Pid} {elsewhere : ℕ → Choice}

/-- Up to its commit a write asks Redis nothing. -/
theorem untilCommit_aside (app : App) {request : Request} (writes : request.writes = true) :
    (untilCommit (app.handler request)).Sends fun op => op.onCache = false := by
  have aside : ∀ op, Footprint request.statements (request.commands app.rt)
      (request.writes = true) op → op.onCache = false := by
    have silent : ∀ command, ¬request.commands app.rt command := by
      intro command
      cases request <;> first | exact id | cases writes
    intro op may
    cases op with
    | redis command => exact absurd may (silent command)
    | cacheDegraded => exact absurd may.choose_spec (silent _)
    | degradeCache => exact absurd may.choose_spec (silent _)
    | breakerAllow dependency =>
        cases dependency with
        | mysql => rfl
        | redis => exact absurd may.choose_spec (silent _)
    | breakerSuccess dependency =>
        cases dependency with
        | mysql => rfl
        | redis => exact absurd may.choose_spec (silent _)
    | breakerFailure dependency =>
        cases dependency with
        | mysql => rfl
        | redis => exact absurd may.choose_spec (silent _)
    | secondsUntilProbe dependency =>
        cases dependency with
        | mysql => rfl
        | redis => exact absurd may.choose_spec (silent _)
    | _ => rfl
  apply Sends.bind ((handler_sends app request).mono aside)
  intro response
  exact Sends.bind ⟨rfl, fun _ => sends_ofExcept _⟩ fun _ => trivial

/-- If the request comes to an end in one environment, then it does in every other that differs
from it in what Redis holds and answers only, and with the same answer and the same database. -/
theorem writes_ignore_cache (app : App) {request : Request} (writes : request.writes = true)
    (i : Pid) (elsewhere : ℕ → Choice) (w : World) (store : Redis) {s : Alone}
    {outcome : Except Exc Response}
    (run : Runs (Solo i elsewhere) (app.serve request) ⟨w, 0⟩ outcome s) :
    Ends (Solo i elsewhere) (app.serve request)
      (fun outcome' s' => outcome' = outcome ∧ s'.world.db = s.world.db)
      ⟨w.withStore store, 0⟩ := by
  have start : SameButStore ⟨w, 0⟩ ⟨w.withStore store, 0⟩ := ⟨rfl, store, rfl⟩
  have split : app.serve request = (untilCommit (app.handler request)).cont
      (fun value => (drainAfterCommit app.cache).bind fun _ => .ret value)
      (fun error => (rollback.bind fun _ => discardAfterCommit.bind fun _ => .raise error)) :=
    cont_assoc _ _ _ _ _
  rw [split] at run ⊢
  obtain ⟨middle, s₁, first, rest⟩ := run.of_cont
  apply Ends.cont
  apply (Runs.sameButStore (untilCommit_aside app writes) start first).mono
  rintro handled s₁' ⟨rfl, related⟩
  have same : s₁'.world.db = s₁.world.db := by
    obtain ⟨-, store', world⟩ := related
    rw [world]
    rfl
  cases handled with
  | ok value =>
      have answer : Spares i elsewhere ((drainAfterCommit app.cache).bind fun _ => .ret value)
          fun outcome => outcome = .ok value := by
        apply (spares_drainAfterCommit app.cache).bind
        · intro _ _
          exact Spares.ret rfl
        · intro error impossible
          cases impossible
      obtain ⟨rfl, kept⟩ := (answer s₁).of_runs rest
      rw [kept, ← same]
      exact answer s₁'
  | error error =>
      have rolls : rollback.Sends fun op => op.onCache = false := ⟨rfl, fun _ => sends_ofExcept _⟩
      have discards : discardAfterCommit.Sends fun op => op.onCache = false := ⟨rfl, fun _ => trivial⟩
      have aside : (rollback.bind fun _ => discardAfterCommit.bind fun _ =>
          (.raise error : Py Response)).Sends fun op => op.onCache = false :=
        Sends.bind rolls fun _ => Sends.bind discards fun _ => trivial
      apply (Runs.sameButStore aside related rest).mono
      rintro ended s' ⟨rfl, _, store', world⟩
      rw [world]
      exact ⟨rfl, rfl⟩

def spoiled : Redis :=
  ⟨fun key => if key = generationKey then some ⟨"none", false, ⟨none, none, none⟩⟩ else none,
    fun _ => 0⟩

/-- Redis answers the request that creates an article, or it fails in some way. -/
theorem writes_ignore_cache_of_create :
    ∃ outcome s,
      Runs (Solo 0 fun _ => { newId := 1, time := instant 1 })
        (App.serve ⟨defaultRuntime fun _ => "", true⟩ (.create (some 1) "title" "body"))
        ⟨World.fresh .empty 1 [ann], 0⟩ outcome s ∧ outcome.isOk = true ∧
      Ends (Solo 0 fun _ => { newId := 1, time := instant 1 })
        (App.serve ⟨defaultRuntime fun _ => "", true⟩ (.create (some 1) "title" "body"))
        (fun outcome' s' => outcome' = outcome ∧ s'.world.db = s.world.db)
        ⟨(World.fresh .empty 1 [ann]).withStore spoiled, 0⟩ := by
  obtain ⟨outcome, s, run, created⟩ := exists_runs
    (soloAnswer_sound 0 (fun _ => { newId := 1, time := instant 1 }) {}
      fun _ impossible => (by cases impossible))
    (App.serve ⟨defaultRuntime fun _ => "", true⟩ (.create (some 1) "title" "body"))
    ⟨World.fresh .empty 1 [ann], 0⟩ (fun ended => ended.1.isOk) (by decide +kernel)
  exact ⟨outcome, s, run, created, writes_ignore_cache _ rfl 0 _ _ spoiled run⟩

end ContentPlatform
