import ContentPlatform.Schemas
import ContentPlatform.World.Run

/-!
# Who changes a row, and what never changes

Over every run, whatever the interleaving and whatever fails.
-/

set_option autoImplicit false

namespace ContentPlatform

open Program Protocol

def Identified (requests : Pid → Request) (w : World) : Prop :=
  ∀ i user, (w.db.sessions i).actor = some user → (requests i).principal = some user.id

section
variable {σ : Setting}

theorem Identified.exec {i : Pid} {op : Op} {w w' : World} {reply : op.Reply}
    (kept : Identified σ.requests w) (owed : σ.rows.pre i op w)
    (step : σ.rows.exec i op w reply w') : Identified σ.requests w' := by
  obtain ⟨c, -, step⟩ := step
  intro j user actor
  by_cases other : j ≠ i
  · rw [(World.exec_undisturbed step other).session] at actor
    exact kept j user actor
  obtain rfl := not_not.mp other
  by_cases commits : op = .commit
  · subst commits
    obtain ⟨-, rfl⟩ := Prod.mk.inj (Option.some.inj step)
    rcases Database.commitReply_cases w.db j c with done | same
    · simp only [done, Database.commitStep_session] at actor
      exact kept j user actor
    · simp only [same] at actor
      exact kept j user actor
  · rcases World.exec_keeps step commits with same | ⟨id, loaded, rfl, rfl, now, -⟩
    · rw [same.actor] at actor
      exact kept j user actor
    · rw [now] at actor
      obtain rfl := Option.some.inj actor
      exact owed.1

theorem Identified.event {w w' : World} (kept : Identified σ.requests w)
    (moved : σ.rows.env w w') : Identified σ.requests w' := by
  intro i user actor
  rw [((σ.outside w w' moved).undisturbed i).session] at actor
  exact kept i user actor

theorem Initial.identified {w : World} (start : Initial w) (requests : Pid → Request) :
    Identified requests w := by
  intro i user actor
  rw [start.sessions i] at actor
  cases actor

end

structure History (requests : Pid → Request) (db : Database) : Prop where
  /-- A new article belongs to the user that creates it. -/
  inserted : ∀ n < db.version, ∀ id new, (db.history n).find id = none →
    (db.history (n + 1)).find id = some new →
    ∃ user title body, requests (db.writer (n + 1)) = .create (some user.id) title body ∧
      (db.sessions (db.writer (n + 1))).actor = some user ∧ new.authorId = user.id
  /-- An article is changed by its author, or by an admin as the request loaded the user. -/
  changed : ∀ n < db.version, ∀ id old new, (db.history n).find id = some old →
    (db.history (n + 1)).find id = some new → new ≠ old →
    ∃ user, (db.sessions (db.writer (n + 1))).actor = some user ∧
      (requests (db.writer (n + 1))).principal = some user.id ∧
      (old.authorId = user.id ∨ user.isAdmin = true)
  /-- The rest of its life keeps the identity of an article, and everything once it is deleted. -/
  lasting : ∀ m n, m ≤ n → n ≤ db.version → ∀ id old, (db.history m).find id = some old →
    ∃ new, (db.history n).find id = some new ∧ new.id = old.id ∧ new.authorId = old.authorId ∧
      new.createdAt = old.createdAt ∧ (old.deletedAt ≠ none → new = old)

theorem Coherent.history {requests : Pid → Request} {w : World} (kept : Coherent requests w.db)
    (identified : Identified requests w) : History requests w.db := by
  refine ⟨fun n past id new missing found => ?_, fun n past id old new before after change => ?_,
    fun m n order past id old found => ?_⟩
  · have step := kept.evolves n past id
    rw [missing, found] at step
    obtain ⟨principal, title, body, user, request, actor, author, -⟩ := step
    have same := identified _ user actor
    rw [request] at same
    obtain rfl : principal = some user.id := same
    exact ⟨user, title, body, request, actor, author⟩
  · have step := kept.evolves n past id
    rw [before, after] at step
    rcases step with same | ⟨-, ⟨user, actor, allowed⟩, -⟩
    · exact absurd same change
    · exact ⟨user, actor, identified _ user actor, allowed⟩
  · obtain ⟨new, later, descends⟩ := kept.descends order past found
    refine ⟨new, later, descends.id, descends.authorId, descends.createdAt, fun dead => ?_⟩
    refine descends.final ?_
    cases deleted : old.deletedAt with
    | none => exact absurd deleted dead
    | some _ => rw [ArticleRow.live, deleted]; rfl

/-- In every run of any requests, whatever fails and however they interleave. -/
theorem row_history (σ : Setting) (app : App) {w : World} (start : Initial w) {c : System}
    (run : σ.Reaches (app.start σ.requests w) c) : History σ.requests c.state.db := by
  have safe := start.allSafe (σ := σ) app
  have identified := safe.invariant (fun _ kept owed step => Identified.exec kept owed step)
    (fun _ kept moved => Identified.event kept moved) (start.identified σ.requests) run
  exact Coherent.history (safe.steps run).inv identified

def lifeOfAnArticle : List Request :=
  [.create (some 1) "title" "body", .update (some 1) 1 "title" "text" (instant 1),
    .delete (some 3) 1 (instant 2)]

theorem row_history_of_life : ∃ c : System,
    (Setting.free (requestsOf lifeOfAnArticle)).Reaches
      (App.start ⟨defaultRuntime fun _ => "", true⟩ (requestsOf lifeOfAnArticle)
        (World.fresh .empty 1 [ann, eve])) c ∧
      c.state.db.version = 3 ∧ History (requestsOf lifeOfAnArticle) c.state.db := by
  obtain ⟨c, run, version⟩ := (Setting.free (requestsOf lifeOfAnArticle)).exists_replay
    (fun _ _ _ _ => true) (fun _ _ _ _ _ => trivial)
    (App.start ⟨defaultRuntime fun _ => "", true⟩ (requestsOf lifeOfAnArticle)
      (World.fresh .empty 1 [ann, eve]))
    (turns 0 19 { newId := 1, time := instant 1 } ++ turns 1 29 { time := instant 2 } ++
      turns 2 27 { time := instant 3 })
    (fun c => c.state.db.version == 3) (by decide +kernel)
  exact ⟨c, run, by simpa using version, row_history (Setting.free (requestsOf lifeOfAnArticle)) _
    (World.fresh_initial _ (by decide)) run⟩

end ContentPlatform
