import ContentPlatform.Program.Recorded
import ContentPlatform.World.Returned
import ContentPlatform.World.Snapshots

/-!
# What a request carries to its commit

One request that has the database to itself, whatever fails.  Its statements share a transaction
with the read that follows them; a read that is tried again rolls the session back first, and with
it whatever the request has written.
-/

set_option autoImplicit false

namespace ContentPlatform

open Program Py Prog

/-! ## The effect of a request -/

/-- The row is what the request was to write, where it found `old` or nothing. -/
def Request.Writes : Request → Option ArticleRow → ArticleRow → Prop
  | .create principal title body, none, new =>
      0 < new.id ∧ principal = some new.authorId ∧ new.title = title ∧ new.body = body ∧
        new.live = true
  | _, none, _ => False
  | request, some old, new => old.live = true ∧ request.Replaces old new

/-- What the client is told agrees with the row. -/
def Response.Shows : Response → ArticleRow → Prop
  | .article out, row => out = row.out
  | .deleted, row => row.live = false
  | _, _ => False

/-- The table `after` is `before` with the write of the request, and the answer is true of it. -/
def Request.Effect (request : Request) (before after : Table) (response : Response) : Prop :=
  ∃ row, request.Writes (before.find row.id) row ∧ after = before.put row ∧ response.Shows row

theorem Request.Replaces.id {request : Request} {old new : ArticleRow}
    (replaces : request.Replaces old new) : new.id = old.id := by
  cases request with
  | update principal id title body expected =>
      obtain ⟨-, -, shape⟩ := replaces
      rw [shape]
      rfl
  | delete principal id expected =>
      obtain ⟨-, -, deletedAt, shape⟩ := replaces
      rw [shape]
      rfl
  | _ => exact replaces.elim

theorem Request.Replaces.target {request : Request} {old new : ArticleRow}
    (replaces : request.Replaces old new) : request.target = some old.id := by
  cases request with
  | update principal id title body expected => exact congrArg some replaces.1.symm
  | delete principal id expected => exact congrArg some replaces.1.symm
  | _ => exact replaces.elim

theorem Request.writes_some {request : Request} {old new : ArticleRow} :
    request.Writes (some old) new ↔ old.live = true ∧ request.Replaces old new := by
  cases request <;> exact Iff.rfl

theorem Request.not_replaces_of_writes_none {request : Request} {old new row : ArticleRow}
    (writes : request.Writes none row) : ¬request.Replaces old new := by
  cases request with
  | create principal title body => exact fun replaces => replaces
  | _ => exact writes.elim

/-- A compare-and-set has found `old`, and `pending` is what it has to write. -/
structure Due (request : Request) (table : Table) (old new : ArticleRow)
    (pending : List ArticleRow) : Prop where
  found : table.find old.id = some old
  live : old.live = true
  replaces : request.Replaces old new
  pending : (pending = [] ∧ new = old) ∨ (pending = [new] ∧ ¬request.Replaces old old)

namespace Due

variable {request : Request} {table : Table} {old new : ArticleRow} {pending : List ArticleRow}
  {response : Response}

theorem overlay (due : Due request table old new pending) :
    table.overlay pending = table.put new := by
  rcases due.pending with ⟨rfl, rfl⟩ | ⟨rfl, -⟩
  · exact (Table.put_self due.found).symm
  · rfl

theorem effect (due : Due request table old new pending) (shows_ : response.Shows new) :
    request.Effect table (table.overlay pending) response := by
  refine ⟨new, ?_, due.overlay, shows_⟩
  rw [due.replaces.id, due.found, Request.writes_some]
  exact ⟨due.live, due.replaces⟩

theorem find (due : Due request table old new pending) :
    (table.overlay pending).find old.id = some new := by
  have positive : 0 < new.id := by
    rw [due.replaces.id]
    exact Table.find_positive due.found
  rw [due.overlay, Table.find_put _ _ positive, if_pos due.replaces.id.symm]

/-- A table that stays as it is does not have the write of a request that had something to write. -/
theorem lost (due : Due request table old new pending) (some_ : pending ≠ []) :
    ¬request.Effect table table response := by
  rintro ⟨row, writes, same, -⟩
  have changes : ¬request.Replaces old old := by
    rcases due.pending with ⟨none_, -⟩ | ⟨-, changes⟩
    · exact absurd none_ some_
    · exact changes
  cases seen : table.find row.id with
  | none =>
      rw [seen] at writes
      exact Request.not_replaces_of_writes_none writes due.replaces
  | some other =>
      rw [seen, Request.writes_some] at writes
      have there : table.find row.id = some row := by
        have after := congrArg (fun table => table.find row.id) same
        simpa [Table.find_put _ _ (Table.find_positive seen)] using after
      obtain rfl := Option.some.inj (seen.symm.trans there)
      -- the row is the one under the id that the request names, which is `old`
      have named := writes.2.target.symm.trans due.replaces.target
      rw [Option.some.inj named, due.found] at there
      obtain rfl := Option.some.inj there
      exact changes writes.2

end Due

/-! ## The steps of its handler -/

/-- No rollback among these steps found a write of the request in its transaction. -/
def Intact (i : Pid) (steps : List (Op × World)) : Prop :=
  ∀ step ∈ steps, step.1 = .rollback → (step.2.db.transaction i).writes = []

section
variable {allow : Allowance} {i : Pid} {start w w' : World} {steps : List (Op × World)} {c : Choice}
  {op : Op} {reply : op.Reply}

theorem intact_append : Intact i (steps ++ [(op, w)]) ↔
    Intact i steps ∧ (op = .rollback → (w.db.transaction i).writes = []) := by
  constructor
  · intro intact
    refine ⟨fun step member => intact step (List.mem_append_left _ member), fun same => ?_⟩
    exact intact (op, w) (List.mem_append_right _ (List.mem_singleton_self _)) same
  · rintro ⟨intact, last⟩ step member
    rcases List.mem_append.mp member with before | single
    · exact intact step before
    · rw [List.mem_singleton.mp single]
      exact last

/-- The committed states stay, and so does what the request reads of them. -/
structure Steady (i : Pid) (start w : World) : Prop where
  history : w.db.history = start.db.history
  version : w.db.version = start.db.version
  viewed : w.db.viewed i = start.db.version

theorem Steady.table (steady : Steady i start w) : w.db.table = start.db.table := by
  rw [Database.table, Database.table, steady.history, steady.version]

theorem Steady.readTable (steady : Steady i start w) :
    w.db.readTable i = start.db.table.overlay (w.db.transaction i).writes := by
  rw [Database.readTable, steady.viewed, steady.history, Database.table]

theorem Steady.currentTable (steady : Steady i start w) :
    w.db.currentTable i = start.db.table.overlay (w.db.transaction i).writes := by
  rw [Database.currentTable, steady.table]

theorem DatabaseStep.own {db db' : Database} (step : DatabaseStep i c op db db')
    (open_ : op ≠ .commit) : OwnStep i db db' := by
  cases step with
  | aside own _ => exact own
  | compare _ cas => exact Database.casStep_own cas
  | insert _ => exact Database.insertStep_own db i _
  | rollback => exact Database.rollbackStep_own db i
  | commit => exact absurd rfl open_

theorem Steady.exec (steady : Steady i start w) (step : w.exec i c op = some (reply, w'))
    (open_ : op ≠ .commit) : Steady i start w' := by
  have own := (World.exec_database step).own open_
  refine ⟨own.history.trans steady.history, own.version.trans steady.version, ?_⟩
  have viewed := steady.viewed
  rw [Database.viewed] at viewed ⊢
  rw [own.version]
  rcases World.exec_view step with same | gone | fixed
  · rw [same]
    exact viewed
  · rw [gone]
    exact steady.version
  · rw [fixed]
    exact steady.viewed

/-- The request has these writes to commit, and no rollback has met any. -/
structure Holding (i : Pid) (start : World) (pending : List ArticleRow)
    (s : World × List (Op × World)) : Prop where
  steady : Steady i start s.1
  writes : (s.1.db.transaction i).writes = pending
  intact : Intact i s.2

/-- The request has these writes to commit, or a rollback has met them. -/
structure Carrying (i : Pid) (start : World) (pending : List ArticleRow)
    (s : World × List (Op × World)) : Prop where
  steady : Steady i start s.1
  writes : ((s.1.db.transaction i).writes = pending ∧ Intact i s.2) ∨
    (pending ≠ [] ∧ (s.1.db.transaction i).writes = [] ∧ ¬Intact i s.2)

theorem Holding.carrying {pending : List ArticleRow} {s : World × List (Op × World)}
    (holding : Holding i start pending s) : Carrying i start pending s :=
  ⟨holding.steady, Or.inl ⟨holding.writes, holding.intact⟩⟩

theorem Carrying.holding {s : World × List (Op × World)} (carrying : Carrying i start [] s) :
    Holding i start [] s := by
  rcases carrying.writes with ⟨writes, intact⟩ | ⟨impossible, -⟩
  · exact ⟨carrying.steady, writes, intact⟩
  · exact absurd rfl impossible

theorem rollback_writes (db : Database) (i : Pid) :
    ((db.rollbackStep i).transaction i).writes = [] := by
  rw [Database.transaction]
  unfold Database.rollbackStep
  cases open_ : (db.sessions i).transaction with
  | none => rw [open_]; rfl
  | some transaction => simp [Database.release]; rfl

theorem exec_writes (step : w.exec i c op = some (reply, w')) (reads : reading op)
    (forward : op ≠ .rollback) :
    (w'.db.transaction i).writes = (w.db.transaction i).writes := by
  have moved := World.exec_database step
  generalize w.db = db at moved ⊢
  generalize w'.db = db' at moved ⊢
  cases moved with
  | aside _ keeps => exact keeps.writes
  | compare compares _ =>
      cases op with
      | mysql statement => cases statement <;> first | exact compares.elim | cases reads
      | _ => exact compares.elim
  | insert _ => cases reads
  | rollback => exact absurd rfl forward
  | commit => exact reads.elim

theorem Carrying.exec {pending : List ArticleRow} {s s' : World × List (Op × World)}
    (carrying : Carrying i start pending s) (reads : reading op)
    (step : recording (Exec allow i) op s reply s') : Carrying i start pending s' := by
  obtain ⟨⟨c, -, step⟩, logged⟩ := step
  have open_ : op ≠ .commit := by
    rintro rfl
    exact reads
  refine ⟨carrying.steady.exec step open_, ?_⟩
  rw [logged]
  by_cases back : op = .rollback
  · subst back
    have gone : (s'.1.db.transaction i).writes = [] := by
      obtain ⟨-, same⟩ := Prod.mk.inj (Option.some.inj step)
      rw [← same]
      exact rollback_writes s.1.db i
    rcases carrying.writes with ⟨writes, intact⟩ | ⟨some_, writes, spoiled⟩
    · by_cases none_ : pending = []
      · refine Or.inl ⟨gone.trans none_.symm, intact_append.mpr ⟨intact, fun _ => ?_⟩⟩
        exact writes.trans none_
      · refine Or.inr ⟨none_, gone, fun later => none_ ?_⟩
        exact writes.symm.trans ((intact_append.mp later).2 rfl)
    · exact Or.inr ⟨some_, gone, fun later => spoiled (intact_append.mp later).1⟩
  · rw [exec_writes step reads back]
    have same : Intact i (s.2 ++ [(op, s.1)]) ↔ Intact i s.2 :=
      intact_append.trans ⟨And.left, fun intact => ⟨intact, fun same => absurd same back⟩⟩
    rw [same]
    exact carrying.writes

/-- Without a rollback the writes stay to be committed. -/
theorem Holding.exec {pending : List ArticleRow} {s s' : World × List (Op × World)}
    (holding : Holding i start pending s) (reads : reading op) (forward : op ≠ .rollback)
    (step : recording (Exec allow i) op s reply s') : Holding i start pending s' := by
  obtain ⟨⟨c, -, step⟩, logged⟩ := step
  have open_ : op ≠ .commit := by
    rintro rfl
    exact reads
  refine ⟨holding.steady.exec step open_, (exec_writes step reads forward).trans holding.writes, ?_⟩
  rw [logged]
  exact intact_append.mpr ⟨holding.intact, fun same => absurd same forward⟩

end

/-! ## What the handlers leave -/

/-- Whenever the program returns a value, it is as `Q` says of the world and the steps so far. -/
abbrev Leaves (allow : Allowance) (i : Pid) {α : Type} (p : Py α)
    (Q : α → World × List (Op × World) → Prop) (s : World × List (Op × World)) : Prop :=
  Yields (recording (Exec allow i)) (fun _ _ => True) p Q s

/-- The request has nothing to commit, and no id was handed out since the start. -/
structure Clean (i : Pid) (start : World) (s : World × List (Op × World)) : Prop where
  holding : Holding i start [] s
  nextId : s.1.db.nextId = start.db.nextId

def Unloaded (i : Pid) (w : World) : Prop := ∀ row, (w.db.sessions i).article ≠ .loaded row

abbrev loadingUser : Op → Prop :=
  Footprint (fun statement => ∃ id, statement = .selectUser id) (fun _ => True) True

section
variable {allow : Allowance} {i : Pid} {start : World} {s s' : World × List (Op × World)}
  {request : Request} {pending : List ArticleRow} {op : Op} {reply : op.Reply}

theorem reading_of_loadingUser (may : loadingUser op) : reading op := by
  cases op with
  | mysql statement =>
      obtain ⟨id, rfl⟩ := may
      rfl
  | breakerAllow dependency => cases dependency <;> exact may
  | breakerSuccess dependency => cases dependency <;> exact may
  | breakerFailure dependency => cases dependency <;> exact may
  | secondsUntilProbe dependency => cases dependency <;> exact may
  | _ => exact may

theorem exec_nextId {w w' : World} {c : Choice} (may : loadingUser op)
    (step : w.exec i c op = some (reply, w')) : w'.db.nextId = w.db.nextId := by
  by_cases aside : op.asksDatabase = false
  · rw [World.exec_db aside step]
  cases op with
  | mysql statement =>
      obtain ⟨id, rfl⟩ := may
      simp only [World.exec] at step
      split at step
      · obtain ⟨-, rfl⟩ := Prod.mk.inj (Option.some.inj step)
        rfl
      · obtain ⟨⟨_, db⟩, answered, same⟩ := Option.map_eq_some_iff.mp step
        obtain ⟨-, rfl⟩ := Prod.mk.inj same
        simp only [Database.statementStep] at answered
        split at answered <;> obtain ⟨-, rfl⟩ := Prod.mk.inj (Option.some.inj answered) <;> rfl
  | commit => exact may.elim
  | rollback =>
      obtain ⟨-, rfl⟩ := Prod.mk.inj (Option.some.inj step)
      show (w.db.rollbackStep i).nextId = w.db.nextId
      unfold Database.rollbackStep
      split <;> rfl
  | expireAll =>
      obtain ⟨-, rfl⟩ := Prod.mk.inj (Option.some.inj step)
      rfl
  | _ => exact absurd rfl aside

theorem Clean.exec (clean : Clean i start s) (may : loadingUser op)
    (step : recording (Exec allow i) op s reply s') : Clean i start s' := by
  have carrying := clean.holding.carrying.exec (reading_of_loadingUser may) step
  obtain ⟨⟨c, -, step⟩, -⟩ := step
  exact ⟨carrying.holding, (exec_nextId may step).trans clean.nextId⟩

/-- The actor of a request is the user that its principal names. -/
theorem getCurrentUser_returns (app : App) (principal : Option ℤ) (clean : Clean i start s) :
    Leaves allow i (app.getCurrentUser principal)
      (fun actor s' => principal = some actor ∧ Clean i start s') s := by
  cases principal with
  | none => exact Yields.raise _
  | some userId =>
      have read : Leaves allow i (UserRepository.getById app.rt userId)
          (fun found s' => Clean i start s' ∧ ∀ user, found = some user → user = userId) s := by
        refine yields_guardedRead (E := Clean i start) (Q := fun found s' => Clean i start s' ∧
            ∀ user, found = some user → user = userId) (fun s clean => ?_)
          (fun s reply s' clean step => clean.exec (show loadingUser .rollback from trivial) step)
          (fun longest s reply s' clean step =>
            clean.exec (show loadingUser (.backoff longest) from trivial) step)
          (fun metric value s s' step holds =>
            ⟨holds.1.exec (show loadingUser (.observe metric) from trivial) step, holds.2⟩)
          (fun s' step => clean.exec (show loadingUser (.breakerAllow .mysql) from trivial) step)
          fun value s s' step holds =>
            ⟨holds.1.exec (show loadingUser (.breakerSuccess .mysql) from trivial) step, holds.2⟩
        intro reply s' step
        have kept := clean.exec (show loadingUser (.mysql (.selectUser userId)) from ⟨_, rfl⟩) step
        cases reply with
        | error error => exact ⟨trivial, kept⟩
        | ok found =>
            refine ⟨trivial, kept, fun user same => ?_⟩
            obtain ⟨c, -, ⟨error, -, impossible, -⟩ | ⟨db, -, answered, -⟩⟩ := mysql_exec step.1
            · cases impossible
            · simp only [Database.statementStep] at answered
              split at answered
              · rename_i row there
                obtain ⟨answer, -⟩ := Prod.mk.inj (Option.some.inj answered)
                obtain rfl := Option.some.inj (same.symm.trans (Except.ok.inj answer).symm)
                simpa using List.find?_some there
              · obtain ⟨answer, -⟩ := Prod.mk.inj (Option.some.inj answered)
                cases same.symm.trans (Except.ok.inj answer).symm
      apply read.bind
      rintro found s' - ⟨clean, named⟩
      cases found with
      | none => exact Yields.raise _
      | some user => exact Yields.ret ⟨by rw [named user rfl], clean⟩

/-- What reads keeps what there is to commit, unless it rolls it back. -/
theorem carrying_returns {α : Type} {p : Py α} (sends : p.Sends reading)
    (carrying : Carrying i start pending s) :
    Leaves allow i p (fun _ s' => Carrying i start pending s') s :=
  Yields.of_sends sends (fun _ _ _ _ may step carrying => carrying.exec may step) carrying

/-! ### The compare-and-set -/

theorem casStep_matches {db db' : Database} {id : ℤ} {expected stamp : DateTime}
    {change : ArticleRow → ArticleRow} {count : ℕ}
    (step : db.casStep i id expected change stamp = some (count, db')) (matched : count ≠ 0) :
    ∃ old, (db.currentTable i).find id = some old ∧ old.live = true ∧ old.updatedAt = expected ∧
      ((change old = old ∧ (db'.transaction i).writes = (db.transaction i).writes) ∨
        (change old ≠ old ∧ (db'.transaction i).writes =
          (db.transaction i).writes ++ [{ change old with updatedAt := stamp }])) := by
  unfold Database.casStep at step
  split at step
  · cases step
  split at step
  · obtain ⟨rfl, -⟩ := Prod.mk.inj (Option.some.inj step)
    exact absurd rfl matched
  rename_i old found
  split at step
  · rename_i fits
    refine ⟨old, found, fits.1, fits.2, ?_⟩
    split at step
    · rename_i same
      obtain ⟨-, rfl⟩ := Prod.mk.inj (Option.some.inj step)
      exact Or.inl ⟨same, by simp [Database.transaction]⟩
    · rename_i changes
      obtain ⟨-, rfl⟩ := Prod.mk.inj (Option.some.inj step)
      exact Or.inr ⟨changes, by simp [Database.transaction]⟩
  · obtain ⟨rfl, -⟩ := Prod.mk.inj (Option.some.inj step)
    exact absurd rfl matched

/-- This compare-and-set makes the change that the request is for. -/
structure Request.Makes (request : Request) (id : ℤ) (expected : DateTime)
    (change : ArticleRow → ArticleRow) : Prop where
  replaces : ∀ old stamp, old.id = id → old.updatedAt = expected →
    request.Replaces old { change old with updatedAt := stamp }
  same : ∀ old, old.id = id → old.updatedAt = expected → old.live = true →
    (change old = old ↔ request.Replaces old old)

theorem Request.makes_update (principal : Option ℤ) (id : ℤ) (title body : String)
    (expected : DateTime) : (Request.update principal id title body expected).Makes id expected
      (Database.edit title body) where
  replaces _ _ key token := ⟨key, token, rfl⟩
  same _ key token _ := ⟨fun same => ⟨key, token, same.symm⟩, fun replaces => replaces.2.2.symm⟩

theorem Request.makes_delete (principal : Option ℤ) (id : ℤ) (expected deletedAt : DateTime) :
    (Request.delete principal id expected).Makes id expected (Database.markDeleted deletedAt) where
  replaces _ _ key token := ⟨key, token, deletedAt, rfl⟩
  same old _ _ live := by
    -- a live row has no time of its deletion
    have dead : ∀ at_ : DateTime, old.deletedAt = some at_ → False := by
      intro at_ deleted
      rw [ArticleRow.live, deleted] at live
      cases live
    constructor
    · intro same
      exact (dead deletedAt (congrArg ArticleRow.deletedAt same).symm).elim
    · rintro ⟨-, -, at_, shape⟩
      exact (dead at_ (congrArg ArticleRow.deletedAt shape)).elim

def Matched (i : Pid) (start : World) (request : Request) (id : ℤ)
    (s : World × List (Op × World)) : Prop :=
  ∃ old new pending, old.id = id ∧ Due request start.db.table old new pending ∧
    Holding i start pending s

theorem matched_of_casStep {id : ℤ} {expected stamp : DateTime}
    {change : ArticleRow → ArticleRow} {count : ℕ} {db : Database} {c : Choice}
    (makes : request.Makes id expected change) (holding : Holding i start [] s)
    (cas : s.1.db.casStep i id expected change stamp = some (count, db))
    (step : s.1.exec i c op = some (reply, s'.1)) (logged : s'.2 = s.2 ++ [(op, s.1)])
    (same : s'.1.db = db) (forward : op ≠ .rollback) (open_ : op ≠ .commit) (matched : count ≠ 0) :
    Matched i start request id s' := by
  obtain ⟨old, found, live, token, wrote⟩ := casStep_matches cas matched
  rw [holding.steady.currentTable, holding.writes, Table.overlay_nil] at found
  have key : old.id = id := Table.find_id found
  rw [← same, holding.writes] at wrote
  have intact : Intact i s'.2 := by
    rw [logged]
    exact intact_append.mpr ⟨holding.intact, fun back => absurd back forward⟩
  have steady := holding.steady.exec step open_
  rcases wrote with ⟨stays, writes⟩ | ⟨changes, writes⟩
  · exact ⟨old, old, [], key, ⟨by rw [key]; exact found, live, (makes.same old key token live).mp stays,
      Or.inl ⟨rfl, rfl⟩⟩, steady, writes, intact⟩
  · exact ⟨old, _, _, key, ⟨by rw [key]; exact found, live, makes.replaces old stamp key token,
      Or.inr ⟨rfl, fun still => changes ((makes.same old key token live).mpr still)⟩⟩,
      steady, writes, intact⟩

theorem Matched.keeps {id : ℤ} (matched : Matched i start request id s) (may : reading op)
    (forward : op ≠ .rollback) (step : recording (Exec allow i) op s reply s') :
    Matched i start request id s' := by
  obtain ⟨old, new, pending, key, due, holding⟩ := matched
  exact ⟨old, new, pending, key, due, holding.exec may forward step⟩

/-- What a statement has left is a compare-and-set that the request is for. -/
theorem matched_of_statement {statement : Statement} {id : ℤ} {expected : DateTime}
    {change : ArticleRow → ArticleRow} {count : ℕ} {answer : statement.Reply}
    (makes : request.Makes id expected change) (holding : Holding i start [] s)
    (cas : ∀ c db, s.1.db.statementStep i c statement = some (.ok answer, db) → ∃ stamp,
      s.1.db.casStep i id expected change stamp = some (count, db))
    (step : recording (Exec allow i) (.mysql statement) s (.ok answer) s') (matched : count ≠ 0) :
    Matched i start request id s' := by
  obtain ⟨⟨c, -, step⟩, logged⟩ := step
  have ran := step
  simp only [World.exec] at ran
  split at ran
  · cases ran
  obtain ⟨⟨_, db⟩, answered, same⟩ := Option.map_eq_some_iff.mp ran
  obtain ⟨rfl, after⟩ := Prod.mk.inj same
  obtain ⟨stamp, cas⟩ := cas c db answered
  refine matched_of_casStep makes holding cas step logged (by rw [← after]) ?_ ?_ matched
  · rintro ⟨⟩
  · rintro ⟨⟩

structure Expired (i : Pid) (start : World) (request : Request) (id : ℤ)
    (s : World × List (Op × World)) : Prop where
  matched : Matched i start request id s
  unloaded : Unloaded i s.1

theorem Expired.aside {id : ℤ} (expired : Expired i start request id s) (may : reading op)
    (aside : op.asksDatabase = false) (step : recording (Exec allow i) op s reply s') :
    Expired i start request id s' := by
  have forward : op ≠ .rollback := by
    rintro rfl
    cases aside
  refine ⟨expired.matched.keeps may forward step, ?_⟩
  obtain ⟨⟨c, -, step⟩, -⟩ := step
  rw [Unloaded, World.exec_db aside step]
  exact expired.unloaded

def Changes (i : Pid) (start : World) (request : Request) (id : ℤ) (count : ℕ)
    (s : World × List (Op × World)) : Prop :=
  count ≠ 0 → Expired i start request id s

theorem expireAll_returns {id : ℤ} {count : ℕ}
    (matched : count ≠ 0 → Matched i start request id s) :
    Leaves allow i (expireAll.bind fun _ => .ret count) (Changes i start request id) s := by
  apply Yields.call
  intro _ s' step
  apply Yields.ret
  intro counted
  refine ⟨(matched counted).keeps (show reading .expireAll from trivial) (by rintro ⟨⟩) step,
    fun row => ?_⟩
  obtain ⟨⟨c, -, step⟩, -⟩ := step
  obtain ⟨-, same⟩ := Prod.mk.inj (Option.some.inj step)
  rw [← same]
  show ((s.1.db.expireInstances i).sessions i).article ≠ .loaded row
  cases held : (s.1.db.sessions i).article <;> simp [Database.expireInstances, held, Slot.expire]

theorem updateCas_returns (rt : Runtime) (principal : Option ℤ) (id : ℤ) (title body : String)
    (expected : DateTime) (holding : Holding i start [] s) :
    Leaves allow i (ArticleRepository.updateCas rt id expected title body)
      (Changes i start (.update principal id title body expected) id) s := by
  apply yields_guardedWrite (Q := Changes i start (.update principal id title body expected) id)
  · intro s' admitted
    have holding := holding.exec (show reading (.breakerAllow .mysql) from trivial) (by rintro ⟨⟩)
      admitted
    apply Yields.call
    intro reply s₁ step
    cases reply with
    | error error => exact Yields.raise error
    | ok count =>
        apply expireAll_returns
        apply matched_of_statement (Request.makes_update principal id title body expected) holding _
          step
        intro c db answered
        obtain ⟨⟨count', db'⟩, cas, same⟩ := Option.map_eq_some_iff.mp answered
        obtain ⟨counted, rfl⟩ := Prod.mk.inj same
        obtain rfl := Except.ok.inj counted
        exact ⟨c.time, cas⟩
  · intro count s s' step expired counted
    exact (expired counted).aside (show reading (.breakerSuccess .mysql) from trivial) rfl step

theorem softDeleteCas_returns (rt : Runtime) (principal : Option ℤ) (id : ℤ)
    (expected : DateTime) (holding : Holding i start [] s) :
    Leaves allow i (ArticleRepository.softDeleteCas rt id expected)
      (Changes i start (.delete principal id expected) id) s := by
  apply yields_guardedWrite (Q := Changes i start (.delete principal id expected) id)
  · intro s' admitted
    have holding := holding.exec (show reading (.breakerAllow .mysql) from trivial) (by rintro ⟨⟩)
      admitted
    apply Yields.call
    intro deletedAt s₁ clock
    have holding := holding.exec (show reading .utcnow from trivial) (by rintro ⟨⟩) clock
    apply Yields.call
    intro reply s₂ step
    cases reply with
    | error error => exact Yields.raise error
    | ok count =>
        apply expireAll_returns
        apply matched_of_statement (Request.makes_delete principal id expected deletedAt) holding _
          step
        intro c db answered
        obtain ⟨⟨count', db'⟩, cas, same⟩ := Option.map_eq_some_iff.mp answered
        obtain ⟨counted, rfl⟩ := Prod.mk.inj same
        obtain rfl := Except.ok.inj counted
        exact ⟨c.time, cas⟩
  · intro count s s' step expired counted
    exact (expired counted).aside (show reading (.breakerSuccess .mysql) from trivial) rfl step

end

end ContentPlatform
