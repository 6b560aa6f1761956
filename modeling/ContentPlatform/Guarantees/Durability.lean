import ContentPlatform.Schemas
import ContentPlatform.World.Carried

/-!
# What an acknowledged write has done

A success answer of a request that writes, against the table that its commit leaves.  The request has
the database to itself; anything may fail.
-/

set_option autoImplicit false

namespace ContentPlatform

open Program Py Prog

/-! ## The three handlers -/

section
variable {allow : Allowance} {i : Pid} {start : World} {s s' : World × List (Op × World)}
  {request : Request} {pending : List ArticleRow} {op : Op} {reply : op.Reply}

/-- What an answer tells is true of what its request is about to commit, or not, exactly as no
rollback has met a write of it. -/
structure Agrees (i : Pid) (start : World) (request : Request) (response : Response)
    (s : World × List (Op × World)) : Prop where
  steady : Steady i start s.1
  effect : request.Effect start.db.table (start.db.table.overlay (s.1.db.transaction i).writes)
    response ↔ Intact i s.2
  spoiled : ¬Intact i s.2 → (s.1.db.transaction i).writes = []

theorem Holding.agrees {response : Response} (holding : Holding i start pending s)
    (effect : request.Effect start.db.table (start.db.table.overlay pending) response) :
    Agrees i start request response s := by
  refine ⟨holding.steady, ?_, fun spoiled => absurd holding.intact spoiled⟩
  rw [holding.writes]
  exact iff_of_true effect holding.intact

theorem articleAttributes_loaded {id : ℤ} {row : ArticleRow}
    (step : recording (Exec allow i) (.articleAttributes id) s (.ok row) s') :
    (s'.1.db.sessions i).article = .loaded row := by
  obtain ⟨⟨c, -, step⟩, -⟩ := step
  obtain ⟨answer, same⟩ := Prod.mk.inj (Option.some.inj step)
  rw [← same]
  cases held : (s.1.db.sessions i).article with
  | loaded other =>
      rw [held] at answer
      simp only [Slot.read] at answer
      split at answer
      · rw [Except.ok.inj answer]
      · cases answer
  | _ =>
      rw [held] at answer
      cases answer

/-! ### Editing -/

/-- The article is loaded as the transaction of the request has it. -/
structure Reloaded (i : Pid) (start : World) (pending : List ArticleRow) (id : ℤ)
    (s : World × List (Op × World)) : Prop where
  carrying : Carrying i start pending s
  row : ∃ row, (s.1.db.sessions i).article = .loaded row ∧
    (start.db.table.overlay (s.1.db.transaction i).writes).find id = some row

theorem Reloaded.aside {id : ℤ} (reloaded : Reloaded i start pending id s) (may : reading op)
    (aside : op.asksDatabase = false) (step : recording (Exec allow i) op s reply s') :
    Reloaded i start pending id s' := by
  refine ⟨reloaded.carrying.exec may step, ?_⟩
  obtain ⟨⟨c, -, step⟩, -⟩ := step
  rw [World.exec_db aside step]
  exact reloaded.row

/-- The article has to be read again. -/
structure Rereading (i : Pid) (start : World) (pending : List ArticleRow)
    (s : World × List (Op × World)) : Prop where
  carrying : Carrying i start pending s
  unloaded : Unloaded i s.1

theorem Rereading.aside (rereading : Rereading i start pending s) (may : reading op)
    (aside : op.asksDatabase = false) (step : recording (Exec allow i) op s reply s') :
    Rereading i start pending s' := by
  refine ⟨rereading.carrying.exec may step, ?_⟩
  obtain ⟨⟨c, -, step⟩, -⟩ := step
  rw [Unloaded, World.exec_db aside step]
  exact rereading.unloaded

theorem Rereading.rolledBack {reply : Except Exc Unit} (rereading : Rereading i start pending s)
    (step : recording (Exec allow i) .rollback s reply s') : Rereading i start pending s' := by
  refine ⟨rereading.carrying.exec (show reading .rollback from trivial) step, fun row => ?_⟩
  rw [rollback_exec step.1]
  show ((s.1.db.rollbackStep i).sessions i).article ≠ .loaded row
  rcases rollback_sessions s.1.db i with same | ended
  · rw [same]
    exact rereading.unloaded row
  · rw [ended]
    show (s.1.db.sessions i).article.expire ≠ .loaded row
    cases (s.1.db.sessions i).article <;> simp [Slot.expire]

def Rediscovered (i : Pid) (start : World) (pending : List ArticleRow) (id : ℤ) (found : Option ℤ)
    (s : World × List (Op × World)) : Prop :=
  ∀ article, found = some article → article = id ∧ Reloaded i start pending id s

theorem Rediscovered.none (id : ℤ) : Rediscovered i start pending id none s := by
  rintro _ ⟨⟩

theorem Rereading.select {id : ℤ} {reply : Except Exc (Option ℤ)}
    (rereading : Rereading i start pending s)
    (step : recording (Exec allow i) (.mysql (.selectArticle id)) s reply s') :
    Attempted (Rediscovered i start pending id) (Rereading i start pending) reply s' := by
  have carried := rereading.carrying.exec (show reading (.mysql (.selectArticle id)) from rfl) step
  obtain ⟨c, -, ⟨error, -, rfl, after⟩ | ⟨db, -, answered, after⟩⟩ := mysql_exec step.1
  · refine ⟨carried, fun row => ?_⟩
    rw [after]
    show ((s.1.db.begin_ i).sessions i).article ≠ .loaded row
    rw [Database.begin_sessions]
    exact rereading.unloaded row
  simp only [Database.statementStep] at answered
  split at answered
  · rename_i row found
    split at answered
    · obtain ⟨rfl, rfl⟩ := Prod.mk.inj (Option.some.inj answered)
      intro article same
      obtain rfl := Option.some.inj same
      refine ⟨Table.find_id found, carried, row, ?_, ?_⟩
      · rw [after]
        cases held : (s.1.db.sessions i).article with
        | loaded other => exact absurd held (rereading.unloaded other)
        | absent => simp [held, Slot.receive]
        | expired => simp [held, Slot.receive]
      · rw [← found, rereading.carrying.steady.readTable, after]
        simp [Database.transaction]
    · obtain ⟨rfl, -⟩ := Prod.mk.inj (Option.some.inj answered)
      exact Rediscovered.none id
  · obtain ⟨rfl, -⟩ := Prod.mk.inj (Option.some.inj answered)
    exact Rediscovered.none id

theorem load_returns (service : ArticleService) (id : ℤ)
    (rereading : Rereading i start pending s) :
    Leaves allow i (service.load id)
      (fun article s' => article = id ∧ Reloaded i start pending id s') s := by
  have kept : ∀ op found (reply : op.Reply) (s s' : World × List (Op × World)), reading op →
      op.asksDatabase = false → recording (Exec allow i) op s reply s' →
      Rediscovered i start pending id found s → Rediscovered i start pending id found s' := by
    intro op found reply s s' may aside step before article same
    exact ⟨(before article same).1, (before article same).2.aside may aside step⟩
  have read : Leaves allow i (ArticleRepository.get service.rt id)
      (Rediscovered i start pending id) s := by
    apply yields_guardedRead (E := Rereading i start pending) (Q := Rediscovered i start pending id)
    · intro s before reply s' step
      have ended := before.select step
      cases reply with
      | ok found => exact ⟨trivial, ended⟩
      | error error => exact ⟨trivial, ended⟩
    · exact fun s reply s' before step => before.rolledBack step
    · exact fun longest s reply s' before step =>
        before.aside (show reading (.backoff longest) from trivial) rfl step
    · exact fun metric found s s' step =>
        kept (.observe metric) found () s s' trivial rfl step
    · exact fun s' step => rereading.aside (show reading (.breakerAllow .mysql) from trivial) rfl step
    · exact fun found s s' step => kept (.breakerSuccess .mysql) found () s s' trivial rfl step
  apply read.bind
  intro found s' _ holds
  cases found with
  | none => exact Yields.raise _
  | some article => exact Yields.ret (holds article rfl)

/-- The answer with the article that was read after its compare-and-set. -/
theorem Reloaded.agrees {old new row : ArticleRow} (reloaded : Reloaded i start pending old.id s)
    (due : Due request start.db.table old new pending)
    (loaded : (s.1.db.sessions i).article = .loaded row) :
    Agrees i start request (.article row.out) s := by
  obtain ⟨row', loaded', found⟩ := reloaded.row
  obtain rfl : row = row' := by
    rw [loaded] at loaded'
    exact Slot.loaded.inj loaded'
  rcases reloaded.carrying.writes with ⟨writes, intact⟩ | ⟨some_, writes, spoiled⟩
  · refine ⟨reloaded.carrying.steady, ?_, absurd intact⟩
    rw [writes] at found ⊢
    obtain rfl := Option.some.inj (due.find.symm.trans found)
    exact iff_of_true (due.effect rfl) intact
  · refine ⟨reloaded.carrying.steady, ?_, fun _ => writes⟩
    rw [writes, Table.overlay_nil]
    exact iff_of_false (due.lost some_) spoiled

/-- The common course of update and delete: nothing is written before the compare-and-set, and one
that matched nothing is not answered with a value. -/
theorem conditional_returns {α : Type} (service : ArticleService) {id : ℤ} (actor : ℤ)
    (cas : Py ℕ) (rest : ℤ → ℕ → Py α) {Q : α → World × List (Op × World) → Prop}
    (holding : Holding i start [] s)
    (compare : ∀ s, Holding i start [] s → Leaves allow i cas (Changes i start request id) s)
    (lost : ∀ authorId, rest authorId 0 = service.raiseConflictOrNotFound id)
    (won : ∀ authorId count s, count ≠ 0 → Expired i start request id s →
      Leaves allow i (rest authorId count) Q s) :
    Leaves allow i (do
        let article ← service.load id
        ArticleService.authorize actor article
        let authorId := (← articleAttributes article).authorId
        let rowcount ← cas
        rest authorId rowcount) Q s := by
  apply (carrying_returns (load_sends service rfl) holding.carrying).bind
  intro article s₁ _ carrying
  apply (carrying_returns (authorize_sends actor article) carrying).bind
  intro _ s₂ _ carrying
  apply (carrying_returns (articleAttributes_sends article) carrying).bind
  intro row s₃ _ carrying
  apply (compare s₃ carrying.holding).bind
  intro count s₄ _ changes
  by_cases none_ : count = 0
  · subst none_
    rw [lost]
    apply Yields.skip
    intro found s₅ _
    cases found <;> exact Yields.raise _
  · exact won row.authorId count s₄ none_ (changes none_)

/-- What only the database can change is kept while an invalidation is queued. -/
theorem invalidateAfterCommit_returns (service : ArticleService) (authorId : ℤ)
    (articleId : Option ℤ) {A : World × List (Op × World) → Prop} (start : A s)
    (kept : ∀ op (reply : op.Reply) s s', reading op → op.asksDatabase = false →
      recording (Exec allow i) op s reply s' → A s → A s') :
    Leaves allow i (service.invalidateAfterCommit authorId articleId) (fun _ => A) s := by
  unfold ArticleService.invalidateAfterCommit
  split
  · apply Yields.call
    intro reply s' step
    exact Yields.ret (kept (.afterCommit ⟨articleId, authorId⟩) reply s s' trivial rfl step start)
  · exact Yields.ret start

theorem update_returns (service : ArticleService) (principal : Option ℤ) (actor id : ℤ)
    (title body : String) (expected : DateTime) (holding : Holding i start [] s) :
    Leaves allow i (service.update actor id title body expected)
      (fun out => Agrees i start (.update principal id title body expected) (.article out)) s := by
  apply conditional_returns service actor
    (ArticleRepository.updateCas service.rt id expected title body)
    (fun authorId count => if count = 0 then service.raiseConflictOrNotFound id
      else do
        service.invalidateAfterCommit authorId (some id)
        let article ← service.load id
        return (← articleAttributes article).out) holding
    (fun s holding => updateCas_returns service.rt principal id title body expected holding)
    (fun _ => if_pos rfl)
  intro authorId count s' matched expired
  rw [if_neg matched]
  apply (invalidateAfterCommit_returns service authorId (some id) expired
    fun _ _ _ _ may aside step before => before.aside may aside step).bind
  rintro _ s₁ - ⟨⟨old, new, pending, rfl, due, holding⟩, unloaded⟩
  apply (load_returns service old.id ⟨holding.carrying, unloaded⟩).bind
  rintro article s₂ - ⟨rfl, reloaded⟩
  apply Yields.call
  intro reply s₃ step
  have after := reloaded.aside (show reading (.articleAttributes old.id) from trivial) rfl step
  cases reply with
  | error error => exact Yields.raise error
  | ok row =>
      exact Yields.ret (after.agrees due (articleAttributes_loaded step))

/-! ### Deleting -/

theorem delete_returns (service : ArticleService) (principal : Option ℤ) (actor id : ℤ)
    (expected : DateTime) (holding : Holding i start [] s) :
    Leaves allow i (service.delete actor id expected)
      (fun _ s' => Agrees i start (.delete principal id expected) .deleted s' ∧ Intact i s'.2) s := by
  apply conditional_returns service actor
    (ArticleRepository.softDeleteCas service.rt id expected)
    (fun authorId count => if count = 0 then service.raiseConflictOrNotFound id
      else service.invalidateAfterCommit authorId (some id)) holding
    (fun s holding => softDeleteCas_returns service.rt principal id expected holding)
    (fun _ => if_pos rfl)
  intro authorId count s' matched expired
  rw [if_neg matched]
  apply (invalidateAfterCommit_returns service authorId (some id) expired
    fun _ _ _ _ may aside step before => before.aside may aside step).mono
  rintro _ s₁ - ⟨⟨old, new, pending, -, due, holding⟩, -⟩
  have dead : new.live = false := by
    obtain ⟨-, -, deletedAt, shape⟩ := due.replaces
    rw [shape]
    rfl
  exact ⟨holding.agrees (due.effect dead), holding.intact⟩

/-! ### Inserting -/

def Issued (w : World) : Prop := ∀ id row, w.db.table.find id = some row → id < w.db.nextId

/-- The request holds the row that it inserted, and has it loaded. -/
def Stored (i : Pid) (start : World) (request : Request) (id : ℤ)
    (s : World × List (Op × World)) : Prop :=
  ∃ row, row.id = id ∧ request.Writes (start.db.table.find row.id) row ∧ Holding i start [row] s ∧
    (s.1.db.sessions i).article = .loaded row

theorem Stored.aside {id : ℤ} (stored : Stored i start request id s) (may : reading op)
    (aside : op.asksDatabase = false) (step : recording (Exec allow i) op s reply s') :
    Stored i start request id s' := by
  obtain ⟨row, key, writes, holding, loaded⟩ := stored
  have forward : op ≠ .rollback := by
    rintro rfl
    cases aside
  refine ⟨row, key, writes, holding.exec may forward step, ?_⟩
  obtain ⟨⟨c, -, step⟩, -⟩ := step
  rw [World.exec_db aside step]
  exact loaded

/-- A new row is in the transaction, and nothing was read of it yet. -/
theorem Clean.insert (issued : Issued start) (clean : Clean i start s) {actor id : ℤ}
    {title body : String}
    (step : recording (Exec allow i) (.mysql (.insertArticle actor title body)) s (.ok id) s') :
    ∃ row, row.id = id ∧
      (Request.create (some actor) title body).Writes (start.db.table.find row.id) row ∧
      Holding i start [row] s' := by
  obtain ⟨⟨c, allowed, step⟩, logged⟩ := step
  have steady := clean.holding.steady.exec step (by rintro ⟨⟩)
  obtain ⟨c, -, ⟨error, -, impossible, -⟩ | ⟨db, -, answered, after⟩⟩ := mysql_exec ⟨c, allowed, step⟩
  · cases impossible
  simp only [Database.statementStep] at answered
  split at answered
  · rename_i handed
    obtain ⟨answer, rfl⟩ := Prod.mk.inj (Option.some.inj answered)
    obtain rfl := Except.ok.inj answer
    have new : start.db.table.find c.newId = none := by
      cases found : start.db.table.find c.newId with
      | none => rfl
      | some row =>
          have below := issued c.newId row found
          rw [clean.nextId] at handed
          omega
    refine ⟨Database.newRow c actor title body, rfl, ?_, steady, ?_, ?_⟩
    · rw [show (Database.newRow c actor title body).id = c.newId from rfl, new]
      exact ⟨handed.2, rfl, rfl, rfl, rfl⟩
    · rw [after]
      have empty := clean.holding.writes
      simpa [Database.insertStep, Database.transaction] using empty
    · rw [logged]
      exact intact_append.mpr ⟨clean.holding.intact, by rintro ⟨⟩⟩
  · cases answered

theorem stored_of_refresh {row : ArticleRow}
    (writes : request.Writes (start.db.table.find row.id) row) (positive : 0 < row.id)
    (holding : Holding i start [row] s)
    (step : recording (Exec allow i) (.mysql (.refreshArticle row.id)) s (.ok ()) s') :
    Stored i start request row.id s' := by
  have after := holding.exec (show reading (.mysql (.refreshArticle row.id)) from rfl)
    (by rintro ⟨⟩) step
  have table : s.1.db.readTable i = start.db.table.put row := by
    rw [holding.steady.readTable, holding.writes, Table.overlay_singleton]
  refine ⟨row, rfl, writes, after, ?_⟩
  obtain ⟨c, -, ⟨error, -, impossible, -⟩ | ⟨db, -, answered, same⟩⟩ := mysql_exec step.1
  · cases impossible
  simp only [Database.statementStep, table, Table.find_put _ _ positive, if_pos] at answered
  obtain ⟨-, rfl⟩ := Prod.mk.inj (Option.some.inj answered)
  rw [same]
  exact congrArg Session.article (Database.setSession_sessions ..)

theorem articleCreate_returns (rt : Runtime) (issued : Issued start) (clean : Clean i start s)
    (actor : ℤ) (title body : String) :
    Leaves allow i (ArticleRepository.create rt actor title body)
      (Stored i start (.create (some actor) title body)) s := by
  apply yields_guardedWrite (Q := Stored i start (.create (some actor) title body))
  · intro s' admitted
    have clean := clean.exec (show loadingUser (.breakerAllow .mysql) from trivial) admitted
    apply Yields.call
    intro reply s₁ step
    cases reply with
    | error error => exact Yields.raise error
    | ok id =>
        obtain ⟨row, rfl, writes, holding⟩ := clean.insert issued step
        have positive : 0 < row.id := by
          cases seen : start.db.table.find row.id with
          | none =>
              rw [seen] at writes
              exact writes.1
          | some old =>
              rw [seen] at writes
              exact writes.2.elim
        apply Yields.call
        intro reply s₂ step
        cases reply with
        | error error => exact Yields.raise error
        | ok _ => exact Yields.ret (stored_of_refresh writes positive holding step)
  · intro id s s' step stored
    exact stored.aside (show reading (.breakerSuccess .mysql) from trivial) rfl step

theorem userAttributes_returns (actor : ℤ) (clean : Clean i start s) :
    Leaves allow i (userAttributes actor) (fun user s' => user.id = actor ∧ Clean i start s') s := by
  apply Yields.call
  intro reply s' step
  cases reply with
  | error error => exact Yields.raise error
  | ok user =>
      refine Yields.ret ⟨?_, clean.exec (show loadingUser (.userAttributes actor) from trivial) step⟩
      obtain ⟨⟨c, -, step⟩, -⟩ := step
      have answer := (Prod.mk.inj (Option.some.inj step)).1
      unfold Slot.read at answer
      split at answer
      · split at answer
        · rename_i key
          rw [← Except.ok.inj answer]
          exact key
        · cases answer
      · cases answer

theorem create_returns (service : ArticleService) (issued : Issued start) (clean : Clean i start s)
    (actor : ℤ) (title body : String) :
    Leaves allow i (service.create actor title body)
      (fun out s' => Agrees i start (.create (some actor) title body) (.article out) s' ∧
        Intact i s'.2) s := by
  apply (userAttributes_returns actor clean).bind
  rintro _ s₁ - ⟨-, clean⟩
  apply (userAttributes_returns actor clean).bind
  rintro user s₂ - ⟨rfl, clean⟩
  apply (articleCreate_returns service.rt issued clean user.id title body).bind
  rintro article s₃ - stored
  apply Yields.call
  intro reply s₄ step
  have stored := stored.aside (show reading (.userAttributes user.id) from trivial) rfl step
  cases reply with
  | error error => exact Yields.raise error
  | ok again =>
      apply (invalidateAfterCommit_returns service again.id none stored
        fun _ _ _ _ may aside step before => before.aside may aside step).bind
      rintro _ s₅ - stored
      apply Yields.call
      intro reply s₆ step
      obtain ⟨row, rfl, writes, holding, loaded⟩ :=
        stored.aside (show reading (.articleAttributes article) from trivial) rfl step
      cases reply with
      | error error => exact Yields.raise error
      | ok read =>
          obtain rfl : read = row :=
            Slot.loaded.inj ((articleAttributes_loaded step).symm.trans loaded)
          exact Yields.ret ⟨holding.agrees ⟨read, writes, Table.overlay_singleton _ _, rfl⟩,
            holding.intact⟩

/-! ## The request -/

def Request.edits : Request → Bool
  | .update _ _ _ _ _ => true
  | _ => false

structure Unopened (i : Pid) (w : World) : Prop where
  session : w.db.sessions i = .new
  issued : Issued w

theorem Unopened.clean (unopened : Unopened i start) : Clean i start (start, []) := by
  have new : start.db.transaction i = .new := by
    rw [Database.transaction, unopened.session]
    rfl
  refine ⟨⟨⟨rfl, rfl, ?_⟩, ?_, fun step member => by cases member⟩, rfl⟩
  · rw [Database.viewed, new]
    rfl
  · rw [new]
    rfl

theorem handler_returns (app : App) (unopened : Unopened i start) (writes : request.writes = true) :
    Leaves allow i (app.handler request)
      (fun response s' => Agrees i start request response s' ∧
        (request.edits = false → Intact i s'.2)) (start, []) := by
  cases request with
  | create principal title body =>
      apply (getCurrentUser_returns app principal unopened.clean).bind
      rintro actor s₁ - ⟨rfl, clean⟩
      apply (create_returns app.articles unopened.issued clean actor title body).bind
      rintro out s₂ - ⟨agrees, intact⟩
      exact Yields.ret ⟨agrees, fun _ => intact⟩
  | update principal id title body expected =>
      apply (getCurrentUser_returns app principal unopened.clean).bind
      rintro actor s₁ - ⟨-, clean⟩
      apply (update_returns app.articles principal actor id title body expected clean.holding).bind
      rintro out s₂ - agrees
      exact Yields.ret ⟨agrees, fun other => by cases other⟩
  | delete principal id expected =>
      apply (getCurrentUser_returns app principal unopened.clean).bind
      rintro actor s₁ - ⟨-, clean⟩
      apply (delete_returns app.articles principal actor id expected clean.holding).bind
      rintro _ s₂ - ⟨agrees, intact⟩
      exact Yields.ret ⟨agrees, fun _ => intact⟩
  | get articleId => cases writes
  | list limit after author => cases writes
  | register email password => cases writes
  | login email password => cases writes

/-- The committed table is this, and a commit was asked for in this state and in no other. -/
structure Sealed (table : Table) (asked : Option World) (s : World × List (Op × World)) : Prop where
  table : s.1.db.table = table
  commits : ∀ step ∈ s.2, step.1 = .commit → asked = some step.2
  asks : ∀ w₁, asked = some w₁ → (.commit, w₁) ∈ s.2

theorem Sealed.exec {table : Table} {asked : Option World} (before : Sealed table asked s)
    (open_ : op ≠ .commit) (step : recording (Exec allow i) op s reply s') :
    Sealed table asked s' := by
  obtain ⟨⟨c, -, step⟩, logged⟩ := step
  have own := (World.exec_database step).own open_
  constructor
  · rw [Database.table, own.history, own.version]
    exact before.table
  · intro step member
    rw [logged] at member
    rcases List.mem_append.mp member with earlier | last
    · exact before.commits step earlier
    · rw [List.mem_singleton.mp last]
      exact fun same => absurd same open_
  · intro w₁ same
    rw [logged]
    exact List.mem_append_left _ (before.asks w₁ same)

theorem commit_table {db : Database} : (db.commitStep i).table =
    db.table.overlay (db.transaction i).writes := by
  rcases Database.commitStep_cases db i with ⟨empty, version, -, history⟩ | ⟨-, version, -, history⟩
  · rw [empty, Table.overlay_nil, Database.table, version, history]
    rfl
  · rw [Database.table, version, history, Function.update_self]

theorem commit_publishes {reply : Except Exc Unit}
    (step : recording (Exec allow i) .commit s reply s') :
    s'.1.db.table = s.1.db.table.overlay (s.1.db.transaction i).writes ∨
      (s'.1.db.table = s.1.db.table ∧ ∃ error, reply = .error error) := by
  obtain ⟨⟨c, -, step⟩, -⟩ := step
  obtain ⟨rfl, same⟩ := Prod.mk.inj (Option.some.inj step)
  rw [← same]
  show (s.1.db.commitReply i c).2.table = _ ∨ ((s.1.db.commitReply i c).2.table = _ ∧ _)
  unfold Database.commitReply
  split
  · split
    · exact Or.inl commit_table
    · exact Or.inr ⟨rfl, _, rfl⟩
  · exact Or.inl commit_table

/-- After a failure the session is rolled back and its queue dropped. -/
theorem failed_returns {table : Table} {asked : Option World} (error : Exc)
    (before : Sealed table asked s) :
    wp (recording (Exec allow i)) (do
        rollback
        discardAfterCommit
        .raise error : Py Response)
      (fun outcome s' => (∃ error, outcome = .error error) ∧ Sealed table asked s') s := by
  intro reply s₁ step
  have rolledBack := before.exec (by rintro ⟨⟩) step
  cases reply with
  | error error => exact ⟨⟨_, rfl⟩, rolledBack⟩
  | ok _ => exact fun _ s₂ step => ⟨⟨_, rfl⟩, rolledBack.exec (by rintro ⟨⟩) step⟩

/-- After a commit only the callbacks of the queue run. -/
theorem drained_returns {table : Table} {asked : Option World} (cache : ArticleCache)
    (response : Response) (before : Sealed table asked s) :
    wp (recording (Exec allow i)) (do
        drainAfterCommit cache
        return response : Py Response)
      (fun outcome s' => Sealed table asked s' ∧ (Intact i s'.2 ↔ Intact i s.2) ∧
        ∀ value, outcome = .ok value → value = response) s := by
  have sends : (drainAfterCommit cache).Sends fun op => op.asksDatabase = false := by
    apply drainAfterCommit_sends
    · intro op isLocal
      cases op <;> first | rfl | cases isLocal
    · intro op asks
      cases op <;> first | rfl | cases asks
    · exact fun _ => rfl
    · exact fun _ => rfl
    · rfl
  have kept : wp (recording (Exec allow i)) (drainAfterCommit cache)
      (fun _ s' => Sealed table asked s' ∧ (Intact i s'.2 ↔ Intact i s.2)) s := by
    apply wp_complete
    intro outcome s' run
    refine run.keeps (A := fun s' => Sealed table asked s' ∧ (Intact i s'.2 ↔ Intact i s.2)) sends
      (fun op s₁ reply s₂ aside before step => ?_) ⟨before, Iff.rfl⟩
    have forward : op ≠ .rollback := by
      rintro rfl
      cases aside
    refine ⟨before.1.exec (by rintro rfl; cases aside) step, ?_⟩
    rw [step.2, intact_append, before.2]
    exact ⟨And.left, fun intact => ⟨intact, fun back => absurd back forward⟩⟩
  apply (wp_bind _ _ _ s).mpr
  apply wp_mono kept
  rintro outcome s' ⟨sealed_, same⟩
  cases outcome with
  | ok _ => exact ⟨sealed_, same, fun value ended => (Except.ok.inj ended).symm⟩
  | error error => exact ⟨sealed_, same, fun value impossible => by cases impossible⟩

/-- What an execution of a request that writes has done by its end. -/
structure Durable (app : App) (allow : Allowance) (i : Pid) (request : Request) (w : World)
    (outcome : Except Exc Response) (s' : World × List (Op × World)) : Prop where
  /-- A success answer is true of the committed table exactly if no rollback met a write. -/
  honest : ∀ response, outcome = .ok response →
    (request.Effect w.db.table s'.1.db.table response ↔ Intact i s'.2)
  /-- It is an edit whose success answer is not, and its write is gone. -/
  lost : ∀ response, outcome = .ok response → ¬Intact i s'.2 →
    request.edits = true ∧ s'.1.db.table = w.db.table
  /-- Whatever the outcome, the write is there as a whole or not at all. -/
  whole : s'.1.db.table = w.db.table ∨
    ∃ response, request.Effect w.db.table s'.1.db.table response
  /-- Nothing is committed but by a commit, -/
  refused : (∀ step ∈ s'.2, step.1 ≠ .commit) → s'.1.db.table = w.db.table
  /-- and one is asked for only when the handler has returned. -/
  committed : ∀ w₁, (.commit, w₁) ∈ s'.2 → ∃ response steps,
    Runs (recording (Exec allow i)) (app.handler request) (w, []) (.ok response) (w₁, steps)

/-- A commit leaves what the handler was about to commit, or nothing of it. -/
structure Agrees.Commit (i : Pid) (request : Request) (w : World)
    (s s' : World × List (Op × World)) :
    Prop where
  whole : s'.1.db.table = w.db.table ∨
    ∃ response, request.Effect w.db.table s'.1.db.table response
  asked : Sealed s'.1.db.table (some s.1) s'
  steps : Intact i s'.2 ↔ Intact i s.2

theorem Agrees.commit {w : World} {response : Response} {reply : Except Exc Unit}
    (agrees : Agrees i w request response s) (before : Sealed w.db.table none s)
    (step : recording (Exec allow i) .commit s reply s') :
    Agrees.Commit i request w s s' ∧
      (reply = .ok () → s'.1.db.table = w.db.table.overlay (s.1.db.transaction i).writes) := by
  have published := commit_publishes step
  rw [before.table] at published
  refine ⟨⟨?_, ⟨rfl, fun step' member same => ?_, fun w₁ asked => ?_⟩, ?_⟩, fun committed => ?_⟩
  · rcases published with written | ⟨same, -⟩
    · rw [written]
      by_cases held : Intact i s.2
      · exact Or.inr ⟨response, agrees.effect.mpr held⟩
      · exact Or.inl (by rw [agrees.spoiled held, Table.overlay_nil])
    · exact Or.inl same
  · rw [step.2] at member
    rcases List.mem_append.mp member with earlier | last
    · cases before.commits step' earlier same
    · rw [List.mem_singleton.mp last]
  · obtain rfl := Option.some.inj asked
    rw [step.2]
    exact List.mem_append_right _ (List.mem_singleton_self _)
  · rw [step.2, intact_append]
    exact ⟨And.left, fun intact => ⟨intact, by rintro ⟨⟩⟩⟩
  · rcases published with written | ⟨-, error, failed⟩
    · exact written
    · cases committed.symm.trans failed

theorem write_durable_iff (app : App) (allow : Allowance) {i : Pid} {request : Request} {w : World}
    (unopened : Unopened i w) (writes : request.writes = true) {outcome : Except Exc Response}
    {s' : World × List (Op × World)}
    (run : Runs (recording (Exec allow i)) (app.serve request) (w, []) outcome s') :
    Durable app allow i request w outcome s' := by
  have fresh : Sealed w.db.table none (w, []) := by
    refine ⟨rfl, ?_, ?_⟩
    · rintro step ⟨⟩
    · rintro w₁ ⟨⟩
  obtain ⟨ended, s₁, first, rest⟩ := run.of_attempt_bind
  obtain ⟨returned, s₀, handled, commits⟩ := first.of_cont
  have before : Sealed w.db.table none s₀ := by
    refine handled.keeps (handler_sends app request) (fun op s reply s' may before step => ?_) fresh
    exact before.exec (by rintro rfl; exact may) step
  cases returned with
  | error error =>
      -- the handler raised, and nothing asks for a commit
      cases commits with
      | raise =>
          obtain ⟨⟨error, rfl⟩, after⟩ := wp_sound _ _ _ _ _ (failed_returns error before) rest
          constructor
          · rintro _ ⟨⟩
          · rintro _ ⟨⟩
          · exact Or.inl after.table
          · exact fun _ => after.table
          · intro w₁ member
            cases after.commits _ member rfl
  | ok response =>
      obtain ⟨agrees, intact⟩ := (handler_returns app unopened writes).of_runs handled
      obtain ⟨reply, s₂, step, ends⟩ : ∃ reply s₂, recording (Exec allow i) .commit s₀ reply s₂ ∧
          Runs (recording (Exec allow i)) (Prog.bind (.ofExcept reply) fun _ => .ret response)
            s₂ ended s₁ := by
        cases commits with
        | call step run => exact ⟨_, _, step, run⟩
      obtain ⟨made, wrote⟩ := agrees.commit before step
      have whole : ∀ s', Sealed s₂.1.db.table (some s₀.1) s' →
          s'.1.db.table = w.db.table ∨
            ∃ response, request.Effect w.db.table s'.1.db.table response := by
        intro s' after
        rw [after.table]
        exact made.whole
      have refused : ∀ s', Sealed s₂.1.db.table (some s₀.1) s' →
          (∀ step ∈ s'.2, step.1 ≠ .commit) → s'.1.db.table = w.db.table :=
        fun s' after never => absurd rfl (never _ (after.asks _ rfl))
      have committed : ∀ s', Sealed s₂.1.db.table (some s₀.1) s' →
          ∀ w₁, (.commit, w₁) ∈ s'.2 → ∃ response steps, Runs (recording (Exec allow i))
            (app.handler request) (w, []) (.ok response) (w₁, steps) := by
        intro s' after w₁ member
        obtain rfl := Option.some.inj (after.commits _ member rfl)
        exact ⟨response, s₀.2, handled⟩
      cases reply with
      | error error =>
          cases ends with
          | raise =>
              obtain ⟨⟨error, rfl⟩, after⟩ := wp_sound _ _ _ _ _ (failed_returns error made.asked) rest
              constructor
              · rintro _ ⟨⟩
              · rintro _ ⟨⟩
              · exact whole s' after
              · exact refused s' after
              · exact committed s' after
      | ok _ =>
          cases ends with
          | ret =>
              obtain ⟨after, same, value⟩ :=
                wp_sound _ _ _ _ _ (drained_returns app.cache response made.asked) rest
              have steps : Intact i s'.2 ↔ Intact i s₀.2 := same.trans made.steps
              have table := after.table.trans (wrote rfl)
              constructor
              · intro told ended
                rw [value told ended, table, steps]
                exact agrees.effect
              · intro told ended spoiled
                rw [steps] at spoiled
                refine ⟨?_, by rw [table, agrees.spoiled spoiled, Table.overlay_nil]⟩
                by_contra other
                exact spoiled (intact (by simpa using other))
              · exact whole s' after
              · exact refused s' after
              · exact committed s' after

end

/-! ## An edit that is answered and not there -/

def edit_ : Request := .update (some 1) 1 "new" "text" (instant 1)

def answerFlaky (op : Op) (s : World × List (Op × World)) :
    Option (op.Reply × World × List (Op × World)) :=
  let lost := (match op with
    | .mysql (.selectArticle _) => true
    | _ => false) && !(s.1.db.transaction 0).writes.isEmpty
  (s.1.exec 0 { time := instant 2, fault := if lost then some .operationalError else none } op).map
    fun (reply, w) => (reply, w, s.2 ++ [(op, s.1)])

/-- A rollback met a write. -/
def metWrite (i : Pid) (steps : List (Op × World)) : Bool :=
  steps.any fun step => step.1 == .rollback && !(step.2.db.transaction i).writes.isEmpty

theorem not_intact {i : Pid} {steps : List (Op × World)} (met : metWrite i steps = true) :
    ¬Intact i steps := by
  intro intact
  rw [metWrite, List.any_eq_true] at met
  obtain ⟨step, member, met⟩ := met
  rw [Bool.and_eq_true] at met
  have empty := intact step member (eq_of_beq met.1)
  rw [empty] at met
  cases met.2

def withArticle : Except Exc Response → Bool
  | .ok (.article _) => true
  | _ => false

/-- The edit is answered as a success, with the article as it was, and the table is as it was. -/
theorem edit_answered_and_lost : ∃ out s',
    Runs (recording (Exec (fun _ _ _ _ => True) 0))
      (App.serve ⟨defaultRuntime fun _ => "", true⟩ edit_)
      (World.fresh editedArticle 2 [ann], []) (.ok (.article out)) s' ∧
    s'.1.db.table = editedArticle ∧
    ¬edit_.Effect editedArticle s'.1.db.table (.article out) := by
  have sound : ∀ op s reply s', answerFlaky op s = some (reply, s') →
      recording (Exec (fun _ _ _ _ => True) 0) op s reply s' := by
    intro op s reply s' answered
    obtain ⟨⟨reply, w⟩, step, same⟩ := Option.map_eq_some_iff.mp answered
    obtain ⟨rfl, rfl⟩ := Prod.mk.inj same
    exact ⟨⟨_, trivial, step⟩, rfl⟩
  obtain ⟨outcome, s', run, facts⟩ := exists_runs sound
    (App.serve ⟨defaultRuntime fun _ => "", true⟩ edit_) (World.fresh editedArticle 2 [ann], [])
    (fun ended => withArticle ended.1 && metWrite 0 ended.2.2) (by decide +kernel)
  rw [Bool.and_eq_true] at facts
  have unopened : Unopened 0 (World.fresh editedArticle 2 [ann]) := by
    refine ⟨rfl, fun id row found => ?_⟩
    exact (World.fresh_initial _ (by decide)).issued id row found
  have durable := write_durable_iff _ _ unopened rfl run
  cases outcome with
  | error error => cases facts.1
  | ok response =>
      cases response with
      | article out =>
          have spoiled := not_intact facts.2
          refine ⟨out, s', run, (durable.lost _ rfl spoiled).2, fun effect => spoiled ?_⟩
          exact (durable.honest _ rfl).mp effect
      | _ => cases facts.1

end ContentPlatform
