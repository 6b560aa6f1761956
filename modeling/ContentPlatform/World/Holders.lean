import ContentPlatform.Program.Waiting
import ContentPlatform.World.Endpoints

/-!
# Who holds the row of an article

The lock of a row is taken by a statement that writes it, is held by an open transaction, and goes
with it.  An endpoint sends one such statement, and after it nothing that waits.  The locks under
which MySQL looks for duplicates of an email are no part of this: several transactions share one, and
MySQL ends such a wait by the failure of one of them.
-/

set_option autoImplicit false

namespace ContentPlatform

open Program Prog Py Text

/-! ## Locks -/

def Statement.takesLock : Statement → Prop
  | .insertArticle _ _ _ | .updateArticle _ _ _ _ | .softDeleteArticle _ _ _ => True
  | _ => False

def Op.takesLock : Op → Prop
  | .mysql statement => statement.takesLock
  | _ => False

/-- The row whose lock an interaction waits for.  A row that is inserted is nobody else's yet. -/
def Op.wantsLock : Op → Option ℤ
  | .mysql (.updateArticle id _ _ _) | .mysql (.softDeleteArticle id _ _) => some id
  | _ => none

def Op.insertsUser : Op → Prop
  | .mysql (.insertUser _ _ _) => True
  | _ => False

/-- What need not be answered: the `INSERT` of a user may wait for another of the same email, and at
the bound on its polls a request is answered by nobody. -/
def Op.hangs : Op → Prop
  | .mysql (.insertUser _ _ _) | .outOfFuel => True
  | _ => False

theorem Op.takesLock_of_wants {op : Op} {id : ℤ} (wants : op.wantsLock = some id) :
    op.takesLock := by
  cases op with
  | mysql statement => cases statement <;> trivial
  | _ => cases wants

/-- What a step of request `i` makes of the locks: those of the others are theirs already, and its
own are held by a transaction that is open. -/
structure LockStep (i : Pid) (op : Op) (db db' : Database) : Prop where
  others : ∀ id j, j ≠ i → db'.rowLocks id = some j → db.rowLocks id = some j
  own : ∀ id, db'.rowLocks id = some i →
    (db.rowLocks id = some i ∧
      ((db.sessions i).transaction.isSome → (db'.sessions i).transaction.isSome)) ∨
    (op.takesLock ∧ (db'.sessions i).transaction.isSome)

namespace LockStep

variable {i : Pid} {op : Op} {db db' : Database}

/-- The locks stay as they are, and a transaction that is open stays open. -/
theorem kept (same : db'.rowLocks = db.rowLocks)
    (still : (db.sessions i).transaction.isSome → (db'.sessions i).transaction.isSome) :
    LockStep i op db db' :=
  ⟨fun id j _ held => by rw [← same]; exact held,
    fun id held => Or.inl ⟨by rw [← same]; exact held, still⟩⟩

/-- One row is locked. -/
theorem took (id : ℤ) (takes : op.takesLock) (opened : (db'.sessions i).transaction.isSome)
    (rows : db'.rowLocks = Function.update db.rowLocks id (some i)) : LockStep i op db db' := by
  refine ⟨fun other j foreign_ held => ?_, fun _ _ => Or.inr ⟨takes, opened⟩⟩
  by_cases here : other = id
  · subst here
    rw [rows, Function.update_self] at held
    exact absurd (Option.some.inj held).symm foreign_
  · rw [rows, Function.update_of_ne here] at held
    exact held

/-- The locks of the request are gone, and the others stay. -/
theorem let_go (released : ∀ id j, db'.rowLocks id = some j → db.rowLocks id = some j ∧ j ≠ i) :
    LockStep i op db db' :=
  ⟨fun id j _ held => (released id j held).1,
    fun id held => absurd rfl (released id i held).2⟩

end LockStep

/-! ## Steps -/

theorem Database.casStep_locks {db db' : Database} {i : Pid} {op : Op} {id : ℤ}
    {expected : DateTime} {change : ArticleRow → ArticleRow} {stamp : DateTime} {count : ℕ}
    (takes : op.takesLock)
    (step : db.casStep i id expected change stamp = some (count, db')) : LockStep i op db db' := by
  unfold casStep at step
  split at step
  · cases step
  split at step
  · obtain ⟨-, rfl⟩ := Prod.mk.inj (Option.some.inj step)
    exact LockStep.kept rfl fun _ => by simp
  split at step
  · split at step <;> obtain ⟨-, rfl⟩ := Prod.mk.inj (Option.some.inj step)
    · exact LockStep.took id takes (by simp) rfl
    · exact LockStep.took id takes (by simp) rfl
  · obtain ⟨-, rfl⟩ := Prod.mk.inj (Option.some.inj step)
    exact LockStep.took id takes (by simp) rfl

theorem Database.statementStep_locks {db db' : Database} {i : Pid} {c : Choice}
    {statement : Statement} {reply : Except Exc statement.Reply}
    (step : db.statementStep i c statement = some (reply, db')) :
    LockStep i (.mysql statement) db db' := by
  cases statement with
  | selectUser id =>
      simp only [statementStep] at step
      split at step <;> obtain ⟨-, rfl⟩ := Prod.mk.inj (Option.some.inj step) <;>
        exact LockStep.kept rfl fun _ => by simp
  | selectUserByEmail email =>
      simp only [statementStep] at step
      split at step <;> obtain ⟨-, rfl⟩ := Prod.mk.inj (Option.some.inj step) <;>
        exact LockStep.kept rfl fun _ => by simp
  | selectRole name =>
      obtain ⟨-, rfl⟩ := Prod.mk.inj (Option.some.inj step)
      exact LockStep.kept rfl fun _ => by simp
  | insertUser email passwordHash roleName =>
      rcases insertUser_cases step with ⟨-, rfl, -⟩ | ⟨-, rfl, -, -⟩
      · exact LockStep.kept rfl fun _ => by simp
      · exact LockStep.kept rfl fun _ => by simp
  | selectArticle id =>
      simp only [statementStep] at step
      split at step
      · split at step <;> obtain ⟨-, rfl⟩ := Prod.mk.inj (Option.some.inj step) <;>
          exact LockStep.kept rfl fun _ => by simp
      · obtain ⟨-, rfl⟩ := Prod.mk.inj (Option.some.inj step)
        exact LockStep.kept rfl fun _ => by simp
  | selectPage limit after author =>
      simp only [statementStep] at step
      split at step <;> obtain ⟨-, rfl⟩ := Prod.mk.inj (Option.some.inj step) <;>
        exact LockStep.kept rfl fun _ => by simp
  | insertArticle authorId title body =>
      simp only [statementStep] at step
      split at step
      · obtain ⟨-, rfl⟩ := Prod.mk.inj (Option.some.inj step)
        exact LockStep.took c.newId trivial (by simp) rfl
      · cases step
  | refreshArticle id =>
      simp only [statementStep] at step
      split at step <;> obtain ⟨-, rfl⟩ := Prod.mk.inj (Option.some.inj step) <;>
        exact LockStep.kept rfl fun _ => by simp
  | updateArticle id expected title body =>
      obtain ⟨⟨count, _⟩, cas, same⟩ := Option.map_eq_some_iff.mp step
      obtain ⟨-, rfl⟩ := Prod.mk.inj same
      exact casStep_locks trivial cas
  | softDeleteArticle id expected deletedAt =>
      obtain ⟨⟨count, _⟩, cas, same⟩ := Option.map_eq_some_iff.mp step
      obtain ⟨-, rfl⟩ := Prod.mk.inj same
      exact casStep_locks trivial cas

theorem Database.commitStep_locks (db : Database) (i : Pid) {op : Op} :
    LockStep i op db (db.commitStep i) := by
  apply LockStep.let_go
  intro id j held
  obtain ⟨before, other⟩ := (release_rowLocks _ i j id).mp held
  refine ⟨?_, other⟩
  have published : (db.publish i (db.transaction i)).rowLocks = db.rowLocks := by
    unfold publish
    split <;> rfl
  rw [← published]
  exact before

theorem World.exec_locks {w w' : World} {i : Pid} {c : Choice} {op : Op} {reply : op.Reply}
    (step : w.exec i c op = some (reply, w')) : LockStep i op w.db w'.db := by
  by_cases aside : op.asksDatabase = false
  · rw [exec_db aside step]
    exact LockStep.kept rfl id
  · cases op <;> first
      | exact absurd rfl aside
      | skip
    case mysql statement =>
      simp only [exec] at step
      split at step
      · obtain ⟨-, rfl⟩ := Prod.mk.inj (Option.some.inj step)
        exact LockStep.kept rfl fun _ => by simp
      · obtain ⟨⟨_, db⟩, answered, same⟩ := Option.map_eq_some_iff.mp step
        obtain ⟨-, rfl⟩ := Prod.mk.inj same
        exact Database.statementStep_locks answered
    case commit =>
      obtain ⟨-, rfl⟩ := Prod.mk.inj (Option.some.inj step)
      rcases Database.commitReply_cases w.db i c with done | same
      · simp only [done]
        exact Database.commitStep_locks w.db i
      · simp only [same]
        exact LockStep.kept rfl id
    case rollback =>
      obtain ⟨-, rfl⟩ := Prod.mk.inj (Option.some.inj step)
      simp only [Database.rollbackStep]
      split
      · exact LockStep.kept rfl id
      · exact LockStep.let_go fun id j held => (Database.release_rowLocks _ i j id).mp held
    case expireAll =>
      obtain ⟨-, rfl⟩ := Prod.mk.inj (Option.some.inj step)
      exact LockStep.kept rfl fun opened => by simpa using opened

/-! ## What is answered -/

/-- A conditional `UPDATE` is answered unless somebody else holds the row. -/
theorem Database.casStep_answers (db : Database) {i : Pid} {id : ℤ} (expected : DateTime)
    (change : ArticleRow → ArticleRow) (stamp : DateTime)
    (free : ∀ j, db.rowLocks id = some j → j = i) :
    ∃ answered, db.casStep i id expected change stamp = some answered := by
  have unlocked : db.lockedOut i id = false := by
    rw [lockedOut, Option.any_eq_false]
    intro j held
    rw [free j held]
    simp
  unfold casStep
  rw [if_neg (by rw [unlocked]; exact Bool.false_ne_true)]
  split
  · exact ⟨_, rfl⟩
  · split
    · split <;> exact ⟨_, rfl⟩
    · exact ⟨_, rfl⟩

theorem Database.statementStep_answers (db : Database) {i : Pid} {c : Choice}
    (statement : Statement) (sure : ¬(Op.mysql statement).hangs)
    (issued : db.nextId ≤ c.newId ∧ 0 < c.newId)
    (free : ∀ id j, (Op.mysql statement).wantsLock = some id → db.rowLocks id = some j →
      j = i) : ∃ answered, db.statementStep i c statement = some answered := by
  cases statement with
  | selectUser id =>
      simp only [statementStep]
      split <;> exact ⟨_, rfl⟩
  | selectUserByEmail email =>
      simp only [statementStep]
      split <;> exact ⟨_, rfl⟩
  | selectRole name => exact ⟨_, rfl⟩
  | insertUser email passwordHash roleName => exact absurd trivial sure
  | selectArticle id =>
      simp only [statementStep]
      split
      · split <;> exact ⟨_, rfl⟩
      · exact ⟨_, rfl⟩
  | selectPage limit after author =>
      simp only [statementStep]
      split <;> exact ⟨_, rfl⟩
  | insertArticle authorId title body =>
      simp only [statementStep, if_pos issued]
      exact ⟨_, rfl⟩
  | refreshArticle id =>
      simp only [statementStep]
      split <;> exact ⟨_, rfl⟩
  | updateArticle id expected title body =>
      obtain ⟨_, cas⟩ := db.casStep_answers expected (edit title body) c.time (free id · rfl)
      simp only [statementStep, cas]
      exact ⟨_, rfl⟩
  | softDeleteArticle id expected deletedAt =>
      obtain ⟨_, cas⟩ := db.casStep_answers expected (markDeleted deletedAt) c.time
        (free id · rfl)
      simp only [statementStep, cas]
      exact ⟨_, rfl⟩

/-- A choice that hands out a new id answers whatever is asked, unless somebody else holds the row
that is wanted. -/
theorem World.exec_answers (w : World) {i : Pid} {c : Choice} {op : Op} (sure : ¬op.hangs)
    (issued : w.db.nextId ≤ c.newId ∧ 0 < c.newId)
    (free : ∀ id j, op.wantsLock = some id → w.db.rowLocks id = some j → j = i) :
    ∃ reply w', w.exec i c op = some (reply, w') := by
  cases op with
  | outOfFuel => exact absurd trivial sure
  | mysql statement =>
      simp only [exec]
      split
      · exact ⟨_, _, rfl⟩
      · obtain ⟨answered, same⟩ := w.db.statementStep_answers statement sure issued free
        exact ⟨_, _, by rw [same]; rfl⟩
  | redis command =>
      simp only [exec]
      split <;> exact ⟨_, _, rfl⟩
  | hashPassword password =>
      simp only [exec]
      split <;> exact ⟨_, _, rfl⟩
  | verifyPassword password passwordHash =>
      simp only [exec]
      split <;> exact ⟨_, _, rfl⟩
  | _ => exact ⟨_, _, rfl⟩

/-! ## One statement that waits, at the end -/

abbrev Op.Unhindered : Op → Prop := Program.Unhindered Op.takesLock Op.hangs

/-- One write at most, and nothing that waits after it. -/
abbrev WritesOnce {α : Type} (p : Py α) : Prop := p.TakesOnce Op.takesLock Op.hangs

section
variable {α β : Type}

theorem unhindered_local (op : Op) (isLocal : op.isBookkeeping = true) : op.Unhindered := by
  cases op with
  | mysql statement => cases isLocal
  | outOfFuel => cases isLocal
  | _ => exact ⟨id, id⟩

theorem unhindered_cache (op : Op) (asks : op.asksCache = true) : op.Unhindered := by
  cases op with
  | mysql statement => cases asks
  | outOfFuel => cases asks
  | _ => exact ⟨id, id⟩

theorem guardedRead_unhindered {policy : DependencyPolicy} {statement : Statement}
    (reads : (Op.mysql statement).Unhindered) :
    (guardedRead policy .mysql (mysql statement)).Sends Op.Unhindered :=
  guardedRead_sends unhindered_local reads ⟨id, id⟩

theorem articleAttributes_unhindered (articleId : ℤ) :
    (articleAttributes articleId).Sends Op.Unhindered := answer_sends ⟨id, id⟩ _

theorem userAttributes_unhindered (userId : ℤ) : (userAttributes userId).Sends Op.Unhindered :=
  answer_sends ⟨id, id⟩ _

theorem guardedWrite_writesOnce {policy : DependencyPolicy} {operation : Py α}
    (once : WritesOnce operation) : WritesOnce (guardedWrite policy .mysql operation) := by
  have answers : ∀ (op : Op) (next : op.Reply → Py α), op.Unhindered →
      (∀ reply, (next reply).Sends Op.Unhindered) → (Prog.call op next).Sends Op.Unhindered :=
    fun _ _ aside rest => ⟨aside, rest⟩
  have attempted : ∀ limit : DependencyPolicy, limit.attempts = 1 →
      WritesOnce (timeoutBlock (withRetry limit .mysql operation none)) := by
    intro limit single
    have observed : ∀ (started : ℕ) (outcome : RetryOutcome),
        (observeRetry .mysql started outcome).Sends Op.Unhindered :=
      fun _ _ => observeRetry_sends (fun _ => (unhindered_local _ rfl)) _ _
    refine Prog.TakesOnce.attempt_bind_after ?_ fun outcome => ?_
    · rw [withRetry, single, retryLoop]
      refine Prog.TakesOnce.attempt_bind_after once fun outcome => ?_
      cases outcome with
      | ok value => exact Sends.bind (observed _ _) fun _ => trivial
      | error error =>
          dsimp only
          split
          · exact Sends.bind (observed _ _) fun _ => trivial
          · trivial
    · cases outcome with
      | ok value => trivial
      | error error => cases error <;> trivial
  refine ⟨(unhindered_local _ rfl).2, False.elim, fun admitted => ?_⟩
  cases admitted with
  | false =>
      refine Prog.TakesOnce.of_unhindered (answers _ _ (unhindered_local _ rfl) fun _ => trivial)
  | true =>
      refine Prog.TakesOnce.attempt_bind_after (attempted _ rfl) fun outcome => ?_
      have reported : ∀ error : Exc, (if error.isException then
          (do breakerSuccess .mysql; .raise error : Py α) else .raise error).Sends
          Op.Unhindered := by
        intro error
        split
        · exact answers _ _ (unhindered_local _ rfl) fun _ => trivial
        · trivial
      cases outcome with
      | ok value => exact answers _ _ (unhindered_local _ rfl) fun _ => trivial
      | error error =>
          cases error with
          | timeoutError =>
              exact answers _ _ (unhindered_local _ rfl) fun _ =>
                answers _ _ (unhindered_local _ rfl) fun _ => trivial
          | domain kind message =>
              cases kind with
              | dependencyUnavailable retryAfter =>
                  exact answers _ _ (unhindered_local _ rfl) fun _ => trivial
              | upstreamTimeout retryAfter =>
                  exact answers _ _ (unhindered_local _ rfl) fun _ =>
                    answers _ _ (unhindered_local _ rfl) fun _ => trivial
              | _ => exact reported _
          | _ => exact reported _

/-! ### The service -/

variable (service : ArticleService)

theorem load_unhindered (articleId : ℤ) : (service.load articleId).Sends Op.Unhindered := by
  refine Sends.bind (guardedRead_unhindered ⟨id, id⟩) fun found => ?_
  cases found <;> trivial

theorem raiseConflictOrNotFound_unhindered (articleId : ℤ) :
    (service.raiseConflictOrNotFound articleId : Py α).Sends Op.Unhindered := by
  refine Sends.bind (guardedRead_unhindered ⟨id, id⟩) fun found => ?_
  cases found <;> trivial

theorem invalidateAfterCommit_unhindered (authorId : ℤ) (articleId : Option ℤ) :
    (service.invalidateAfterCommit authorId articleId).Sends Op.Unhindered := by
  unfold ArticleService.invalidateAfterCommit
  split
  · exact reply_sends ⟨id, id⟩ _
  · trivial

theorem authorize_unhindered (actor article : ℤ) :
    (ArticleService.authorize actor article).Sends Op.Unhindered := by
  refine Sends.bind (articleAttributes_unhindered article) fun row => ?_
  refine Sends.bind (userAttributes_unhindered actor) fun user => ?_
  split
  · refine Sends.bind (userAttributes_unhindered actor) fun again => ?_
    split <;> trivial
  · trivial

theorem getCurrentUser_unhindered (app : App) (principal : Option ℤ) :
    (app.getCurrentUser principal).Sends Op.Unhindered := by
  cases principal with
  | none => trivial
  | some userId =>
      refine Sends.bind (guardedRead_unhindered ⟨id, id⟩) fun found => ?_
      cases found <;> trivial

theorem create_writesOnce (actor : ℤ) (title body : String) :
    WritesOnce (service.create actor title body) := by
  refine TakesOnce.bind (userAttributes_unhindered actor) fun _ => ?_
  refine TakesOnce.bind (userAttributes_unhindered actor) fun user => ?_
  refine TakesOnce.bind_after (guardedWrite_writesOnce ?_) fun article => ?_
  · have refreshed : ∀ article : ℤ, (Prog.bind (mysql (.refreshArticle article)) fun _ =>
        (.ret article : Py ℤ)).Sends Op.Unhindered :=
      fun _ => Sends.bind (answer_sends ⟨id, id⟩ _) fun _ => trivial
    refine TakesOnce.bind_after ⟨id, fun _ reply => sends_ofExcept reply, fun reply => ?_⟩
      refreshed
    exact TakesOnce.of_unhindered (sends_ofExcept reply)
  · refine Sends.bind (userAttributes_unhindered actor) fun user => ?_
    refine Sends.bind (invalidateAfterCommit_unhindered service _ _) fun _ => ?_
    exact Sends.bind (articleAttributes_unhindered article) fun _ => trivial

theorem compareAndSet_writesOnce (statement : Statement) (sure : ¬(Op.mysql statement).hangs)
    (next : statement.Reply → Except Exc ℕ) :
    WritesOnce (Prog.bind
      (.call (.mysql statement) fun reply => .ofExcept reply : Py statement.Reply) fun count =>
        Prog.bind expireAll fun _ => .ofExcept (next count)) := by
  refine TakesOnce.bind_after ⟨sure, fun _ reply => sends_ofExcept reply, fun reply => ?_⟩
    fun count => ?_
  · exact TakesOnce.of_unhindered (sends_ofExcept reply)
  · exact Sends.bind (reply_sends ⟨id, id⟩ _) fun _ => sends_ofExcept _

theorem updateCas_writesOnce (rt : Runtime) (articleId : ℤ) (expected : DateTime)
    (title body : String) :
    WritesOnce (ArticleRepository.updateCas rt articleId expected title body) :=
  guardedWrite_writesOnce
    (compareAndSet_writesOnce (.updateArticle articleId expected title body) id .ok)

theorem softDeleteCas_writesOnce (rt : Runtime) (articleId : ℤ) (expected : DateTime) :
    WritesOnce (ArticleRepository.softDeleteCas rt articleId expected) :=
  guardedWrite_writesOnce (TakesOnce.bind (reply_sends ⟨id, id⟩ _) fun deletedAt =>
    compareAndSet_writesOnce (.softDeleteArticle articleId expected deletedAt) id .ok)

theorem update_writesOnce (actor articleId : ℤ) (title body : String) (expected : DateTime) :
    WritesOnce (service.update actor articleId title body expected) := by
  refine TakesOnce.bind (load_unhindered service _) fun article => ?_
  refine TakesOnce.bind (authorize_unhindered actor article) fun _ => ?_
  refine TakesOnce.bind (articleAttributes_unhindered article) fun row => ?_
  refine TakesOnce.bind_after (updateCas_writesOnce _ _ _ _ _) fun count => ?_
  split
  · exact raiseConflictOrNotFound_unhindered service _
  · refine Sends.bind (invalidateAfterCommit_unhindered service _ _) fun _ => ?_
    refine Sends.bind (load_unhindered service _) fun article => ?_
    exact Sends.bind (articleAttributes_unhindered article) fun _ => trivial

theorem delete_writesOnce (actor articleId : ℤ) (expected : DateTime) :
    WritesOnce (service.delete actor articleId expected) := by
  refine TakesOnce.bind (load_unhindered service _) fun article => ?_
  refine TakesOnce.bind (authorize_unhindered actor article) fun _ => ?_
  refine TakesOnce.bind (articleAttributes_unhindered article) fun row => ?_
  refine TakesOnce.bind_after (softDeleteCas_writesOnce _ _ _) fun count => ?_
  split
  · exact raiseConflictOrNotFound_unhindered service _
  · exact invalidateAfterCommit_unhindered service _ _

theorem dummyHash_unhindered : dummyHash.Sends Op.Unhindered := by
  refine Sends.bind (reply_sends ⟨id, id⟩ _) fun hash => ?_
  cases hash with
  | some hash => trivial
  | none => exact Sends.bind (answer_sends ⟨id, id⟩ _) fun _ => reply_sends ⟨id, id⟩ _

theorem login_unhindered (rt : Runtime) (email password : String) :
    (AuthService.login rt email password).Sends Op.Unhindered := by
  refine Sends.bind (guardedRead_unhindered ⟨id, id⟩) fun found => ?_
  cases found with
  | none =>
      refine Sends.bind dummyHash_unhindered fun hash => ?_
      exact Sends.bind (answer_sends ⟨id, id⟩ _) fun _ => trivial
  | some user =>
      refine Sends.bind (userAttributes_unhindered user) fun row => ?_
      refine Sends.bind (answer_sends ⟨id, id⟩ _) fun fits => ?_
      split
      · refine Sends.bind (userAttributes_unhindered user) fun _ => ?_
        refine Sends.bind (userAttributes_unhindered user) fun _ => ?_
        exact Sends.bind (reply_sends ⟨id, id⟩ _) fun _ => reply_sends ⟨id, id⟩ _
      · trivial

/-! ## The endpoints -/

theorem commit_unhindered (value : α) :
    (Prog.bind commit fun _ => (.ret value : Py α)).Sends Op.Unhindered :=
  Sends.bind (answer_sends ⟨id, id⟩ _) fun _ => trivial

theorem drainAfterCommit_unhindered (cache : ArticleCache) :
    (drainAfterCommit cache).Sends Op.Unhindered :=
  drainAfterCommit_sends unhindered_local cache unhindered_cache (fun _ => ⟨id, id⟩)
    (fun _ => ⟨id, id⟩) ⟨id, id⟩

theorem abort_unhindered (error : Exc) :
    (Prog.bind rollback fun _ => Prog.bind discardAfterCommit fun _ =>
      (.raise error : Py α)).Sends Op.Unhindered := by
  refine Sends.bind (answer_sends ⟨id, id⟩ _) fun _ => ?_
  exact Sends.bind (Sends.bind (reply_sends ⟨id, id⟩ _) fun _ => trivial) fun _ => trivial

theorem getSession_writesOnce (cache : ArticleCache) {handler : Py α} (once : WritesOnce handler) :
    WritesOnce (getSession cache handler) := by
  refine TakesOnce.attempt_bind_after (TakesOnce.bind_after once commit_unhindered)
    fun outcome => ?_
  cases outcome with
  | ok value => exact Sends.bind (drainAfterCommit_unhindered cache) fun _ => trivial
  | error error => exact abort_unhindered error

theorem serve_lockless (app : App) {request : Request}
    (reads : ∀ statement, request.statements statement → ¬statement.takesLock) :
    (app.serve request).Sends fun op => ¬op.takesLock := by
  refine (serve_statements app request).mono fun op asks => ?_
  cases op with
  | mysql statement => exact reads statement (asks statement rfl)
  | _ => exact id

theorem login_writesOnce (app : App) (email password : String) :
    WritesOnce (app.serve (.login email password)) := by
  refine getSession_writesOnce app.cache (TakesOnce.of_unhindered ?_)
  exact Sends.bind (login_unhindered app.rt email password) fun _ => trivial

theorem create_request_writesOnce (app : App) (userId : Option ℤ) (title body : String) :
    WritesOnce (app.serve (.create userId title body)) := by
  refine getSession_writesOnce app.cache ?_
  refine TakesOnce.bind (getCurrentUser_unhindered app userId) fun actor => ?_
  exact TakesOnce.bind_after (create_writesOnce app.articles _ _ _) fun _ => trivial

theorem conditional_writesOnce (app : App) (userId : Option ℤ) (ifMatch : Option String)
    {write : ℤ → DateTime → Py Response}
    (once : ∀ actor expected, WritesOnce (write actor expected)) :
    WritesOnce (getSession app.cache (Prog.bind (app.getCurrentUser userId) fun actor =>
      Prog.bind (.ofExcept (parseIfMatch app.rt ifMatch)) (write actor))) := by
  refine getSession_writesOnce app.cache ?_
  refine TakesOnce.bind (getCurrentUser_unhindered app userId) fun actor => ?_
  exact TakesOnce.bind (sends_ofExcept _) (once actor)

theorem withPrincipal_writesOnce (app : App) (principal : Option Principal)
    {endpoint : Option ℤ → Py Response} (once : ∀ userId, WritesOnce (endpoint userId)) :
    WritesOnce (app.withPrincipal principal endpoint) := by
  unfold App.withPrincipal
  split
  · exact once none
  · split
    · exact once _
    · exact getSession_writesOnce app.cache trivial

theorem invalid_writesOnce (app : App) (principal : Option Principal) (resolved : Resolved) :
    WritesOnce (app.invalid principal resolved) := by
  cases resolved with
  | nothing => trivial
  | session => exact getSession_writesOnce app.cache trivial
  | currentUser =>
      rw [App.invalid]
      refine withPrincipal_writesOnce app principal fun userId => ?_
      refine getSession_writesOnce app.cache ?_
      exact TakesOnce.bind (getCurrentUser_unhindered app userId) fun _ => trivial

/-- The endpoints that may wait for something else than the row of an article: reads poll, and a
registration inserts a user. -/
def Endpoint.lingers : Endpoint → Prop
  | .getArticle _ | .listArticles _ _ _ | .register _ => True
  | _ => False

theorem endpoint_writesOnce (app : App) (principal : Option Principal) {endpoint : Endpoint}
    (prompt : ¬endpoint.lingers) : WritesOnce (app.endpoint principal endpoint) := by
  cases endpoint with
  | createArticle title body =>
      exact TakesOnce.bind_after (withPrincipal_writesOnce app principal fun userId =>
        create_request_writesOnce app userId title body) fun _ => trivial
  | updateArticle articleId title body ifMatch =>
      refine TakesOnce.bind_after (withPrincipal_writesOnce app principal fun userId => ?_)
        fun _ => trivial
      refine conditional_writesOnce app userId ifMatch fun actor expected => ?_
      exact TakesOnce.bind_after (update_writesOnce app.articles _ _ _ _ _) fun _ => trivial
  | deleteArticle articleId ifMatch =>
      refine TakesOnce.bind_after (withPrincipal_writesOnce app principal fun userId => ?_)
        fun _ => trivial
      refine conditional_writesOnce app userId ifMatch fun actor expected => ?_
      exact TakesOnce.bind_after (delete_writesOnce app.articles _ _ _) fun _ => trivial
  | login payload =>
      exact TakesOnce.bind_after (login_writesOnce app _ _) fun _ => trivial
  | invalid resolved errors =>
      exact TakesOnce.bind_after (invalid_writesOnce app principal resolved) fun _ => trivial
  | _ => exact absurd trivial prompt

theorem endpoint_lockless (app : App) (principal : Option Principal) {endpoint : Endpoint}
    (lingers : endpoint.lingers) :
    (app.endpoint principal endpoint).Sends fun op => ¬op.takesLock := by
  cases endpoint with
  | listArticles limit cursor author =>
      refine Sends.bind ((listRoute_pages app limit cursor author).mono fun op pages taken => ?_)
        fun _ => trivial
      cases op with
      | mysql statement => cases statement <;> first | exact taken | exact pages
      | _ => exact taken
  | getArticle articleId =>
      refine Sends.bind (serve_lockless app ?_) fun _ => trivial
      rintro statement rfl
      exact id
  | register payload =>
      refine Sends.bind (serve_lockless app fun statement sent => ?_) fun _ => trivial
      cases statement <;> first | exact id | exact sent.elim
  | _ => exact lingers.elim

/-- A request writes once behind the layers, or locks no row. -/
theorem core_writesOnce (a : Application) (request : HttpRequest) :
    WritesOnce (a.core request) ∨ (a.core request).Sends fun op => ¬op.takesLock := by
  rcases a.core_cases request with nothing | ⟨principal, route, endpoint, -, -, core, -⟩
  · rw [nothing]
    exact Or.inl trivial
  · rw [core]
    by_cases lingers : endpoint.lingers
    · exact Or.inr (endpoint_lockless a.app principal lingers)
    · exact Or.inl (endpoint_writesOnce a.app principal lingers)

end

end ContentPlatform
