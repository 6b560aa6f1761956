import ContentPlatform.World.Exec

/-!
# What an interaction leaves alone

A step of one request changes no other request's session and no committed
state; a commit only adds one.
-/

set_option autoImplicit false

namespace ContentPlatform

open Program

/-- Every committed state of `db` is one of `db'`, under its number and its writer. -/
structure Extends (db db' : Database) : Prop where
  version : db.version ≤ db'.version
  history : ∀ n ≤ db.version, db'.history n = db.history n
  writer : ∀ n ≤ db.version, db'.writer n = db.writer n

theorem Extends.refl (db : Database) : Extends db db := ⟨le_rfl, fun _ _ => rfl, fun _ _ => rfl⟩

theorem Extends.trans {db db' db'' : Database} (first : Extends db db')
    (second : Extends db' db'') : Extends db db'' :=
  ⟨first.version.trans second.version,
    fun n past => (second.history n (past.trans first.version)).trans (first.history n past),
    fun n past => (second.writer n (past.trans first.version)).trans (first.writer n past)⟩

/-- What a step of request `i` other than a commit does to the database: the committed states
stay, and so do the sessions of all others. -/
structure OwnStep (i : Pid) (db db' : Database) : Prop where
  history : db'.history = db.history
  version : db'.version = db.version
  writer : db'.writer = db.writer
  sessions : ∀ j, j ≠ i → db'.sessions j = db.sessions j

namespace OwnStep

variable {i : Pid} {db db' db'' : Database}

theorem refl (i : Pid) (db : Database) : OwnStep i db db := ⟨rfl, rfl, rfl, fun _ _ => rfl⟩

theorem trans (first : OwnStep i db db') (second : OwnStep i db' db'') : OwnStep i db db'' :=
  ⟨second.history.trans first.history, second.version.trans first.version,
    second.writer.trans first.writer,
    fun j other => (second.sessions j other).trans (first.sessions j other)⟩

theorem setSession (db : Database) (session : Session) : OwnStep i db (db.setSession i session) :=
  ⟨rfl, rfl, rfl, fun _ other => Function.update_of_ne other _ _⟩

theorem lockRow (db : Database) (id : ℤ) : OwnStep i db (db.lockRow i id) :=
  ⟨rfl, rfl, rfl, fun _ _ => rfl⟩

theorem release (i : Pid) (db : Database) : OwnStep i db (db.release i) :=
  ⟨rfl, rfl, rfl, fun _ _ => rfl⟩

theorem transaction {j : Pid} (own : OwnStep i db db') (other : j ≠ i) :
    db'.transaction j = db.transaction j := by
  rw [Database.transaction, own.sessions j other]
  rfl

theorem kept (own : OwnStep i db db') : Extends db db' :=
  ⟨own.version.ge, fun n _ => congrFun own.history n, fun n _ => congrFun own.writer n⟩

end OwnStep

def Statement.writesArticle : Statement → Bool
  | .insertArticle _ _ _ | .updateArticle _ _ _ _ | .softDeleteArticle _ _ _ => true
  | _ => false

namespace Database

section
variable (db : Database) (i : Pid)

@[simp] theorem setSession_sessions (session : Session) :
    (db.setSession i session).sessions i = session := Function.update_self ..

@[simp] theorem begin_sessions : (db.begin_ i).sessions i =
    { db.sessions i with transaction := some (db.transaction i) } := setSession_sessions ..

@[simp] theorem takeView_sessions : (db.takeView i).sessions i =
    { db.sessions i with
      transaction := some { db.transaction i with view := some (db.viewed i) } } :=
  setSession_sessions ..

@[simp] theorem readArticles_sessions : (db.readArticles i).sessions i =
    { db.sessions i with
      transaction := some { db.transaction i with view := some (db.viewed i) }
      loadedFrom := some (db.viewed i) } := setSession_sessions ..

@[simp] theorem receiveArticle_sessions (row : ArticleRow) :
    (db.receiveArticle i row).sessions i =
      { db.sessions i with article := (db.sessions i).article.receive ArticleRow.id row } :=
  setSession_sessions ..

@[simp] theorem receiveUser_sessions (row : UserRow) : (db.receiveUser i row).sessions i =
    { db.sessions i with user := (db.sessions i).user.receive UserRow.id row } :=
  setSession_sessions ..

@[simp] theorem observeActor_sessions (row : UserRow) : (db.observeActor i row).sessions i =
    { db.sessions i with actor := some row } := setSession_sessions ..

@[simp] theorem observeCompared_sessions (row : Option ArticleRow) :
    (db.observeCompared i row).sessions i = { db.sessions i with compared := some row } :=
  setSession_sessions ..

@[simp] theorem lockRow_sessions (id : ℤ) : (db.lockRow i id).sessions = db.sessions := rfl

@[simp] theorem write_sessions (row : ArticleRow) : (db.write i row).sessions i =
    { db.sessions i with
      transaction := some { db.transaction i with
        writes := (db.transaction i).writes ++ [row] } } := setSession_sessions ..

@[simp] theorem insertStep_sessions (row : ArticleRow) : (db.insertStep i row).sessions i =
    { db.sessions i with
      transaction := some { db.transaction i with writes := (db.transaction i).writes ++ [row] }
      article := .expired } := by
  rw [insertStep, setSession_sessions, write_sessions]
  simp [transaction, begin_, setTransaction]

@[simp] theorem lockEmail_sessions (email : String) :
    (db.lockEmail i email).sessions = db.sessions := rfl

@[simp] theorem insertUserStep_sessions (user : UserRow) :
    (db.insertUserStep i user).sessions i = { db.sessions i with
      transaction := some { db.transaction i with users := (db.transaction i).users ++ [user] }
      user := (db.sessions i).user.receive UserRow.id user } := by
  rw [insertUserStep, receiveUser_sessions, setTransaction, setSession_sessions]
  rfl

@[simp] theorem expireInstances_sessions : (db.expireInstances i).sessions i =
    { db.sessions i with
      user := (db.sessions i).user.expire, article := (db.sessions i).article.expire } :=
  setSession_sessions ..

end

variable {db db' : Database} {i : Pid} {c : Choice}

theorem casStep_own {id : ℤ} {expected : DateTime} {change : ArticleRow → ArticleRow}
    {stamp : DateTime} {count : ℕ}
    (step : db.casStep i id expected change stamp = some (count, db')) : OwnStep i db db' := by
  have compared : ∀ row, OwnStep i db ((db.begin_ i).observeCompared i row) := fun row =>
    (OwnStep.setSession db _).trans (OwnStep.setSession _ _)
  unfold casStep at step
  split at step
  · cases step
  split at step
  · obtain ⟨-, rfl⟩ := Prod.mk.inj (Option.some.inj step)
    exact compared _
  split at step
  · split at step
    · obtain ⟨-, rfl⟩ := Prod.mk.inj (Option.some.inj step)
      exact (compared _).trans (OwnStep.lockRow _ _)
    · obtain ⟨-, rfl⟩ := Prod.mk.inj (Option.some.inj step)
      exact ((compared _).trans (OwnStep.lockRow _ _)).trans (OwnStep.setSession _ _)
  · obtain ⟨-, rfl⟩ := Prod.mk.inj (Option.some.inj step)
    exact (compared _).trans (OwnStep.lockRow _ _)

theorem insertStep_own (db : Database) (i : Pid) (row : ArticleRow) :
    OwnStep i db (db.insertStep i row) := by
  have opened : OwnStep i db { db.begin_ i with nextId := row.id + 1 } :=
    ⟨rfl, rfl, rfl, fun _ other => Function.update_of_ne other _ _⟩
  exact ((opened.trans (OwnStep.lockRow _ _)).trans (OwnStep.setSession _ _)).trans
    (OwnStep.setSession _ _)

theorem takeView_own (db : Database) (i : Pid) : OwnStep i db (db.takeView i) :=
  OwnStep.setSession db _

theorem readArticles_own (db : Database) (i : Pid) : OwnStep i db (db.readArticles i) :=
  OwnStep.setSession db _

theorem begin_own (db : Database) (i : Pid) : OwnStep i db (db.begin_ i) :=
  OwnStep.setSession db _

theorem insertUserStep_own (db : Database) (i : Pid) (user : UserRow) :
    OwnStep i db (db.insertUserStep i user) := by
  have locked : OwnStep i db (db.lockEmail i user.email) := ⟨rfl, rfl, rfl, fun _ _ => rfl⟩
  exact (locked.trans (OwnStep.setSession _ _)).trans (OwnStep.setSession _ _)

/-- The unique index refuses the row of a user, or it is inserted. -/
theorem insertUser_cases {email passwordHash roleName : String} {reply : Except Exc ℤ}
    (step : db.statementStep i c (.insertUser email passwordHash roleName) = some (reply, db')) :
    (reply = .error .integrityError ∧ db' = db.begin_ i ∧
        ((∃ user ∈ db.users, user.email = email) ∨ db.emailLocks email = some i)) ∨
      (reply = .ok c.newId ∧ db' = db.insertUserStep i ⟨c.newId, email, passwordHash, roleName⟩ ∧
        (∀ user ∈ db.users, user.email ≠ email) ∧ db.emailLocks email = none) := by
  simp only [statementStep] at step
  split at step
  · rename_i taken
    obtain ⟨rfl, rfl⟩ := Prod.mk.inj (Option.some.inj step)
    rw [Bool.or_eq_true, List.any_eq_true, beq_iff_eq] at taken
    refine Or.inl ⟨rfl, rfl, taken.imp_left fun there => ?_⟩
    obtain ⟨user, member, same⟩ := there
    exact ⟨user, member, eq_of_beq same⟩
  · rename_i free
    split at step
    · cases step
    · rename_i unclaimed
      obtain ⟨rfl, rfl⟩ := Prod.mk.inj (Option.some.inj step)
      refine Or.inr ⟨rfl, rfl, fun user member same => free ?_, by simpa using unclaimed⟩
      rw [Bool.or_eq_true, List.any_eq_true]
      exact Or.inl ⟨user, member, beq_iff_eq.mpr same⟩

theorem statementStep_own {statement : Statement} {reply : Except Exc statement.Reply}
    (step : db.statementStep i c statement = some (reply, db')) : OwnStep i db db' := by
  cases statement with
  | selectUser id =>
      simp only [statementStep] at step
      split at step <;> obtain ⟨-, rfl⟩ := Prod.mk.inj (Option.some.inj step)
      · exact ((takeView_own db i).trans (OwnStep.setSession _ _)).trans (OwnStep.setSession _ _)
      · exact takeView_own db i
  | selectUserByEmail email =>
      simp only [statementStep] at step
      split at step <;> obtain ⟨-, rfl⟩ := Prod.mk.inj (Option.some.inj step)
      · exact (takeView_own db i).trans (OwnStep.setSession _ _)
      · exact takeView_own db i
  | selectRole name =>
      obtain ⟨-, rfl⟩ := Prod.mk.inj (Option.some.inj step)
      exact takeView_own db i
  | insertUser email passwordHash roleName =>
      rcases insertUser_cases step with ⟨-, rfl, -⟩ | ⟨-, rfl, -, -⟩
      · exact begin_own db i
      · exact insertUserStep_own db i _
  | selectArticle id =>
      simp only [statementStep] at step
      split at step
      · split at step <;> obtain ⟨-, rfl⟩ := Prod.mk.inj (Option.some.inj step)
        · exact (readArticles_own db i).trans (OwnStep.setSession _ _)
        · exact readArticles_own db i
      · obtain ⟨-, rfl⟩ := Prod.mk.inj (Option.some.inj step)
        exact readArticles_own db i
  | selectPage limit after author =>
      simp only [statementStep] at step
      split at step <;> obtain ⟨-, rfl⟩ := Prod.mk.inj (Option.some.inj step)
      · exact begin_own db i
      · exact readArticles_own db i
  | insertArticle authorId title body =>
      simp only [statementStep] at step
      split at step
      · obtain ⟨-, rfl⟩ := Prod.mk.inj (Option.some.inj step)
        exact insertStep_own db i _
      · cases step
  | refreshArticle id =>
      simp only [statementStep] at step
      split at step <;> obtain ⟨-, rfl⟩ := Prod.mk.inj (Option.some.inj step)
      · exact (readArticles_own db i).trans (OwnStep.setSession _ _)
      · exact readArticles_own db i
  | updateArticle id expected title body =>
      obtain ⟨⟨count, db''⟩, cas, same⟩ := Option.map_eq_some_iff.mp step
      obtain ⟨-, rfl⟩ := Prod.mk.inj same
      exact casStep_own cas
  | softDeleteArticle id expected deletedAt =>
      obtain ⟨⟨count, db''⟩, cas, same⟩ := Option.map_eq_some_iff.mp step
      obtain ⟨-, rfl⟩ := Prod.mk.inj same
      exact casStep_own cas

theorem release_rowLocks (db : Database) (i j : Pid) (id : ℤ) :
    (db.release i).rowLocks id = some j ↔ db.rowLocks id = some j ∧ j ≠ i := by
  simp only [release]
  by_cases mine : db.rowLocks id = some i
  · simp only [mine, if_true, Option.some.injEq]
    constructor
    · intro held
      cases held
    · rintro ⟨same, other⟩
      exact absurd same.symm other
  · rw [if_neg mine]
    exact ⟨fun held => ⟨held, fun same => mine (same ▸ held)⟩, And.left⟩

theorem rollbackStep_own (db : Database) (i : Pid) : OwnStep i db (db.rollbackStep i) := by
  unfold rollbackStep
  split
  · exact OwnStep.refl i db
  · exact (OwnStep.setSession _ _).trans (OwnStep.release i _)

theorem publish_extends (db : Database) (i : Pid) (transaction : Transaction) :
    Extends db (db.publish i transaction) := by
  unfold publish
  split
  · exact ⟨le_rfl, fun _ _ => rfl, fun _ _ => rfl⟩
  · refine ⟨Nat.le_succ _, fun n past => ?_, fun n past => ?_⟩
    · exact Function.update_of_ne (Nat.ne_of_lt (Nat.lt_succ_of_le past)) _ _
    · exact Function.update_of_ne (Nat.ne_of_lt (Nat.lt_succ_of_le past)) _ _

theorem publish_sessions (db : Database) (i : Pid) (transaction : Transaction) :
    (db.publish i transaction).sessions = db.sessions := by
  unfold publish
  split <;> rfl

theorem commitStep_extends (db : Database) (i : Pid) : Extends db (db.commitStep i) :=
  (publish_extends db i _).trans ((OwnStep.setSession _ _).trans (OwnStep.release i _)).kept

theorem commitStep_sessions (db : Database) {i j : Pid} (other : j ≠ i) :
    (db.commitStep i).sessions j = db.sessions j :=
  (((OwnStep.setSession _ _).trans (OwnStep.release i _)).sessions j other).trans
    (congrFun (publish_sessions db i _) j)

/-- A commit adds one committed state, or none where nothing was written. -/
theorem commitStep_cases (db : Database) (i : Pid) :
    ((db.transaction i).writes = [] ∧ (db.commitStep i).version = db.version ∧
      (db.commitStep i).writer = db.writer ∧ (db.commitStep i).history = db.history) ∨
    ((db.transaction i).writes ≠ [] ∧ (db.commitStep i).version = db.version + 1 ∧
      (db.commitStep i).writer = Function.update db.writer (db.version + 1) i ∧
      (db.commitStep i).history = Function.update db.history (db.version + 1)
        (db.table.overlay (db.transaction i).writes)) := by
  have published : (db.commitStep i).version = (db.publish i (db.transaction i)).version ∧
      (db.commitStep i).writer = (db.publish i (db.transaction i)).writer ∧
      (db.commitStep i).history = (db.publish i (db.transaction i)).history := ⟨rfl, rfl, rfl⟩
  rw [published.1, published.2.1, published.2.2]
  cases writes : (db.transaction i).writes with
  | nil => exact Or.inl (by simp [publish, writes])
  | cons row rows => exact Or.inr (by simp [publish, writes])

theorem commitReply_cases (db : Database) (i : Pid) (c : Choice) :
    (db.commitReply i c).2 = db.commitStep i ∨ (db.commitReply i c).2 = db := by
  unfold commitReply
  split
  · split
    · exact Or.inl rfl
    · exact Or.inr rfl
  · exact Or.inl rfl

/-! ### What a request observes of itself -/

/-- Only the load of a user sets the actor, and only a commit the commit. -/
structure KeepsSession (before after : Session) : Prop where
  actor : after.actor = before.actor
  committed : after.committed = before.committed

theorem casStep_keeps {id : ℤ} {expected : DateTime} {change : ArticleRow → ArticleRow}
    {stamp : DateTime} {count : ℕ}
    (step : db.casStep i id expected change stamp = some (count, db')) :
    KeepsSession (db.sessions i) (db'.sessions i) := by
  unfold casStep at step
  split at step
  · cases step
  split at step
  · obtain ⟨-, rfl⟩ := Prod.mk.inj (Option.some.inj step)
    constructor <;> simp
  split at step
  · split at step <;> obtain ⟨-, rfl⟩ := Prod.mk.inj (Option.some.inj step) <;>
      constructor <;> simp
  · obtain ⟨-, rfl⟩ := Prod.mk.inj (Option.some.inj step)
    constructor <;> simp

theorem statementStep_keeps {statement : Statement} {reply : Except Exc statement.Reply}
    (step : db.statementStep i c statement = some (reply, db')) :
    KeepsSession (db.sessions i) (db'.sessions i) ∨
      ∃ id user, statement = .selectUser id ∧ user.id = id ∧
        (db'.sessions i).actor = some user ∧
        (db'.sessions i).committed = (db.sessions i).committed := by
  cases statement with
  | selectUser id =>
      simp only [statementStep] at step
      split at step <;> obtain ⟨-, rfl⟩ := Prod.mk.inj (Option.some.inj step)
      · rename_i user found
        refine Or.inr ⟨id, user, rfl, by simpa using List.find?_some found, ?_, ?_⟩ <;> simp
      · exact Or.inl (by constructor <;> simp)
  | selectUserByEmail email =>
      simp only [statementStep] at step
      split at step <;> obtain ⟨-, rfl⟩ := Prod.mk.inj (Option.some.inj step) <;>
        exact Or.inl (by constructor <;> simp)
  | selectRole name =>
      obtain ⟨-, rfl⟩ := Prod.mk.inj (Option.some.inj step)
      exact Or.inl (by constructor <;> simp)
  | insertUser email passwordHash roleName =>
      rcases insertUser_cases step with ⟨-, rfl, -⟩ | ⟨-, rfl, -, -⟩ <;>
        exact Or.inl (by constructor <;> simp)
  | selectArticle id =>
      simp only [statementStep] at step
      split at step
      · split at step <;> obtain ⟨-, rfl⟩ := Prod.mk.inj (Option.some.inj step) <;>
          exact Or.inl (by constructor <;> simp)
      · obtain ⟨-, rfl⟩ := Prod.mk.inj (Option.some.inj step)
        exact Or.inl (by constructor <;> simp)
  | selectPage limit after author =>
      simp only [statementStep] at step
      split at step <;> obtain ⟨-, rfl⟩ := Prod.mk.inj (Option.some.inj step) <;>
        exact Or.inl (by constructor <;> simp)
  | insertArticle authorId title body =>
      simp only [statementStep] at step
      split at step
      · obtain ⟨-, rfl⟩ := Prod.mk.inj (Option.some.inj step)
        refine Or.inl ?_
        constructor <;> simp [insertStep, begin_, setTransaction]
      · cases step
  | refreshArticle id =>
      simp only [statementStep] at step
      split at step <;> obtain ⟨-, rfl⟩ := Prod.mk.inj (Option.some.inj step) <;>
        exact Or.inl (by constructor <;> simp)
  | updateArticle id expected title body =>
      obtain ⟨⟨count, db''⟩, cas, same⟩ := Option.map_eq_some_iff.mp step
      obtain ⟨-, rfl⟩ := Prod.mk.inj same
      exact Or.inl (casStep_keeps cas)
  | softDeleteArticle id expected deletedAt =>
      obtain ⟨⟨count, db''⟩, cas, same⟩ := Option.map_eq_some_iff.mp step
      obtain ⟨-, rfl⟩ := Prod.mk.inj same
      exact Or.inl (casStep_keeps cas)

/-- What all but the writing statements leave of a session: its writes, what it compared, and
what it committed. -/
structure KeepsWrites (before after : Session) : Prop where
  writes : (after.transaction.getD .new).writes = (before.transaction.getD .new).writes
  compared : after.compared = before.compared
  committed : after.committed = before.committed

theorem statementStep_reads {statement : Statement} {reply : Except Exc statement.Reply}
    (reads : statement.writesArticle = false)
    (step : db.statementStep i c statement = some (reply, db')) :
    KeepsWrites (db.sessions i) (db'.sessions i) := by
  cases statement with
  | selectArticle id =>
      simp only [statementStep] at step
      split at step
      · split at step <;> obtain ⟨-, rfl⟩ := Prod.mk.inj (Option.some.inj step) <;>
          constructor <;> simp [transaction]
      · obtain ⟨-, rfl⟩ := Prod.mk.inj (Option.some.inj step)
        constructor <;> simp [transaction]
  | selectRole name =>
      obtain ⟨-, rfl⟩ := Prod.mk.inj (Option.some.inj step)
      constructor <;> simp [transaction]
  | insertUser email passwordHash roleName =>
      rcases insertUser_cases step with ⟨-, rfl, -⟩ | ⟨-, rfl, -, -⟩ <;>
        constructor <;> simp [transaction]
  | insertArticle _ _ _ | updateArticle _ _ _ _ | softDeleteArticle _ _ _ => cases reads
  | _ =>
      simp only [statementStep] at step
      split at step <;> obtain ⟨-, rfl⟩ := Prod.mk.inj (Option.some.inj step) <;>
        constructor <;> simp [transaction]

theorem rollbackStep_keeps (db : Database) (i : Pid) :
    KeepsSession (db.sessions i) ((db.rollbackStep i).sessions i) := by
  unfold rollbackStep
  split
  · exact ⟨rfl, rfl⟩
  · constructor <;> simp [release]

@[simp] theorem commitStep_session (db : Database) (i : Pid) : (db.commitStep i).sessions i =
    { db.sessions i with
      transaction := none, committed := some (db.commitStep i).version } :=
  Function.update_self ..

end Database

def Op.isLocal : Op → Bool
  | .articleAttributes _ | .userAttributes _ | .cacheDegraded | .breakerAllow _
  | .breakerSuccess _ | .breakerFailure _ | .secondsUntilProbe _ | .observe _ | .loopTime
  | .sleep _ | .backoff _ | .uniform _ _ | .utcnow | .hashPassword _ | .verifyPassword _ _
  | .dummyHash | .encodeToken _ _ _ => true
  | _ => false

def Op.asksDatabase : Op → Bool
  | .mysql _ | .commit | .rollback | .expireAll => true
  | _ => false

def Op.asksRedis : Op → Bool
  | .redis _ => true
  | _ => false

/-- What request `i` may see the others do: committed states are added, and what is its own
stays. -/
structure Undisturbed (i : Pid) (w w' : World) : Prop where
  session : w'.db.sessions i = w.db.sessions i
  request : w'.requests i = w.requests i
  db : Extends w.db w'.db

theorem Undisturbed.refl (i : Pid) (w : World) : Undisturbed i w w := ⟨rfl, rfl, Extends.refl _⟩

theorem Undisturbed.trans {i : Pid} {w w' w'' : World} (first : Undisturbed i w w')
    (second : Undisturbed i w' w'') : Undisturbed i w w'' :=
  ⟨second.session.trans first.session, second.request.trans first.request,
    first.db.trans second.db⟩

namespace World

variable {w w' : World} {i j : Pid} {c : Choice}

theorem setRequest_requests_ne (w : World) (request : RequestState) (other : j ≠ i) :
    (w.setRequest i request).requests j = w.requests j := Function.update_of_ne other _ _

@[simp] theorem setRequest_requests (w : World) (request : RequestState) :
    (w.setRequest i request).requests i = request := Function.update_self ..

@[simp] theorem setRequest_db (w : World) (request : RequestState) :
    (w.setRequest i request).db = w.db := rfl

@[simp] theorem setRequest_store (w : World) (request : RequestState) :
    (w.setRequest i request).store = w.store := rfl

@[simp] theorem observeGeneration_db (w : World) (command : RedisCommand) :
    (w.observeGeneration i command).db = w.db := by
  unfold observeGeneration
  split
  · split <;> rfl
  · rfl

theorem observeGeneration_requests_ne (w : World) (command : RedisCommand) (other : j ≠ i) :
    (w.observeGeneration i command).requests j = w.requests j := by
  unfold observeGeneration
  split
  · split
    · exact setRequest_requests_ne w _ other
    · rfl
  · rfl

@[simp] theorem redisStep_db (w : World) (command : RedisCommand) :
    (w.redisStep i command).2.db = w.db := observeGeneration_db w command

theorem redisStep_requests_ne (w : World) (command : RedisCommand) (other : j ≠ i) :
    (w.redisStep i command).2.requests j = w.requests j :=
  observeGeneration_requests_ne w command other

theorem exec_local {op : Op} {reply : op.Reply} (isLocal : op.isLocal = true)
    (step : w.exec i c op = some (reply, w')) : w' = w := by
  cases op <;> simp only [Op.isLocal, Bool.false_eq_true] at isLocal <;>
    simp only [exec] at step <;>
    first
      | exact ((Prod.mk.inj (Option.some.inj step)).2).symm
      | (split at step <;> exact ((Prod.mk.inj (Option.some.inj step)).2).symm)

theorem exec_db {op : Op} {reply : op.Reply} (aside : op.asksDatabase = false)
    (step : w.exec i c op = some (reply, w')) : w'.db = w.db := by
  by_cases isLocal : op.isLocal = true
  · rw [exec_local isLocal step]
  · cases op <;> first
      | exact absurd rfl isLocal
      | exact Bool.noConfusion aside
      | (obtain ⟨-, rfl⟩ := Prod.mk.inj (Option.some.inj step)
         rfl)
      | skip
    case redis command =>
      simp only [exec] at step
      split at step
      · obtain ⟨-, rfl⟩ := Prod.mk.inj (Option.some.inj step)
        split
        · exact redisStep_db w command
        · rfl
      · obtain ⟨-, rfl⟩ := Prod.mk.inj (Option.some.inj step)
        exact redisStep_db w command
    case outOfFuel => cases step

theorem exec_store {op : Op} {reply : op.Reply} (aside : op.asksRedis = false)
    (step : w.exec i c op = some (reply, w')) : w'.store = w.store := by
  by_cases isLocal : op.isLocal = true
  · rw [exec_local isLocal step]
  · cases op <;> first
      | exact absurd rfl isLocal
      | exact Bool.noConfusion aside
      | (obtain ⟨-, rfl⟩ := Prod.mk.inj (Option.some.inj step)
         rfl)
      | skip
    case mysql statement =>
      simp only [exec] at step
      split at step
      · obtain ⟨-, rfl⟩ := Prod.mk.inj (Option.some.inj step)
        rfl
      · obtain ⟨⟨_, db⟩, -, same⟩ := Option.map_eq_some_iff.mp step
        obtain ⟨-, rfl⟩ := Prod.mk.inj same
        rfl
    case outOfFuel => cases step

theorem observeGeneration_degraded (w : World) (command : RedisCommand) :
    ((w.observeGeneration i command).requests i).degraded = (w.requests i).degraded := by
  unfold observeGeneration
  split
  · split
    · rw [setRequest_requests]
    · rfl
  · rfl

/-- A cache that is switched off stays off. -/
theorem exec_degraded {op : Op} {reply : op.Reply} (step : w.exec i c op = some (reply, w'))
    (degraded : (w.requests i).degraded = true) : (w'.requests i).degraded = true := by
  by_cases isLocal : op.isLocal = true
  · rw [exec_local isLocal step]
    exact degraded
  · cases op <;> first
      | exact absurd rfl isLocal
      | skip
    case redis command =>
      have kept : ((w.redisStep i command).2.requests i).degraded = true :=
        (observeGeneration_degraded w command).trans degraded
      simp only [exec] at step
      split at step
      · obtain ⟨-, rfl⟩ := Prod.mk.inj (Option.some.inj step)
        split
        · exact kept
        · exact degraded
      · obtain ⟨-, rfl⟩ := Prod.mk.inj (Option.some.inj step)
        exact kept
    case mysql statement =>
      simp only [exec] at step
      split at step
      · obtain ⟨-, rfl⟩ := Prod.mk.inj (Option.some.inj step)
        exact degraded
      · obtain ⟨_, -, same⟩ := Option.map_eq_some_iff.mp step
        obtain ⟨-, rfl⟩ := Prod.mk.inj same
        exact degraded
    case outOfFuel => cases step
    all_goals
      obtain ⟨-, rfl⟩ := Prod.mk.inj (Option.some.inj step)
      simp [degraded]

/-- A step of one request disturbs no other. -/
theorem exec_undisturbed {op : Op} {reply : op.Reply} (step : w.exec i c op = some (reply, w'))
    (other : j ≠ i) : Undisturbed j w w' := by
  by_cases isLocal : op.isLocal = true
  · rw [exec_local isLocal step]
    exact Undisturbed.refl j w
  · cases op <;> first
      | exact absurd rfl isLocal
      | skip
    case redis command =>
      have moved : Undisturbed j w (w.redisStep i command).2 :=
        ⟨by rw [redisStep_db], redisStep_requests_ne w command other,
          by rw [redisStep_db]; exact Extends.refl _⟩
      simp only [exec] at step
      split at step
      · obtain ⟨-, rfl⟩ := Prod.mk.inj (Option.some.inj step)
        split
        · exact moved
        · exact Undisturbed.refl j w
      · obtain ⟨-, rfl⟩ := Prod.mk.inj (Option.some.inj step)
        exact moved
    case mysql statement =>
      simp only [exec] at step
      split at step
      · obtain ⟨-, rfl⟩ := Prod.mk.inj (Option.some.inj step)
        have own := Database.begin_own w.db i
        exact ⟨own.sessions j other, rfl, own.kept⟩
      · obtain ⟨⟨_, db⟩, answered, same⟩ := Option.map_eq_some_iff.mp step
        obtain ⟨-, rfl⟩ := Prod.mk.inj same
        have own := Database.statementStep_own answered
        exact ⟨own.sessions j other, rfl, own.kept⟩
    case commit =>
      obtain ⟨-, rfl⟩ := Prod.mk.inj (Option.some.inj step)
      rcases Database.commitReply_cases w.db i c with done | kept
      · exact ⟨by simp only [done]; exact Database.commitStep_sessions w.db other, rfl,
          by simp only [done]; exact Database.commitStep_extends w.db i⟩
      · exact ⟨by simp only [kept], rfl, by simp only [kept]; exact Extends.refl _⟩
    case rollback =>
      obtain ⟨-, rfl⟩ := Prod.mk.inj (Option.some.inj step)
      have own := Database.rollbackStep_own w.db i
      exact ⟨own.sessions j other, rfl, own.kept⟩
    case expireAll =>
      obtain ⟨-, rfl⟩ := Prod.mk.inj (Option.some.inj step)
      have own : OwnStep i w.db (w.db.expireInstances i) := OwnStep.setSession _ _
      exact ⟨own.sessions j other, rfl, own.kept⟩
    case afterCommit callback =>
      obtain ⟨-, rfl⟩ := Prod.mk.inj (Option.some.inj step)
      exact ⟨rfl, setRequest_requests_ne w _ other, Extends.refl _⟩
    case popAfterCommit =>
      obtain ⟨-, rfl⟩ := Prod.mk.inj (Option.some.inj step)
      exact ⟨rfl, setRequest_requests_ne w _ other, Extends.refl _⟩
    case degradeCache =>
      obtain ⟨-, rfl⟩ := Prod.mk.inj (Option.some.inj step)
      exact ⟨rfl, setRequest_requests_ne w _ other, Extends.refl _⟩
    case setDummyHash hash =>
      obtain ⟨-, rfl⟩ := Prod.mk.inj (Option.some.inj step)
      exact ⟨rfl, rfl, Extends.refl _⟩
    case outOfFuel => cases step

/-- What belongs to the request besides its session changes only by its own queue, its
degradation and the counters it reads. -/
theorem exec_request {op : Op} {reply : op.Reply} (step : w.exec i c op = some (reply, w'))
    (keeps : ∀ callback, op ≠ .afterCommit callback) (drains : op ≠ .popAfterCommit) :
    (w'.requests i).queue = (w.requests i).queue ∧
      (w'.requests i).drained = (w.requests i).drained := by
  by_cases isLocal : op.isLocal = true
  · rw [exec_local isLocal step]
    exact ⟨rfl, rfl⟩
  · cases op <;> first
      | exact absurd rfl isLocal
      | exact absurd rfl (keeps _)
      | exact absurd rfl drains
      | (obtain ⟨-, rfl⟩ := Prod.mk.inj (Option.some.inj step)
         exact ⟨rfl, rfl⟩)
      | skip
    case redis command =>
      have moved : ((w.redisStep i command).2.requests i).queue = (w.requests i).queue ∧
          ((w.redisStep i command).2.requests i).drained = (w.requests i).drained := by
        show ((w.observeGeneration i command).requests i).queue = _ ∧
          ((w.observeGeneration i command).requests i).drained = _
        unfold observeGeneration
        split
        · split
          · constructor <;> simp
          · exact ⟨rfl, rfl⟩
        · exact ⟨rfl, rfl⟩
      simp only [exec] at step
      split at step
      · obtain ⟨-, rfl⟩ := Prod.mk.inj (Option.some.inj step)
        split
        · exact moved
        · exact ⟨rfl, rfl⟩
      · obtain ⟨-, rfl⟩ := Prod.mk.inj (Option.some.inj step)
        exact moved
    case mysql statement =>
      simp only [exec] at step
      split at step
      · obtain ⟨-, rfl⟩ := Prod.mk.inj (Option.some.inj step)
        exact ⟨rfl, rfl⟩
      · obtain ⟨⟨_, db⟩, -, same⟩ := Option.map_eq_some_iff.mp step
        obtain ⟨-, rfl⟩ := Prod.mk.inj same
        exact ⟨rfl, rfl⟩
    case degradeCache =>
      obtain ⟨-, rfl⟩ := Prod.mk.inj (Option.some.inj step)
      constructor <;> simp
    case outOfFuel => cases step

theorem exec_keeps {op : Op} {reply : op.Reply} (step : w.exec i c op = some (reply, w'))
    (open_ : op ≠ .commit) :
    Database.KeepsSession (w.db.sessions i) (w'.db.sessions i) ∨
      ∃ id user, op = .mysql (.selectUser id) ∧ user.id = id ∧
        (w'.db.sessions i).actor = some user ∧
        (w'.db.sessions i).committed = (w.db.sessions i).committed := by
  by_cases aside : op.asksDatabase = false
  · rw [exec_db aside step]
    exact Or.inl ⟨rfl, rfl⟩
  · cases op <;> first
      | exact absurd rfl aside
      | exact absurd rfl open_
      | skip
    case mysql statement =>
      simp only [exec] at step
      split at step
      · obtain ⟨-, rfl⟩ := Prod.mk.inj (Option.some.inj step)
        exact Or.inl (by constructor <;> simp)
      · obtain ⟨⟨_, db⟩, answered, same⟩ := Option.map_eq_some_iff.mp step
        obtain ⟨-, rfl⟩ := Prod.mk.inj same
        rcases Database.statementStep_keeps answered with kept | ⟨id, user, rfl, fact⟩
        · exact Or.inl kept
        · exact Or.inr ⟨id, user, rfl, fact⟩
    case rollback =>
      obtain ⟨-, rfl⟩ := Prod.mk.inj (Option.some.inj step)
      exact Or.inl (Database.rollbackStep_keeps w.db i)
    case expireAll =>
      obtain ⟨-, rfl⟩ := Prod.mk.inj (Option.some.inj step)
      exact Or.inl (by constructor <;> simp)

end World

/-- A conditional `UPDATE` of an article, and what it makes of the row. -/
def Op.Compares : Op → ℤ → DateTime → (ArticleRow → ArticleRow) → Prop
  | .mysql (.updateArticle id expected title body), id', expected', change =>
      id' = id ∧ expected' = expected ∧ change = Database.edit title body
  | .mysql (.softDeleteArticle id expected deletedAt), id', expected', change =>
      id' = id ∧ expected' = expected ∧ change = Database.markDeleted deletedAt
  | _, _, _, _ => False

/-- Everything an interaction can do to the committed states and to the writes of its request. -/
inductive DatabaseStep (i : Pid) (c : Choice) : Op → Database → Database → Prop where
  | aside {op : Op} {db db' : Database} :
      OwnStep i db db' → Database.KeepsWrites (db.sessions i) (db'.sessions i) →
      DatabaseStep i c op db db'
  | compare {op : Op} {db db' : Database} {id : ℤ} {expected : DateTime}
      {change : ArticleRow → ArticleRow} {count : ℕ} :
      op.Compares id expected change →
      db.casStep i id expected change c.time = some (count, db') → DatabaseStep i c op db db'
  | insert {db : Database} {authorId : ℤ} {title body : String} :
      db.nextId ≤ c.newId ∧ 0 < c.newId →
      DatabaseStep i c (.mysql (.insertArticle authorId title body)) db
        (db.insertStep i (Database.newRow c authorId title body))
  | rollback {db : Database} : DatabaseStep i c .rollback db (db.rollbackStep i)
  | commit {db : Database} : DatabaseStep i c .commit db (db.commitStep i)

theorem World.exec_database {w w' : World} {i : Pid} {c : Choice} {op : Op} {reply : op.Reply}
    (step : w.exec i c op = some (reply, w')) : DatabaseStep i c op w.db w'.db := by
  by_cases aside : op.asksDatabase = false
  · rw [exec_db aside step]
    exact .aside (OwnStep.refl i w.db) ⟨rfl, rfl, rfl⟩
  · cases op <;> first
      | exact absurd rfl aside
      | skip
    case mysql statement =>
      simp only [exec] at step
      split at step
      · obtain ⟨-, rfl⟩ := Prod.mk.inj (Option.some.inj step)
        exact .aside (Database.begin_own w.db i) (by constructor <;> simp [Database.transaction])
      · obtain ⟨⟨_, db⟩, answered, same⟩ := Option.map_eq_some_iff.mp step
        obtain ⟨-, rfl⟩ := Prod.mk.inj same
        cases reads : statement.writesArticle with
        | false =>
            exact .aside (Database.statementStep_own answered)
              (Database.statementStep_reads reads answered)
        | true =>
            cases statement with
            | insertArticle authorId title body =>
                simp only [Database.statementStep] at answered
                split at answered
                · rename_i issued
                  obtain ⟨-, rfl⟩ := Prod.mk.inj (Option.some.inj answered)
                  exact .insert issued
                · cases answered
            | updateArticle id expected title body =>
                obtain ⟨⟨count, db''⟩, cas, same⟩ := Option.map_eq_some_iff.mp answered
                obtain ⟨-, rfl⟩ := Prod.mk.inj same
                exact .compare ⟨rfl, rfl, rfl⟩ cas
            | softDeleteArticle id expected deletedAt =>
                obtain ⟨⟨count, db''⟩, cas, same⟩ := Option.map_eq_some_iff.mp answered
                obtain ⟨-, rfl⟩ := Prod.mk.inj same
                exact .compare ⟨rfl, rfl, rfl⟩ cas
            | _ => cases reads
    case commit =>
      obtain ⟨-, rfl⟩ := Prod.mk.inj (Option.some.inj step)
      rcases Database.commitReply_cases w.db i c with done | same
      · simp only [done]
        exact .commit
      · simp only [same]
        exact .aside (OwnStep.refl i w.db) ⟨rfl, rfl, rfl⟩
    case rollback =>
      obtain ⟨-, rfl⟩ := Prod.mk.inj (Option.some.inj step)
      exact .rollback
    case expireAll =>
      obtain ⟨-, rfl⟩ := Prod.mk.inj (Option.some.inj step)
      exact .aside (OwnStep.setSession _ _) (by constructor <;> simp)

end ContentPlatform
