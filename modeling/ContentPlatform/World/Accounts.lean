import ContentPlatform.World.Writers

/-!
# The accounts of one email

The unique index on `users.email` as an abstract system: the committed rows with the email, the
rows that open transactions have inserted, and the transaction that holds the email.  Every
interaction of the world is one step of it, and it never has two rows.
-/

set_option autoImplicit false

namespace ContentPlatform

open Program

/-- What MySQL holds of one email. -/
@[ext] structure Account where
  rows : List UserRow
  /-- The rows that a request has inserted and not committed. -/
  pending : Pid → List UserRow
  holder : Option Pid
  committed : Pid → Option ℕ
  roles : List String

def Account.ended (a : Account) (i : Pid) : Account :=
  { a with
    pending := Function.update a.pending i []
    holder := if a.holder = some i then none else a.holder }

/-- What a step of request `i` does to the accounts of `email`. -/
inductive AccountStep (email : String) (i : Pid) : Op → Account → Account → Prop where
  | aside {op : Op} {a : Account} : AccountStep email i op a a
  | inserted {a : Account} {passwordHash roleName : String} {user : UserRow} :
      a.rows = [] → a.holder = none →
      AccountStep email i (.mysql (.insertUser email passwordHash roleName)) a
        { a with pending := Function.update a.pending i (a.pending i ++ [user]), holder := some i }
  | rolledBack {a : Account} : AccountStep email i .rollback a (a.ended i)
  | committed {a : Account} {n : ℕ} : AccountStep email i .commit a
      { a.ended i with
        rows := a.rows ++ a.pending i
        committed := Function.update a.committed i (some n) }

/-! ## One account -/

/-- At most one row has the email, and it is that of the one applicant who has committed. -/
structure Account.Single (applicant : Pid → Prop) (a : Account) : Prop where
  pending : ∀ i, a.pending i ≠ [] → a.holder = some i
  held : ∀ i, a.holder = some i → (∃ user, a.pending i = [user]) ∧ applicant i ∧ a.rows = []
  before : a.rows = [] → ∀ i, applicant i → a.committed i = none
  after : a.rows ≠ [] → (∃ user, a.rows = [user]) ∧
    ∃ i, applicant i ∧ a.committed i ≠ none ∧ ∀ j, applicant j → a.committed j ≠ none → j = i

namespace Account

variable {email : String} {i : Pid} {op : Op} {a a' : Account} {applicant : Pid → Prop}

theorem Single.ended (single : a.Single applicant) (i : Pid) : (a.ended i).Single applicant := by
  constructor
  · intro j nonempty
    by_cases same : j = i
    · subst same
      simp [Account.ended] at nonempty
    · simp only [Account.ended, Function.update_of_ne same] at nonempty ⊢
      have holder := single.pending j nonempty
      rw [holder, if_neg fun equal => same (Option.some.inj equal)]
  · intro j held
    simp only [Account.ended] at held ⊢
    split at held
    · cases held
    · rename_i other
      have same : j ≠ i := fun equal => other (equal ▸ held)
      rw [Function.update_of_ne same]
      exact single.held j held
  · exact single.before
  · exact single.after

/-- Only applicants insert the email, and an applicant commits only what it has inserted. -/
theorem Single.step (single : a.Single applicant) (step : AccountStep email i op a a')
    (inserts : ∀ passwordHash roleName, op = .mysql (.insertUser email passwordHash roleName) →
      applicant i)
    (commits : op = .commit → applicant i → a.holder = some i) : a'.Single applicant := by
  cases step with
  | aside => exact single
  | @inserted _ passwordHash roleName user empty free =>
      have fresh : ∀ j, a.pending j = [] := by
        intro j
        by_contra nonempty
        rw [single.pending j nonempty] at free
        cases free
      constructor
      · intro j nonempty
        by_cases same : j = i
        · rw [same]
        · simp only [Function.update_of_ne same] at nonempty
          exact absurd (fresh j) nonempty
      · intro j held
        obtain rfl := Option.some.inj held
        refine ⟨⟨user, ?_⟩, inserts passwordHash roleName rfl, empty⟩
        simp [fresh]
      · exact single.before
      · exact fun some_ => absurd empty some_
  | rolledBack => exact single.ended i
  | @committed _ n =>
      have closed := single.ended i
      by_cases applies : applicant i
      · obtain ⟨⟨user, inserted⟩, -, empty⟩ := single.held i (commits rfl applies)
        have free : (a.ended i).holder = none := by
          rw [Account.ended, commits rfl applies]
          exact if_pos rfl
        refine ⟨closed.pending, fun j held => ?_, fun none_ => ?_, fun _ => ⟨⟨user, ?_⟩, i, applies,
          ?_, fun j other has => ?_⟩⟩
        · have held' : (a.ended i).holder = some j := held
          rw [free] at held'
          cases held'
        · simp [inserted] at none_
        · simp [empty, inserted]
        · simp
        · by_contra different
          simp only [Function.update_of_ne different] at has
          exact has (single.before empty j other)
      · have nothing : a.pending i = [] := by
          by_contra nonempty
          exact applies (single.held i (single.pending i nonempty)).2.1
        have others : ∀ j, applicant j →
            Function.update a.committed i (some n) j = a.committed j := by
          intro j other
          apply Function.update_of_ne
          intro same
          rw [same] at other
          exact applies other
        refine ⟨closed.pending, fun j held => ?_, fun none_ j other => ?_, fun some_ => ?_⟩
        · simp only [nothing, List.append_nil]
          exact closed.held j held
        · simp only [nothing, List.append_nil] at none_
          exact (others j other).trans (single.before none_ j other)
        · simp only [nothing, List.append_nil] at some_ ⊢
          obtain ⟨one, winner, applied, has, only⟩ := single.after some_
          refine ⟨one, winner, applied, by rw [others winner applied]; exact has, ?_⟩
          intro j other committed
          rw [others j other] at committed
          exact only j other committed

/-- What the steps of others leave of the account, as request `i` sees it. -/
structure Later (i : Pid) (a a' : Account) : Prop where
  holder : a'.holder = some i ↔ a.holder = some i
  rows : a.rows ≠ [] → a'.rows ≠ []

theorem Later.refl (i : Pid) (a : Account) : Later i a a := ⟨Iff.rfl, id⟩

theorem Later.trans {a'' : Account} (first : Later i a a') (second : Later i a' a'') :
    Later i a a'' := ⟨second.holder.trans first.holder, fun some_ => second.rows (first.rows some_)⟩

theorem later_ended {j : Pid} (other : j ≠ i) : Later j a (a.ended i) := by
  refine ⟨?_, id⟩
  simp only [ended]
  split
  · rename_i mine
    rw [mine]
    constructor
    · intro impossible
      cases impossible
    · intro same
      exact absurd (Option.some.inj same).symm other
  · exact Iff.rfl

theorem later_of_step {j : Pid} (step : AccountStep email i op a a') (other : j ≠ i) :
    Later j a a' := by
  cases step with
  | aside => exact .refl j a
  | inserted empty free =>
      refine ⟨?_, id⟩
      rw [free]
      constructor
      · intro same
        exact absurd (Option.some.inj same).symm other
      · intro impossible
        cases impossible
  | rolledBack => exact later_ended other
  | committed =>
      refine ⟨(later_ended (a := a) other).holder, fun some_ none_ => some_ ?_⟩
      exact (List.append_eq_nil_iff.mp none_).1

theorem roles_of_step (step : AccountStep email i op a a') : a'.roles = a.roles := by
  cases step <;> rfl

end Account

/-! ## The accounts of the database -/

namespace Database

def accountsOf (db : Database) (email : String) : List UserRow :=
  db.users.filter fun user => user.email == email

def account (db : Database) (email : String) : Account where
  rows := db.accountsOf email
  pending i := (db.transaction i).users.filter fun user => user.email == email
  holder := db.emailLocks email
  committed i := (db.sessions i).committed
  roles := db.roles

variable {db db' : Database} {i : Pid} {c : Choice} {email : String}

theorem accountsOf_ne_nil : db.accountsOf email ≠ [] ↔ ∃ user ∈ db.users, user.email = email := by
  simp [accountsOf]

/-- What all but the steps of an account leave of the users. -/
structure KeepsUsers (i : Pid) (db db' : Database) : Prop where
  users : db'.users = db.users
  emailLocks : db'.emailLocks = db.emailLocks
  roles : db'.roles = db.roles
  inserted : (db'.transaction i).users = (db.transaction i).users
  committed : (db'.sessions i).committed = (db.sessions i).committed

theorem transaction_of_own (own : OwnStep i db db') {j : Pid} (other : j ≠ i) :
    db'.transaction j = db.transaction j := by
  rw [transaction, own.sessions j other]
  rfl

theorem KeepsUsers.account (keeps : KeepsUsers i db db') (own : OwnStep i db db')
    (email : String) : db'.account email = db.account email := by
  have pending : ∀ j, (db'.transaction j).users = (db.transaction j).users := by
    intro j
    by_cases same : j = i
    · rw [same]
      exact keeps.inserted
    · rw [transaction_of_own own same]
  have committed : ∀ j, (db'.sessions j).committed = (db.sessions j).committed := by
    intro j
    by_cases same : j = i
    · rw [same]
      exact keeps.committed
    · rw [own.sessions j same]
  simp only [Database.account, accountsOf, keeps.users, keeps.emailLocks, keeps.roles, pending,
    committed]

theorem casStep_keepsUsers {id : ℤ} {expected stamp : DateTime} {change : ArticleRow → ArticleRow}
    {count : ℕ} (step : db.casStep i id expected change stamp = some (count, db')) :
    KeepsUsers i db db' := by
  unfold casStep at step
  split at step
  · cases step
  split at step
  · obtain ⟨-, rfl⟩ := Prod.mk.inj (Option.some.inj step)
    exact ⟨rfl, rfl, rfl, by simp [transaction], by simp⟩
  split at step
  · split at step <;> obtain ⟨-, rfl⟩ := Prod.mk.inj (Option.some.inj step) <;>
      exact ⟨rfl, rfl, rfl, by simp [transaction], by simp⟩
  · obtain ⟨-, rfl⟩ := Prod.mk.inj (Option.some.inj step)
    exact ⟨rfl, rfl, rfl, by simp [transaction], by simp⟩

/-- Every statement but the `INSERT` of a user. -/
theorem statementStep_keepsUsers {statement : Statement} {reply : Except Exc statement.Reply}
    (aside : ∀ email passwordHash roleName, statement ≠ .insertUser email passwordHash roleName)
    (step : db.statementStep i c statement = some (reply, db')) : KeepsUsers i db db' := by
  cases statement with
  | insertUser email passwordHash roleName => exact absurd rfl (aside _ _ _)
  | selectRole name =>
      obtain ⟨-, rfl⟩ := Prod.mk.inj (Option.some.inj step)
      exact ⟨rfl, rfl, rfl, by simp [transaction], by simp⟩
  | selectArticle id =>
      simp only [statementStep] at step
      split at step
      · split at step <;> obtain ⟨-, rfl⟩ := Prod.mk.inj (Option.some.inj step) <;>
          exact ⟨rfl, rfl, rfl, by simp [transaction], by simp⟩
      · obtain ⟨-, rfl⟩ := Prod.mk.inj (Option.some.inj step)
        exact ⟨rfl, rfl, rfl, by simp [transaction], by simp⟩
  | insertArticle authorId title body =>
      simp only [statementStep] at step
      split at step
      · obtain ⟨-, rfl⟩ := Prod.mk.inj (Option.some.inj step)
        exact ⟨rfl, rfl, rfl, by simp [transaction], by simp⟩
      · cases step
  | updateArticle id expected title body =>
      obtain ⟨⟨count, db''⟩, cas, same⟩ := Option.map_eq_some_iff.mp step
      obtain ⟨-, rfl⟩ := Prod.mk.inj same
      exact casStep_keepsUsers cas
  | softDeleteArticle id expected deletedAt =>
      obtain ⟨⟨count, db''⟩, cas, same⟩ := Option.map_eq_some_iff.mp step
      obtain ⟨-, rfl⟩ := Prod.mk.inj same
      exact casStep_keepsUsers cas
  | _ =>
      simp only [statementStep] at step
      split at step <;> obtain ⟨-, rfl⟩ := Prod.mk.inj (Option.some.inj step) <;>
        exact ⟨rfl, rfl, rfl, by simp [transaction], by simp⟩

theorem begin_keepsUsers (db : Database) (i : Pid) : KeepsUsers i db (db.begin_ i) :=
  ⟨rfl, rfl, rfl, by simp [transaction], by simp⟩

/-- What is inserted is pending under its own email. -/
theorem insertUserStep_account (db : Database) (i : Pid) (user : UserRow) :
    (db.insertUserStep i user).account user.email =
      { db.account user.email with
        pending := Function.update (db.account user.email).pending i
          ((db.account user.email).pending i ++ [user])
        holder := some i } := by
  have own := insertUserStep_own db i user
  apply Account.ext
  · rfl
  · funext j
    by_cases same : j = i
    · subst same
      simp [account, transaction]
    · simp [account, transaction_of_own own same, Function.update_of_ne same]
  · exact Function.update_self user.email (some i) db.emailLocks
  · funext j
    by_cases same : j = i
    · subst same
      simp [account]
    · simp [account, own.sessions j same]
  · rfl

theorem insertUserStep_account_ne (db : Database) (i : Pid) {user : UserRow}
    (other : user.email ≠ email) :
    (db.insertUserStep i user).account email = db.account email := by
  have own := insertUserStep_own db i user
  apply Account.ext
  · rfl
  · funext j
    by_cases same : j = i
    · subst same
      simp [account, transaction, other]
    · simp [account, transaction_of_own own same]
  · exact Function.update_of_ne (Ne.symm other) (some i) db.emailLocks
  · funext j
    by_cases same : j = i
    · subst same
      simp [account]
    · simp [account, own.sessions j same]
  · rfl

/-- The end of a transaction, once its rows are where they belong. -/
theorem release_account (db : Database) (i : Pid) {session : Session}
    (closed : session.transaction = none) (email : String) :
    ((db.setSession i session).release i).account email =
      { (db.account email).ended i with
        committed := Function.update (db.account email).committed i session.committed } := by
  apply Account.ext
  · rfl
  · funext j
    by_cases same : j = i
    · subst same
      simp [account, Account.ended, release, transaction, setSession, closed, Transaction.new]
    · simp [account, Account.ended, release, transaction, setSession, same]
  · rfl
  · funext j
    by_cases same : j = i
    · subst same
      simp [account, release, setSession]
    · simp [account, release, setSession, same]
  · rfl

theorem rollbackStep_account (db : Database) (i : Pid) (email : String) :
    (db.rollbackStep i).account email = db.account email ∨
      (db.rollbackStep i).account email = (db.account email).ended i := by
  unfold rollbackStep
  split
  · exact Or.inl rfl
  · refine Or.inr ((release_account db i rfl email).trans ?_)
    apply Account.ext
    · rfl
    · rfl
    · rfl
    · exact Function.update_eq_self i (db.account email).committed
    · rfl

theorem publish_account (db : Database) (i : Pid) (email : String) :
    (db.publish i (db.transaction i)).account email =
      { db.account email with
        rows := (db.account email).rows ++ (db.account email).pending i } := by
  have rows : (db.users ++ (db.transaction i).users).filter (fun user => user.email == email) =
      (db.account email).rows ++ (db.account email).pending i := List.filter_append ..
  unfold publish
  split <;> exact Account.ext rows rfl rfl rfl rfl

theorem commitStep_account (db : Database) (i : Pid) (email : String) :
    ∃ n, (db.commitStep i).account email =
      { (db.account email).ended i with
        rows := (db.account email).rows ++ (db.account email).pending i
        committed := Function.update (db.account email).committed i (some n) } := by
  refine ⟨(db.publish i (db.transaction i)).version, ?_⟩
  rw [commitStep, release_account _ i rfl, publish_account]
  rfl

end Database

/-- Every interaction of a request is a step of every account. -/
theorem World.exec_account {w w' : World} {i : Pid} {c : Choice} {op : Op} {reply : op.Reply}
    (step : w.exec i c op = some (reply, w')) (email : String) :
    AccountStep email i op (w.db.account email) (w'.db.account email) := by
  by_cases aside : op.asksDatabase = false
  · rw [World.exec_db aside step]
    exact .aside
  · cases op <;> first
      | exact absurd rfl aside
      | skip
    case mysql statement =>
      have quiet : ∀ {db' : Database}, Database.KeepsUsers i w.db db' → OwnStep i w.db db' →
          AccountStep email i (.mysql statement) (w.db.account email) (db'.account email) := by
        intro db' keeps own
        rw [keeps.account own email]
        exact .aside
      simp only [World.exec] at step
      split at step
      · obtain ⟨-, rfl⟩ := Prod.mk.inj (Option.some.inj step)
        exact quiet (Database.begin_keepsUsers w.db i) (Database.begin_own w.db i)
      · obtain ⟨⟨_, db⟩, answered, same⟩ := Option.map_eq_some_iff.mp step
        obtain ⟨-, rfl⟩ := Prod.mk.inj same
        have own := Database.statementStep_own answered
        cases statement with
        | insertUser email' passwordHash roleName =>
            rcases Database.insertUser_cases answered with ⟨-, rfl, -⟩ | ⟨-, rfl, absent, free⟩
            · exact quiet (Database.begin_keepsUsers w.db i) own
            · by_cases same : email' = email
              · subst same
                rw [Database.insertUserStep_account w.db i ⟨c.newId, email', _, _⟩]
                refine .inserted ?_ free
                by_contra some_
                obtain ⟨user, member, same⟩ := Database.accountsOf_ne_nil.mp some_
                exact absent user member same
              · rw [Database.insertUserStep_account_ne w.db i same]
                exact .aside
        | _ =>
            apply quiet _ own
            apply Database.statementStep_keepsUsers _ answered
            intro _ _ _ impossible
            cases impossible
    case commit =>
      obtain ⟨-, rfl⟩ := Prod.mk.inj (Option.some.inj step)
      rcases Database.commitReply_cases w.db i c with done | kept
      · simp only [done]
        obtain ⟨n, same⟩ := Database.commitStep_account w.db i email
        rw [same]
        exact .committed
      · simp only [kept]
        exact .aside
    case rollback =>
      obtain ⟨-, rfl⟩ := Prod.mk.inj (Option.some.inj step)
      rcases Database.rollbackStep_account w.db i email with same | same
      · simp only [same]
        exact .aside
      · simp only [same]
        exact .rolledBack
    case expireAll =>
      obtain ⟨-, rfl⟩ := Prod.mk.inj (Option.some.inj step)
      have keeps : Database.KeepsUsers i w.db (w.db.expireInstances i) :=
        ⟨rfl, rfl, rfl, by simp [Database.transaction], by simp⟩
      simp only [keeps.account (OwnStep.setSession _ _) email]
      exact .aside

end ContentPlatform
