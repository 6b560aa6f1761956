import ContentPlatform.Effects
import ContentPlatform.Program.Concurrent
import ContentPlatform.World.Table

/-!
# MySQL and the sessions

Every committed state of the articles table, the row locks, and for each request
its ORM session with the open transaction.  MySQL runs at REPEATABLE READ:
consistent reads see one committed state and the transaction's own writes, while
`UPDATE` evaluates its `WHERE` on the latest committed row under the row's lock.
Fields marked as observations are written by the steps and read by nobody.
-/

set_option autoImplicit false

namespace ContentPlatform

open Program

/-- An ORM instance in the identity map of one session. -/
inductive Slot (Row : Type) where
  | absent
  | expired
  | loaded (row : Row)
  deriving DecidableEq

namespace Slot

variable {Row : Type}

def expire : Slot Row → Slot Row
  | .loaded _ => .expired
  | slot => slot

/-- What a row that was just read makes of the slot: an instance that is loaded already keeps
its attributes. -/
def receive (key : Row → ℤ) (row : Row) : Slot Row → Slot Row
  | .loaded held => if key held = key row then .loaded held else .loaded row
  | _ => .loaded row

/-- Reading an attribute of the instance with this key. -/
def read (key : Row → ℤ) (id : ℤ) : Slot Row → Except Exc Row
  | .loaded row => if key row = id then .ok row else .error .missingGreenlet
  | _ => .error .missingGreenlet

end Slot

/-- An open transaction.  `view` is the committed state its consistent reads see, fixed by the
first of them. -/
structure Transaction where
  view : Option ℕ
  writes : List ArticleRow
  users : List UserRow

def Transaction.new : Transaction := ⟨none, [], []⟩

structure Session where
  transaction : Option Transaction
  user : Slot UserRow
  article : Slot ArticleRow
  /-- Observation: the row of its principal, as it loaded it. -/
  actor : Option UserRow
  /-- Observation: the committed state its last read of articles saw. -/
  loadedFrom : Option ℕ
  /-- Observation: the row that its compare-and-set evaluated its `WHERE` on. -/
  compared : Option (Option ArticleRow)
  /-- Observation: the committed state its commit left. -/
  committed : Option ℕ

def Session.new : Session := ⟨none, .absent, .absent, none, none, none, none⟩

structure Database where
  /-- The committed states of `articles`; `version` is the latest. -/
  history : ℕ → Table
  version : ℕ
  /-- Observation: who committed a state. -/
  writer : ℕ → Pid
  nextId : ℤ
  users : List UserRow
  roles : List String
  rowLocks : ℤ → Option Pid
  /-- The transaction that has inserted a user with this email and has not ended.  The shared locks
  of those that wait for it are left out: where they end in a deadlock, MySQL has the statement of
  one of them fail. -/
  emailLocks : String → Option Pid
  sessions : Pid → Session

structure Choice where
  /-- The error a command, a statement or a wait ends with. -/
  fault : Option Exc := none
  /-- Whether a command or a commit that ends with an error took effect. -/
  applied : Bool := false
  /-- The answer of a breaker or a password check. -/
  flag : Bool := true
  number : ℚ := 0
  text : String := ""
  /-- The server's clock and the process's. -/
  time : DateTime := epoch
  newId : ℤ := 0

namespace Database

variable (db : Database) (i : Pid)

def table : Table := db.history db.version

def setSession (session : Session) : Database :=
  { db with sessions := Function.update db.sessions i session }

def transaction : Transaction := (db.sessions i).transaction.getD .new

/-- The committed state that the consistent reads of request `i` see. -/
def viewed : ℕ := (db.transaction i).view.getD db.version

/-- What a consistent read of request `i` sees. -/
def readTable : Table := (db.history (db.viewed i)).overlay (db.transaction i).writes

/-- What a write statement of request `i` evaluates its `WHERE` on. -/
def currentTable : Table := db.table.overlay (db.transaction i).writes

def setTransaction (transaction : Transaction) : Database :=
  db.setSession i { db.sessions i with transaction := some transaction }

/-- A statement opens a transaction where none is open. -/
def begin_ : Database := db.setTransaction i (db.transaction i)

/-- A consistent read fixes the view. -/
def takeView : Database :=
  db.setTransaction i { db.transaction i with view := some (db.viewed i) }

def readArticles : Database :=
  db.setSession i { db.sessions i with
    transaction := some { db.transaction i with view := some (db.viewed i) }
    loadedFrom := some (db.viewed i) }

def receiveArticle (row : ArticleRow) : Database :=
  db.setSession i { db.sessions i with
    article := (db.sessions i).article.receive ArticleRow.id row }

def receiveUser (row : UserRow) : Database :=
  db.setSession i { db.sessions i with user := (db.sessions i).user.receive UserRow.id row }

def observeActor (row : UserRow) : Database :=
  db.setSession i { db.sessions i with actor := some row }

def observeCompared (row : Option ArticleRow) : Database :=
  db.setSession i { db.sessions i with compared := some row }

def lockRow (id : ℤ) : Database := { db with rowLocks := Function.update db.rowLocks id (some i) }

def lockedOut (id : ℤ) : Bool := (db.rowLocks id).any (· != i)

def lockEmail (email : String) : Database :=
  { db with emailLocks := Function.update db.emailLocks email (some i) }

def write (row : ArticleRow) : Database :=
  db.setTransaction i { db.transaction i with writes := (db.transaction i).writes ++ [row] }

/-! ## Statements -/

/-- The compare-and-set `UPDATE`.  A row that `change` leaves as it is counts as matched and
keeps its `updated_at`. -/
def casStep (id : ℤ) (expected : DateTime) (change : ArticleRow → ArticleRow) (stamp : DateTime) :
    Option (ℕ × Database) :=
  if db.lockedOut i id then none
  else
    let compared := (db.begin_ i).observeCompared i ((db.currentTable i).find id)
    match (db.currentTable i).find id with
    | none => some (0, compared)
    | some row =>
        if row.live ∧ row.updatedAt = expected then
          if change row = row then some (1, compared.lockRow i id)
          else some (1, (compared.lockRow i id).write i { change row with updatedAt := stamp })
        else some (0, compared.lockRow i id)

def edit (title body : String) (row : ArticleRow) : ArticleRow :=
  { row with title := title, body := body }

def markDeleted (deletedAt : DateTime) (row : ArticleRow) : ArticleRow :=
  { row with deletedAt := some deletedAt }

def newRow (c : Choice) (authorId : ℤ) (title body : String) : ArticleRow :=
  ⟨c.newId, authorId, title, body, c.time, c.time, none⟩

/-- The new instance has its key; its other attributes are refreshed by the next statement. -/
def insertStep (row : ArticleRow) : Database :=
  let opened := { db.begin_ i with nextId := row.id + 1 }
  let flushed := (opened.lockRow i row.id).write i row
  flushed.setSession i { flushed.sessions i with article := .expired }

def insertUserStep (user : UserRow) : Database :=
  ((db.lockEmail i user.email).setTransaction i { db.transaction i with
    users := (db.transaction i).users ++ [user] }).receiveUser i user

/-- A statement that MySQL answers.  `none` means that it does not answer yet (a row lock or the
email that it inserts is held by another transaction), or that the id it is asked to hand out is
not a new one. -/
def statementStep (c : Choice) :
    (statement : Statement) → Option (Except Exc statement.Reply × Database)
  | .selectUser id =>
      match db.users.find? fun user => user.id == id with
      | some user =>
          some (.ok (some user.id), ((db.takeView i).receiveUser i user).observeActor i user)
      | none => some (.ok none, db.takeView i)
  | .selectUserByEmail email =>
      match db.users.find? fun user => user.email == email with
      | some user => some (.ok (some user.id), (db.takeView i).receiveUser i user)
      | none => some (.ok none, db.takeView i)
  | .selectRole name => some (.ok (db.roles.find? (· == name)), db.takeView i)
  | .insertUser email passwordHash roleName =>
      -- the unique index on `users.email` has the rows that are not committed too
      if (db.users.any fun user => user.email == email) || db.emailLocks email == some i then
        some (.error .integrityError, db.begin_ i)
      else if (db.emailLocks email).isSome then none
      else some (.ok c.newId, db.insertUserStep i ⟨c.newId, email, passwordHash, roleName⟩)
  | .selectArticle id =>
      match (db.readTable i).find id with
      | some row =>
          if row.live then some (.ok (some row.id), (db.readArticles i).receiveArticle i row)
          else some (.ok none, db.readArticles i)
      | none => some (.ok none, db.readArticles i)
  | .selectPage limit after author =>
      if limit < 0 then some (.error .programmingError, db.begin_ i)
      else some (.ok (((db.readTable i).select ⟨limit, after, author⟩ limit.toNat).map
        ArticleRow.summary), db.readArticles i)
  | .insertArticle authorId title body =>
      if db.nextId ≤ c.newId ∧ 0 < c.newId then
        some (.ok c.newId, db.insertStep i (newRow c authorId title body))
      else none
  | .refreshArticle id =>
      match (db.readTable i).find id with
      | some row => some (.ok (), (db.readArticles i).setSession i
          { (db.readArticles i).sessions i with article := .loaded row })
      | none => some (.error .runtimeError, db.readArticles i)
  | .updateArticle id expected title body =>
      (db.casStep i id expected (edit title body) c.time).map fun (n, db') => (.ok n, db')
  | .softDeleteArticle id expected deletedAt =>
      (db.casStep i id expected (markDeleted deletedAt) c.time).map fun (n, db') => (.ok n, db')

/-! ## The session -/

def expireInstances : Database :=
  db.setSession i { db.sessions i with
    user := (db.sessions i).user.expire, article := (db.sessions i).article.expire }

def release : Database :=
  { db with
    rowLocks := fun id => if db.rowLocks id = some i then none else db.rowLocks id
    emailLocks := fun email =>
      if db.emailLocks email = some i then none else db.emailLocks email }

/-- Without a transaction, a rollback does nothing. -/
def rollbackStep : Database :=
  match (db.sessions i).transaction with
  | none => db
  | some _ =>
      (db.setSession i { db.sessions i with
        transaction := none
        user := (db.sessions i).user.expire
        article := (db.sessions i).article.expire }).release i

def publish (transaction : Transaction) : Database :=
  match transaction.writes with
  | [] => { db with users := db.users ++ transaction.users }
  | row :: rows =>
      { db with
        history := Function.update db.history (db.version + 1) (db.table.overlay (row :: rows))
        version := db.version + 1
        writer := Function.update db.writer (db.version + 1) i
        users := db.users ++ transaction.users }

/-- The instances keep their attributes: `expire_on_commit=False`.  Where no transaction is open
there is nothing to publish. -/
def commitStep : Database :=
  let published := db.publish i (db.transaction i)
  (published.setSession i { db.sessions i with
    transaction := none, committed := some published.version }).release i

/-- The commit of a session that ran no statement asks MySQL nothing. -/
def commitReply (c : Choice) : Except Exc Unit × Database :=
  match (db.sessions i).transaction, c.fault with
  | some _, some error => (.error error, if c.applied then db.commitStep i else db)
  | _, _ => (.ok (), db.commitStep i)

end Database

end ContentPlatform
