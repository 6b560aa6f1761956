import ContentPlatform.Resilience.Failures
import ContentPlatform.World.Run

/-!
# What a request saw

The reads of one transaction see one committed state.  Here a request is followed from the load of
the article to what it answers after a compare-and-set that matched nothing; what its statements
owe the articles table is taken as met.
-/

set_option autoImplicit false

namespace ContentPlatform

open Program Py Prog Protocol

/-- The steps that meet what they owe the articles table. -/
def Setting.dutiful (σ : Setting) : Setting :=
  { σ with allow := fun w i op c => σ.allow w i op c ∧ rowsPre σ.requests i op w.db }

/-- The protocol of the articles table, with the obligations of the steps met. -/
def Setting.assumed (σ : Setting) : Protocol Op Op.Reply World where
  exec := Exec σ.dutiful.allow
  env := σ.env
  inv w := Coherent σ.requests w.db
  rely := Undisturbed
  pre _ _ _ := True
  rely_refl := Undisturbed.refl
  rely_trans := Undisturbed.trans
  step_inv := fun kept _ ⟨_, allowed, step⟩ => kept.exec allowed.2 step
  step_rely := fun _ _ ⟨_, _, step⟩ other => World.exec_undisturbed step other
  env_inv := fun kept event => (σ.outside _ _ event).coherent kept
  env_rely := fun _ event => (σ.outside _ _ event).undisturbed _

theorem Setting.assumed_covers (σ : Setting) : Covers σ.assumed σ.rows := by
  constructor
  · intro i op w reply w' _ owed step
    obtain ⟨c, allowed, step⟩ := step
    exact ⟨c, ⟨allowed, owed⟩, step⟩
  · exact id
  · exact id

theorem Setting.assumed_hosts (σ : Setting) : Hosts σ.assumed (Exec σ.dutiful.allow) :=
  .of_world rfl fun _ _ _ _ => trivial

theorem Setting.Calm.dutiful {σ : Setting} (calm : σ.Calm) : σ.dutiful.Calm :=
  fun w i op c allowed => calm w i op c allowed.1

def Table.live (table : Table) (id : ℤ) : Bool := (table.find id).any ArticleRow.live

section
variable (σ : Setting) {i : Pid}

theorem assumed_own (Q : Session → RequestState → Prop) : σ.assumed.Stable i (Own i Q) :=
  fun _ _ _ holds moved _ => holds.undisturbed moved

theorem assumed_past (Q : Session → RequestState → ℕ → Table → Prop) :
    σ.assumed.Stable i (Past i Q) :=
  fun _ _ _ holds moved _ => holds.undisturbed moved

variable {σ}

structure Untested (s : Session) (_ : RequestState) : Prop where
  compared : s.compared = none
  empty : (s.transaction.getD .new).writes = []

structure Defeated (expected : DateTime) (s : Session) (_ : RequestState) : Prop where
  compared : ∃ seen, s.compared = some seen ∧ ¬Fits expected seen
  empty : (s.transaction.getD .new).writes = []

/-- A fact about a session that has written nothing, which reads and rollbacks keep. -/
structure Unwritten (calm : Prop) (Q : Session → RequestState → Prop) : Prop where
  settled : Settled calm Q
  empty : ∀ s r, Q s r → (s.transaction.getD .new).writes = []

theorem Unwritten.untested (calm : Prop) : Unwritten calm Untested :=
  ⟨⟨fun _ _ _ _ _ before => ⟨before.compared, before.empty⟩,
    fun _ _ _ before => ⟨before.compared, rfl⟩⟩, fun _ _ before => before.empty⟩

theorem Unwritten.defeated (calm : Prop) (expected : DateTime) :
    Unwritten calm (Defeated expected) :=
  ⟨⟨fun _ _ _ _ _ before => ⟨before.compared, before.empty⟩,
    fun _ _ _ before => ⟨before.compared, rfl⟩⟩, fun _ _ before => before.empty⟩

/-- The committed state that the open transaction reads has the article live, or has not, and its
last read of articles saw that state. -/
def Looked (i : Pid) (id : ℤ) (live : Bool) : World → Prop :=
  Past i fun s _ n table => s.loadedFrom = some n ∧ (s.transaction.getD .new).view = some n ∧
    table.live id = live

/-- The committed state that the last read of articles saw has the article live, or has not. -/
def Saw (i : Pid) (id : ℤ) (live : Bool) : World → Prop :=
  Past i fun s _ n table => s.loadedFrom = some n ∧ table.live id = live

theorem Looked.saw {id : ℤ} {live : Bool} {w : World} (looked : Looked i id live w) :
    Saw i id live w := by
  obtain ⟨n, past, loaded, -, same⟩ := looked
  exact ⟨n, past, loaded, same⟩

def SelectAnswer (i : Pid) (id : ℤ) (Q : Session → RequestState → Prop) (found : Option ℤ)
    (w : World) : Prop :=
  Own i Q w ∧ Looked i id found.isSome w ∧ ∀ article, found = some article → article = id

theorem SelectAnswer.stable (id : ℤ) (Q : Session → RequestState → Prop) (found : Option ℤ) :
    σ.assumed.Stable i (SelectAnswer i id Q found) := by
  intro w w' _ holds moved _
  exact ⟨holds.1.undisturbed moved, Past.undisturbed holds.2.1 moved, holds.2.2⟩

theorem selectAnswer_of_select {Q : Session → RequestState → Prop} {calm : Prop}
    (unwritten : Unwritten calm Q) {w : World} {c : Choice} {id : ℤ} {db' : Database}
    {reply : Except Exc (Option ℤ)} (kept : Coherent σ.requests w.db) (before : Own i Q w)
    (answered : w.db.statementStep i c (.selectArticle id) = some (reply, db')) :
    ∃ found, reply = .ok found ∧ SelectAnswer i id Q found { w with db := db' } ∧
      found.isSome = (w.db.history (w.db.viewed i)).live id := by
  have empty : (w.db.transaction i).writes = [] := unwritten.empty _ _ before
  have table : w.db.readTable i = w.db.history (w.db.viewed i) := by
    rw [Database.readTable, empty, Table.overlay_nil]
  have own : ∀ row, Own i Q { w with db := (w.db.readArticles i).receiveArticle i row } := by
    intro row
    refine own_db (Database.receiveArticle_sessions ..) ?_
    rw [Database.readArticles_sessions]
    exact unwritten.settled.read _ _ _ _ _ before
  have looked : ∀ db : Database, db.version = w.db.version → db.history = w.db.history →
      (db.sessions i).loadedFrom = some (w.db.viewed i) →
      ((db.sessions i).transaction.getD .new).view = some (w.db.viewed i) →
      Looked i id ((w.db.history (w.db.viewed i)).live id) { w with db := db } := by
    intro db version history loaded view
    refine ⟨w.db.viewed i, ?_, loaded, view, ?_⟩
    · rw [show ({ w with db := db } : World).db.version = w.db.version from version]
      exact kept.view i
    · rw [show ({ w with db := db } : World).db.history = w.db.history from history]
  simp only [Database.statementStep, table] at answered
  split at answered
  · rename_i row found
    have key : row.id = id := Table.find_id found
    split at answered
    · rename_i live
      obtain ⟨rfl, rfl⟩ := Prod.mk.inj (Option.some.inj answered)
      have there : (w.db.history (w.db.viewed i)).live id = true := by
        rw [Table.live, found]
        exact live
      refine ⟨some row.id, rfl, ⟨own _, ?_, ?_⟩, there.symm⟩
      · rw [Option.isSome_some, ← there]
        exact looked _ rfl rfl (by simp) (by simp)
      · intro article same
        exact (Option.some.inj same).symm.trans key
    · rename_i dead
      obtain ⟨rfl, rfl⟩ := Prod.mk.inj (Option.some.inj answered)
      have gone : (w.db.history (w.db.viewed i)).live id = false := by
        rw [Table.live, found]
        simpa using dead
      refine ⟨none, rfl, ⟨own_db (Database.readArticles_sessions ..)
        (unwritten.settled.read _ _ _ _ _ before), ?_, fun _ none_ => by cases none_⟩, gone.symm⟩
      rw [Option.isSome_none, ← gone]
      exact looked _ rfl rfl (by simp) (by simp)
  · rename_i missing
    obtain ⟨rfl, rfl⟩ := Prod.mk.inj (Option.some.inj answered)
    have gone : (w.db.history (w.db.viewed i)).live id = false := by
      rw [Table.live, missing]
      rfl
    refine ⟨none, rfl, ⟨own_db (Database.readArticles_sessions ..)
      (unwritten.settled.read _ _ _ _ _ before), ?_, fun _ none_ => by cases none_⟩, gone.symm⟩
    rw [Option.isSome_none, ← gone]
    exact looked _ rfl rfl (by simp) (by simp)

/-! ## Reading the article -/

theorem Looked.viewed {id : ℤ} {live : Bool} {w : World} (looked : Looked i id live w) :
    (w.db.history (w.db.viewed i)).live id = live := by
  obtain ⟨n, -, -, view, same⟩ := looked
  have fixed : w.db.viewed i = n := by
    rw [Database.viewed, Database.transaction, view]
    rfl
  rw [fixed]
  exact same

/-- A `SELECT` of the article; where its transaction has seen the article live, it is found. -/
theorem asks_select {Q : Session → RequestState → Prop} (unwritten : Unwritten σ.dutiful.Calm Q)
    {id : ℤ} {A : World → Prop} {sure : Prop} (own : ∀ w, A w → Own i Q w)
    (shown : ∀ w, A w → sure → σ.dutiful.Calm → Looked i id true w) :
    Asks σ.assumed i (.mysql (.selectArticle id)) A
      (okOr (fun found w => SelectAnswer i id Q found w ∧ (found = none → sure → ¬σ.dutiful.Calm))
        fun w => Own i Q w ∧ ¬σ.dutiful.Calm) := by
  refine ⟨fun _ _ _ => trivial, fun w reply w' kept holds step _ => ?_⟩
  have before := own w holds
  rcases mysql_cases step with ⟨hectic, ⟨error, rfl⟩, rfl⟩ | ⟨c, db', answered, rfl⟩
  · exact ⟨own_db (Database.begin_sessions ..) (unwritten.settled.read _ _ _ _ _ before), hectic⟩
  · obtain ⟨found, rfl, answer, seen⟩ := selectAnswer_of_select unwritten kept before answered
    refine ⟨answer, fun missing certain calm => ?_⟩
    rw [missing, (shown w holds certain calm).viewed] at seen
    cases seen

theorem articleGet_answered (rt : Runtime) {Q : Session → RequestState → Prop}
    (unwritten : Unwritten σ.dutiful.Calm Q) (id : ℤ) {A : World → Prop} (sure : Prop)
    (stable : σ.assumed.Stable i A) (own : ∀ w, A w → Own i Q w)
    (shown : ∀ w, A w → sure → σ.dutiful.Calm → Looked i id true w) :
    σ.assumed.Triple i A (ArticleRepository.get rt id)
      (okOr (fun found w => SelectAnswer i id Q found w ∧ (found = none → sure → ¬σ.dutiful.Calm))
        fun w => Own i Q w ∧ ¬σ.dutiful.Calm) := by
  apply guardedRead_triple σ.assumed_hosts stable
  · exact fun found => stable_pure _ (SelectAnswer.stable id Q found)
  · exact stable_pure _ (assumed_own σ Q)
  · exact asks_select unwritten own shown
  · exact asks_select unwritten (fun _ holds => holds.1) fun _ holds _ calm => absurd calm holds.2
  · refine ⟨fun _ _ _ => trivial, fun w reply w' _ holds step _ => ?_⟩
    rw [rollback_exec step]
    exact ⟨unwritten.settled.rolledBack holds.2 holds.1, holds.2⟩
  · exact fun w holds refused => ⟨own w holds, refused_not_calm refused⟩

theorem load_looked (service : ArticleService) (id : ℤ) :
    σ.assumed.Triple i (Own i Untested) (service.load id)
      (okOr (fun article w => article = id ∧ Own i Untested w ∧ Looked i id true w)
        (Own i Untested)) := by
  refine Triple.bind (articleGet_answered service.rt (.untested _) id False (assumed_own σ _)
    (fun _ holds => holds) fun _ _ impossible => impossible.elim) (fun found => ?_)
    fun _ _ _ failed => failed.1
  cases found with
  | some article =>
      apply Triple.ret
      · exact stable_pure _ (SelectAnswer.stable id Untested (some article))
      · intro w _ holds
        obtain ⟨⟨own, looked, key⟩, -⟩ := holds
        exact ⟨key article rfl, own, looked⟩
  | none =>
      apply Triple.raise
      · exact stable_pure _ (SelectAnswer.stable id Untested none)
      · exact fun w _ holds => holds.1.1

/-- What asks nothing but what is local keeps everything. -/
theorem local_triple {α : Type} {p : Py α} {A : World → Prop} (stable : σ.assumed.Stable i A)
    (sends : p.Sends fun op => op.isLocal = true) : σ.assumed.Triple i A p fun _ => A := by
  apply Triple.of_sends sends stable
  · exact fun _ _ _ _ _ => trivial
  · intro op w reply w' isLocal _ holds step _
    obtain ⟨c, -, step⟩ := step
    rw [World.exec_local isLocal step]
    exact holds

theorem authorize_local (actor article : ℤ) :
    (ArticleService.authorize actor article).Sends fun op => op.isLocal = true := by
  have articles : ∀ id, (articleAttributes id).Sends fun op => op.isLocal = true :=
    fun id => answer_sends (show (Op.articleAttributes id).isLocal = true from rfl) _
  have users : ∀ id, (userAttributes id).Sends fun op => op.isLocal = true :=
    fun id => answer_sends (show (Op.userAttributes id).isLocal = true from rfl) _
  refine Sends.bind (articles article) fun row => ?_
  refine Sends.bind (users actor) fun user => ?_
  split
  · refine Sends.bind (users actor) fun again => ?_
    split <;> trivial
  · trivial

/-! ## The compare-and-set -/

def Lost (expected : DateTime) (s : Session) (_ : RequestState) : Prop :=
  ∃ seen, s.compared = some seen ∧ ¬Fits expected seen

/-- What an `UPDATE` that matched `count` rows leaves. -/
structure Evaluated (expected : DateTime) (count : ℕ) (s : Session) (_ : RequestState) : Prop where
  compared : ∃ seen, s.compared = some seen ∧ (0 < count ↔ Fits expected seen)
  empty : count = 0 → (s.transaction.getD .new).writes = []

/-- After the compare-and-set: what it matched, and that the snapshot shows the article. -/
def Tried (i : Pid) (id : ℤ) (expected : DateTime) (count : ℕ) (w : World) : Prop :=
  Own i (Evaluated expected count) w ∧ Looked i id true w

theorem casStep_keeps_view {db db' : Database} {id : ℤ} {expected stamp : DateTime}
    {change : ArticleRow → ArticleRow} {count : ℕ}
    (step : db.casStep i id expected change stamp = some (count, db')) :
    (db'.sessions i).loadedFrom = (db.sessions i).loadedFrom ∧
      (db'.transaction i).view = (db.transaction i).view ∧
      (count = 0 → (db'.transaction i).writes = (db.transaction i).writes) := by
  unfold Database.casStep at step
  split at step
  · cases step
  split at step
  · obtain ⟨rfl, rfl⟩ := Prod.mk.inj (Option.some.inj step)
    simp [Database.transaction]
  split at step
  · split at step <;> obtain ⟨rfl, rfl⟩ := Prod.mk.inj (Option.some.inj step) <;>
      simp [Database.transaction]
  · obtain ⟨rfl, rfl⟩ := Prod.mk.inj (Option.some.inj step)
    simp [Database.transaction]

/-! ### The view of a transaction -/

/-- The view of the open transaction stays, goes with it, or is fixed now. -/
def KeepsView (i : Pid) (db db' : Database) : Prop :=
  (db'.transaction i).view = (db.transaction i).view ∨ (db'.transaction i).view = none ∨
    (db'.transaction i).view = some (db.viewed i)

theorem Database.statementStep_view {db db' : Database} {c : Choice} {statement : Statement}
    {reply : Except Exc statement.Reply}
    (step : db.statementStep i c statement = some (reply, db')) :
    KeepsView i db db' := by
  have casStep : ∀ {id : ℤ} {expected stamp : DateTime} {change : ArticleRow → ArticleRow} {count : ℕ},
      db.casStep i id expected change stamp = some (count, db') → KeepsView i db db' :=
    fun cas => Or.inl (casStep_keeps_view cas).2.1
  cases statement with
  | selectUser id =>
      simp only [statementStep] at step
      split at step <;> obtain ⟨-, rfl⟩ := Prod.mk.inj (Option.some.inj step) <;>
        exact Or.inr (Or.inr (by simp [transaction]))
  | selectUserByEmail email =>
      simp only [statementStep] at step
      split at step <;> obtain ⟨-, rfl⟩ := Prod.mk.inj (Option.some.inj step) <;>
        exact Or.inr (Or.inr (by simp [transaction]))
  | selectRole name =>
      obtain ⟨-, rfl⟩ := Prod.mk.inj (Option.some.inj step)
      exact Or.inr (Or.inr (by simp [transaction]))
  | insertUser email passwordHash roleName =>
      rcases insertUser_cases step with ⟨-, rfl, -⟩ | ⟨-, rfl, -, -⟩ <;>
        exact Or.inl (by simp [transaction])
  | selectArticle id =>
      simp only [statementStep] at step
      split at step
      · split at step <;> obtain ⟨-, rfl⟩ := Prod.mk.inj (Option.some.inj step) <;>
          exact Or.inr (Or.inr (by simp [transaction]))
      · obtain ⟨-, rfl⟩ := Prod.mk.inj (Option.some.inj step)
        exact Or.inr (Or.inr (by simp [transaction]))
  | selectPage limit after author =>
      simp only [statementStep] at step
      split at step <;> obtain ⟨-, rfl⟩ := Prod.mk.inj (Option.some.inj step)
      · exact Or.inl (by simp [transaction])
      · exact Or.inr (Or.inr (by simp [transaction]))
  | insertArticle authorId title body =>
      simp only [statementStep] at step
      split at step
      · obtain ⟨-, rfl⟩ := Prod.mk.inj (Option.some.inj step)
        exact Or.inl (by simp [transaction])
      · cases step
  | refreshArticle id =>
      simp only [statementStep] at step
      split at step <;> obtain ⟨-, rfl⟩ := Prod.mk.inj (Option.some.inj step) <;>
        exact Or.inr (Or.inr (by simp [transaction]))
  | updateArticle id expected title body =>
      obtain ⟨⟨count, db''⟩, cas, same⟩ := Option.map_eq_some_iff.mp step
      obtain ⟨-, rfl⟩ := Prod.mk.inj same
      exact casStep cas
  | softDeleteArticle id expected deletedAt =>
      obtain ⟨⟨count, db''⟩, cas, same⟩ := Option.map_eq_some_iff.mp step
      obtain ⟨-, rfl⟩ := Prod.mk.inj same
      exact casStep cas

theorem World.exec_view {w w' : World} {c : Choice} {op : Op} {reply : op.Reply}
    (step : w.exec i c op = some (reply, w')) :
    KeepsView i w.db w'.db := by
  by_cases aside : op.asksDatabase = false
  · rw [exec_db aside step]
    exact Or.inl rfl
  · cases op with
    | mysql statement =>
        simp only [exec] at step
        split at step
        · obtain ⟨-, rfl⟩ := Prod.mk.inj (Option.some.inj step)
          exact Or.inl (by simp [Database.transaction])
        · obtain ⟨⟨reply, db⟩, answered, same⟩ := Option.map_eq_some_iff.mp step
          obtain ⟨rfl, rfl⟩ := Prod.mk.inj same
          exact Database.statementStep_view answered
    | commit =>
        obtain ⟨-, rfl⟩ := Prod.mk.inj (Option.some.inj step)
        rcases Database.commitReply_cases w.db i c with done | same
        · simp only [done]
          exact Or.inr (Or.inl (by simp [Database.transaction, Transaction.new]))
        · exact Or.inl (by simp only [same])
    | rollback =>
        obtain ⟨-, rfl⟩ := Prod.mk.inj (Option.some.inj step)
        rcases rollback_sessions w.db i with same | ended
        · exact Or.inl (by rw [Database.transaction, Database.transaction, same])
        · exact Or.inr (Or.inl (by rw [Database.transaction, ended]; rfl))
    | expireAll =>
        obtain ⟨-, rfl⟩ := Prod.mk.inj (Option.some.inj step)
        exact Or.inl (by simp [Database.transaction])
    | _ => exact absurd rfl aside

/-! ### What was matched -/

theorem tried_of_casStep {w : World} {db' : Database} {id : ℤ} {expected stamp : DateTime}
    {change : ArticleRow → ArticleRow} {count : ℕ} (untested : Own i Untested w)
    (looked : Looked i id true w)
    (step : w.db.casStep i id expected change stamp = some (count, db')) :
    Tried i id expected count { w with db := db' } := by
  obtain ⟨transaction, session, fits, -⟩ := casStep_session step
  obtain ⟨loaded, view, writes⟩ := casStep_keeps_view step
  have own := Database.casStep_own step
  refine ⟨⟨⟨_, congrArg Session.compared session, fits⟩, fun none_ => ?_⟩, ?_⟩
  · exact (writes none_).trans untested.empty
  · obtain ⟨n, past, from_, shown, live⟩ := looked
    refine ⟨n, ?_, loaded.trans from_, view.trans shown, ?_⟩
    · rw [own.version]
      exact past
    · rw [own.history]
      exact live

theorem Tried.stable (id : ℤ) (expected : DateTime) (count : ℕ) :
    σ.assumed.Stable i (Tried i id expected count) :=
  stable_and (assumed_own σ _) (assumed_past σ _)

theorem expireAll_tried {id : ℤ} {expected : DateTime} {count : ℕ} {E : World → Prop} :
    σ.assumed.Triple i (Tried i id expected count) (expireAll.bind fun _ => .ret count)
      (okOr (Tried i id expected) E) := by
  refine Triple.call (fun _ => Tried i id expected count) (Tried.stable id expected count)
    (fun _ _ _ => trivial) (fun w reply w' _ holds step _ => ?_)
    fun _ => Triple.ret (Tried.stable id expected count) fun _ _ holds => holds
  obtain ⟨c, -, step⟩ := step
  obtain ⟨-, rfl⟩ := Prod.mk.inj (Option.some.inj step)
  obtain ⟨evaluated, n, past, loaded, view, live⟩ := holds
  have session := Database.expireInstances_sessions w.db i
  refine ⟨own_db session ⟨evaluated.compared, evaluated.empty⟩, n, past, ?_, ?_, live⟩
  · exact (congrArg Session.loadedFrom session).trans loaded
  · exact (congrArg (fun s => (s.transaction.getD .new).view) session).trans view

def Shown (i : Pid) (id : ℤ) (w : World) : Prop := Own i Untested w ∧ Looked i id true w

theorem Shown.stable (id : ℤ) : σ.assumed.Stable i (Shown i id) :=
  stable_and (assumed_own σ _) (assumed_past σ _)

def Unmatched (i : Pid) : World → Prop := Own i fun s _ => s.compared = none

theorem updateCas_tried (rt : Runtime) {id : ℤ} {expected : DateTime} {title body : String} :
    σ.assumed.Triple i (Shown i id) (ArticleRepository.updateCas rt id expected title body)
      (okOr (Tried i id expected) (Unmatched i)) := by
  apply guardedWrite_triple σ.assumed_hosts (Shown.stable id) (Tried.stable id expected)
    (assumed_own σ _)
  · refine Triple.bind (mysql_triple (Shown.stable id) (Tried.stable id expected) (assumed_own σ _)
      ⟨fun _ _ _ => trivial, fun w reply w' _ shown step _ => ?_⟩) (fun _ => expireAll_tried)
      fun _ _ _ failed => failed
    rcases mysql_cases step with ⟨-, ⟨error, rfl⟩, rfl⟩ | ⟨c, db', answered, rfl⟩
    · exact own_db (Q := fun s _ => s.compared = none) (Database.begin_sessions ..) shown.1.compared
    · obtain ⟨⟨count, db''⟩, cas, same⟩ := Option.map_eq_some_iff.mp answered
      obtain ⟨rfl, rfl⟩ := Prod.mk.inj same
      exact tried_of_casStep shown.1 shown.2 cas
  · exact fun _ shown _ => shown.1.compared

theorem softDeleteCas_tried (rt : Runtime) {id : ℤ} {expected : DateTime} :
    σ.assumed.Triple i (Shown i id) (ArticleRepository.softDeleteCas rt id expected)
      (okOr (Tried i id expected) (Unmatched i)) := by
  apply guardedWrite_triple σ.assumed_hosts (Shown.stable id) (Tried.stable id expected)
    (assumed_own σ _)
  · refine triple_skip σ.assumed_hosts rfl (Shown.stable id) fun deletedAt => ?_
    show σ.assumed.Triple i _ (Prog.bind (mysql (.softDeleteArticle id expected deletedAt)) _) _
    refine Triple.bind (mysql_triple (Shown.stable id) (Tried.stable id expected) (assumed_own σ _)
      ⟨fun _ _ _ => trivial, fun w reply w' _ shown step _ => ?_⟩) (fun _ => expireAll_tried)
      fun _ _ _ failed => failed
    rcases mysql_cases step with ⟨-, ⟨error, rfl⟩, rfl⟩ | ⟨c, db', answered, rfl⟩
    · exact own_db (Q := fun s _ => s.compared = none) (Database.begin_sessions ..) shown.1.compared
    · obtain ⟨⟨count, db''⟩, cas, same⟩ := Option.map_eq_some_iff.mp answered
      obtain ⟨rfl, rfl⟩ := Prod.mk.inj same
      exact tried_of_casStep shown.1 shown.2 cas
  · exact fun _ shown _ => shown.1.compared

/-! ## The answer -/

/-- The errors that answer a compare-and-set that matched nothing. -/
def Exc.answersLoss : Exc → Bool
  | .domain .articleNotFound _ | .domain .conflict _ => true
  | _ => false

/-- MySQL and Redis do not fail with these. -/
def Setting.Foreign (σ : Setting) : Prop :=
  ∀ w i op c error, σ.allow w i op c → c.fault = some error → error.answersLoss = false

/-- What is known of a request that lost: which state decides between its two answers, and that
nothing but a fault makes it the one or no answer. -/
def Judged (σ : Setting) (i : Pid) (id : ℤ) (expected : DateTime) {α : Type}
    (outcome : Except Exc α) (w : World) : Prop :=
  Own i (Lost expected) w → ∃ error, outcome = .error error ∧
    ((∃ message, error = .conflict message) → Saw i id true w) ∧
    ((∃ message, error = .articleNotFound message) → Saw i id false w) ∧
    (σ.dutiful.Calm → ∃ message, error = .conflict message)

/-- It depends on what the request loaded and compared and on the committed states so far. -/
theorem Judged.transport {α : Type} {id : ℤ} {expected : DateTime} {outcome : Except Exc α}
    {w w' : World} (judged : Judged σ i id expected outcome w)
    (compared : (w'.db.sessions i).compared = (w.db.sessions i).compared)
    (loaded : (w'.db.sessions i).loadedFrom = (w.db.sessions i).loadedFrom)
    (moved : Extends w.db w'.db) : Judged σ i id expected outcome w' := by
  have saw : ∀ live, Saw i id live w → Saw i id live w' := by
    intro live seen
    obtain ⟨n, past, from_, shown⟩ := seen
    refine ⟨n, past.trans moved.version, loaded.trans from_, ?_⟩
    rw [moved.history n past]
    exact shown
  intro lost
  obtain ⟨seen, same, unfit⟩ := lost
  obtain ⟨error, ended, conflict, gone, calm⟩ := judged ⟨seen, compared.symm.trans same, unfit⟩
  exact ⟨error, ended, fun kind => saw true (conflict kind), fun kind => saw false (gone kind),
    calm⟩

theorem Judged.stable {α : Type} (id : ℤ) (expected : DateTime) (outcome : Except Exc α) :
    σ.assumed.Stable i (Judged σ i id expected outcome) :=
  fun _ _ _ judged moved _ => judged.transport (congrArg Session.compared moved.session)
    (congrArg Session.loadedFrom moved.session) moved.db

theorem Judged.of_unlost {α : Type} {id : ℤ} {expected : DateTime} {outcome : Except Exc α}
    {w : World} (unlost : Own i (fun s r => ¬Lost expected s r) w) :
    Judged σ i id expected outcome w :=
  fun lost => absurd lost unlost

theorem Judged.unlost {α : Type} {id : ℤ} {expected : DateTime} {value : α} {w : World}
    (judged : Judged σ i id expected (.ok value) w) : Own i (fun s r => ¬Lost expected s r) w := by
  intro lost
  obtain ⟨error, impossible, -⟩ := judged lost
  cases impossible

theorem Judged.raised {α β : Type} {id : ℤ} {expected : DateTime} {error : Exc} {w : World}
    (judged : Judged σ i id expected (.error error : Except Exc α) w) :
    Judged σ i id expected (.error error : Except Exc β) w := by
  intro lost
  obtain ⟨other, same, rest⟩ := judged lost
  obtain rfl := Except.error.inj same
  exact ⟨error, rfl, rest⟩

theorem unlost_of_unmatched {expected : DateTime} {w : World} (unmatched : Unmatched i w) :
    Own i (fun s r => ¬Lost expected s r) w := by
  intro lost
  obtain ⟨seen, compared, -⟩ := lost
  have none_ : (w.db.sessions i).compared = none := unmatched
  rw [none_] at compared
  cases compared

theorem Setting.Foreign.dutiful (foreign : σ.Foreign) : σ.dutiful.Foreign :=
  fun w i op c error allowed failed => foreign w i op c error allowed.1 failed

/-- The replies that the re-read and the end of a request may get. -/
def Honest : (op : Op) → op.Reply → Prop
  | .mysql (.selectArticle _), .error error => error.answersLoss = false
  | .rollback, .error error => error.answersLoss = false
  | .backoff _, .error error => error.answersLoss = false
  | _, _ => True

theorem Setting.Foreign.honest (foreign : σ.Foreign) (op : Op) (w : World) (reply : op.Reply)
    (w' : World) (step : Exec σ.allow i op w reply w') : Honest op reply := by
  obtain ⟨c, allowed, step⟩ := step
  have fault : ∀ error, c.fault = some error → error.answersLoss = false :=
    fun error failed => foreign w i op c error allowed failed
  have waited : ∀ error, World.waited c = .error error → error.answersLoss = false := by
    intro error failed
    unfold World.waited at failed
    split at failed
    · rename_i same
      rw [← Except.error.inj failed]
      exact fault _ same
    · cases failed
  cases op with
  | mysql statement =>
      cases statement with
      | selectArticle id =>
          cases reply with
          | ok _ => trivial
          | error error =>
              simp only [World.exec] at step
              split at step
              · rename_i failure same
                have failed := Except.error.inj (Prod.mk.inj (Option.some.inj step)).1
                exact fault error (failed ▸ same)
              · obtain ⟨⟨_, db⟩, answered, same⟩ := Option.map_eq_some_iff.mp step
                obtain ⟨rfl, rfl⟩ := Prod.mk.inj same
                simp only [Database.statementStep] at answered
                split at answered
                · split at answered <;> cases answered
                · cases answered
      | _ => trivial
  | rollback =>
      cases reply with
      | ok _ => trivial
      | error error => exact waited error (Prod.mk.inj (Option.some.inj step)).1
  | backoff longest =>
      cases reply with
      | ok _ => trivial
      | error error => exact waited error (Prod.mk.inj (Option.some.inj step)).1
  | _ => trivial

theorem articleGet_fails (rt : Runtime) (id : ℤ) :
    Fails (fun op (_ : Unit) reply _ => Honest op reply) (fun error => error.answersLoss = false)
      (ArticleRepository.get rt id) := by
  apply guardedCall_fails
  · constructor
    · intro error down
      cases error with
      | domain kind message =>
          cases kind with
          | upstreamTimeout retryAfter => rfl
          | dependencyUnavailable retryAfter => rfl
          | _ => cases down
      | _ => cases down
    · rfl
    · exact fun _ _ _ _ honest => honest
  · apply Fails.answer
    intro _ reply _ error honest same
    rw [show reply = .error error from same] at honest
    exact honest
  · intro hook same
    obtain rfl := Option.some.inj same
    apply Fails.answer
    intro _ reply _ error honest same
    rw [show reply = .error error from same] at honest
    exact honest

theorem lost_triple {α : Type} (foreign : σ.Foreign) (service : ArticleService) {id : ℤ}
    {expected : DateTime} :
    σ.assumed.Triple i (fun w => Own i (Defeated expected) w ∧ Looked i id true w)
      (service.raiseConflictOrNotFound id : Py α) (Judged σ i id expected) := by
  have read := (articleGet_answered service.rt (.defeated _ expected) id True
    (stable_and (assumed_own σ (Defeated expected)) (assumed_past (i := i) σ _))
    (fun _ holds => holds.1) (fun _ holds _ _ => holds.2)).outcome foreign.dutiful.honest
    (articleGet_fails service.rt id ())
  refine Triple.bind read (fun found => ?_) fun error w _ failed _ => ?_
  · cases found with
    | some article =>
        apply Triple.raise
        · exact stable_pure _
            (stable_pure _ (SelectAnswer.stable id (Defeated expected) (some article)))
        · intro w _ holds _
          obtain ⟨⟨⟨-, looked, -⟩, -⟩, -⟩ := holds
          refine ⟨_, rfl, fun _ => looked.saw, fun other => ?_, fun _ => ⟨_, rfl⟩⟩
          obtain ⟨message, impossible⟩ := other
          cases impossible
    | none =>
        apply Triple.raise
        · exact stable_pure _ (stable_pure _ (SelectAnswer.stable id (Defeated expected) none))
        · intro w _ holds _
          obtain ⟨⟨⟨-, looked, -⟩, hectic⟩, -⟩ := holds
          refine ⟨_, rfl, fun other => ?_, fun _ => looked.saw,
            fun calm => absurd calm (hectic rfl trivial)⟩
          obtain ⟨message, impossible⟩ := other
          cases impossible
  · -- the read itself failed, with an error that is neither answer
    obtain ⟨⟨-, hectic⟩, kind⟩ := failed
    have foreigner := kind error rfl
    refine ⟨error, rfl, fun other => ?_, fun other => ?_, fun calm => absurd calm hectic⟩
    · obtain ⟨message, rfl⟩ := other
      cases foreigner
    · obtain ⟨message, rfl⟩ := other
      cases foreigner

/-! ## The request around it -/

/-- Only a compare-and-set changes what a request compared. -/
theorem exec_compared {w w' : World} {c : Choice} {op : Op} {reply : op.Reply}
    (step : w.exec i c op = some (reply, w'))
    (other : ∀ id expected change, ¬op.Compares id expected change) :
    (w'.db.sessions i).compared = (w.db.sessions i).compared := by
  have moved := World.exec_database step
  generalize w.db = db at moved ⊢
  generalize w'.db = db' at moved ⊢
  cases moved with
  | aside _ keeps => exact keeps.compared
  | compare compares _ => exact absurd compares (other _ _ _)
  | insert _ => rw [Database.insertStep_sessions]
  | rollback =>
      rcases rollback_sessions db i with same | ended
      · rw [same]
      · rw [ended]
  | commit => rw [Database.commitStep_session]

theorem unlost_triple {α : Type} {p : Py α} (expected : DateTime)
    (sends : p.Sends fun op => ∀ id expected change, ¬op.Compares id expected change) :
    σ.assumed.Triple i (Own i fun s r => ¬Lost expected s r) p
      fun _ => Own i fun s r => ¬Lost expected s r := by
  apply Triple.of_sends sends (assumed_own σ _)
  · exact fun _ _ _ _ _ => trivial
  · intro op w reply w' other _ unlost step _ lost
    obtain ⟨c, -, step⟩ := step
    obtain ⟨seen, compared, unfit⟩ := lost
    rw [exec_compared step other] at compared
    exact unlost ⟨seen, compared, unfit⟩

theorem Tried.defeated {id : ℤ} {expected : DateTime} {w : World}
    (tried : Tried i id expected 0 w) : Own i (Defeated expected) w ∧ Looked i id true w := by
  obtain ⟨evaluated, looked⟩ := tried
  obtain ⟨seen, compared, fits⟩ := evaluated.compared
  exact ⟨⟨⟨seen, compared, fun fit => absurd (fits.mpr fit) (lt_irrefl 0)⟩, evaluated.empty rfl⟩,
    looked⟩

theorem Tried.unlost {id : ℤ} {expected : DateTime} {count : ℕ} {w : World}
    (tried : Tried i id expected count w) (matched : 0 < count) :
    Own i (fun s r => ¬Lost expected s r) w := by
  intro lost
  obtain ⟨other, compared', unfit⟩ := lost
  obtain ⟨seen, compared, fits⟩ := tried.1.compared
  obtain rfl := Option.some.inj (compared.symm.trans compared')
  exact unfit (fits.mp matched)

abbrev reading : Op → Prop :=
  Footprint (fun statement => statement.writesArticle = false) (fun _ => True) True

theorem reading_compares {op : Op} (may : reading op)
    (id : ℤ) (expected : DateTime) (change : ArticleRow → ArticleRow) :
    ¬op.Compares id expected change := by
  intro compares
  cases op with
  | mysql statement =>
      cases statement with
      | updateArticle _ _ _ _ => cases may
      | softDeleteArticle _ _ _ => cases may
      | _ => exact compares
  | _ => exact compares

theorem conditional_judged {α : Type} (foreign : σ.Foreign) (service : ArticleService)
    {actorId id : ℤ} {expected : DateTime} (cas : Py ℕ) (rest : ℤ → ℕ → Py α)
    (compare : σ.assumed.Triple i (Shown i id) cas (okOr (Tried i id expected) (Unmatched i)))
    (lost : ∀ authorId, rest authorId 0 = service.raiseConflictOrNotFound id)
    (won : ∀ authorId count, 0 < count → (rest authorId count).Sends reading) :
    σ.assumed.Triple i (Own i Untested)
      (do
        let article ← service.load id
        ArticleService.authorize actorId article
        let authorId := (← articleAttributes article).authorId
        let rowcount ← cas
        rest authorId rowcount) (Judged σ i id expected) := by
  have early : ∀ {β : Type} (outcome : Except Exc β) w, Unmatched i w →
      Judged σ i id expected outcome w :=
    fun _ _ unmatched => Judged.of_unlost (unlost_of_unmatched unmatched)
  refine Triple.bind (load_looked service id) (fun article => ?_)
    fun error w _ untested => early _ w (Untested.compared untested)
  by_cases other : article ≠ id
  · exact fun w _ found => absurd found.1 other
  obtain rfl := not_not.mp other
  have shown : ∀ {β : Type} {p : Py β}, (p.Sends fun op => op.isLocal = true) →
      σ.assumed.Triple i (Shown i article) p fun _ => Shown i article :=
    fun sends => local_triple (Shown.stable article) sends
  refine Triple.bind ((shown (authorize_local actorId article)).mono (fun _ _ found => found.2)
    fun _ _ _ holds => holds) (fun _ => ?_) fun error w _ holds => early _ w holds.1.compared
  refine Triple.bind (shown (answer_sends
    (show (Op.articleAttributes article).isLocal = true from rfl) _)) (fun row => ?_)
    fun error w _ holds => early _ w holds.1.compared
  refine Triple.bind compare (fun count => ?_) fun error w _ unmatched => early _ w unmatched
  by_cases none_ : count = 0
  · subst none_
    rw [lost]
    exact (lost_triple foreign service).mono (fun _ _ tried => tried.defeated)
      fun _ _ _ judged => judged
  · have matched := Nat.pos_of_ne_zero none_
    have compares := (won row.authorId count matched).mono fun _ => reading_compares
    exact (unlost_triple expected compares).mono (fun _ _ tried => tried.unlost matched)
      fun _ _ _ unlost => Judged.of_unlost unlost

/-- What follows a compare-and-set of `update`. -/
abbrev ArticleService.updated (service : ArticleService) (id authorId : ℤ) (count : ℕ) :
    Py ArticleOut :=
  if count = 0 then service.raiseConflictOrNotFound id
  else do
    service.invalidateAfterCommit authorId (some id)
    let article ← service.load id
    return (← articleAttributes article).out

/-- What follows a compare-and-set of `delete`. -/
abbrev ArticleService.deleted (service : ArticleService) (id authorId : ℤ) (count : ℕ) : Py Unit :=
  if count = 0 then service.raiseConflictOrNotFound id
  else service.invalidateAfterCommit authorId (some id)

theorem updated_sends (service : ArticleService) (id authorId : ℤ) (count : ℕ)
    (matched : 0 < count) : (service.updated id authorId count).Sends reading := by
  rw [ArticleService.updated, if_neg matched.ne']
  refine Sends.bind (invalidateAfterCommit_sends service _ _ trivial) fun _ => ?_
  refine Sends.bind (load_sends service rfl) fun article => ?_
  exact Sends.bind (articleAttributes_sends article) fun _ => trivial

theorem deleted_sends (service : ArticleService) (id authorId : ℤ) (count : ℕ)
    (matched : 0 < count) : (service.deleted id authorId count).Sends reading := by
  rw [ArticleService.deleted, if_neg matched.ne']
  exact invalidateAfterCommit_sends service _ _ trivial

theorem update_judged (foreign : σ.Foreign) (service : ArticleService) {actorId id : ℤ}
    {title body : String} {expected : DateTime} :
    σ.assumed.Triple i (Own i Untested) (service.update actorId id title body expected)
      (Judged σ i id expected) :=
  conditional_judged foreign service _ (service.updated id) (updateCas_tried service.rt)
    (fun _ => if_pos rfl) (updated_sends service id)

theorem delete_judged (foreign : σ.Foreign) (service : ArticleService) {actorId id : ℤ}
    {expected : DateTime} :
    σ.assumed.Triple i (Own i Untested) (service.delete actorId id expected)
      (Judged σ i id expected) :=
  conditional_judged foreign service _ (service.deleted id) (softDeleteCas_tried service.rt)
    (fun _ => if_pos rfl) (deleted_sends service id)

theorem untested_triple {α : Type} {p : Py α} (sends : p.Sends reading) :
    σ.assumed.Triple i (Own i Untested) p fun _ => Own i Untested := by
  apply Triple.of_sends sends (assumed_own σ _)
  · exact fun _ _ _ _ _ => trivial
  · intro op w reply w' may _ untested step _
    obtain ⟨c, -, step⟩ := step
    refine ⟨(exec_compared step (reading_compares may)).trans untested.compared, ?_⟩
    have moved := World.exec_database step
    generalize dbw : w.db = db at moved
    generalize dbw' : w'.db = db' at moved ⊢
    subst dbw
    cases moved with
    | aside _ keeps => exact keeps.writes.trans untested.empty
    | compare compares _ => exact absurd compares (reading_compares may _ _ _)
    | insert _ => cases may
    | rollback =>
        rcases rollback_sessions w.db i with same | ended
        · rw [same]
          exact untested.empty
        · rw [ended]
          rfl
    | commit => exact may.elim

def Request.conditional : Request → Option (ℤ × DateTime)
  | .update _ id _ _ expected | .delete _ id expected => some (id, expected)
  | _ => none

theorem handler_judged (foreign : σ.Foreign) (app : App) {id : ℤ} {expected : DateTime}
    {request : Request} (conditional : request.conditional = some (id, expected)) :
    σ.assumed.Triple i (Own i Untested) (app.handler request) (Judged σ i id expected) := by
  have early : ∀ {β : Type} (outcome : Except Exc β) w, Own i Untested w →
      Judged σ i id expected outcome w :=
    fun _ _ untested => Judged.of_unlost (unlost_of_unmatched (Untested.compared untested))
  have user : ∀ principal, σ.assumed.Triple i (Own i Untested) (app.getCurrentUser principal)
      fun _ => Own i Untested :=
    fun principal => untested_triple (getCurrentUser_sends app principal fun _ => rfl)
  cases request with
  | update principal target title body token =>
      obtain ⟨rfl, rfl⟩ := Prod.mk.inj (Option.some.inj conditional)
      refine Triple.bind (user principal) (fun actor => ?_)
        fun error w _ untested => early _ w untested
      refine Triple.bind (update_judged foreign app.articles) (fun out => ?_)
        fun error w _ judged => ?_
      · exact Triple.ret (Judged.stable _ _ _) fun _ _ judged => .of_unlost judged.unlost
      · exact judged.raised
  | delete principal target token =>
      obtain ⟨rfl, rfl⟩ := Prod.mk.inj (Option.some.inj conditional)
      refine Triple.bind (user principal) (fun actor => ?_)
        fun error w _ untested => early _ w untested
      refine Triple.bind (delete_judged foreign app.articles) (fun out => ?_)
        fun error w _ judged => ?_
      · exact Triple.ret (Judged.stable _ _ _) fun _ _ judged => .of_unlost judged.unlost
      · exact judged.raised
  | _ => cases conditional

theorem untilCommit_judged (foreign : σ.Foreign) (app : App) {id : ℤ} {expected : DateTime}
    {request : Request} (conditional : request.conditional = some (id, expected)) :
    σ.assumed.Triple i (Own i Untested) (untilCommit (app.handler request))
      (Judged σ i id expected) := by
  refine Triple.bind (handler_judged foreign app conditional) (fun response => ?_)
    fun error w _ judged => judged.raised
  refine Triple.mono (A := Own i fun s r => ¬Lost expected s r)
    (B := fun _ => Own i fun s r => ¬Lost expected s r) ?_ (fun _ _ judged => judged.unlost)
    fun _ _ _ unlost => .of_unlost unlost
  apply unlost_triple
  refine Sends.bind (answer_sends (fun _ _ _ impossible => impossible.elim) _) fun _ => trivial

/-- What is known of the answer is about the database. -/
theorem Judged.db {α : Type} {id : ℤ} {expected : DateTime} {outcome : Except Exc α} {w w' : World}
    (judged : Judged σ i id expected outcome w) (same : w'.db = w.db) :
    Judged σ i id expected outcome w' := by
  have session : w'.db.sessions i = w.db.sessions i := by rw [same]
  have moved : Extends w.db w'.db := by
    rw [same]
    exact Extends.refl w.db
  exact judged.transport (congrArg Session.compared session) (congrArg Session.loadedFrom session)
    moved

theorem Judged.rolledBack {α : Type} {id : ℤ} {expected : DateTime} {outcome : Except Exc α}
    {w : World} (judged : Judged σ i id expected outcome w) :
    Judged σ i id expected outcome { w with db := w.db.rollbackStep i } := by
  have session : ((w.db.rollbackStep i).sessions i).compared = (w.db.sessions i).compared ∧
      ((w.db.rollbackStep i).sessions i).loadedFrom = (w.db.sessions i).loadedFrom := by
    rcases rollback_sessions w.db i with same | ended
    · rw [same]
      exact ⟨rfl, rfl⟩
    · rw [ended]
      exact ⟨rfl, rfl⟩
  exact judged.transport session.1 session.2
    (Database.rollbackStep_own w.db i).kept

theorem abort_judged {α : Type} (foreign : σ.Foreign) {id : ℤ} {expected : DateTime}
    (error : Exc) :
    σ.assumed.Triple i (Judged σ i id expected (.error error : Except Exc α))
      (rollback.bind fun _ => discardAfterCommit)
      fun outcome => Judged σ i id expected (afterFailure error outcome : Except Exc α) := by
  refine Triple.call (fun reply => Judged σ i id expected (afterFailure error reply : Except Exc α))
    (Judged.stable _ _ _) (fun _ _ _ => trivial) (fun w reply w' _ judged step _ => ?_)
    fun reply => ?_
  · have honest := foreign.dutiful.honest _ _ _ _ step
    rw [rollback_exec step]
    cases reply with
    | ok _ => exact judged.rolledBack
    | error failure =>
        obtain ⟨c, allowed, step⟩ := step
        have answer := (Prod.mk.inj (Option.some.inj step)).1
        have kind : failure.answersLoss = false := honest
        intro _
        refine ⟨failure, rfl, fun other => ?_, fun other => ?_, fun calm => ?_⟩
        · obtain ⟨message, rfl⟩ := other
          cases kind
        · obtain ⟨message, rfl⟩ := other
          cases kind
        · rw [World.waited, (calm w i _ c allowed).1] at answer
          cases answer
  · cases reply with
    | ok _ =>
        show σ.assumed.Triple i _ discardAfterCommit _
        refine Triple.bind (C := okOr (fun _ => Judged σ i id expected (.error error : Except Exc α))
          fun _ => False) ?_ (fun _ => Triple.ret (Judged.stable _ _ _) fun _ _ judged => judged)
          fun _ _ _ impossible => impossible.elim
        refine Triple.call (fun _ => Judged σ i id expected (.error error : Except Exc α))
          (Judged.stable _ _ _) (fun _ _ _ => trivial) (fun w reply w' _ judged step _ => ?_)
          fun _ => Triple.ret (Judged.stable _ _ _) fun _ _ judged => judged
        obtain ⟨c, -, step⟩ := step
        exact judged.db (World.exec_db rfl step)
    | error failure => exact Triple.raise (Judged.stable _ _ _) fun _ _ judged => judged

theorem drainAfterCommit_quiet (cache : ArticleCache) : (drainAfterCommit cache).Sends
    fun op => ∀ id expected change, ¬op.Compares id expected change := by
  apply drainAfterCommit_sends
  · intro op isLocal _ _ _ compares
    cases op with
    | mysql statement => cases isLocal
    | _ => exact compares
  · intro op asks _ _ _ compares
    cases op with
    | mysql statement => cases asks
    | _ => exact compares
  · exact fun _ _ _ _ compares => compares
  · exact fun _ _ _ _ compares => compares
  · exact fun _ _ _ compares => compares

theorem serve_judged (foreign : σ.Foreign) (app : App) {id : ℤ} {expected : DateTime}
    {request : Request} (conditional : request.conditional = some (id, expected)) :
    σ.assumed.Triple i (Own i Untested) (app.serve request) (Judged σ i id expected) := by
  refine getSession_triple app.cache (Judged.stable id expected)
    (untilCommit_judged foreign app conditional) (fun response => ?_) (abort_judged foreign)
  refine Triple.mono (A := Own i fun s r => ¬Lost expected s r)
    (B := fun _ => Own i fun s r => ¬Lost expected s r) ?_ (fun _ _ judged => judged.unlost)
    fun _ _ _ unlost => .of_unlost unlost
  exact unlost_triple expected (drainAfterCommit_quiet app.cache)

end

end ContentPlatform
