import ContentPlatform.World.Guarded
import ContentPlatform.World.Rows

/-!
# What a write request does, statement by statement

Every request keeps the protocol of the articles table.  Along the way this
records what a request knows: which row its compare-and-set saw, what it queued,
and how it ends.
-/

set_option autoImplicit false

namespace ContentPlatform

open Program Py Protocol

/-- The requests of a system, what its environment may decide, and what happens around them. -/
structure Setting where
  requests : Pid → Request
  allow : Allowance
  env : World → World → Prop
  outside : ∀ w w', env w w' → Outside w w'

/-- Nothing fails and no breaker refuses. -/
def Setting.Calm (σ : Setting) : Prop :=
  ∀ w i op c, σ.allow w i op c → c.fault = none ∧ ∀ d, op = .breakerAllow d → c.flag = true

def Setting.rows (σ : Setting) : Protocol Op Op.Reply World :=
  rowsProtocol σ.requests σ.allow σ.env σ.outside

theorem Setting.hosts (σ : Setting) : Hosts σ.rows (Exec σ.allow) := by
  refine .of_world rfl fun i op w isLocal => ?_
  cases op <;> trivial

/-- A fact about what belongs to request `i` alone. -/
def Own (i : Pid) (Q : Session → RequestState → Prop) (w : World) : Prop :=
  Q (w.db.sessions i) (w.requests i)

/-- A fact about some committed state and what belongs to request `i` alone. -/
def Past (i : Pid) (Q : Session → RequestState → ℕ → Table → Prop) (w : World) : Prop :=
  ∃ n ≤ w.db.version, Q (w.db.sessions i) (w.requests i) n (w.db.history n)

theorem Own.undisturbed {i : Pid} {Q : Session → RequestState → Prop} {w w' : World}
    (holds : Own i Q w) (moved : Undisturbed i w w') : Own i Q w' := by
  rw [Own, moved.session, moved.request]
  exact holds

theorem own_db {i : Pid} {Q : Session → RequestState → Prop} {w : World} {db : Database}
    {session : Session} (same : db.sessions i = session) (holds : Q session (w.requests i)) :
    Own i Q { w with db := db } := by
  rw [Own, same]
  exact holds

theorem Past.undisturbed {i : Pid} {Q : Session → RequestState → ℕ → Table → Prop} {w w' : World}
    (holds : Past i Q w) (moved : Undisturbed i w w') : Past i Q w' := by
  obtain ⟨n, past, fact⟩ := holds
  refine ⟨n, past.trans moved.db.version, ?_⟩
  rw [moved.session, moved.request, moved.db.history n past]
  exact fact

theorem Past.extends_ {i : Pid} {Q : ℕ → Table → Prop} {w w' : World}
    (holds : Past i (fun _ _ => Q) w) (moved : Extends w.db w'.db) :
    Past i (fun _ _ => Q) w' := by
  obtain ⟨n, past, fact⟩ := holds
  exact ⟨n, past.trans moved.version, by rw [moved.history n past]; exact fact⟩

section
variable (σ : Setting) {i : Pid}

theorem stable_own (Q : Session → RequestState → Prop) : σ.rows.Stable i (Own i Q) :=
  fun _ _ _ holds moved _ => holds.undisturbed moved

theorem stable_past (Q : Session → RequestState → ℕ → Table → Prop) :
    σ.rows.Stable i (Past i Q) :=
  fun _ _ _ holds moved _ => holds.undisturbed moved

variable {σ}

/-- A statement fails with the fault that the environment decides, or MySQL answers it. -/
theorem mysql_exec {allow : Allowance} {statement : Statement} {w w' : World}
    {reply : Except Exc statement.Reply} (step : Exec allow i (.mysql statement) w reply w') :
    ∃ c, allow w i (.mysql statement) c ∧
      ((∃ error, c.fault = some error ∧ reply = .error error ∧
          w' = { w with db := w.db.begin_ i }) ∨
        ∃ db', c.fault = none ∧ w.db.statementStep i c statement = some (reply, db') ∧
          w' = { w with db := db' }) := by
  obtain ⟨c, allowed, step⟩ := step
  refine ⟨c, allowed, ?_⟩
  simp only [World.exec] at step
  split at step
  · rename_i error fault
    obtain ⟨rfl, rfl⟩ := Prod.mk.inj (Option.some.inj step)
    exact Or.inl ⟨error, fault, rfl, rfl⟩
  · rename_i fault
    obtain ⟨⟨_, db⟩, answered, same⟩ := Option.map_eq_some_iff.mp step
    obtain ⟨rfl, rfl⟩ := Prod.mk.inj same
    exact Or.inr ⟨db, fault, answered, rfl⟩

/-- A statement fails, which it never does in a calm system, or MySQL answers it. -/
theorem mysql_cases {statement : Statement} {w w' : World} {reply : Except Exc statement.Reply}
    (step : Exec σ.allow i (.mysql statement) w reply w') :
    (¬σ.Calm ∧ (∃ error, reply = .error error) ∧ w' = { w with db := w.db.begin_ i }) ∨
      ∃ c db', w.db.statementStep i c statement = some (reply, db') ∧ w' = { w with db := db' } := by
  obtain ⟨c, allowed, ⟨error, fault, failed, same⟩ | ⟨db', -, answered, same⟩⟩ := mysql_exec step
  · refine Or.inl ⟨fun calm => ?_, ⟨error, failed⟩, same⟩
    rw [(calm w i _ c allowed).1] at fault
    cases fault
  · exact Or.inr ⟨c, db', answered, same⟩

theorem refused_not_calm {dependency : Dependency}
    (refused : ∃ v, Exec σ.allow i (.breakerAllow dependency) v false v) : ¬σ.Calm := by
  obtain ⟨v, c, allowed, step⟩ := refused
  have closed : c.flag = false := (Prod.mk.inj (Option.some.inj step)).1
  intro calm
  rw [(calm v i _ c allowed).2 dependency rfl] at closed
  cases closed

theorem rollback_exec {allow : Allowance} {w w' : World} {reply : Except Exc Unit}
    (step : Exec allow i .rollback w reply w') : w' = { w with db := w.db.rollbackStep i } := by
  obtain ⟨c, -, step⟩ := step
  exact ((Prod.mk.inj (Option.some.inj step)).2).symm

/-! ## Before the compare-and-set -/

structure Fresh (s : Session) (r : RequestState) : Prop where
  actor : s.actor = none
  user : s.user = .absent
  empty : (s.transaction.getD .new).writes = []
  compared : s.compared = none
  committed : s.committed = none
  queue : r.queue = []

/-- A request that has loaded its user and written nothing yet. -/
structure Acting (calm : Prop) (actorId : ℤ) (s : Session) (r : RequestState) : Prop where
  actor : ∃ user, s.actor = some user ∧ user.id = actorId
  user : calm → ∃ user, s.user = .loaded user ∧ user.id = actorId
  empty : (s.transaction.getD .new).writes = []
  compared : s.compared = none
  committed : s.committed = none
  queue : r.queue = []

theorem rollback_sessions (db : Database) (i : Pid) :
    (db.rollbackStep i).sessions i = db.sessions i ∨ (db.rollbackStep i).sessions i =
      { db.sessions i with
        transaction := none
        user := (db.sessions i).user.expire
        article := (db.sessions i).article.expire } := by
  unfold Database.rollbackStep
  split
  · exact Or.inl rfl
  · exact Or.inr (Function.update_self ..)

def FoundUser (i : Pid) (calm : Prop) : Option ℤ → World → Prop
  | some user => Own i (Acting calm user)
  | none => Own i Fresh

theorem asks_selectUser (userId : ℤ) {A : World → Prop}
    (principal : (σ.requests i).principal = some userId) (fresh : ∀ w, A w → Own i Fresh w) :
    Asks σ.rows i (.mysql (.selectUser userId)) A
      (okOr (FoundUser i σ.Calm) fun w => Own i Fresh w ∧ ¬σ.Calm) := by
  refine ⟨fun w _ holds => ⟨principal, (fresh w holds).actor, (fresh w holds).user⟩,
    fun w reply w' kept holds step kept' => ?_⟩
  have before := fresh w holds
  rcases mysql_cases step with ⟨hectic, ⟨error, rfl⟩, rfl⟩ | ⟨c, db', answered, rfl⟩
  · exact ⟨own_db (Database.begin_sessions ..) ⟨before.actor, before.user, before.empty,
      before.compared, before.committed, before.queue⟩, hectic⟩
  · simp only [Database.statementStep] at answered
    split at answered <;> obtain ⟨rfl, rfl⟩ := Prod.mk.inj (Option.some.inj answered)
    · rename_i user found
      refine own_db (Database.observeActor_sessions ..) ?_
      rw [Database.receiveUser_sessions, Database.takeView_sessions]
      exact ⟨⟨user, rfl, rfl⟩, fun _ => ⟨user, by simp [before.user, Slot.receive], rfl⟩,
        before.empty, before.compared, before.committed, before.queue⟩
    · exact own_db (Database.takeView_sessions ..) ⟨before.actor, before.user, before.empty,
        before.compared, before.committed, before.queue⟩

theorem Fresh.rollback {w : World} (before : Own i Fresh w) :
    Own i Fresh { w with db := w.db.rollbackStep i } := by
  rcases rollback_sessions w.db i with same | ended
  · exact own_db same before
  · exact own_db ended ⟨before.actor, by rw [before.user]; rfl, rfl, before.compared,
      before.committed, before.queue⟩

theorem getCurrentUser_triple (app : App) (principal : Option ℤ)
    (acts : (σ.requests i).principal = principal) :
    σ.rows.Triple i (Own i Fresh) (app.getCurrentUser principal) fun outcome w =>
      match outcome with
      | .ok user => Own i (Acting σ.Calm user) w
      | .error error => Own i Fresh w ∧
          (σ.Calm → error = .unauthenticated "Missing or invalid identity.") := by
  cases principal with
  | none => exact Triple.raise (stable_own σ _) fun _ _ holds => ⟨holds, fun _ => rfl⟩
  | some userId =>
      have read : σ.rows.Triple i (Own i Fresh) (UserRepository.getById app.rt userId)
          (okOr (FoundUser i σ.Calm) fun w => Own i Fresh w ∧ ¬σ.Calm) :=
        guardedRead_triple σ.hosts (stable_own σ _)
        (fun found => by cases found <;> exact stable_own σ _)
        (stable_pure _ (stable_own σ _))
        (asks_selectUser userId acts fun _ holds => holds)
        (asks_selectUser userId acts fun _ holds => holds.1)
        ⟨fun _ _ _ => trivial, fun w reply w' _ holds step _ => by
          rw [rollback_exec step]
          exact ⟨Fresh.rollback holds.1, holds.2⟩⟩
        fun _ holds refused => ⟨holds, refused_not_calm refused⟩
      refine Triple.bind read (fun found => ?_) fun error w _ holds =>
        ⟨holds.1, fun calm => absurd calm holds.2⟩
      cases found with
      | some user => exact Triple.ret (stable_own σ _) fun _ _ holds => holds
      | none => exact Triple.raise (stable_own σ _) fun _ _ holds => ⟨holds, fun _ => rfl⟩

/-- What the answer to the load of an article tells: in a calm system the row is at hand. -/
def FoundArticle (i : Pid) (calm : Prop) (id : ℤ) (Q : Session → RequestState → Prop) :
    Option ℤ → World → Prop
  | some article, w => article = id ∧ Own i Q w ∧
      (calm → ∃ row, (w.db.sessions i).article = .loaded row ∧ row.id = id)
  | none, w => Own i Q w

/-- A fact about a session that neither a read nor a rollback that loses no writes changes. -/
structure Settled (calm : Prop) (Q : Session → RequestState → Prop) : Prop where
  read : ∀ s r view from_ article, Q s r → Q { s with
    transaction := some { s.transaction.getD .new with view := view }
    loadedFrom := from_, article := article } r
  rollback : ∀ s r, ¬calm → Q s r → Q { s with
    transaction := none, user := s.user.expire, article := s.article.expire } r

theorem Settled.acting (calm : Prop) (actorId : ℤ) : Settled calm (Acting calm actorId) :=
  ⟨fun _ _ _ _ _ before => ⟨before.actor, before.user, before.empty, before.compared,
      before.committed, before.queue⟩,
    fun _ _ hectic before => ⟨before.actor, fun peace => absurd peace hectic, rfl,
      before.compared, before.committed, before.queue⟩⟩

theorem Settled.rolledBack {calm : Prop} {Q : Session → RequestState → Prop}
    (settled : Settled calm Q) {w : World} (hectic : ¬calm) (before : Own i Q w) :
    Own i Q { w with db := w.db.rollbackStep i } := by
  rcases rollback_sessions w.db i with same | ended
  · exact own_db same before
  · exact own_db ended (settled.rollback _ _ hectic before)

theorem asks_selectArticle {Q : Session → RequestState → Prop} (settled : Settled σ.Calm Q)
    (id : ℤ) {A : World → Prop} (own : ∀ w, A w → Own i Q w) :
    Asks σ.rows i (.mysql (.selectArticle id)) A
      (okOr (FoundArticle i σ.Calm id Q) fun w => Own i Q w ∧ ¬σ.Calm) := by
  refine ⟨fun _ _ _ => trivial, fun w reply w' kept holds step kept' => ?_⟩
  have before := own w holds
  rcases mysql_cases step with ⟨hectic, ⟨error, rfl⟩, rfl⟩ | ⟨c, db', answered, rfl⟩
  · exact ⟨own_db (Database.begin_sessions ..) (settled.read _ _ _ _ _ before), hectic⟩
  · have unread : Own i Q { w with db := w.db.readArticles i } :=
      own_db (Database.readArticles_sessions ..) (settled.read _ _ _ _ _ before)
    simp only [Database.statementStep] at answered
    split at answered
    · rename_i row found
      have same : row.id = id := Table.find_id found
      split at answered <;> obtain ⟨rfl, rfl⟩ := Prod.mk.inj (Option.some.inj answered)
      · have session : ((w.db.readArticles i).receiveArticle i row).sessions i =
            { w.db.sessions i with
              transaction := some { w.db.transaction i with view := some (w.db.viewed i) }
              loadedFrom := some (w.db.viewed i)
              article := (w.db.sessions i).article.receive ArticleRow.id row } := by
          rw [Database.receiveArticle_sessions, Database.readArticles_sessions]
        refine ⟨same, own_db session (settled.read _ _ _ _ _ before), fun _ => ?_⟩
        rw [show ({ w with db := (w.db.readArticles i).receiveArticle i row } : World).db.sessions i =
          _ from session]
        cases slot : (w.db.sessions i).article with
        | loaded held =>
            by_cases equal : held.id = row.id
            · exact ⟨held, by simp [Slot.receive, equal], equal.trans same⟩
            · exact ⟨row, by simp [Slot.receive, equal], same⟩
        | _ => exact ⟨row, rfl, same⟩
      · exact unread
    · obtain ⟨rfl, rfl⟩ := Prod.mk.inj (Option.some.inj answered)
      exact unread

theorem FoundArticle.stable (σ : Setting) (Q : Session → RequestState → Prop) (id : ℤ)
    (found : Option ℤ) :
    σ.rows.Stable i (FoundArticle i σ.Calm id Q found) := by
  intro w w' _ holds moved _
  cases found with
  | none => exact Own.undisturbed holds moved
  | some article =>
      exact ⟨holds.1, holds.2.1.undisturbed moved, by rw [moved.session]; exact holds.2.2⟩

theorem articleGet_triple (rt : Runtime) {Q : Session → RequestState → Prop}
    (settled : Settled σ.Calm Q) (id : ℤ) :
    σ.rows.Triple i (Own i Q) (ArticleRepository.get rt id)
      (okOr (FoundArticle i σ.Calm id Q) fun w => Own i Q w ∧ ¬σ.Calm) :=
  guardedRead_triple σ.hosts (stable_own σ _) (FoundArticle.stable σ Q id)
    (stable_pure _ (stable_own σ _)) (asks_selectArticle settled id fun _ holds => holds)
    (asks_selectArticle settled id fun _ holds => holds.1)
    ⟨fun _ _ _ => trivial, fun w reply w' kept holds step kept' => by
      rw [rollback_exec step]
      exact ⟨settled.rolledBack holds.2 holds.1, holds.2⟩⟩
    fun _ holds refused => ⟨holds, refused_not_calm refused⟩

theorem load_triple (service : ArticleService) {Q : Session → RequestState → Prop}
    (settled : Settled σ.Calm Q) (id : ℤ) :
    σ.rows.Triple i (Own i Q) (service.load id) fun outcome w =>
      match outcome with
      | .ok article => FoundArticle i σ.Calm id Q (some article) w
      | .error error => Own i Q w ∧
          (σ.Calm → error = .articleNotFound "Article does not exist.") := by
  refine Triple.bind (articleGet_triple service.rt settled id) (fun found => ?_)
    fun error w _ holds => ⟨holds.1, fun calm => absurd calm holds.2⟩
  cases found with
  | some article =>
      exact Triple.ret (FoundArticle.stable σ Q id (some article)) fun _ _ holds => holds
  | none => exact Triple.raise (stable_own σ _) fun _ _ holds => ⟨holds, fun _ => rfl⟩

theorem raiseConflictOrNotFound_triple {α : Type} (service : ArticleService)
    {Q : Session → RequestState → Prop} (settled : Settled σ.Calm Q) (id : ℤ) :
    σ.rows.Triple i (Own i Q) (service.raiseConflictOrNotFound id : Py α) fun outcome w =>
      ∃ error, outcome = .error error ∧ Own i Q w ∧
        (σ.Calm → (∃ message, error = .articleNotFound message) ∨
          ∃ message, error = .conflict message) := by
  refine Triple.bind (articleGet_triple service.rt settled id) (fun found => ?_)
    fun error w _ holds => ⟨error, rfl, holds.1, fun calm => absurd calm holds.2⟩
  cases found with
  | some article =>
      exact Triple.raise (FoundArticle.stable σ Q id (some article))
        fun _ _ holds => ⟨_, rfl, holds.2.1, fun _ => Or.inr ⟨_, rfl⟩⟩
  | none =>
      exact Triple.raise (stable_own σ _)
        fun _ _ holds => ⟨_, rfl, holds, fun _ => Or.inl ⟨_, rfl⟩⟩

/-! ## The ownership check -/

theorem Slot.read_ok {Row : Type} {key : Row → ℤ} {id : ℤ} {slot : Slot Row} {row : Row} :
    slot.read key id = .ok row ↔ slot = .loaded row ∧ key row = id := by
  cases slot with
  | loaded held =>
      by_cases same : key held = id
      · simp only [Slot.read, same, if_true, Except.ok.injEq, Slot.loaded.injEq]
        exact ⟨fun equal => ⟨equal, equal ▸ same⟩, And.left⟩
      · simp only [Slot.read, same, if_false, Slot.loaded.injEq]
        exact ⟨nofun, fun ⟨equal, there⟩ => absurd (equal ▸ there) same⟩
  | _ =>
      simp only [Slot.read]
      exact ⟨nofun, fun impossible => nomatch impossible.1⟩

def Slot.Loaded {Row : Type} (key : Row → ℤ) (id : ℤ) (slot : Slot Row) : Prop :=
  (slot.read key id).isOk = true

theorem Slot.receive_loaded {Row : Type} (key : Row → ℤ) (row : Row) (slot : Slot Row) :
    (slot.receive key row).Loaded key (key row) := by
  cases slot with
  | loaded held =>
      by_cases same : key held = key row
      · simp [receive, Loaded, read, same, Except.isOk, Except.toBool]
      · simp [receive, Loaded, read, same, Except.isOk, Except.toBool]
  | _ => simp [receive, Loaded, read, Except.isOk, Except.toBool]

theorem articleAttributes_triple {A : World → Prop} (stable : σ.rows.Stable i A) (id : ℤ) :
    σ.rows.Triple i A (articleAttributes id) fun outcome w =>
      A w ∧ (w.db.sessions i).article.read ArticleRow.id id = outcome := by
  refine Triple.call (fun reply w => A w ∧ (w.db.sessions i).article.read ArticleRow.id id = reply)
    stable (fun _ _ _ => trivial) (fun w reply w' kept holds step kept' => ?_) fun reply => ?_
  · obtain ⟨c, -, step⟩ := step
    obtain ⟨rfl, rfl⟩ := Prod.mk.inj (Option.some.inj step)
    exact ⟨holds, rfl⟩
  · have stable' := stable_and stable
      (stable_own σ (i := i) fun s _ => s.article.read ArticleRow.id id = reply)
    cases reply with
    | ok row => exact Triple.ret stable' fun _ _ holds => holds
    | error error => exact Triple.raise stable' fun _ _ holds => holds

theorem userAttributes_triple {A : World → Prop} (stable : σ.rows.Stable i A) (id : ℤ) :
    σ.rows.Triple i A (userAttributes id) fun outcome w =>
      A w ∧ (w.db.sessions i).user.read UserRow.id id = outcome := by
  refine Triple.call (fun reply w => A w ∧ (w.db.sessions i).user.read UserRow.id id = reply)
    stable (fun _ _ _ => trivial) (fun w reply w' kept holds step kept' => ?_) fun reply => ?_
  · obtain ⟨c, -, step⟩ := step
    obtain ⟨rfl, rfl⟩ := Prod.mk.inj (Option.some.inj step)
    exact ⟨holds, rfl⟩
  · have stable' := stable_and stable
      (stable_own σ (i := i) fun s _ => s.user.read UserRow.id id = reply)
    cases reply with
    | ok row => exact Triple.ret stable' fun _ _ holds => holds
    | error error => exact Triple.raise stable' fun _ _ holds => holds

/-- The row was committed with this author, who or an admin the actor is. -/
def MayChange (i : Pid) (id authorId : ℤ) : World → Prop :=
  Past i fun s _ _ table => ∃ row, table.find id = some row ∧ row.authorId = authorId ∧
    Authorized s.actor row

/-- The actor is neither the author of the article, as it was committed, nor an admin. -/
def Foreign (i : Pid) (id : ℤ) : World → Prop :=
  Past i fun s _ _ table => ∃ row user, table.find id = some row ∧ s.actor = some user ∧
    row.authorId ≠ user.id ∧ user.isAdmin = false

/-- The instances of a request that has written nothing are its actor and a committed row. -/
theorem instances_committed {calm : Prop} {actorId : ℤ} {w : World} {row : ArticleRow}
    {user : UserRow} (kept : Coherent σ.requests w.db) (acting : Own i (Acting calm actorId) w)
    (article : (w.db.sessions i).article = .loaded row)
    (loaded : (w.db.sessions i).user = .loaded user) :
    (w.db.sessions i).actor = some user ∧
      ∃ n ≤ w.db.version, (w.db.history n).find row.id = some row := by
  constructor
  · obtain ⟨held, actor, -⟩ := acting.actor
    rcases kept.user i user loaded with nobody | somebody
    · rw [nobody] at actor
      cases actor
    · exact somebody
  · rcases kept.article i row article with found | own
    · exact found
    · have empty : (w.db.transaction i).writes = [] := acting.empty
      rw [empty] at own
      cases own

theorem missing_not_calm {actorId id : ℤ} {w : World} {error : Exc}
    (found : FoundArticle i σ.Calm id (Acting σ.Calm actorId) (some id) w)
    (failed : (w.db.sessions i).article.read ArticleRow.id id = .error error) : ¬σ.Calm := by
  intro calm
  obtain ⟨row, loaded, same⟩ := found.2.2 calm
  rw [Slot.read_ok.mpr ⟨loaded, same⟩] at failed
  cases failed

theorem nobody_not_calm {actorId : ℤ} {w : World} {error : Exc}
    (acting : Own i (Acting σ.Calm actorId) w)
    (failed : (w.db.sessions i).user.read UserRow.id actorId = .error error) : ¬σ.Calm := by
  intro calm
  obtain ⟨user, loaded, same⟩ := acting.user calm
  rw [Slot.read_ok.mpr ⟨loaded, same⟩] at failed
  cases failed

theorem authorize_triple (actorId id : ℤ) :
    σ.rows.Triple i (FoundArticle i σ.Calm id (Acting σ.Calm actorId) (some id))
      (ArticleService.authorize actorId id) fun outcome w =>
        FoundArticle i σ.Calm id (Acting σ.Calm actorId) (some id) w ∧
          match outcome with
          | .ok _ => ∀ row, (w.db.sessions i).article = .loaded row → row.id = id →
              MayChange i id row.authorId w
          | .error error => σ.Calm → (∃ message, error = .forbidden message) ∧ Foreign i id w := by
  have stable := FoundArticle.stable (i := i) σ (Acting σ.Calm actorId) id (some id)
  refine Triple.bind (articleAttributes_triple stable id) (fun row => ?_)
    fun error w kept holds => ⟨holds.1, fun calm => absurd calm (missing_not_calm holds.1 holds.2)⟩
  have stable1 := stable_and stable
    (stable_own σ (i := i) fun s _ => s.article.read ArticleRow.id id = .ok row)
  refine Triple.bind (userAttributes_triple stable1 actorId) (fun user => ?_)
    fun error w kept holds =>
      ⟨holds.1.1, fun calm => absurd calm (nobody_not_calm holds.1.1.2.1 holds.2)⟩
  have stable2 := stable_and stable1
    (stable_own σ (i := i) fun s _ => s.user.read UserRow.id actorId = .ok user)
  have pass : ∀ w, Coherent σ.requests w.db →
      FoundArticle i σ.Calm id (Acting σ.Calm actorId) (some id) w →
      (w.db.sessions i).article.read ArticleRow.id id = .ok row →
      (w.db.sessions i).user.read UserRow.id actorId = .ok user →
      (row.authorId = user.id ∨ user.isAdmin = true) →
      ∀ held, (w.db.sessions i).article = .loaded held → held.id = id →
        MayChange i id held.authorId w := by
    intro w kept found read readUser allowed held loaded same
    obtain rfl : row = held := Slot.loaded.inj ((Slot.read_ok.mp read).1.symm.trans loaded)
    obtain ⟨actor, n, past, there⟩ :=
      instances_committed kept found.2.1 loaded (Slot.read_ok.mp readUser).1
    exact ⟨n, past, row, same ▸ there, rfl, user, actor, allowed⟩
  by_cases owner : row.authorId = user.id
  · show Triple _ _ _ (ite (row.authorId ≠ user.id) _ _) _
    rw [if_neg (not_not.mpr owner)]
    exact Triple.ret stable2 fun w kept holds =>
      ⟨holds.1.1, pass w kept holds.1.1 holds.1.2 holds.2 (Or.inl owner)⟩
  · show Triple _ _ _ (ite (row.authorId ≠ user.id) _ _) _
    rw [if_pos owner]
    refine Triple.bind (userAttributes_triple stable2 actorId) (fun again => ?_)
      fun error w kept holds =>
        ⟨holds.1.1.1, fun calm => absurd calm (nobody_not_calm holds.1.1.1.2.1 holds.2)⟩
    have stable3 := stable_and stable2
      (stable_own σ (i := i) fun s _ => s.user.read UserRow.id actorId = .ok again)
    cases admin : again.isAdmin with
    | true =>
        refine Triple.ret stable3 fun w kept holds => ⟨holds.1.1.1, ?_⟩
        obtain rfl : user = again := Except.ok.inj (holds.1.2.symm.trans holds.2)
        exact pass w kept holds.1.1.1 holds.1.1.2 holds.1.2 (Or.inr admin)
    | false =>
        refine Triple.raise stable3 fun w kept holds => ⟨holds.1.1.1, fun _ => ⟨⟨_, rfl⟩, ?_⟩⟩
        obtain rfl : user = again := Except.ok.inj (holds.1.2.symm.trans holds.2)
        obtain ⟨loaded, same⟩ := Slot.read_ok.mp holds.1.1.2
        obtain ⟨actor, n, past, there⟩ :=
          instances_committed kept holds.1.1.1.2.1 loaded (Slot.read_ok.mp holds.2).1
        exact ⟨n, past, row, user, same ▸ there, actor, owner, admin⟩

/-! ## The compare-and-set -/

/-- The row that was seen is live and the token is its version. -/
def Fits (expected : DateTime) (seen : Option ArticleRow) : Prop :=
  ∃ row, seen = some row ∧ row.live = true ∧ row.updatedAt = expected

/-- A request that has run its compare-and-set and not ended its transaction. -/
structure Tested (expected : DateTime) (matched : Prop) (s : Session) (r : RequestState) :
    Prop where
  actor : s.actor ≠ none
  compared : ∃ seen, s.compared = some seen ∧ (Fits expected seen ↔ matched)
  committed : s.committed = none
  queue : r.queue = []

theorem Settled.tested (calm : Prop) (expected : DateTime) (matched : Prop) :
    Settled calm (Tested expected matched) :=
  ⟨fun _ _ _ _ _ before => ⟨before.actor, before.compared, before.committed, before.queue⟩,
    fun _ _ _ before => ⟨before.actor, before.compared, before.committed, before.queue⟩⟩

/-- The write that is waiting for the commit marks the row as deleted. -/
def Deleting (id : ℤ) (s : Session) (_ : RequestState) : Prop :=
  ∃ row, (s.transaction.getD .new).writes = [row] ∧ row.id = id ∧ row.live = false

theorem casStep_session {db db' : Database} {id : ℤ} {expected stamp : DateTime}
    {change : ArticleRow → ArticleRow} {count : ℕ}
    (step : db.casStep i id expected change stamp = some (count, db')) :
    ∃ transaction, db'.sessions i = { db.sessions i with
        transaction := some transaction
        compared := some ((db.currentTable i).find id) } ∧
      (0 < count ↔ Fits expected ((db.currentTable i).find id)) ∧
      (0 < count → ∃ row, (db.currentTable i).find id = some row ∧ row.live = true ∧
        (change row = row ∨ transaction.writes =
          (db.transaction i).writes ++ [{ change row with updatedAt := stamp }])) := by
  unfold Database.casStep at step
  split at step
  · cases step
  split at step
  · rename_i missing
    obtain ⟨rfl, rfl⟩ := Prod.mk.inj (Option.some.inj step)
    refine ⟨db.transaction i, ?_, ?_, fun impossible => absurd impossible (lt_irrefl 0)⟩
    · simp
    · refine ⟨fun impossible => absurd impossible (lt_irrefl 0), ?_⟩
      rintro ⟨row, found, -⟩
      rw [missing] at found
      cases found
  rename_i row found
  split at step
  · rename_i fits
    split at step
    · rename_i same
      obtain ⟨rfl, rfl⟩ := Prod.mk.inj (Option.some.inj step)
      refine ⟨db.transaction i, by simp, ⟨fun _ => ⟨row, found, fits⟩, fun _ => one_pos⟩,
        fun _ => ⟨row, found, fits.1, Or.inl same⟩⟩
    · obtain ⟨rfl, rfl⟩ := Prod.mk.inj (Option.some.inj step)
      refine ⟨{ db.transaction i with writes := (db.transaction i).writes ++
          [{ change row with updatedAt := stamp }] }, ?_,
        ⟨fun _ => ⟨row, found, fits⟩, fun _ => one_pos⟩,
        fun _ => ⟨row, found, fits.1, Or.inr rfl⟩⟩
      simp [Database.transaction]
  · rename_i unfit
    obtain ⟨rfl, rfl⟩ := Prod.mk.inj (Option.some.inj step)
    refine ⟨db.transaction i, by simp, ⟨fun impossible => absurd impossible (lt_irrefl 0), ?_⟩,
      fun impossible => absurd impossible (lt_irrefl 0)⟩
    rintro ⟨other, there, fits⟩
    obtain rfl := Option.some.inj (found.symm.trans there)
    exact absurd fits unfit

def Counted (i : Pid) (expected : DateTime) (Q : Session → RequestState → Prop) (count : ℕ)
    (w : World) : Prop :=
  Own i (Tested expected (0 < count)) w ∧ (0 < count → Own i Q w)

theorem Counted.stable (σ : Setting) (expected : DateTime) (Q : Session → RequestState → Prop)
    (count : ℕ) : σ.rows.Stable i (Counted i expected Q count) :=
  fun _ _ _ holds moved _ =>
    ⟨holds.1.undisturbed moved, fun some_ => (holds.2 some_).undisturbed moved⟩

theorem counted_of_casStep {w : World} {db' : Database} {calm : Prop} {id actorId : ℤ}
    {expected stamp : DateTime} {change : ArticleRow → ArticleRow} {count : ℕ}
    {Q : Session → RequestState → Prop} (acting : Own i (Acting calm actorId) w)
    (step : w.db.casStep i id expected change stamp = some (count, db'))
    (writes : ∀ row s r, row.id = id → row.live = true →
      (change row = row ∨ (s.transaction.getD .new).writes = [{ change row with updatedAt := stamp }]) →
      Q s r) : Counted i expected Q count { w with db := db' } := by
  obtain ⟨transaction, session, fits, written⟩ := casStep_session step
  have empty : (w.db.transaction i).writes = [] := acting.empty
  refine ⟨own_db session ⟨?_, ⟨_, rfl, fits.symm⟩, acting.committed, acting.queue⟩,
    fun matched => own_db session ?_⟩
  · obtain ⟨user, actor, -⟩ := acting.actor
    rw [actor]
    exact Option.some_ne_none user
  · obtain ⟨row, found, live, change⟩ := written matched
    rw [empty, List.nil_append] at change
    exact writes row _ _ (Table.find_id found) live change

theorem Counted.expire {expected : DateTime} {Q : Session → RequestState → Prop} {count : ℕ}
    {w : World} (counted : Counted i expected Q count w)
    (keep : ∀ s r, Q s r → Q { s with user := s.user.expire, article := s.article.expire } r) :
    Counted i expected Q count { w with db := w.db.expireInstances i } := by
  have session := Database.expireInstances_sessions w.db i
  have before := counted.1
  exact ⟨own_db session ⟨before.actor, before.compared, before.committed, before.queue⟩,
    fun matched => own_db session (keep _ _ (counted.2 matched))⟩

theorem expireAll_triple {expected : DateTime} {Q : Session → RequestState → Prop} {count : ℕ}
    (keep : ∀ s r, Q s r → Q { s with user := s.user.expire, article := s.article.expire } r)
    {E : World → Prop} :
    σ.rows.Triple i (Counted i expected Q count) (expireAll.bind fun _ => .ret count)
      (okOr (Counted i expected Q) E) := by
  refine Triple.call (fun _ => Counted i expected Q count) (Counted.stable σ expected Q count)
    (fun _ _ _ => trivial) (fun w reply w' kept holds step kept' => ?_)
    fun _ => Triple.ret (Counted.stable σ expected Q count) fun _ _ holds => holds
  obtain ⟨c, -, step⟩ := step
  obtain ⟨-, rfl⟩ := Prod.mk.inj (Option.some.inj step)
  exact holds.expire keep

def Ready (σ : Setting) (i : Pid) (id actorId authorId : ℤ) (w : World) : Prop :=
  Own i (Acting σ.Calm actorId) w ∧ MayChange i id authorId w

theorem Ready.stable (σ : Setting) (id actorId authorId : ℤ) :
    σ.rows.Stable i (Ready σ i id actorId authorId) :=
  stable_and (stable_own σ _) (stable_past σ _)

theorem Ready.owed {id actorId authorId : ℤ} {w : World} (ready : Ready σ i id actorId authorId w) :
    (w.db.sessions i).committed = none ∧ (w.db.transaction i).writes = [] ∧
      ∃ n ≤ w.db.version, ∃ row,
        (w.db.history n).find id = some row ∧ Authorized (w.db.sessions i).actor row := by
  obtain ⟨acting, n, past, row, found, -, authorized⟩ := ready
  exact ⟨acting.committed, acting.empty, n, past, row, found, authorized⟩

theorem updateCas_triple (rt : Runtime) {id actorId authorId : ℤ} {expected : DateTime}
    {title body : String}
    (request : ∃ principal, σ.requests i = .update principal id title body expected) :
    σ.rows.Triple i (Ready σ i id actorId authorId)
      (ArticleRepository.updateCas rt id expected title body)
      (okOr (Counted i expected fun _ _ => True) fun _ => ¬σ.Calm) := by
  have stableE : σ.rows.Stable i fun _ => ¬σ.Calm := fun _ _ _ hectic _ _ => hectic
  refine guardedWrite_triple σ.hosts (Ready.stable σ id actorId authorId)
    (Counted.stable σ expected _) stableE ?_ fun _ _ refused => refused_not_calm refused
  refine Triple.bind (C := okOr (Counted i expected fun _ _ => True) fun _ => ¬σ.Calm)
    (mysql_triple (Ready.stable σ id actorId authorId) (Counted.stable σ expected _) stableE
      ⟨fun w _ ready => ⟨ready.owed.1, ready.owed.2.1, ready.owed.2.2, request⟩,
        fun w reply w' kept ready step kept' => ?_⟩)
    (fun count => expireAll_triple fun _ _ _ => trivial) fun _ _ _ hectic => hectic
  rcases mysql_cases step with ⟨hectic, ⟨error, rfl⟩, rfl⟩ | ⟨c, db', answered, rfl⟩
  · exact hectic
  · obtain ⟨⟨count, db''⟩, cas, same⟩ := Option.map_eq_some_iff.mp answered
    obtain ⟨rfl, rfl⟩ := Prod.mk.inj same
    exact counted_of_casStep ready.1 cas fun _ _ _ _ _ _ => trivial

theorem softDeleteCas_triple (rt : Runtime) {id actorId authorId : ℤ} {expected : DateTime}
    (request : ∃ principal, σ.requests i = .delete principal id expected) :
    σ.rows.Triple i (Ready σ i id actorId authorId)
      (ArticleRepository.softDeleteCas rt id expected)
      (okOr (Counted i expected (Deleting id)) fun _ => ¬σ.Calm) := by
  have stableE : σ.rows.Stable i fun _ => ¬σ.Calm := fun _ _ _ hectic _ _ => hectic
  refine guardedWrite_triple σ.hosts (Ready.stable σ id actorId authorId)
    (Counted.stable σ expected _) stableE ?_ fun _ _ refused => refused_not_calm refused
  refine triple_skip σ.hosts rfl (Ready.stable σ id actorId authorId) fun deletedAt => ?_
  show σ.rows.Triple i _ (Prog.bind (mysql (.softDeleteArticle id expected deletedAt)) _) _
  refine Triple.bind (C := okOr (Counted i expected (Deleting id)) fun _ => ¬σ.Calm)
    (mysql_triple (Ready.stable σ id actorId authorId) (Counted.stable σ expected _) stableE
      ⟨fun w _ ready => ⟨ready.owed.1, ready.owed.2.1, ready.owed.2.2, request⟩,
        fun w reply w' kept ready step kept' => ?_⟩)
    (fun count => expireAll_triple fun _ _ deleting => deleting) fun _ _ _ hectic => hectic
  rcases mysql_cases step with ⟨hectic, ⟨error, rfl⟩, rfl⟩ | ⟨c, db', answered, rfl⟩
  · exact hectic
  · obtain ⟨⟨count, db''⟩, cas, same⟩ := Option.map_eq_some_iff.mp answered
    obtain ⟨rfl, rfl⟩ := Prod.mk.inj same
    refine counted_of_casStep ready.1 cas fun row s r own live change => ?_
    rcases change with same | written
    · -- a live row is not deleted already
      have gone : row.deletedAt = some deletedAt :=
        (congrArg ArticleRow.deletedAt same).symm
      rw [ArticleRow.live, gone] at live
      cases live
    · exact ⟨_, written, own, rfl⟩

end

end ContentPlatform
