import ContentPlatform.Guarantees.OptimisticConcurrency
import ContentPlatform.World.Snapshots

/-!
# Attributes of expired instances

A rollback and `expire_all` expire the instances of a session, and reading an attribute of an
expired one raises.  Here an update or a delete is followed from the load of its actor to its last
read of the article, whatever fails in between.
-/

set_option autoImplicit false

namespace ContentPlatform

open Program Py Prog Protocol

def Op.readable (s : Session) : Op → Bool
  | .userAttributes id => (s.user.read UserRow.id id).isOk
  | .articleAttributes id => (s.article.read ArticleRow.id id).isOk
  | _ => true

/-- A request is about to read an attribute that was expired and not loaded again. -/
def ReadsExpired (c : System) (i : Pid) : Prop :=
  ∃ op next, c.code i = .call op next ∧ op.readable (c.state.db.sessions i) = false

/-- The protocol of the sessions: a request owes what `owes` says, and relies on nothing but that
its session is its own. -/
def Setting.sessions (σ : Setting) (owes : Pid → Op → World → Prop) :
    Protocol Op Op.Reply World where
  exec := Exec σ.allow
  env := σ.env
  inv _ := True
  rely := Undisturbed
  pre := owes
  rely_refl := Undisturbed.refl
  rely_trans := Undisturbed.trans
  step_inv := fun _ _ _ => trivial
  step_rely := fun _ _ ⟨_, _, step⟩ other => World.exec_undisturbed step other
  env_inv := fun _ _ => trivial
  env_rely := fun _ event => (σ.outside _ _ event).undisturbed _

abbrev Setting.plain (σ : Setting) : Protocol Op Op.Reply World := σ.sessions fun _ _ _ => True

abbrev Setting.watched (σ : Setting) : Protocol Op Op.Reply World :=
  σ.sessions fun i op w =>
    (σ.requests i).conditional.isSome = true → op.readable (w.db.sessions i) = true

section
variable {σ : Setting} {i : Pid} {α β : Type}

theorem Setting.plain_hosts (σ : Setting) : Hosts σ.plain (Exec σ.allow) :=
  .of_world rfl fun _ _ _ _ => trivial

theorem sessions_own (owes : Pid → Op → World → Prop) (Q : Session → RequestState → Prop) :
    (σ.sessions owes).Stable i (Own i Q) := fun _ _ _ holds moved _ => holds.undisturbed moved

abbrev ReadsNone (p : Py α) : Prop := p.Sends fun op => op.readsAttribute = false

theorem readable_of_unread {op : Op} (unread : op.readsAttribute = false) (s : Session) :
    op.readable s = true := by
  cases op with
  | articleAttributes id => cases unread
  | userAttributes id => cases unread
  | _ => rfl

theorem unread_answer {op : Op} (aside : op.readsAttribute = false)
    (next : op.Reply → Except Exc α) : ReadsNone (.call op fun reply => ofExcept (next reply)) :=
  ⟨aside, fun reply => sends_ofExcept (next reply)⟩

theorem unread_reply {op : Op} (aside : op.readsAttribute = false) (next : op.Reply → α) :
    ReadsNone (.call op fun reply => .ret (next reply)) := ⟨aside, fun _ => trivial⟩

theorem unread_local (op : Op) (isLocal : op.isBookkeeping = true) : op.readsAttribute = false := by
  cases op with
  | articleAttributes id => cases isLocal
  | userAttributes id => cases isLocal
  | _ => rfl

theorem unread_triple {p : Py α} {A : World → Prop} {B : Except Exc α → World → Prop}
    (unread : ReadsNone p) (triple : σ.plain.Triple i A p B) : σ.watched.Triple i A p B := by
  have refines : Refines σ.watched σ.plain := ⟨id, id, id⟩
  apply Triple.refine refines unread _ triple
  intro op w reads _ _ _
  exact readable_of_unread reads _

theorem passes_triple {p : Py α} (unread : ReadsNone p) :
    σ.watched.Triple i (fun _ => True) p fun _ _ => True := by
  apply Triple.of_sends unread
  · exact fun _ _ _ _ _ _ => trivial
  · intro op w reads _ _ _
    exact readable_of_unread reads _
  · exact fun _ _ _ _ _ _ _ _ _ => trivial

theorem attribute_triple (op : Op) (isLocal : op.isLocal = true) {A : World → Prop}
    (stable : σ.watched.Stable i A) (loaded : ∀ w, A w → op.readable (w.db.sessions i) = true)
    (next : op.Reply → Except Exc β) :
    σ.watched.Triple i A (.call op fun reply => .ofExcept (next reply)) fun _ => A := by
  refine Triple.call (fun _ => A) stable (fun w _ holds _ => loaded w holds)
    (fun w reply w' _ holds step _ => ?_) fun reply => ?_
  · obtain ⟨c, -, step⟩ := step
    rw [World.exec_local isLocal step]
    exact holds
  · cases next reply with
    | ok value => exact Triple.ret stable fun _ _ holds => holds
    | error error => exact Triple.raise stable fun _ _ holds => holds

/-! ## What is loaded -/

/-- A fact about the actor's instance and the compare-and-set of a request. -/
def ActorFact (i : Pid) (E : Slot UserRow → Option (Option ArticleRow) → Prop) : World → Prop :=
  Own i fun s _ => E s.user s.compared

variable {E K : Slot UserRow → Option (Option ArticleRow) → Prop}

theorem ActorFact.opened {w : World} (held : ActorFact i E w) :
    ActorFact i E { w with db := w.db.begin_ i } := own_db (Database.begin_sessions ..) held

theorem asks_rollback_held (expires : ∀ user compared, E user compared → E user.expire compared) :
    Asks σ.plain i .rollback (ActorFact i E) fun _ => ActorFact i E := by
  refine ⟨fun _ _ _ => trivial, fun w reply w' _ held step _ => ?_⟩
  rw [rollback_exec step]
  rcases rollback_sessions w.db i with same | ended
  · exact own_db same held
  · exact own_db ended (expires _ _ held)

/-! ## Reading the actor and the article -/

theorem asks_user (id : ℤ) :
    Asks σ.plain i (.mysql (.selectUser id)) (ActorFact i fun _ compared => compared = none)
      (okOr (fun found => Own i fun s _ => s.compared = none ∧
          ∀ user, found = some user → s.user.Loaded UserRow.id user)
        (ActorFact i fun _ compared => compared = none)) := by
  refine ⟨fun _ _ _ => trivial, fun w reply w' _ held step _ => ?_⟩
  obtain ⟨c, -, ⟨error, -, rfl, rfl⟩ | ⟨db', -, answered, rfl⟩⟩ := mysql_exec step
  · exact held.opened
  · simp only [Database.statementStep] at answered
    split at answered
    · rename_i row found
      obtain ⟨rfl, rfl⟩ := Prod.mk.inj (Option.some.inj answered)
      have session := Database.observeActor_sessions ((w.db.takeView i).receiveUser i row) i row
      rw [Database.receiveUser_sessions, Database.takeView_sessions] at session
      apply own_db (Q := fun s _ => s.compared = none ∧
        ∀ user, some row.id = some user → s.user.Loaded UserRow.id user) session
      refine ⟨held, fun user same => ?_⟩
      rw [← Option.some.inj same]
      exact Slot.receive_loaded UserRow.id row _
    · obtain ⟨rfl, rfl⟩ := Prod.mk.inj (Option.some.inj answered)
      exact own_db (Q := fun s _ => s.compared = none ∧
        ∀ user, none = some user → s.user.Loaded UserRow.id user)
        (Database.takeView_sessions ..) ⟨held, fun _ none_ => by cases none_⟩

theorem getCurrentUser_loads (app : App) (principal : Option ℤ) :
    σ.watched.Triple i (ActorFact i fun _ compared => compared = none)
      (app.getCurrentUser principal)
      (okOr (fun actor => ActorFact i fun user compared =>
        compared = none ∧ user.Loaded UserRow.id actor) fun _ => True) := by
  cases principal with
  | none => exact Triple.raise (sessions_own _ _) fun _ _ _ => trivial
  | some userId =>
      have unread : ReadsNone (UserRepository.getById app.rt userId) :=
        guardedRead_sends unread_local rfl rfl
      have rolledBack : Asks σ.plain i .rollback
          (ActorFact i fun _ compared => compared = none) _ := asks_rollback_held fun _ _ => id
      refine Triple.bind (unread_triple unread (guardedRead_triple σ.plain_hosts
        (sessions_own _ _) (fun _ => sessions_own _ _) (sessions_own _ _) (asks_user userId)
        (asks_user userId) rolledBack fun _ held _ => held)) (fun found => ?_)
        fun _ _ _ _ => trivial
      have stable : σ.watched.Stable i (Own i fun s _ => s.compared = none ∧
        ∀ user, found = some user → s.user.Loaded UserRow.id user) := sessions_own _ _
      cases found with
      | none => exact Triple.raise stable fun _ _ _ => trivial
      | some actor => exact Triple.ret stable fun _ _ held => ⟨held.1, held.2 actor rfl⟩

theorem asks_article {id : ℤ}
    (finds : ∀ w c, σ.allow w i (.mysql (.selectArticle id)) c → c.fault = none → ActorFact i E w →
      (w.db.readTable i).live id = true → ActorFact i K w) :
    Asks σ.plain i (.mysql (.selectArticle id)) (ActorFact i E)
      (okOr (fun found w => ∀ article, found = some article → Own i (fun s _ =>
          K s.user s.compared ∧ s.article.Loaded ArticleRow.id article) w) (ActorFact i E)) := by
  refine ⟨fun _ _ _ => trivial, fun w reply w' _ held step _ => ?_⟩
  obtain ⟨c, allowed, ⟨error, -, rfl, rfl⟩ | ⟨db', fault, answered, rfl⟩⟩ := mysql_exec step
  · exact held.opened
  · simp only [Database.statementStep] at answered
    split at answered
    · rename_i row found
      split at answered
      · rename_i live
        obtain ⟨rfl, rfl⟩ := Prod.mk.inj (Option.some.inj answered)
        intro article same
        have there : (w.db.readTable i).live id = true := by
          rw [Table.live, found]
          exact live
        refine own_db (Database.receiveArticle_sessions ..) ?_
        rw [Database.readArticles_sessions, ← Option.some.inj same]
        exact ⟨finds w c allowed fault held there, Slot.receive_loaded ArticleRow.id row _⟩
      · obtain ⟨rfl, rfl⟩ := Prod.mk.inj (Option.some.inj answered)
        exact fun _ none_ => by cases none_
    · obtain ⟨rfl, rfl⟩ := Prod.mk.inj (Option.some.inj answered)
      exact fun _ none_ => by cases none_

theorem load_loads (service : ArticleService) {id : ℤ}
    (expires : ∀ user compared, E user compared → E user.expire compared)
    (finds : ∀ w c, σ.allow w i (.mysql (.selectArticle id)) c → c.fault = none → ActorFact i E w →
      (w.db.readTable i).live id = true → ActorFact i K w) :
    σ.watched.Triple i (ActorFact i E) (service.load id)
      (okOr (fun article => Own i fun s _ =>
        K s.user s.compared ∧ s.article.Loaded ArticleRow.id article) fun _ => True) := by
  have stable : ∀ (owes : Pid → Op → World → Prop) (found : Option ℤ),
      (σ.sessions owes).Stable i fun w => ∀ article, found = some article →
        Own i (fun s _ => K s.user s.compared ∧ s.article.Loaded ArticleRow.id article) w :=
    fun _ _ _ _ _ holds moved _ article same => (holds article same).undisturbed moved
  have unread : ReadsNone (ArticleRepository.get service.rt id) :=
    guardedRead_sends unread_local rfl rfl
  refine Triple.bind (unread_triple unread (guardedRead_triple σ.plain_hosts (sessions_own _ _)
    (stable _) (sessions_own _ _) (asks_article finds) (asks_article finds)
    (asks_rollback_held expires) fun _ held _ => held)) (fun found => ?_) fun _ _ _ _ => trivial
  cases found with
  | none => exact Triple.raise (stable _ none) fun _ _ _ => trivial
  | some article => exact Triple.ret (stable _ (some article)) fun _ _ holds => holds article rfl

def Both (actorId article : ℤ) (s : Session) (_ : RequestState) : Prop :=
  s.user.Loaded UserRow.id actorId ∧ s.article.Loaded ArticleRow.id article

theorem authorize_reads (actorId article : ℤ) :
    σ.watched.Triple i (Own i (Both actorId article)) (ArticleService.authorize actorId article)
      fun _ => Own i (Both actorId article) := by
  have stable : σ.watched.Stable i (Own i (Both actorId article)) := sessions_own _ _
  have user := attribute_triple (.userAttributes actorId) rfl stable
    (fun _ both => both.1) id
  have row := attribute_triple (.articleAttributes article) rfl stable
    (fun _ both => both.2) id
  refine Triple.bind row (fun _ => ?_) fun _ _ _ both => both
  refine Triple.bind user (fun _ => ?_) fun _ _ _ both => both
  split
  · refine Triple.bind user (fun again => ?_) fun _ _ _ both => both
    split
    · exact Triple.raise stable fun _ _ both => both
    · exact Triple.ret stable fun _ _ both => both
  · exact Triple.ret stable fun _ _ both => both

/-! ## Update and delete -/

/-- No `SELECT` of its article finds it for an update or a delete that has not compared yet and
whose actor is expired, by the rollback before another attempt of that read. -/
def Setting.KeepsActor (σ : Setting) : Prop :=
  ∀ w i id c, σ.allow w i (.mysql (.selectArticle id)) c → c.fault = none →
    (σ.requests i).conditional.isSome = true → (w.db.sessions i).compared = none →
    (w.db.readTable i).live id = true → (w.db.sessions i).user ≠ .expired

/-- Before the compare-and-set the actor's instance was loaded, and may be expired since. -/
def ActorHeld (actorId : ℤ) (user : Slot UserRow) (compared : Option (Option ArticleRow)) : Prop :=
  compared = none ∧ (user.Loaded UserRow.id actorId ∨ user = .expired)

theorem ActorHeld.expire {actorId : ℤ} {user : Slot UserRow} {compared : Option (Option ArticleRow)}
    (held : ActorHeld actorId user compared) : ActorHeld actorId user.expire compared := by
  refine ⟨held.1, Or.inr ?_⟩
  rcases held.2 with loaded | rfl
  · cases user with
    | loaded row => rfl
    | _ => cases loaded
  · rfl

theorem first_load (keeps : σ.KeepsActor) (conditional : (σ.requests i).conditional.isSome = true)
    (service : ArticleService) (actorId id : ℤ) :
    σ.watched.Triple i
      (ActorFact i fun user compared => compared = none ∧ user.Loaded UserRow.id actorId)
      (service.load id) (okOr (fun article => Own i (Both actorId article)) fun _ => True) := by
  refine (load_loads (E := ActorHeld actorId) (K := fun user _ => user.Loaded UserRow.id actorId)
    service (fun _ _ held => held.expire) fun w c allowed fault held live => ?_).mono
    (fun w _ held => ⟨held.1, Or.inl held.2⟩) fun outcome _ _ ended => ended
  rcases held.2 with loaded | expired
  · exact loaded
  · exact absurd expired (keeps w i id c allowed fault conditional held.1 live)

theorem last_load (service : ArticleService) (id : ℤ) :
    σ.watched.Triple i (fun _ => True) (service.load id)
      (okOr (fun article => Own i fun s _ => s.article.Loaded ArticleRow.id article)
        fun _ => True) := by
  refine (load_loads (E := fun _ _ => True) (K := fun _ _ => True) service
    (fun _ _ _ => trivial) fun _ _ _ _ _ _ => trivial).mono (fun _ _ _ => trivial)
    fun outcome w _ ended => ?_
  cases outcome with
  | ok article => exact ended.2
  | error _ => trivial

/-- The common course of update and delete. -/
theorem conditional_reads (keeps : σ.KeepsActor)
    (conditional : (σ.requests i).conditional.isSome = true) (service : ArticleService)
    (actorId id : ℤ) (cas : Py ℕ) (rest : ℤ → ℕ → Py α) (unread : ReadsNone cas)
    (proceed : ∀ authorId count,
      σ.watched.Triple i (fun _ => True) (rest authorId count) fun _ _ => True) :
    σ.watched.Triple i
      (ActorFact i fun user compared => compared = none ∧ user.Loaded UserRow.id actorId)
      (do
        let article ← service.load id
        ArticleService.authorize actorId article
        let authorId := (← articleAttributes article).authorId
        let rowcount ← cas
        rest authorId rowcount) fun _ _ => True := by
  refine Triple.bind (first_load keeps conditional service actorId id) (fun article => ?_)
    fun _ _ _ _ => trivial
  refine Triple.bind (authorize_reads actorId article) (fun _ => ?_) fun _ _ _ _ => trivial
  refine Triple.bind (attribute_triple (.articleAttributes article) rfl (sessions_own _ _)
    (fun _ (both : Own i (Both actorId article) _) => both.2) fun row => row) (fun row => ?_)
    fun _ _ _ _ => trivial
  refine Triple.bind ((passes_triple unread).mono (fun _ _ _ => trivial) fun _ _ _ _ => trivial)
    (fun count => ?_) fun _ _ _ _ => trivial
  exact proceed row.authorId count

theorem invalidateAfterCommit_unread (service : ArticleService) (authorId : ℤ)
    (articleId : Option ℤ) : ReadsNone (service.invalidateAfterCommit authorId articleId) := by
  unfold ArticleService.invalidateAfterCommit
  split
  · exact unread_reply rfl _
  · trivial

theorem raiseConflictOrNotFound_unread (service : ArticleService) (id : ℤ) :
    ReadsNone (service.raiseConflictOrNotFound id : Py α) := by
  apply Sends.bind (guardedRead_sends unread_local rfl rfl)
  intro found
  cases found <;> trivial

theorem update_reads (keeps : σ.KeepsActor)
    (conditional : (σ.requests i).conditional.isSome = true) (service : ArticleService)
    (actorId id : ℤ) (title body : String) (expected : DateTime) :
    σ.watched.Triple i
      (ActorFact i fun user compared => compared = none ∧ user.Loaded UserRow.id actorId)
      (service.update actorId id title body expected) fun _ _ => True := by
  apply conditional_reads keeps conditional service actorId id
    (ArticleRepository.updateCas service.rt id expected title body)
    (fun authorId count => if count = 0 then service.raiseConflictOrNotFound id
      else do
        service.invalidateAfterCommit authorId (some id)
        let article ← service.load id
        return (← articleAttributes article).out)
  · apply guardedWrite_sends unread_local
    apply Sends.bind (unread_answer rfl _)
    intro count
    exact Sends.bind (unread_reply rfl _) fun _ => trivial
  · intro authorId count
    split
    · exact passes_triple (raiseConflictOrNotFound_unread service id)
    · apply Triple.bind (passes_triple (invalidateAfterCommit_unread service authorId (some id)))
      · intro _
        apply Triple.bind (last_load service id)
        · intro article
          apply Triple.bind (attribute_triple (.articleAttributes article) rfl
            (sessions_own _ _) (fun _ (loaded : Own i
              (fun s _ => s.article.Loaded ArticleRow.id article) _) => loaded) fun row => row)
          · exact fun _ => Triple.ret (sessions_own _ _) fun _ _ _ => trivial
          · exact fun _ _ _ _ => trivial
        · exact fun _ _ _ _ => trivial
      · exact fun _ _ _ _ => trivial

theorem delete_reads (keeps : σ.KeepsActor)
    (conditional : (σ.requests i).conditional.isSome = true) (service : ArticleService)
    (actorId id : ℤ) (expected : DateTime) :
    σ.watched.Triple i
      (ActorFact i fun user compared => compared = none ∧ user.Loaded UserRow.id actorId)
      (service.delete actorId id expected) fun _ _ => True := by
  apply conditional_reads keeps conditional service actorId id
    (ArticleRepository.softDeleteCas service.rt id expected)
    (fun authorId count => if count = 0 then service.raiseConflictOrNotFound id
      else service.invalidateAfterCommit authorId (some id))
  · apply guardedWrite_sends unread_local
    apply Sends.bind (unread_reply rfl _)
    intro deletedAt
    apply Sends.bind (unread_answer rfl _)
    intro count
    exact Sends.bind (unread_reply rfl _) fun _ => trivial
  · intro authorId count
    split
    · exact passes_triple (raiseConflictOrNotFound_unread service id)
    · exact passes_triple (invalidateAfterCommit_unread service authorId (some id))

theorem handler_reads (keeps : σ.KeepsActor) (app : App)
    (conditional : (σ.requests i).conditional.isSome = true) :
    σ.watched.Triple i (ActorFact i fun _ compared => compared = none)
      (app.handler (σ.requests i)) fun _ _ => True := by
  cases shape : σ.requests i with
  | update principal id title body expected =>
      refine Triple.bind (getCurrentUser_loads app principal) (fun actor => ?_)
        fun _ _ _ _ => trivial
      refine Triple.bind (update_reads keeps conditional app.articles actor id title body expected)
        (fun out => ?_) fun _ _ _ _ => trivial
      exact Triple.ret (fun _ _ _ _ _ _ => trivial) fun _ _ _ => trivial
  | delete principal id expected =>
      refine Triple.bind (getCurrentUser_loads app principal) (fun actor => ?_)
        fun _ _ _ _ => trivial
      refine Triple.bind (delete_reads keeps conditional app.articles actor id expected)
        (fun _ => ?_) fun _ _ _ _ => trivial
      exact Triple.ret (fun _ _ _ _ _ _ => trivial) fun _ _ _ => trivial
  | _ =>
      rw [shape] at conditional
      cases conditional

theorem serve_reads (keeps : σ.KeepsActor) (app : App)
    (conditional : (σ.requests i).conditional.isSome = true) :
    σ.watched.Triple i (ActorFact i fun _ compared => compared = none) (app.serve (σ.requests i))
      fun _ _ => True := by
  have anything : σ.watched.Stable i fun _ => True := fun _ _ _ _ _ _ => trivial
  have touch : ∀ op : Op, op.asksCache = true → op.readsAttribute = false := by
    intro op asks
    cases op with
    | articleAttributes id => cases asks
    | userAttributes id => cases asks
    | _ => rfl
  apply getSession_triple (C := fun _ _ => True) app.cache (fun _ => anything)
  · refine Triple.bind (handler_reads keeps app conditional) (fun response => ?_)
      fun _ _ _ _ => trivial
    exact passes_triple (Sends.bind (unread_answer rfl _) fun _ => trivial)
  · intro response
    exact passes_triple (drainAfterCommit_sends unread_local app.cache touch (fun _ => rfl)
      (fun _ => rfl) rfl)
  · intro error
    apply passes_triple
    apply Sends.bind (unread_answer rfl _)
    intro _
    exact Sends.bind (unread_reply rfl _) fun _ => trivial

end

/-- In every run in which no first read of an article is answered after a rollback expired the
actor, no update and no delete ever reads an expired attribute. -/
theorem no_expired_read (σ : Setting) (keeps : σ.KeepsActor) (app : App) {w : World}
    (start : Initial w) {c : System} (run : σ.Reaches (app.start σ.requests w) c) {i : Pid}
    (conditional : (σ.requests i).conditional.isSome = true) : ¬ReadsExpired c i := by
  have all : σ.watched.AllSafe (fun _ _ _ => True) (app.start σ.requests w) := by
    refine ⟨trivial, fun j => ?_⟩
    by_cases mine : (σ.requests j).conditional.isSome = true
    · apply serve_reads keeps app mine w trivial
      exact (start.fresh j).compared
    · have free : ∀ op s, σ.watched.pre j op s := fun _ _ conditional => absurd conditional mine
      exact Triple.anything free _ w trivial trivial
  intro expired
  obtain ⟨op, next, code, unreadable⟩ := expired
  have owed := (all.steps run).owed code conditional
  rw [unreadable] at owed
  cases owed

/-! ## A read of the article that is tried twice -/

/-- A check of one choice: no breaker refuses, and only reads fail, with faults that are tried
again. -/
def flakyChoice (_ : World) (_ : Pid) (op : Op) (c : Choice) : Bool :=
  c.flag &&
    match c.fault with
    | none => true
    | some error => error.isTransient &&
        match op with
        | .mysql (.selectUser _) | .mysql (.selectArticle _) => true
        | _ => false

def Setting.flaky (requests : Pid → Request) : Setting :=
  ⟨requests, fun w i op c => flakyChoice w i op c = true, Expires, fun _ _ => Expires.outside⟩

def oneEdit : List Request := [.update (some 1) 1 "new" "text" (instant 1)]

def readsExpired (c : System) (i : Pid) : Bool :=
  match c.code i with
  | .call op _ => !op.readable (c.state.db.sessions i)
  | _ => false

theorem readsExpired_spec {c : System} {i : Pid} (expired : readsExpired c i = true) :
    ReadsExpired c i := by
  unfold readsExpired at expired
  split at expired
  · rename_i op next code
    exact ⟨op, next, code, by simpa using expired⟩
  · cases expired

def articleReadTwice : List (Pid × Choice) :=
  turns 0 4 {} ++ [(0, { fault := some .operationalError })] ++ turns 0 6 {}

/-- One transient fault of the first read of the article: the attempt after the rollback finds it,
and then the actor, whom nobody loads again, is read and the edit fails. -/
theorem article_retry_expires_actor : ∃ c c' : System,
    (Setting.flaky (requestsOf oneEdit)).Reaches (calmService oneEdit [ann, bob]) c ∧
      ReadsExpired c 0 ∧ (Setting.flaky (requestsOf oneEdit)).Reaches c c' ∧
      c'.outcome 0 = some (.error .missingGreenlet) := by
  obtain ⟨c, run, facts⟩ := (Setting.flaky (requestsOf oneEdit)).exists_replay flakyChoice
    (fun _ _ _ _ checked => checked) (calmService oneEdit [ann, bob]) articleReadTwice
    (fun c => readsExpired c 0 && (replay flakyChoice c (turns 0 3 {})).any
      fun c' => failedWith c' 0 .missingGreenlet) (by decide +kernel)
  rw [Bool.and_eq_true] at facts
  obtain ⟨c', rest, failed⟩ := (Setting.flaky (requestsOf oneEdit)).exists_replay flakyChoice
    (fun _ _ _ _ checked => checked) c (turns 0 3 {}) _ facts.2
  exact ⟨c, c', run, readsExpired_spec facts.1, rest, outcome_of_failedWith failed⟩

def keepsActorChoice (w : World) (i : Pid) (op : Op) (c : Choice) : Bool :=
  match op with
  | .mysql (.selectArticle id) => c.fault.isSome || (w.db.sessions i).compared.isSome ||
      !(w.db.readTable i).live id || (w.db.sessions i).user != .expired
  | _ => true

def Setting.keepingActor (requests : Pid → Request) : Setting :=
  ⟨requests, fun w i op c => (flakyChoice w i op c && keepsActorChoice w i op c) = true, Expires,
    fun _ _ => Expires.outside⟩

theorem Setting.keepingActor_keeps (requests : Pid → Request) :
    (Setting.keepingActor requests).KeepsActor := by
  intro w i id c allowed fault _ compared live
  have kept := (Bool.and_eq_true_iff.mp allowed).2
  simpa [keepsActorChoice, fault, compared, live] using kept

/-- The read of the actor fails once, and the actor is read as soon as the article is loaded. -/
theorem no_expired_read_of_retried_user : ∃ c : System,
    (Setting.keepingActor (requestsOf oneEdit)).Reaches (calmService oneEdit [ann, bob]) c ∧
      (∃ next, c.code 0 = .call (.userAttributes 1) next) ∧ ¬ReadsExpired c 0 := by
  obtain ⟨c, run, reads⟩ := (Setting.keepingActor (requestsOf oneEdit)).exists_replay
    (fun w i op c => flakyChoice w i op c && keepsActorChoice w i op c)
    (fun _ _ _ _ checked => checked) (calmService oneEdit [ann, bob])
    (turns 0 1 {} ++ [(0, { fault := some .operationalError })] ++ turns 0 9 {})
    (fun c => match c.code 0 with
      | .call op _ => op == .userAttributes 1
      | _ => false) (by decide +kernel)
  refine ⟨c, run, ?_, no_expired_read _ (Setting.keepingActor_keeps _) _
    (World.fresh_initial _ (by decide)) run rfl⟩
  split at reads
  · rename_i op next code
    obtain rfl := eq_of_beq reads
    exact ⟨next, code⟩
  · cases reads

end ContentPlatform
