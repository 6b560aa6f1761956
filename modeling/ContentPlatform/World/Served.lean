import ContentPlatform.World.Footprint
import ContentPlatform.World.Writers

/-!
# How a request ends

The handlers, the commit and the drained queue.  A write request that succeeds
leaves its row in the committed state its commit left, under the author that its
invalidation names; one that a calm system refuses commits nothing.
-/

set_option autoImplicit false

namespace ContentPlatform

open Program Py Prog Protocol

def Request.expected : Request → Option DateTime
  | .update _ _ _ _ expected | .delete _ _ expected => some expected
  | _ => none

theorem Request.writes_of_expected {request : Request} {expected : DateTime}
    (token : request.expected = some expected) : request.writes = true := by
  cases request <;> first | rfl | cases token

theorem Op.Compares.owed {requests : Pid → Request} {db : Database} {i : Pid} {op : Op} {id : ℤ}
    {expected : DateTime} {change : ArticleRow → ArticleRow}
    (compares : op.Compares id expected change) (owed : rowsPre requests i op db) :
    (db.sessions i).committed = none ∧ (db.transaction i).writes = [] ∧
      (requests i).expected = some expected := by
  cases op with
  | mysql statement =>
      cases statement with
      | updateArticle id' expected' title body =>
          obtain ⟨rfl, rfl, rfl⟩ := compares
          obtain ⟨open_, empty, -, principal, shape⟩ := owed
          exact ⟨open_, empty, by rw [shape]; rfl⟩
      | softDeleteArticle id' expected' deletedAt =>
          obtain ⟨rfl, rfl, rfl⟩ := compares
          obtain ⟨open_, empty, -, principal, shape⟩ := owed
          exact ⟨open_, empty, by rw [shape]; rfl⟩
      | _ => exact compares.elim
  | _ => exact compares.elim

def Request.target : Request → Option ℤ
  | .update _ id _ _ _ | .delete _ id _ => some id
  | _ => none

def Request.deletes : Request → Bool
  | .delete _ _ _ => true
  | _ => false

def Request.creates : Request → Bool
  | .create _ _ _ => true
  | _ => false

theorem Request.writes_of_creates {request : Request} (creates : request.creates = true) :
    request.writes = true := by
  cases request <;> first | rfl | cases creates

def Request.Fills : Request → ArticleRow → Prop
  | .create _ title body, row => row.title = title ∧ row.body = body
  | _, _ => False

/-- What a write request queues for a row of this author. -/
def Request.invalidation : Request → ℤ → Invalidation
  | .update _ id _ _ _, authorId | .delete _ id _, authorId => ⟨some id, authorId⟩
  | _, authorId => ⟨none, authorId⟩

def Request.Wrote : Request → Response → ℤ → Prop
  | .create _ _ _, .article out, id => out.id = id
  | .update _ target _ _ _, .article _, id => id = target
  | .delete _ target _, .deleted, id => id = target
  | _, _, _ => False

/-- How a conditional write may be refused when nothing fails. -/
def Refusal (i : Pid) (request : Request) (error : Exc) (w : World) : Prop :=
  (Own i (fun s _ => s.actor = none) w ∧ ∃ message, error = .unauthenticated message) ∨
  (Own i (fun s _ => s.actor ≠ none ∧ s.compared = none) w ∧
    ((∃ message, error = .articleNotFound message) ∨
      (∃ message, error = .forbidden message) ∧
        ∃ id, request.target = some id ∧ Foreign i id w)) ∨
  (Own i (fun s _ => s.actor ≠ none ∧ s.compared ≠ none) w ∧
    ((∃ message, error = .articleNotFound message) ∨ ∃ message, error = .conflict message))

/-- The token of a conditional write was the version of the row it saw. -/
def Fitted (request : Request) (s : Session) (_ : RequestState) : Prop :=
  ∀ expected, request.expected = some expected →
    ∃ seen, s.compared = some seen ∧ Fits expected seen

/-- Nothing is committed, and a conditional write was refused in one of the ways above. -/
def RefusedBy (i : Pid) (request : Request) (error : Exc) (w : World) : Prop :=
  Own i (fun s _ => s.committed = none) w ∧
    (request.expected ≠ none → Refusal i request error w)

section
variable (σ : Setting) {i : Pid}

/-- What a refusal tells outlasts its transaction. -/
theorem Refusal.carried {request : Request} {error : Exc} {w w' : World}
    (holds : Refusal i request error w) (extended : Extends w.db w'.db)
    (actor : (w'.db.sessions i).actor = (w.db.sessions i).actor)
    (compared : (w'.db.sessions i).compared = (w.db.sessions i).compared) :
    Refusal i request error w' := by
  simp only [Refusal, Own, Foreign, Past, actor, compared] at holds ⊢
  rcases holds with stranger | ⟨acting, missing | ⟨kind, id, target, n, past, foreign_⟩⟩ | tested
  · exact Or.inl stranger
  · exact Or.inr (Or.inl ⟨acting, Or.inl missing⟩)
  · refine Or.inr (Or.inl ⟨acting, Or.inr ⟨kind, id, target, n, past.trans extended.version, ?_⟩⟩)
    rw [extended.history n past]
    exact foreign_
  · exact Or.inr (Or.inr tested)

theorem RefusedBy.carried {request : Request} {error : Exc} {w w' : World}
    (refused : RefusedBy i request error w) (extended : Extends w.db w'.db)
    (actor : (w'.db.sessions i).actor = (w.db.sessions i).actor)
    (compared : (w'.db.sessions i).compared = (w.db.sessions i).compared)
    (committed : (w'.db.sessions i).committed = (w.db.sessions i).committed) :
    RefusedBy i request error w' :=
  ⟨committed.trans refused.1, fun conditional =>
    (refused.2 conditional).carried extended actor compared⟩

theorem Refusal.stable (request : Request) (error : Exc) :
    σ.rows.Stable i (Refusal i request error) :=
  fun _ _ _ holds moved _ => holds.carried moved.db (by rw [moved.session]) (by rw [moved.session])

theorem RefusedBy.stable (request : Request) (error : Exc) :
    σ.rows.Stable i (RefusedBy i request error) :=
  fun _ _ _ refused moved _ => refused.carried moved.db (by rw [moved.session])
    (by rw [moved.session]) (by rw [moved.session])

/-- The row a request writes is there, under this author. -/
def Standing (i : Pid) (id authorId : ℤ) (w : World) : Prop :=
  ∃ row, Known w.db i row ∧ row.id = id ∧ row.authorId = authorId

theorem Standing.stable (id authorId : ℤ) : σ.rows.Stable i (Standing i id authorId) := by
  rintro w w' _ ⟨row, known, same⟩ moved _
  refine ⟨row, ?_, same⟩
  rcases known with ⟨n, past, found⟩ | own
  · exact Or.inl ⟨n, past.trans moved.db.version, by rw [moved.db.history n past]; exact found⟩
  · refine Or.inr ?_
    rw [Database.transaction, moved.session]
    exact own

/-- The write that is waiting for the commit is the new row of a creation. -/
def Creating (request : Request) (id : ℤ) (s : Session) (_ : RequestState) : Prop :=
  ∃ row, (s.transaction.getD .new).writes = [row] ∧ row.id = id ∧ request.Fills row

def Accepted (i : Pid) (request : Request) (response : Response) (w : World) : Prop :=
  Own i (fun s r => s.committed = none ∧ Fitted request s r) w ∧
  ∃ id authorId, request.Wrote response id ∧ Standing i id authorId w ∧
    Own i (fun s r => r.queue = [request.invalidation authorId] ∧
      (request.deletes = true → Deleting id s r) ∧
      (request.creates = true → Creating request id s r)) w

def Handled (i : Pid) : Except Exc Response → World → Prop
  | .ok response, w =>
      if (σ.requests i).writes then Accepted i (σ.requests i) response w
      else Own i (fun s r => s.committed = none ∧ r.queue = []) w
  | .error error, w => Own i (fun s _ => s.committed = none) w ∧
      (σ.Calm → (σ.requests i).expected ≠ none → Refusal i (σ.requests i) error w)

/-! ## What lasts through a handler -/

variable {σ}

/-- A fact about a committed state, the actor and the commit of a request. -/
def Lasting (i : Pid) (Q : Option UserRow → Option ℕ → ℕ → Table → Prop) : World → Prop :=
  Past i fun s _ => Q s.actor s.committed

def afterUser : Op → Prop :=
  Footprint (fun statement => ∀ id, statement ≠ .selectUser id) (fun _ => True) True

theorem exec_extends {w w' : World} {c : Choice} {op : Op} {reply : op.Reply}
    (step : w.exec i c op = some (reply, w')) : Extends w.db w'.db :=
  (World.exec_undisturbed step (Nat.succ_ne_self i)).db

theorem Lasting.exec {Q : Option UserRow → Option ℕ → ℕ → Table → Prop} {w w' : World}
    {op : Op} {reply : op.Reply} (may : afterUser op) (holds : Lasting i Q w)
    (step : Exec σ.allow i op w reply w') : Lasting i Q w' := by
  obtain ⟨c, -, step⟩ := step
  obtain ⟨n, past, fact⟩ := holds
  have extended := exec_extends step
  have open_ : op ≠ .commit := by
    rintro rfl
    exact may
  refine ⟨n, past.trans extended.version, ?_⟩
  rcases World.exec_keeps step open_ with kept | ⟨id, user, rfl, -⟩
  · rw [kept.actor, kept.committed, extended.history n past]
    exact fact
  · exact absurd rfl (may id)

theorem lasting_triple {α : Type} {A : World → Prop} {p : Py α} {B : Except Exc α → World → Prop}
    (Q : Option UserRow → Option ℕ → ℕ → Table → Prop) (sends : p.Sends afterUser)
    (triple : σ.rows.Triple i A p B) :
    σ.rows.Triple i (fun w => A w ∧ Lasting i Q w) p fun outcome w =>
      B outcome w ∧ Lasting i Q w :=
  triple.frame sends (stable_past σ _) fun _ _ _ _ may _ holds step => holds.exec may step

/-! ## Update and delete -/

/-- A conditional write whose token fitted and whose invalidation is queued. -/
structure Queued (expected : DateTime) (callback : Invalidation) (s : Session) (r : RequestState) :
    Prop where
  actor : s.actor ≠ none
  compared : ∃ seen, s.compared = some seen ∧ Fits expected seen
  queue : r.queue = [callback]

theorem Settled.queued (calm : Prop) (expected : DateTime) (callback : Invalidation) :
    Settled calm (Queued expected callback) :=
  ⟨fun _ _ _ _ _ before => ⟨before.actor, before.compared, before.queue⟩,
    fun _ _ _ before => ⟨before.actor, before.compared, before.queue⟩⟩

theorem invalidateAfterCommit_triple (service : ArticleService) (passed : service.session = true)
    {authorId : ℤ} {articleId : Option ℤ} {Q R : Session → RequestState → Prop} {E : World → Prop}
    (queued : ∀ s r, Q s r →
      R s { r with queue := r.queue ++ [⟨articleId, authorId⟩] }) :
    σ.rows.Triple i (Own i Q) (service.invalidateAfterCommit authorId articleId)
      (okOr (fun _ => Own i R) E) := by
  unfold ArticleService.invalidateAfterCommit
  rw [if_pos passed]
  refine Triple.call (fun _ => Own i R) (stable_own σ _) (fun _ _ _ => trivial)
    (fun w reply w' kept holds step kept' => ?_)
    fun _ => Triple.ret (stable_own σ _) fun _ _ holds => holds
  obtain ⟨c, -, step⟩ := step
  obtain ⟨-, rfl⟩ := Prod.mk.inj (Option.some.inj step)
  show R _ _
  rw [World.setRequest_requests]
  exact queued _ _ holds

def Ended (σ : Setting) (i : Pid) {α : Type} (Q : Session → RequestState → Prop) :
    Except Exc α → World → Prop
  | .ok _, w => Own i Q w
  | .error error, w => σ.Calm → Refusal i (σ.requests i) error w

theorem refused_triple {α : Type} (service : ArticleService) {expected : DateTime} (id : ℤ)
    {Q : Session → RequestState → Prop} :
    σ.rows.Triple i (Own i (Tested expected (0 < 0)))
      (service.raiseConflictOrNotFound id : Py α) (Ended σ i Q) := by
  refine (raiseConflictOrNotFound_triple service (Settled.tested _ expected _) id).mono
    (fun _ _ holds => holds) fun outcome w _ ended => ?_
  obtain ⟨error, rfl, tested, kind⟩ := ended
  obtain ⟨seen, compared, -⟩ := tested.compared
  exact fun calm => Or.inr (Or.inr ⟨⟨tested.actor, by rw [compared]; exact Option.some_ne_none _⟩,
    kind calm⟩)

theorem updateRest_triple (service : ArticleService) (passed : service.session = true)
    {expected : DateTime} {id authorId : ℤ} (count : ℕ) :
    σ.rows.Triple i (Counted i expected (fun _ _ => True) count)
      (if count = 0 then service.raiseConflictOrNotFound id
      else do
        service.invalidateAfterCommit authorId (some id)
        let article ← service.load id
        return (← articleAttributes article).out)
      (Ended σ i (Queued expected ⟨some id, authorId⟩)) := by
  by_cases none_ : count = 0
  · subst none_
    rw [if_pos rfl]
    exact (refused_triple service id).mono (fun _ _ counted => counted.1) fun _ _ _ ended => ended
  rw [if_neg none_]
  have start : ∀ w, Counted i expected (fun _ _ => True) count w →
      Own i (fun s r => s.actor ≠ none ∧ (∃ seen, s.compared = some seen ∧ Fits expected seen) ∧
        r.queue = []) w := by
    intro w counted
    obtain ⟨seen, compared, fits⟩ := counted.1.compared
    exact ⟨counted.1.actor, ⟨seen, compared, fits.mpr (Nat.pos_of_ne_zero none_)⟩, counted.1.queue⟩
  refine Triple.bind ((invalidateAfterCommit_triple (E := fun _ => False) service passed
    (R := Queued expected ⟨some id, authorId⟩) fun s r before =>
      ⟨before.1, before.2.1, by rw [before.2.2]; rfl⟩).mono (fun w _ counted => start w counted)
    fun _ _ _ ended => ended) (fun _ => ?_) fun _ _ _ impossible => impossible.elim
  have refusal : ∀ error w, Own i (Queued expected ⟨some id, authorId⟩) w →
      (∃ message, error = Exc.articleNotFound message) →
      Refusal i (σ.requests i) error w := by
    intro error w queued missing
    obtain ⟨seen, compared, -⟩ := queued.compared
    exact Or.inr (Or.inr ⟨⟨queued.actor, by rw [compared]; exact Option.some_ne_none _⟩,
      Or.inl missing⟩)
  refine Triple.bind (load_triple service (Settled.queued _ expected _) id) (fun article => ?_)
    fun error w _ failed calm => refusal error w failed.1 ⟨_, failed.2 calm⟩
  have stable := FoundArticle.stable (i := i) σ (Queued expected ⟨some id, authorId⟩) id
    (some article)
  refine Triple.bind (articleAttributes_triple stable article) (fun row => ?_)
    fun error w _ failed calm => ?_
  · exact Triple.ret (stable_and stable (stable_own σ fun s _ =>
      s.article.read ArticleRow.id article = .ok row)) fun _ _ holds => holds.1.2.1
  · obtain ⟨⟨same, -, found⟩, unread⟩ := failed
    obtain ⟨row, loaded, key⟩ := found calm
    rw [Slot.read_ok.mpr ⟨loaded, key.trans same.symm⟩] at unread
    cases unread

theorem deleteRest_triple (service : ArticleService) (passed : service.session = true)
    {expected : DateTime} {id authorId : ℤ} (count : ℕ) :
    σ.rows.Triple i (Counted i expected (Deleting id) count)
      (if count = 0 then service.raiseConflictOrNotFound id
      else service.invalidateAfterCommit authorId (some id))
      (Ended σ i fun s r => Queued expected ⟨some id, authorId⟩ s r ∧ Deleting id s r) := by
  by_cases none_ : count = 0
  · subst none_
    rw [if_pos rfl]
    exact (refused_triple service id).mono (fun _ _ counted => counted.1) fun _ _ _ ended => ended
  rw [if_neg none_]
  refine (invalidateAfterCommit_triple (E := fun _ => False) service passed
    (Q := fun s r => (s.actor ≠ none ∧ ∃ seen, s.compared = some seen ∧ Fits expected seen) ∧
      r.queue = [] ∧ Deleting id s r)
    (R := fun s r => Queued expected ⟨some id, authorId⟩ s r ∧ Deleting id s r)
    fun s r before => ⟨⟨before.1.1, before.1.2, by rw [before.2.1]; rfl⟩, before.2.2⟩).mono
    (fun w _ counted => ?_) fun outcome _ _ ended => ?_
  · obtain ⟨seen, compared, fits⟩ := counted.1.compared
    have matched := Nat.pos_of_ne_zero none_
    exact ⟨⟨counted.1.actor, seen, compared, fits.mpr matched⟩, counted.1.queue,
      counted.2 matched⟩
  · cases outcome with
    | ok _ => exact ended
    | error _ => exact ended.elim

/-- The article was committed under this author, and the request has not committed. -/
def StandsAs (id authorId : ℤ) (_ : Option UserRow) (committed : Option ℕ) (_ : ℕ)
    (table : Table) : Prop :=
  committed = none ∧ ∃ row, table.find id = some row ∧ row.authorId = authorId

/-- How a conditional write ends; `Q` is what its queue holds for an author. -/
def Changed (σ : Setting) (i : Pid) (id : ℤ) {α : Type} (Q : ℤ → Session → RequestState → Prop) :
    Except Exc α → World → Prop
  | .ok _, w => ∃ authorId, Own i (Q authorId) w ∧ Lasting i (StandsAs id authorId) w
  | .error error, w => Own i (fun s _ => s.committed = none) w ∧
      (σ.Calm → Refusal i (σ.requests i) error w)

theorem Changed.stable (id : ℤ) {α : Type} (Q : ℤ → Session → RequestState → Prop)
    (outcome : Except Exc α) : σ.rows.Stable i (Changed σ i id Q outcome) := by
  intro w w' kept holds moved kept'
  cases outcome with
  | ok value =>
      obtain ⟨authorId, own, lasting⟩ := holds
      exact ⟨authorId, own.undisturbed moved, lasting.undisturbed moved⟩
  | error error =>
      exact ⟨Own.undisturbed holds.1 moved, fun calm =>
        Refusal.stable σ (σ.requests i) error w w' kept (holds.2 calm) moved kept'⟩

/-- A request that is acting and is refused before its compare-and-set. -/
theorem acting_refused {calm : Prop} {actorId : ℤ} {request : Request} {error : Exc} {w : World}
    (acting : Own i (Acting calm actorId) w)
    (kind : calm → (∃ message, error = .articleNotFound message) ∨
      (∃ message, error = .forbidden message) ∧
        ∃ id, request.target = some id ∧ Foreign i id w) :
    Own i (fun s _ => s.committed = none) w ∧ (calm → Refusal i request error w) := by
  obtain ⟨user, actor, -⟩ := acting.actor
  exact ⟨acting.committed, fun peace => Or.inr (Or.inl
    ⟨⟨by rw [actor]; exact Option.some_ne_none user, acting.compared⟩, kind peace⟩)⟩

/-- The common course of update and delete around their compare-and-set. -/
theorem conditional_triple {α : Type} (service : ArticleService) {actorId id : ℤ}
    {expected : DateTime} (target : (σ.requests i).target = some id) (cas : Py ℕ)
    (rest : ℤ → ℕ → Py α)
    {Q : Session → RequestState → Prop} {R : ℤ → Session → RequestState → Prop}
    (compare : ∀ authorId, σ.rows.Triple i (Ready σ i id actorId authorId) cas
      (okOr (Counted i expected Q) fun _ => ¬σ.Calm))
    (compareSends : cas.Sends afterUser)
    (proceed : ∀ authorId count,
      σ.rows.Triple i (Counted i expected Q count) (rest authorId count) (Ended σ i (R authorId)))
    (proceedSends : ∀ authorId count, (rest authorId count).Sends afterUser) :
    σ.rows.Triple i (Own i (Acting σ.Calm actorId))
      (do
        let article ← service.load id
        ArticleService.authorize actorId article
        let authorId := (← articleAttributes article).authorId
        let rowcount ← cas
        rest authorId rowcount) (Changed σ i id R) := by
  refine Triple.bind (load_triple service (Settled.acting _ actorId) id) (fun article => ?_)
    fun error w _ failed => acting_refused failed.1 fun calm => Or.inl ⟨_, failed.2 calm⟩
  by_cases other : article ≠ id
  · exact fun w _ found => absurd found.1 other
  obtain rfl := not_not.mp other
  refine Triple.bind (authorize_triple actorId article) (fun _ => ?_)
    fun error w _ failed => acting_refused failed.1.2.1 fun calm =>
      Or.inr ⟨(failed.2 calm).1, article, target, (failed.2 calm).2⟩
  have stable : σ.rows.Stable i fun w =>
      FoundArticle i σ.Calm article (Acting σ.Calm actorId) (some article) w ∧
        ∀ row, (w.db.sessions i).article = .loaded row → row.id = article →
          MayChange i article row.authorId w := by
    intro w w' kept holds moved kept'
    refine ⟨FoundArticle.stable σ _ article (some article) w w' kept holds.1 moved kept',
      fun row loaded same => ?_⟩
    rw [moved.session] at loaded
    exact (holds.2 row loaded same).undisturbed moved
  refine Triple.bind (articleAttributes_triple stable article) (fun row => ?_)
    fun error w _ failed =>
      acting_refused failed.1.1.2.1 fun calm => absurd calm (missing_not_calm failed.1.1 failed.2)
  have tail := lasting_triple (StandsAs article row.authorId)
    (Sends.bind compareSends fun count => proceedSends row.authorId count)
    (Triple.bind (compare row.authorId) (fun count => proceed row.authorId count)
      fun error w _ hectic => fun calm => absurd calm hectic)
  refine tail.mono (fun w _ holds => ?_) fun outcome w _ ended => ?_
  · obtain ⟨⟨⟨-, acting, -⟩, may⟩, read⟩ := holds
    obtain ⟨loaded, same⟩ := Slot.read_ok.mp read
    have mayChange := may row loaded same
    obtain ⟨n, past, held, found, author, -⟩ := mayChange
    exact ⟨⟨acting, may row loaded same⟩, n, past, acting.committed, held, found, author⟩
  · obtain ⟨ended, lasting⟩ := ended
    cases outcome with
    | ok value => exact ⟨row.authorId, ended, lasting⟩
    | error error =>
        obtain ⟨-, -, committed, -⟩ := lasting
        exact ⟨committed, ended⟩

theorem update_triple (service : ArticleService) (passed : service.session = true)
    {principal : Option ℤ} {actorId id : ℤ} {title body : String} {expected : DateTime}
    (request : σ.requests i = .update principal id title body expected) :
    σ.rows.Triple i (Own i (Acting σ.Calm actorId))
      (service.update actorId id title body expected)
      (Changed σ i id fun authorId => Queued expected ⟨some id, authorId⟩) := by
  refine conditional_triple service (by rw [request]; rfl) (ArticleRepository.updateCas service.rt id expected title body)
    (fun authorId count => if count = 0 then service.raiseConflictOrNotFound id
      else do
        service.invalidateAfterCommit authorId (some id)
        let article ← service.load id
        return (← articleAttributes article).out)
    (fun _ => updateCas_triple service.rt ⟨principal, request⟩) ?_
    (fun _ count => updateRest_triple service passed count) fun authorId count => ?_
  · exact updateCas_sends service.rt nofun
  · split
    · exact raiseConflictOrNotFound_sends service nofun
    · refine Sends.bind (invalidateAfterCommit_sends service _ _ trivial) fun _ => ?_
      refine Sends.bind (load_sends service nofun) fun article => ?_
      exact Sends.bind (articleAttributes_sends article) fun _ => trivial

theorem delete_triple (service : ArticleService) (passed : service.session = true)
    {principal : Option ℤ} {actorId id : ℤ} {expected : DateTime}
    (request : σ.requests i = .delete principal id expected) :
    σ.rows.Triple i (Own i (Acting σ.Calm actorId)) (service.delete actorId id expected)
      (Changed σ i id fun authorId s r =>
        Queued expected ⟨some id, authorId⟩ s r ∧ Deleting id s r) := by
  refine conditional_triple service (by rw [request]; rfl) (ArticleRepository.softDeleteCas service.rt id expected)
    (fun authorId count => if count = 0 then service.raiseConflictOrNotFound id
      else service.invalidateAfterCommit authorId (some id))
    (fun _ => softDeleteCas_triple service.rt ⟨principal, request⟩) ?_
    (fun _ count => deleteRest_triple service passed count) fun authorId count => ?_
  · exact softDeleteCas_sends service.rt fun _ => nofun
  · split
    · exact raiseConflictOrNotFound_sends service nofun
    · exact invalidateAfterCommit_sends service _ _ trivial

/-! ## Create -/

def Uncommitted (s : Session) (_ : RequestState) : Prop := s.committed = none

structure Inserted (articleId authorId : ℤ) (title body : String) (queue : List Invalidation)
    (s : Session) (r : RequestState) : Prop where
  writes : ∃ row, (s.transaction.getD .new).writes = [row] ∧ row.id = articleId ∧
    row.authorId = authorId ∧ row.title = title ∧ row.body = body
  committed : s.committed = none
  queue : r.queue = queue

theorem asks_insertArticle {principal : Option ℤ} {actorId : ℤ} {title body : String}
    (request : σ.requests i = .create principal title body) :
    Asks σ.rows i (.mysql (.insertArticle actorId title body)) (Own i (Acting σ.Calm actorId))
      (okOr (fun articleId => Own i (Inserted articleId actorId title body []))
        (Own i Uncommitted)) := by
  refine ⟨fun w _ acting => ?_, fun w reply w' _ acting step _ => ?_⟩
  · obtain ⟨user, actor, same⟩ := acting.actor
    exact ⟨acting.committed, acting.empty, principal, user, request, actor, same⟩
  · rcases mysql_cases step with ⟨-, ⟨error, rfl⟩, rfl⟩ | ⟨c, db', answered, rfl⟩
    · exact own_db (Q := Uncommitted) (Database.begin_sessions ..) acting.committed
    · simp only [Database.statementStep] at answered
      split at answered
      · obtain ⟨rfl, rfl⟩ := Prod.mk.inj (Option.some.inj answered)
        have empty : (w.db.transaction i).writes = [] := acting.empty
        refine own_db (Database.insertStep_sessions ..)
          ⟨⟨Database.newRow c actorId title body, ?_, rfl, rfl, rfl, rfl⟩, acting.committed,
            acting.queue⟩
        simp [empty]
      · cases answered

theorem asks_refreshArticle (articleId authorId : ℤ) (title body : String) :
    Asks σ.rows i (.mysql (.refreshArticle articleId))
      (Own i (Inserted articleId authorId title body []))
      (okOr (fun _ => Own i (Inserted articleId authorId title body []))
        (Own i Uncommitted)) := by
  refine ⟨fun _ _ _ => trivial, fun w reply w' _ inserted step _ => ?_⟩
  rcases mysql_cases step with ⟨-, ⟨error, rfl⟩, rfl⟩ | ⟨c, db', answered, rfl⟩
  · exact own_db (Q := Uncommitted) (Database.begin_sessions ..) inserted.committed
  · simp only [Database.statementStep] at answered
    split at answered <;> obtain ⟨rfl, rfl⟩ := Prod.mk.inj (Option.some.inj answered)
    · refine own_db (Database.setSession_sessions ..) ?_
      rw [Database.readArticles_sessions]
      exact ⟨inserted.writes, inserted.committed, inserted.queue⟩
    · exact own_db (Q := Uncommitted) (Database.readArticles_sessions ..) inserted.committed

theorem articleCreate_triple (rt : Runtime) {principal : Option ℤ} {actorId : ℤ}
    {title body : String} (request : σ.requests i = .create principal title body) :
    σ.rows.Triple i (Own i (Acting σ.Calm actorId))
      (ArticleRepository.create rt actorId title body)
      (okOr (fun articleId => Own i (Inserted articleId actorId title body []))
        (Own i Uncommitted)) := by
  refine guardedWrite_triple σ.hosts (stable_own σ _) (fun _ => stable_own σ _) (stable_own σ _)
    ?_ fun w acting _ => acting.committed
  refine Triple.bind (mysql_triple (stable_own σ _) (fun _ => stable_own σ _) (stable_own σ _)
    (asks_insertArticle request)) (fun articleId => ?_) fun _ _ _ failed => failed
  exact Triple.bind (mysql_triple (stable_own σ _) (fun _ => stable_own σ _) (stable_own σ _)
    (asks_refreshArticle articleId actorId title body))
    (fun _ => Triple.ret (stable_own σ _) fun _ _ holds => holds) fun _ _ _ failed => failed

theorem create_triple (service : ArticleService) (passed : service.session = true)
    {principal : Option ℤ} {actorId : ℤ} {title body : String}
    (request : σ.requests i = .create principal title body) :
    σ.rows.Triple i (Own i (Acting σ.Calm actorId)) (service.create actorId title body)
      (okOr (fun out => Own i (Inserted out.id actorId title body [⟨none, actorId⟩]))
        (Own i Uncommitted)) := by
  have acting : σ.rows.Stable i (Own i (Acting σ.Calm actorId)) := stable_own σ _
  refine Triple.bind (userAttributes_triple acting actorId) (fun _ => ?_)
    fun error w _ failed => failed.1.committed
  refine Triple.bind ((userAttributes_triple acting actorId).mono (fun _ _ holds => holds.1)
    fun _ _ _ ended => ended) (fun user => ?_) fun error w _ failed => failed.1.committed
  by_cases other : user.id ≠ actorId
  · exact fun w _ read => absurd (Slot.read_ok.mp read.2).2 other
  obtain rfl := not_not.mp other
  refine Triple.bind ((articleCreate_triple service.rt request).mono (fun _ _ holds => holds.1)
    fun _ _ _ ended => ended) (fun articleId => ?_) fun _ _ _ failed => failed
  refine Triple.bind (userAttributes_triple (stable_own σ _) user.id) (fun again => ?_)
    fun error w _ failed => failed.1.committed
  by_cases other : again.id ≠ user.id
  · exact fun w _ read => absurd (Slot.read_ok.mp read.2).2 other
  rw [not_not.mp other]
  refine Triple.bind ((invalidateAfterCommit_triple
    (R := Inserted articleId user.id title body [⟨none, user.id⟩]) (E := fun _ => False) service passed
    fun s r inserted => ⟨inserted.writes, inserted.committed, by rw [inserted.queue]; rfl⟩).mono
    (fun _ _ holds => holds.1) fun _ _ _ ended => ended) (fun _ => ?_)
    fun _ _ _ impossible => impossible.elim
  refine Triple.bind (articleAttributes_triple (stable_own σ _) articleId) (fun row => ?_)
    fun error w _ failed => failed.1.committed
  refine Triple.ret (stable_and (stable_own σ _) (stable_own σ fun s _ =>
    s.article.read ArticleRow.id articleId = .ok row)) fun w _ holds => ?_
  have same : row.id = articleId := (Slot.read_ok.mp holds.2).2
  show Own i (Inserted row.id user.id title body [⟨none, user.id⟩]) w
  rw [same]
  exact holds.1

/-! ## Reads and accounts -/

/-- A request that is nobody's, has committed nothing and queued nothing. -/
structure Quiet (s : Session) (r : RequestState) : Prop where
  actor : s.actor = none
  committed : s.committed = none
  queue : r.queue = []

theorem rowsPre_of_statements {op : Op} {commands : RedisCommand → Prop} {queues : Prop}
    {db : Database} (reads : (σ.requests i).writes = false) (nobody : (db.sessions i).actor = none)
    (may : Footprint (σ.requests i).statements commands queues op) :
    rowsPre σ.requests i op db := by
  cases op with
  | mysql statement =>
      cases request : σ.requests i with
      | get articleId => rw [request] at may; cases may; trivial
      | list limit after author => rw [request] at may; cases may; trivial
      | register email password =>
          rw [request] at may
          cases statement <;> first | exact nobody | trivial
      | login email password => rw [request] at may; cases may; exact nobody
      | _ => rw [request] at reads; cases reads
  | _ => trivial

theorem statements_ne_selectUser (reads : (σ.requests i).writes = false) {id : ℤ} :
    ¬(σ.requests i).statements (.selectUser id) := by
  cases request : σ.requests i with
  | get articleId => exact nofun
  | list limit after author => exact nofun
  | register email password => exact fun impossible => impossible
  | login email password => exact nofun
  | _ => rw [request] at reads; cases reads

theorem Quiet.exec {w w' : World} {op : Op} {reply : op.Reply}
    {commands : RedisCommand → Prop} {queues : Prop} (reads : (σ.requests i).writes = false)
    (may : Footprint (σ.requests i).statements commands queues op) (never : ¬queues)
    (quiet : Own i Quiet w)
    (step : Exec σ.allow i op w reply w') : Own i Quiet w' := by
  obtain ⟨c, -, step⟩ := step
  have open_ : op ≠ .commit := by rintro rfl; exact may
  have kept := World.exec_request step (fun _ same => by subst same; exact never may)
    fun same => by subst same; exact may
  rcases World.exec_keeps step open_ with same | ⟨id, user, rfl, -⟩
  · exact ⟨same.actor.trans quiet.actor, same.committed.trans quiet.committed,
      kept.1.trans quiet.queue⟩
  · exact absurd may (statements_ne_selectUser reads)

theorem reads_triple (app : App) (reads : (σ.requests i).writes = false) :
    σ.rows.Triple i (Own i Fresh) (app.handler (σ.requests i)) fun _ => Own i Quiet := by
  have never : ¬(σ.requests i).writes = true := by rw [reads]; exact Bool.false_ne_true
  exact (Triple.of_sends (handler_sends app (σ.requests i)) (stable_own σ Quiet)
    (fun op w may _ quiet => rowsPre_of_statements reads quiet.actor may)
    fun op w reply w' may _ quiet step _ => Quiet.exec reads may never quiet step).mono
    (fun w _ fresh => ⟨fresh.actor, fresh.committed, fresh.queue⟩) fun _ _ _ quiet => quiet

/-! ## The handler, the commit and the end -/

theorem handler_triple (app : App) :
    σ.rows.Triple i (Own i Fresh) (app.handler (σ.requests i)) (Handled σ i) := by
  have stranger : ∀ {error : Exc} {w : World} {calm : Prop} {message : String} {φ : Prop},
      Own i Fresh w ∧ (calm → error = .unauthenticated message) →
      Own i (fun s _ => s.committed = none) w ∧
        (calm → φ → Refusal i (σ.requests i) error w) := by
    rintro error w calm message φ ⟨fresh, known⟩
    exact ⟨fresh.committed, fun calm _ => Or.inl ⟨fresh.actor, _, known calm⟩⟩
  cases request : σ.requests i with
  | create principal title body =>
      have acts : (σ.requests i).principal = principal := by rw [request]; rfl
      refine Triple.bind (getCurrentUser_triple app principal acts) (fun actor => ?_)
        fun error w _ failed => ?_
      · refine Triple.bind (create_triple app.articles rfl request) (fun out => ?_)
          fun error w _ failed => ?_
        · refine Triple.ret (stable_own σ _) fun w _ inserted => ?_
          obtain ⟨row, single, same, author, content⟩ := inserted.writes
          rw [Handled, request]
          refine ⟨⟨inserted.committed, fun _ token => by cases token⟩, out.id, actor, rfl, ?_,
            inserted.queue, fun deletes => absurd deletes Bool.false_ne_true,
            fun _ => ⟨row, single, same, content⟩⟩
          exact ⟨row, Or.inr (by rw [Database.transaction, single]; exact List.mem_singleton_self _),
            same, author⟩
        · rw [Handled, request]
          exact ⟨failed, fun _ conditional => absurd rfl conditional⟩
      · exact stranger failed
  | update principal id title body expected =>
      have acts : (σ.requests i).principal = principal := by rw [request]; rfl
      refine Triple.bind (getCurrentUser_triple app principal acts) (fun actor => ?_)
        fun error w _ failed => stranger failed
      refine Triple.bind (update_triple app.articles rfl request) (fun out => ?_)
        fun error w _ failed => ⟨failed.1, fun calm _ => failed.2 calm⟩
      refine Triple.ret (Changed.stable id _ _) fun w _ changed => ?_
      obtain ⟨authorId, queued, n, past, committed, row, found, author⟩ := changed
      rw [Handled, request]
      exact ⟨⟨committed, fun _ same => by cases same; exact queued.compared⟩, id, authorId, rfl,
        ⟨row, Or.inl ⟨n, past, by rw [Table.find_id found]; exact found⟩,
          Table.find_id found, author⟩, queued.queue,
        fun deletes => absurd deletes Bool.false_ne_true,
        fun creates => absurd creates Bool.false_ne_true⟩
  | delete principal id expected =>
      have acts : (σ.requests i).principal = principal := by rw [request]; rfl
      refine Triple.bind (getCurrentUser_triple app principal acts) (fun actor => ?_)
        fun error w _ failed => stranger failed
      refine Triple.bind (delete_triple app.articles rfl request) (fun _ => ?_)
        fun error w _ failed => ⟨failed.1, fun calm _ => failed.2 calm⟩
      refine Triple.ret (Changed.stable id _ (.ok ())) fun w _ changed => ?_
      obtain ⟨authorId, ⟨queued, deleting⟩, n, past, committed, row, found, author⟩ := changed
      rw [Handled, request]
      exact ⟨⟨committed, fun _ same => by cases same; exact queued.compared⟩, id, authorId, rfl,
        ⟨row, Or.inl ⟨n, past, by rw [Table.find_id found]; exact found⟩,
          Table.find_id found, author⟩, queued.queue, fun _ => deleting,
        fun creates => absurd creates Bool.false_ne_true⟩
  | _ =>
      rw [← request]
      have reads : (σ.requests i).writes = false := by rw [request]; rfl
      refine (reads_triple app reads).mono (fun _ _ fresh => fresh) fun outcome w _ quiet => ?_
      cases outcome with
      | ok response =>
          rw [Handled, if_neg (by rw [reads]; exact Bool.false_ne_true)]
          exact ⟨quiet.committed, quiet.queue⟩
      | error error =>
          exact ⟨quiet.committed, fun _ conditional => absurd (by rw [request]; rfl) conditional⟩

/-! ## The commit -/

theorem commit_cases {w w' : World} {reply : Except Exc Unit}
    (step : Exec σ.allow i .commit w reply w') :
    (reply = .ok () ∧ w' = { w with db := w.db.commitStep i }) ∨
      (¬σ.Calm ∧ ∃ error, reply = .error error) := by
  obtain ⟨c, allowed, step⟩ := step
  obtain ⟨rfl, rfl⟩ := Prod.mk.inj (Option.some.inj step)
  simp only [Database.commitReply]
  split
  · rename_i error _ fault
    refine Or.inr ⟨fun calm => ?_, error, rfl⟩
    rw [(calm w i _ c allowed).1] at fault
    cases fault
  · exact Or.inl ⟨rfl, rfl⟩

theorem written_committed {w : World} (kept : Coherent σ.requests w.db) {row : ArticleRow}
    (member : row ∈ (w.db.transaction i).writes) :
    ((w.db.commitStep i).history (w.db.commitStep i).version).find row.id = some row := by
  rcases kept.writes i with none_ | ⟨written, single, pending⟩
  · rw [none_] at member
    cases member
  · rw [single, List.mem_singleton] at member
    subst member
    exact Coherent.publish_find single pending.positive

theorem standing_committed {w : World} (kept : Coherent σ.requests w.db) {id authorId : ℤ}
    (standing : Standing i id authorId w) :
    ∃ row, ((w.db.commitStep i).history (w.db.commitStep i).version).find id = some row ∧
      row.authorId = authorId := by
  obtain ⟨row, known, rfl, rfl⟩ := standing
  rcases known with ⟨n, past, found⟩ | member
  · have extended := Database.commitStep_extends w.db i
    obtain ⟨later, last, descends⟩ := (kept.commitStep (i := i)).descends
      (past.trans extended.version) le_rfl (by rw [extended.history n past]; exact found)
    exact ⟨later, last, descends.authorId⟩
  · exact ⟨row, written_committed kept member, rfl⟩

/-- What a write request with this answer wrote is in the table, under this author. -/
def Request.Stands (request : Request) (response : Response) (authorId : ℤ) (table : Table) :
    Prop :=
  ∃ id, request.Wrote response id ∧ ∃ row, table.find id = some row ∧ row.authorId = authorId ∧
    (request.deletes = true → row.live = false)

/-- What a request that succeeds leaves in the committed state `table`. -/
def Acknowledged (request : Request) (response : Response) (s : Session) (r : RequestState)
    (table : Table) : Prop :=
  Fitted request s r ∧
  if request.writes then
    ∃ authorId, request.Stands response authorId table ∧
      r.queue = [request.invalidation authorId]
  else r.queue = []

/-- A commit of the request added the row that its answer to a creation shows. -/
def Entered (i : Pid) (request : Request) (response : Response) (w : World) : Prop :=
  request.creates = true → ∃ n < w.db.version, w.db.writer (n + 1) = i ∧
    ∃ row, request.Wrote response row.id ∧ request.Fills row ∧
      (w.db.history (n + 1)).find row.id = some row ∧
      ∀ id, id ≠ row.id → (w.db.history (n + 1)).find id = (w.db.history n).find id

theorem Entered.carried {request : Request} {response : Response} {w w' : World}
    (entered : Entered i request response w) (extended : Extends w.db w'.db) :
    Entered i request response w' := by
  intro creates
  obtain ⟨n, past, writer, row, wrote, fills, found⟩ := entered creates
  refine ⟨n, past.trans_le extended.version, (extended.writer _ past).trans writer, row, wrote,
    fills, ?_⟩
  rw [extended.history _ past, extended.history n past.le]
  exact found

/-- How the part of a request ends that its commit closes. -/
def Closed (σ : Setting) (i : Pid) : Except Exc Response → World → Prop
  | .ok response, w => Past i (fun s r n table => s.committed = some n ∧
      Acknowledged (σ.requests i) response s r table) w ∧ Entered i (σ.requests i) response w
  | .error error, w => σ.Calm → RefusedBy i (σ.requests i) error w

theorem acknowledged_of_accepted {w : World} {response : Response}
    (kept : Coherent σ.requests w.db) (writes : (σ.requests i).writes = true)
    (accepted : Accepted i (σ.requests i) response w) :
    Acknowledged (σ.requests i) response ((w.db.commitStep i).sessions i) (w.requests i)
      ((w.db.commitStep i).history (w.db.commitStep i).version) := by
  obtain ⟨⟨-, fits⟩, id, authorId, wrote, standing, queue, deleting, -⟩ := accepted
  refine ⟨fun expected token => by rw [Database.commitStep_session]; exact fits expected token, ?_⟩
  rw [if_pos writes]
  refine ⟨authorId, ⟨id, wrote, ?_⟩, queue⟩
  cases deletes : (σ.requests i).deletes with
  | false =>
      obtain ⟨row, found, author⟩ := standing_committed kept standing
      exact ⟨row, found, author, nofun⟩
  | true =>
      obtain ⟨row, found, author⟩ := standing_committed kept standing
      obtain ⟨gone, single, same, dead⟩ := deleting deletes
      have member : gone ∈ (w.db.transaction i).writes := by
        rw [Database.transaction, single]
        exact List.mem_singleton_self _
      have there : ((w.db.commitStep i).history (w.db.commitStep i).version).find gone.id =
          some gone := written_committed kept member
      rw [same, found] at there
      obtain rfl := Option.some.inj there
      exact ⟨row, found, author, fun _ => dead⟩

theorem entered_of_accepted {w : World} {response : Response} (kept : Coherent σ.requests w.db)
    (accepted : Accepted i (σ.requests i) response w) :
    Entered i (σ.requests i) response { w with db := w.db.commitStep i } := by
  intro creates
  obtain ⟨-, id, authorId, wrote, -, -, -, creating⟩ := accepted
  obtain ⟨row, single, rfl, fills⟩ := creating creates
  have writes : (w.db.transaction i).writes = [row] := single
  have latest := kept.commitStep_find writes
  rcases Database.commitStep_cases w.db i with ⟨none_, -⟩ | ⟨-, version, writer, -⟩
  · rw [writes] at none_
    cases none_
  · have extended := Database.commitStep_extends w.db i
    refine ⟨w.db.version, version.ge, ?_, row, wrote, fills, ?_, fun id other => ?_⟩
    · show (w.db.commitStep i).writer _ = i
      rw [writer, Function.update_self]
    · exact (latest row.id).trans (if_pos rfl)
    · rw [extended.history _ le_rfl]
      exact (latest id).trans (if_neg other)

theorem Handled.stable (outcome : Except Exc Response) : σ.rows.Stable i (Handled σ i outcome) := by
  intro w w' kept holds moved kept'
  cases outcome with
  | error error =>
      exact ⟨Own.undisturbed holds.1 moved, fun calm conditional =>
        Refusal.stable σ _ error w w' kept (holds.2 calm conditional) moved kept'⟩
  | ok response =>
      rw [Handled] at holds ⊢
      split at holds
      · rename_i writes
        rw [if_pos writes]
        obtain ⟨own, id, authorId, wrote, standing, queue⟩ := holds
        exact ⟨own.undisturbed moved, id, authorId, wrote,
          Standing.stable σ id authorId w w' kept standing moved kept', queue.undisturbed moved⟩
      · rename_i reads
        rw [if_neg reads]
        exact holds.undisturbed moved

theorem Closed.stable (outcome : Except Exc Response) : σ.rows.Stable i (Closed σ i outcome) := by
  intro w w' kept holds moved kept'
  cases outcome with
  | ok response =>
      exact ⟨Past.undisturbed holds.1 moved, holds.2.carried moved.db⟩
  | error error =>
      exact fun calm => RefusedBy.stable σ _ error w w' kept (holds calm) moved kept'

theorem untilCommit_triple (app : App) :
    σ.rows.Triple i (Own i Fresh) (untilCommit (app.handler (σ.requests i))) (Closed σ i) := by
  refine Triple.bind (handler_triple app) (fun response => ?_)
    fun error w _ failed calm => ⟨failed.1, failed.2 calm⟩
  refine Triple.bind (C := fun outcome => Closed σ i (outcome.map fun _ => response)) ?_
    (fun _ => Triple.ret (Closed.stable _) fun _ _ closed => closed) fun error w _ failed => failed
  refine Triple.call (fun reply => Closed σ i (reply.map fun _ => response)) (Handled.stable _)
    (fun _ _ _ => trivial) (fun w reply w' kept handled step _ => ?_) fun reply => ?_
  · rcases commit_cases step with ⟨rfl, rfl⟩ | ⟨hectic, error, rfl⟩
    · rw [Handled] at handled
      split at handled
      · rename_i writes
        exact ⟨⟨_, le_rfl, by simp, acknowledged_of_accepted kept writes handled⟩,
          entered_of_accepted kept handled⟩
      · rename_i reads
        refine ⟨⟨_, le_rfl, by simp, fun expected token => ?_, ?_⟩, fun creates => ?_⟩
        · exact absurd (Request.writes_of_expected token) reads
        · rw [if_neg reads]
          exact handled.2
        · exact absurd (Request.writes_of_creates creates) reads
    · exact fun calm => absurd calm hectic
  · cases reply with
    | ok _ => exact Triple.ret (Closed.stable _) fun _ _ closed => closed
    | error error => exact Triple.raise (Closed.stable _) fun _ _ closed => closed

/-! ## The callbacks -/

/-- Nothing but `A` is known at the end; in a calm system no cancellation gets out. -/
def Tame (σ : Setting) (A : World → Prop) {α : Type} (outcome : Except Exc α) (w : World) : Prop :=
  A w ∧ ∀ error, outcome = .error error → σ.Calm → error.isException = true

/-- A fact about the database that only the request itself could make false. -/
structure Recorded (σ : Setting) (i : Pid) (A : World → Prop) : Prop where
  stable : σ.rows.Stable i A
  db : ∀ w w', A w → w'.db = w.db → A w'

variable {A : World → Prop} {α β : Type}

theorem tame_bind {p : Py α} {f : α → Py β} (first : σ.rows.Triple i A p (Tame σ A))
    (rest : ∀ value, σ.rows.Triple i A (f value) (Tame σ A)) :
    σ.rows.Triple i A (p.bind f) (Tame σ A) :=
  Triple.bind first (fun value => (rest value).mono (fun _ _ ended => ended.1) fun _ _ _ h => h)
    fun error _ _ ended => ⟨ended.1, fun _ same => by cases same; exact ended.2 error rfl⟩

theorem tame_ret (recorded : Recorded σ i A) (value : α) :
    σ.rows.Triple i A (.ret value) (Tame σ A) :=
  Triple.ret recorded.stable fun _ _ holds => ⟨holds, nofun⟩

theorem reply_triple (recorded : Recorded σ i A) {op : Op} (aside : op.asksDatabase = false)
    (next : op.Reply → α) : σ.rows.Triple i A (.call op fun reply => .ret (next reply))
      (okOr (fun _ => A) fun _ => False) := by
  refine Triple.call (fun _ => A) recorded.stable (fun _ _ _ => ?_)
    (fun w reply w' _ holds step _ => ?_)
    fun reply => Triple.ret recorded.stable fun _ _ holds => holds
  · cases op <;> trivial
  · obtain ⟨c, -, step⟩ := step
    exact recorded.db w w' holds (World.exec_db aside step)

theorem tame_reply (recorded : Recorded σ i A) {op : Op} (aside : op.asksDatabase = false)
    (next : op.Reply → α) : σ.rows.Triple i A (.call op fun reply => .ret (next reply))
      (Tame σ A) := by
  refine (reply_triple recorded aside next).mono (fun _ _ holds => holds) fun outcome _ _ ended => ?_
  cases outcome with
  | ok value => exact ⟨ended, nofun⟩
  | error error => exact ended.elim

theorem tame_redis (recorded : Recorded σ i A) (command : RedisCommand) :
    σ.rows.Triple i A (redis command) (Tame σ A) := by
  refine Triple.call (fun reply w => A w ∧
    ∀ error, reply = .error error → σ.Calm → error.isException = true) recorded.stable
    (fun _ _ _ => trivial) (fun w reply w' _ holds step _ => ?_) fun reply => ?_
  · obtain ⟨c, allowed, step⟩ := step
    refine ⟨recorded.db w w' holds (World.exec_db rfl step), fun error failed calm => ?_⟩
    subst failed
    simp only [World.exec, (calm w i _ c allowed).1] at step
    obtain rfl := Redis.step_error _ (Prod.mk.inj (Option.some.inj step)).1
    rfl
  · have stable : σ.rows.Stable i fun w => A w ∧
        ∀ error, reply = .error error → σ.Calm → error.isException = true :=
      stable_pure _ recorded.stable
    cases reply with
    | ok value =>
        exact Triple.ret stable fun _ _ holds => ⟨holds.1, fun _ same => by cases same⟩
    | error error =>
        exact Triple.raise stable fun _ _ holds => ⟨holds.1, fun _ same => by
          cases same; exact holds.2 error rfl⟩

theorem tame_live (recorded : Recorded σ i A) (cache : ArticleCache) :
    σ.rows.Triple i A cache.live (Tame σ A) := by
  unfold ArticleCache.live
  split
  · refine tame_bind (tame_reply recorded rfl _) fun degraded => ?_
    cases degraded with
    | true => exact tame_ret recorded _
    | false => exact tame_reply recorded rfl _
  · exact tame_ret recorded _

theorem tame_answered (recorded : Recorded σ i A) {operation : CacheOperation} {command : Py α}
    (first : σ.rows.Triple i A command (Tame σ A)) :
    σ.rows.Triple i A (ArticleCache.answered operation command) (Tame σ A) := by
  refine Triple.attempt_bind first fun outcome => ?_
  cases outcome with
  | ok value =>
      exact (tame_bind (tame_reply recorded rfl _) fun _ => tame_ret recorded _).mono
        (fun _ _ holds => holds.1) fun _ _ _ ended => ended
  | error error =>
      dsimp only
      split
      · refine (tame_bind ?_ fun _ => tame_ret recorded _).mono
          (fun _ _ holds => holds.1) fun _ _ _ ended => ended
        exact tame_bind (tame_reply recorded rfl _) fun _ =>
          tame_bind (tame_reply recorded rfl _) fun _ => tame_reply recorded rfl _
      · refine Triple.raise (stable_pure _ recorded.stable) fun _ _ holds => ⟨holds.1, ?_⟩
        intro _ same
        cases same
        exact holds.2 error rfl

theorem tame_whenLive (recorded : Recorded σ i A) (cache : ArticleCache) {p : Py Unit}
    (inner : σ.rows.Triple i A p (Tame σ A)) :
    σ.rows.Triple i A (cache.live.bind fun live => if live then p else .ret ()) (Tame σ A) := by
  refine tame_bind (tame_live recorded cache) fun live => ?_
  cases live with
  | true => exact inner
  | false => exact tame_ret recorded _

theorem tame_runInvalidation (recorded : Recorded σ i A) (cache : ArticleCache)
    (callback : Invalidation) :
    σ.rows.Triple i A (runInvalidation cache callback) (Tame σ A) := by
  have given : σ.rows.Triple i A (invalidateGiven cache callback.articleId) (Tame σ A) := by
    cases callback.articleId with
    | none => exact tame_ret recorded _
    | some articleId =>
        exact tame_whenLive recorded cache (tame_bind (tame_answered recorded
          (tame_redis recorded _)) fun _ => tame_ret recorded _)
  refine tame_bind given fun _ => tame_whenLive recorded cache ?_
  refine tame_bind (tame_answered recorded ?_) fun _ => tame_ret recorded _
  exact tame_bind (tame_redis recorded _) fun _ =>
    tame_bind (tame_redis recorded _) fun _ => tame_ret recorded _

/-- What the callbacks raise is logged; only a cancellation gets out of the queue. -/
theorem runCallbacks_triple (recorded : Recorded σ i A) (cache : ArticleCache)
    (callbacks : List Invalidation) :
    σ.rows.Triple i A (runCallbacks cache callbacks) fun outcome w =>
      A w ∧ ∀ error, outcome = .error error → ¬σ.Calm := by
  induction callbacks with
  | nil => exact Triple.ret recorded.stable fun _ _ holds => ⟨holds, nofun⟩
  | cons callback rest ih =>
      refine Triple.attempt_bind (tame_runInvalidation recorded cache callback) fun outcome => ?_
      cases outcome with
      | ok _ => exact ih.mono (fun _ _ holds => holds.1) fun _ _ _ ended => ended
      | error error =>
          dsimp only
          split
          · exact ih.mono (fun _ _ holds => holds.1) fun _ _ _ ended => ended
          · rename_i escapes
            refine Triple.raise (stable_pure _ recorded.stable) fun _ _ holds => ⟨holds.1, ?_⟩
            exact fun _ _ calm => escapes (holds.2 error rfl calm)

theorem drainAfterCommit_triple (recorded : Recorded σ i A) (cache : ArticleCache) :
    σ.rows.Triple i A (drainAfterCommit cache) fun outcome w =>
      A w ∧ ∀ error, outcome = .error error → ¬σ.Calm := by
  refine Triple.bind (reply_triple recorded rfl _) (fun callbacks => ?_)
    fun _ _ _ impossible => impossible.elim
  exact runCallbacks_triple recorded cache callbacks

/-! ## The whole request -/

/-- What is left when the request ends with an exception. -/
def afterFailure {α : Type} (error : Exc) : Except Exc Unit → Except Exc α
  | .ok _ => .error error
  | .error failure => .error failure

/-- `get_session` around a handler, in any protocol. -/
theorem getSession_triple {S : Type} {P : Protocol Op Op.Reply S} {A : S → Prop}
    {C B : Except Exc α → S → Prop} (cache : ArticleCache) {handler : Py α}
    (stable : ∀ outcome, P.Stable i (B outcome))
    (first : P.Triple i A (untilCommit handler) C)
    (drain : ∀ value, P.Triple i (C (.ok value)) (drainAfterCommit cache)
      fun outcome => B (outcome.map fun _ => value))
    (abort : ∀ error, P.Triple i (C (.error error)) (rollback.bind fun _ => discardAfterCommit)
      fun outcome => B (afterFailure error outcome)) :
    P.Triple i A (getSession cache handler) B := by
  refine Triple.attempt_bind first fun outcome => ?_
  cases outcome with
  | ok value =>
      exact Triple.bind (drain value)
        (fun _ => Triple.ret (stable _) fun _ _ holds => holds) fun _ _ _ failed => failed
  | error error =>
      have aborted := Triple.bind (f := fun _ => (.raise error : Py α)) (abort error)
        (fun _ => Triple.raise (stable _) fun _ _ holds => holds) fun _ _ _ failed => failed
      rw [bind_assoc] at aborted
      exact aborted

def Served.Left (request : Request) (response : Response) (s : Session) (r : RequestState) (n : ℕ)
    (table : Table) : Prop :=
  s.committed = some n ∧ Fitted request s r ∧
    (request.writes = true → ∃ authorId, request.Stands response authorId table)

def Served (σ : Setting) (i : Pid) : Except Exc Response → World → Prop
  | .ok response, w => Past i (Served.Left (σ.requests i) response) w ∧
      Entered i (σ.requests i) response w
  | .error error, w => σ.Calm → RefusedBy i (σ.requests i) error w

theorem Served.recorded (outcome : Except Exc Response) : Recorded σ i (Served σ i outcome) := by
  cases outcome with
  | ok response =>
      refine ⟨fun w w' kept holds moved kept' => ?_, fun w w' holds same => ?_⟩
      · exact ⟨Past.undisturbed holds.1 moved, holds.2.carried moved.db⟩
      · obtain ⟨⟨n, past, left⟩, entered⟩ := holds
        refine ⟨⟨n, by rw [same]; exact past, ?_⟩, entered.carried (by rw [same]; exact .refl _)⟩
        rw [same]
        exact left
  | error error =>
      refine ⟨fun w w' kept holds moved kept' calm =>
        RefusedBy.stable σ _ error w w' kept (holds calm) moved kept', fun w w' holds same calm => ?_⟩
      have refused : RefusedBy i (σ.requests i) error w := holds calm
      exact refused.carried (by rw [same]; exact Extends.refl _) (by rw [same]) (by rw [same])
        (by rw [same])

theorem Closed.served {response : Response} {w : World} (closed : Closed σ i (.ok response) w) :
    Served σ i (.ok response) w := by
  obtain ⟨⟨n, past, committed, fits, rest⟩, entered⟩ := closed
  refine ⟨⟨n, past, committed, fits, fun writes => ?_⟩, entered⟩
  rw [if_pos writes] at rest
  obtain ⟨authorId, stands, -⟩ := rest
  exact ⟨authorId, stands⟩

theorem discard_triple (recorded : Recorded σ i A) :
    σ.rows.Triple i A discardAfterCommit (okOr (fun _ => A) fun _ => False) :=
  Triple.bind (reply_triple recorded rfl _)
    (fun _ => Triple.ret recorded.stable fun _ _ holds => holds) fun _ _ _ impossible => impossible

/-- The rollback after a failure keeps what is known about it. -/
theorem abort_triple (error : Exc) :
    σ.rows.Triple i (Closed σ i (.error error)) (rollback.bind fun _ => discardAfterCommit)
      fun outcome => Served σ i (afterFailure error outcome) := by
  have recorded : ∀ outcome, Recorded σ i (Served σ i outcome) := Served.recorded
  refine Triple.bind (C := fun outcome => Served σ i (afterFailure error outcome)) ?_
    (fun _ => ?_) fun _ _ _ failed => failed
  · refine Triple.call (fun reply => Served σ i (afterFailure error reply)) (Closed.stable _)
      (fun _ _ _ => trivial) (fun w reply w' _ closed step _ => ?_) fun reply => ?_
    · have moved := rollback_exec step
      subst moved
      obtain ⟨c, allowed, step⟩ := step
      have answer := (Prod.mk.inj (Option.some.inj step)).1
      cases reply with
      | ok _ =>
          intro calm
          have refused := closed calm
          have extended := (Database.rollbackStep_own w.db i).kept
          rcases rollback_sessions w.db i with same | ended
          · exact refused.carried extended (by rw [same]) (by rw [same]) (by rw [same])
          · exact refused.carried extended (by rw [ended]) (by rw [ended]) (by rw [ended])
      | error failure =>
          intro calm
          rw [World.waited, (calm w i _ c allowed).1] at answer
          cases answer
    · cases reply with
      | ok _ => exact Triple.ret (recorded _).stable fun _ _ holds => holds
      | error _ => exact Triple.raise (recorded _).stable fun _ _ holds => holds
  · refine (discard_triple (recorded (.error error))).mono (fun _ _ holds => holds)
      fun outcome _ _ ended => ?_
    cases outcome with
    | ok _ => exact ended
    | error _ => exact ended.elim

theorem serve_triple (app : App) :
    σ.rows.Triple i (Own i Fresh) (app.serve (σ.requests i)) (Served σ i) := by
  refine getSession_triple app.cache (fun outcome => (Served.recorded outcome).stable)
    (untilCommit_triple app) (fun response => ?_) abort_triple
  refine (drainAfterCommit_triple (Served.recorded (.ok response)) app.cache).mono
    (fun w _ closed => Closed.served closed) fun outcome _ _ ended => ?_
  · cases outcome with
    | ok _ => exact ended.1
    | error error => exact fun calm => absurd calm (ended.2 error rfl)

end

end ContentPlatform
