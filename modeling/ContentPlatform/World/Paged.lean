import ContentPlatform.Program.Interleaved
import ContentPlatform.World.Listing
import ContentPlatform.World.Readers
import ContentPlatform.World.Returned

/-!
# The pages that requests answer with

Whatever fails and however requests interleave, a page is one of a committed state, whether it was
loaded or found in Redis.
-/

set_option autoImplicit false

namespace ContentPlatform

open Program Py Prog Protocol

section
variable {σ : Setting} {rt : Runtime} {i : Pid} {w w' : World} {command : RedisCommand}

/-! ## What is stored, and what is about to be -/

/-- An entry that is new under the key of a page is the page that the request has loaded. -/
theorem MaySend.stored (may : MaySend σ rt i w command) {generation limit : ℤ} {author : Option ℤ}
    {parts : Option (ℤ × ℤ)} {entry : Entry}
    (stored : (w.store.step (w.provenance i) command).2.entries
      (listKey rt generation author limit parts) = some entry) :
    w.store.entries (listKey rt generation author limit parts) = some entry ∨
      ∃ limit' after n page, σ.requests i = .list limit' after author ∧ n ≤ w.db.version ∧
        filterHash rt limit parts = filterHash rt limit' (cursorParts after) ∧
        entry.provenance.loadedFrom = some n ∧
        (w.db.history n).Shows limit' after author page ∧ entry.value = encodePage rt page := by
  have kept : ¬Redis.writes command (listKey rt generation author limit parts) →
      w.store.entries (listKey rt generation author limit parts) = some entry := by
    intro aside
    rw [Redis.step_entries aside] at stored
    exact stored
  cases may with
  | get key => exact Or.inl stored
  | mget reads => exact Or.inl stored
  | article _ _ _ _ _ _ =>
      exact Or.inl (kept fun same => (Redis.aside_articleKey rt _).page _ _ _ _ same.symm)
  | lock key ttl =>
      exact Or.inl (kept fun same => (Redis.aside_lockKey rt key).page _ _ _ _ same.symm)
  | unlock key =>
      exact Or.inl (kept fun same => (Redis.aside_lockKey rt key).page _ _ _ _ same.symm)
  | forget id =>
      exact Or.inl (kept fun same => (Redis.aside_articleKey rt id).page _ _ _ _ same.symm)
  | count author' => exact Or.inl (kept (listKey_ne_counterKey rt _ _ _ author' _))
  | @page generation' limit' ttl after' author' n page own past loaded shows _ _ =>
      by_cases same : listKey rt generation author limit parts =
          listKey rt generation' author' limit' (cursorParts after')
      · rw [same, show (w.store.step (w.provenance i) (.set (listKey rt generation' author' limit'
          (cursorParts after')) (encodePage rt page) ttl false)).2 = w.store.setEntry _ _ from rfl,
          Redis.setEntry_self] at stored
        obtain ⟨rfl, rfl, digest⟩ := listKey_injective rt same
        obtain rfl := Option.some.inj stored
        exact Or.inr ⟨limit', after', n, page, own, past, digest, loaded, shows, rfl⟩
      · exact Or.inl (kept same)

theorem Genuine.stores (genuine : Genuine σ rt w) (distinct : σ.Distinct rt) {op : Op}
    {reply : op.Reply} (may : ∀ command, op = .redis command → MaySend σ rt i w command)
    (step : Exec σ.allow i op w reply w') : Genuine σ rt w' := by
  cases asks : op.asksRedis with
  | false =>
      obtain ⟨c, -, step⟩ := step
      have extended := exec_extends step
      intro j generation limit after author entry request stored
      rw [World.exec_store asks step] at stored
      obtain ⟨n, past, same, page, shows, value⟩ :=
        genuine j generation limit after author entry request stored
      refine ⟨n, past.trans extended.version, same, page, ?_, value⟩
      rw [extended.history n past]
      exact shows
  | true =>
      cases op with
      | redis command =>
          rcases World.redis_cases step with ⟨rfl, -⟩ | ⟨rfl, -⟩
          · intro j generation limit after author entry request stored
            rw [redisStep_store] at stored
            rw [World.redisStep_db]
            rcases (may command rfl).stored stored with before |
              ⟨limit', after', n, page, own, past, digest, same, shows, value⟩
            · exact genuine j generation limit after author entry request before
            · obtain ⟨rfl, parts⟩ := distinct j i limit limit' after after' author request own digest
              obtain rfl := cursorParts_injective parts
              exact ⟨n, past, same, page, shows, value⟩
          · exact genuine
      | _ => cases asks

theorem Genuine.shrinks (genuine : Genuine σ rt w) (shrinks : Shrinks w w')
    (extended : Extends w.db w'.db) : Genuine σ rt w' := by
  intro j generation limit after author entry request stored
  rcases shrinks.entries (listKey rt generation author limit (cursorParts after)) with same | ⟨gone, -⟩
  · rw [same] at stored
    obtain ⟨n, past, from_, page, shows, value⟩ :=
      genuine j generation limit after author entry request stored
    refine ⟨n, past.trans extended.version, from_, page, ?_, value⟩
    rw [extended.history n past]
    exact shows
  · rw [gone] at stored
    cases stored

def Unwriting (requests : Pid → Request) (w : World) : Prop :=
  ∀ i, (requests i).writes = false → (w.db.transaction i).writes = []

theorem Unwriting.exec {requests : Pid → Request} {c : Choice} {op : Op} {reply : op.Reply}
    (before : Unwriting requests w) (owed : rowsPre requests i op w.db)
    (step : w.exec i c op = some (reply, w')) : Unwriting requests w' := by
  intro j reads
  by_cases other : j ≠ i
  · rw [Database.transaction, (World.exec_undisturbed step other).session]
    exact before j reads
  obtain rfl := not_not.mp other
  have writer : ∀ request, requests j = request → request.writes = true → False := by
    rintro _ rfl writes
    exact Bool.noConfusion (reads.symm.trans writes)
  have moved := World.exec_database step
  have kept := before j reads
  generalize w.db = db at moved owed kept
  generalize w'.db = db' at moved ⊢
  cases moved with
  | aside _ keeps => exact keeps.writes.trans kept
  | compare compares _ =>
      cases op with
      | mysql statement =>
          cases statement with
          | updateArticle _ _ _ _ =>
              obtain ⟨-, -, -, principal, shape⟩ := owed
              exact (writer _ shape rfl).elim
          | softDeleteArticle _ _ _ =>
              obtain ⟨-, -, -, principal, shape⟩ := owed
              exact (writer _ shape rfl).elim
          | _ => exact compares.elim
      | _ => exact compares.elim
  | insert _ =>
      obtain ⟨-, -, principal, user, shape, -⟩ := owed
      exact (writer _ shape rfl).elim
  | rollback =>
      rcases rollback_sessions db j with same | ended
      · rw [Database.transaction, same]
        exact kept
      · rw [Database.transaction, ended]
        rfl
  | commit =>
      rw [Database.transaction, Database.commitStep_session]
      rfl

theorem Unwriting.event {requests : Pid → Request} (before : Unwriting requests w)
    (outside : Outside w w') : Unwriting requests w' := by
  intro i reads
  rw [Database.transaction, (outside.undisturbed i).session]
  exact before i reads

theorem Initial.unwriting (start : Initial w) (requests : Pid → Request) :
    Unwriting requests w := by
  intro i _
  rw [Database.transaction, start.sessions i]
  rfl

/-! ## The protocol -/

/-- What is stored under the key of a window is a page of it, and readers write nothing. -/
structure Paged (σ : Setting) (rt : Runtime) (w : World) : Prop where
  genuine : Genuine σ rt w
  unwriting : Unwriting σ.requests w

end

section
variable (σ : Setting) (rt : Runtime) (distinct : σ.Distinct rt)
  (shrinks : ∀ w w', σ.env w w' → Shrinks w w')

include distinct in
theorem Paged.step {i : Pid} {op : Op} {w w' : World} {reply : op.Reply} (before : Paged σ rt w)
    (owed : (σ.stores rt shrinks).pre i op w)
    (step : (σ.stores rt shrinks).exec i op w reply w') : Paged σ rt w' := by
  refine ⟨before.genuine.stores distinct owed.2 step, ?_⟩
  obtain ⟨c, -, step⟩ := step
  exact before.unwriting.exec owed.1 step

include shrinks in
theorem Paged.event {w w' : World} (before : Paged σ rt w) (event : σ.env w w') :
    Paged σ rt w' := by
  have outside := σ.outside _ _ event
  exact ⟨before.genuine.shrinks (shrinks _ _ event) (outside.undisturbed 0).db,
    before.unwriting.event outside⟩

/-- The protocol of what requests store, with the pages that are stored. -/
def Setting.pages : Protocol Op Op.Reply World :=
  (σ.stores rt shrinks).strengthen (Paged σ rt)
    (fun _ before owed step => before.step σ rt distinct shrinks owed step)
    fun _ before event => before.event σ rt shrinks event

variable {σ rt distinct shrinks} in
theorem Initial.allPages {w : World} (start : Initial w) (empty : Unstored w) (app : App)
    (same : app.rt = rt) :
    (σ.pages rt distinct shrinks).AllSafe (fun _ _ _ => True) (app.start σ.requests w) := by
  subst same
  apply AllSafe.strengthen
  · exact start.allStores shrinks empty app
  · refine ⟨fun i generation limit after author entry _ stored => ?_, start.unwriting _⟩
    rw [show (app.start σ.requests w).state = w from rfl, empty.entries] at stored
    cases stored

variable {σ rt distinct shrinks} in
theorem among_extends {i : Pid} {op : Op} {w w' : World} {reply : op.Reply}
    (step : (σ.pages rt distinct shrinks).Among i op w reply w') : Extends w.db w'.db := by
  obtain ⟨w₁, moved, -, -, c, -, step⟩ := step
  exact moved.1.db.trans (exec_extends step)

instance (i : Pid) : Evolves ((σ.pages rt distinct shrinks).Among i)
    fun w w' => Extends w.db w'.db where
  refl w := Extends.refl w.db
  trans := Extends.trans
  step := among_extends

/-! ## What a list request returns -/

/-- Whenever the program of request `i` returns a value among the others, `Q` holds of it. -/
abbrev Responds (i : Pid) {α : Type} (p : Py α) (Q : α → World → Prop) (w : World) : Prop :=
  Yields ((σ.pages rt distinct shrinks).Among i) (fun w w' => Extends w.db w'.db) p Q w

def PageOf (limit : ℤ) (after : Option Position) (author : Option ℤ) (page : Page) (w : World) :
    Prop :=
  ∃ n ≤ w.db.version, (w.db.history n).Shows limit after author page

def FoundPage (rt : Runtime) (limit : ℤ) (after : Option Position) (author : Option ℤ)
    (found : Option String) (w : World) : Prop :=
  ∀ body, found = some body → ∃ page, body = encodePage rt page ∧ PageOf limit after author page w

variable {σ rt distinct shrinks} {i : Pid} {limit : ℤ} {after : Option Position} {author : Option ℤ}
  {w w' : World}

theorem PageOf.extends_ {page : Page} (shows_ : PageOf limit after author page w)
    (moved : Extends w.db w'.db) : PageOf limit after author page w' := by
  obtain ⟨n, past, shown⟩ := shows_
  refine ⟨n, past.trans moved.version, ?_⟩
  rw [moved.history n past]
  exact shown

theorem FoundPage.none : FoundPage rt limit after author none w := by
  rintro body ⟨⟩

theorem FoundPage.extends_ {found : Option String} (holds : FoundPage rt limit after author found w)
    (moved : Extends w.db w'.db) : FoundPage rt limit after author found w' := by
  intro body same
  obtain ⟨page, encoded, shown⟩ := holds body same
  exact ⟨page, encoded, shown.extends_ moved⟩

theorem responds_get (request : σ.requests i = .list limit after author) (generation : ℤ) :
    Responds σ rt distinct shrinks i
      (redis (.get (listKey rt generation author limit (cursorParts after))))
      (FoundPage rt limit after author) w := by
  apply Yields.call
  rintro reply w' ⟨w₁, -, kept, -, step⟩
  cases reply with
  | error error => exact Yields.raise error
  | ok found =>
      apply Yields.ret
      rintro body rfl
      rcases World.redis_cases step with ⟨rfl, answer | ⟨error, impossible⟩⟩ |
        ⟨-, error, impossible⟩
      · have value : w₁.store.value (listKey rt generation author limit (cursorParts after)) =
            some body := (Except.ok.inj answer).symm
        rw [Redis.value] at value
        obtain ⟨entry, stored, rfl⟩ := Option.map_eq_some_iff.mp value
        obtain ⟨n, past, -, page, shown, encoded⟩ :=
          kept.2.genuine i generation limit after author entry request stored
        exact ⟨page, encoded, n, past, shown⟩
      · cases impossible
      · cases impossible

def RowsOf (limit : ℤ) (after : Option Position) (author : Option ℤ) (rows : List ArticleSummaryOut)
    (w : World) : Prop :=
  ∃ n ≤ w.db.version, rows = (w.db.history n).fetch limit after author

theorem RowsOf.extends_ {rows : List ArticleSummaryOut} (holds : RowsOf limit after author rows w)
    (moved : Extends w.db w'.db) : RowsOf limit after author rows w' := by
  obtain ⟨n, past, same⟩ := holds
  refine ⟨n, past.trans moved.version, ?_⟩
  rw [moved.history n past]
  exact same

/-- A consistent read of a request that writes nothing sees a committed state. -/
theorem rowsOf_select (reads : (σ.requests i).writes = false) {size : ℤ}
    {reply : Except Exc (List ArticleSummaryOut)}
    (step : (σ.pages rt distinct shrinks).Among i (.mysql (.selectPage size after author)) w reply w') :
    ∀ rows, reply = .ok rows → RowsOf size after author rows w' := by
  obtain ⟨w₁, -, kept, -, step⟩ := step
  rintro rows rfl
  have table : w₁.db.readTable i = w₁.db.history (w₁.db.viewed i) := by
    rw [Database.readTable, kept.2.unwriting i reads, Table.overlay_nil]
  obtain ⟨c, -, ⟨error, -, impossible, -⟩ | ⟨db, -, answered, rfl⟩⟩ := mysql_exec step
  · cases impossible
  simp only [Database.statementStep, table] at answered
  split at answered
  · cases answered
  · obtain ⟨answer, rfl⟩ := Prod.mk.inj (Option.some.inj answered)
    exact ⟨w₁.db.viewed i, kept.1.1.view i, (Except.ok.inj answer).symm⟩

theorem responds_list (rt' : Runtime) (reads : (σ.requests i).writes = false) (size : ℤ) :
    Responds σ rt distinct shrinks i (ArticleRepository.list rt' size after author)
      (RowsOf size after author) w := by
  apply yields_guardedRead (E := fun _ => True) (Q := RowsOf size after author)
  · intro w _ reply w' step
    cases reply with
    | ok rows => exact ⟨among_extends step, rowsOf_select reads step rows rfl⟩
    | error error => exact ⟨among_extends step, trivial⟩
  · exact fun _ _ _ _ _ => trivial
  · exact fun _ _ _ _ _ _ => trivial
  · exact fun _ _ _ _ step holds => holds.extends_ (among_extends step)
  · exact fun _ _ => trivial
  · exact fun _ _ _ step holds => holds.extends_ (among_extends step)

variable (request : σ.requests i = .list limit after author)
include request

theorem responds_loadPage (service : ArticleService) :
    Responds σ rt distinct shrinks i (service.loadPage limit after author)
      (PageOf limit after author) w := by
  have reads : (σ.requests i).writes = false := by rw [request]; rfl
  apply (responds_list service.rt reads (limit + 1)).bind
  rintro rows w' - ⟨n, past, rfl⟩
  cases page : splitPage limit ((w'.db.history n).fetch (limit + 1) after author) with
  | error error => exact Yields.raise error
  | ok page_ => exact Yields.ret ⟨n, past, page⟩

theorem responds_loadAndStorePage (service : ArticleService) (key : String) :
    Responds σ rt distinct shrinks i (service.loadAndStorePage key limit after author)
      (PageOf limit after author) w := by
  apply (responds_loadPage request service).bind
  intro page w₁ _ shown
  apply Yields.skip
  intro ttl w₂ moved
  apply Yields.skip
  intro _ w₃ moved'
  exact Yields.ret (shown.extends_ (moved.trans moved'))

omit request in
theorem responds_decodePage (serializes : rt.Serializes) {found : Option String}
    (holds : FoundPage rt limit after author found w) :
    Responds σ rt distinct shrinks i (Prog.ofExcept (decodePage rt found))
      (fun page w' => ∀ cached, page = some cached → PageOf limit after author cached w') w := by
  cases found with
  | none =>
      apply Yields.ret
      rintro cached ⟨⟩
  | some body =>
      obtain ⟨page, rfl, shown⟩ := holds body rfl
      rw [decodePage_encodePage serializes]
      apply Yields.ret
      rintro cached ⟨⟩
      exact shown

theorem responds_listArticles (service : ArticleService) (same : service.rt = rt)
    (serializes : rt.Serializes) :
    Responds σ rt distinct shrinks i (service.listArticles limit after author)
      (PageOf limit after author) w := by
  subst same
  have none_ : ∀ w, FoundPage service.rt limit after author none w := fun w => FoundPage.none
  have stable : ∀ found w w', Extends w.db w'.db → FoundPage service.rt limit after author found w →
      FoundPage service.rt limit after author found w' := fun _ _ _ moved holds => holds.extends_ moved
  apply Yields.skip
  intro generations w₁ _
  have look : ∀ w, Responds σ service.rt distinct shrinks i _ (FoundPage service.rt limit after author) w :=
    fun w => responds_get request (if author.isSome then generations.2 else generations.1)
  apply (found_fetch none_ stable look service.cache .list).bind
  intro found w₂ _ holds
  apply (responds_decodePage serializes holds).bind
  intro cached w₃ _ shown
  cases cached with
  | some cached => exact Yields.ret (shown cached rfl)
  | none =>
      apply Yields.skip
      intro won w₄ _
      apply (found_waitUnlessWon none_ stable look service won).bind
      intro waited w₅ _ holds'
      apply (responds_decodePage serializes holds').bind
      intro decoded w₆ _ shown'
      cases decoded with
      | some page => exact Yields.ret (shown' page rfl)
      | none =>
          exact (responds_loadAndStorePage request service _).tryFinally
            fun _ _ _ moved shown => shown.extends_ moved

/-- A page that a list request answers with is one of a committed state. -/
theorem responds_serve (app : App) (same : app.rt = rt) (serializes : rt.Serializes) :
    Responds σ rt distinct shrinks i (app.serve (.list limit after author))
      (fun response w' => ∀ page, response = .page page → PageOf limit after author page w') w := by
  apply yields_getSession (Q := fun response w' =>
    ∀ page, response = .page page → PageOf limit after author page w')
  · apply (responds_listArticles request app.articles same serializes).bind
    intro page w' _ shown
    apply Yields.ret
    rintro _ ⟨⟩
    exact shown
  · exact fun _ _ _ step holds page same => (holds page same).extends_ (among_extends step)
  · exact fun _ _ _ moved holds page same => (holds page same).extends_ moved

end

end ContentPlatform
