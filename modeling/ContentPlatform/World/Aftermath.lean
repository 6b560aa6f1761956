import ContentPlatform.Program.Chronicle
import ContentPlatform.World.Snapshots

/-!
# What a request was told after it lost

A request whose compare-and-set matched nothing reads the article a second time, raises one of two
errors and has its transaction rolled back.  How far it comes is told by its own exchanges.
-/

set_option autoImplicit false

namespace ContentPlatform

open Program Py Prog Protocol

/-- How many rows a compare-and-set matched, where this is the answer to one. -/
def Op.matched : (op : Op) → op.Reply → Option ℕ
  | .mysql (.updateArticle _ _ _ _), .ok count => some count
  | .mysql (.softDeleteArticle _ _ _), .ok count => some count
  | _, _ => none

inductive Aftermath where
  | unlost
  /-- The compare-and-set matched nothing. -/
  | lost
  /-- The second read of the article was answered. -/
  | reread
  /-- So was the rollback that followed. -/
  | undone
  deriving DecidableEq

def Aftermath.next (aftermath : Aftermath) (op : Op) (reply : op.Reply) : Aftermath :=
  match aftermath, op, reply with
  | .unlost, op, reply => if op.matched reply = some 0 then .lost else .unlost
  | .lost, .mysql (.selectArticle _), .ok _ => .reread
  | .reread, .rollback, .ok _ => .undone
  | aftermath, _, _ => aftermath

def aftermath (exchanges : List (Interaction Op.Reply)) : Aftermath :=
  exchanges.foldl (fun aftermath exchange => aftermath.next exchange.1 exchange.2) .unlost

/-- After the compare-and-set that matched nothing, the second read of the article was answered, and
so was the rollback that followed. -/
def Reread (exchanges : List (Interaction Op.Reply)) : Prop := aftermath exchanges = .undone

theorem aftermath_snoc (exchanges : List (Interaction Op.Reply)) (op : Op) (reply : op.Reply) :
    aftermath (exchanges ++ [⟨op, reply⟩]) = (aftermath exchanges).next op reply := by
  rw [aftermath, List.foldl_append]
  rfl

theorem Aftermath.next_ne {a : Aftermath} (lost : a ≠ .unlost) (op : Op) (reply : op.Reply) :
    a.next op reply ≠ .unlost := by
  unfold next
  split
  · exact absurd rfl lost
  · exact fun impossible => by cases impossible
  · exact fun impossible => by cases impossible
  · exact lost

theorem Aftermath.next_matched {op : Op} {reply : op.Reply} (none_ : op.matched reply = some 0)
    (a : Aftermath) : a.next op reply ≠ .unlost := by
  cases a with
  | unlost =>
      rw [next, if_pos none_]
      exact fun impossible => by cases impossible
  | _ => exact next_ne (fun impossible => by cases impossible) op reply

theorem Aftermath.next_local {op : Op} (isLocal : op.isLocal = true) (a : Aftermath)
    (reply : op.Reply) : a.next op reply = a := by
  cases op <;> cases isLocal <;> cases a <;> rfl

theorem Op.compares_of_matched {op : Op} {reply : op.Reply} {count : ℕ}
    (matched : op.matched reply = some count) :
    ∃ id expected change, op.Compares id expected change := by
  cases op with
  | mysql statement =>
      cases statement with
      | updateArticle id expected title body => exact ⟨id, expected, _, rfl, rfl, rfl⟩
      | softDeleteArticle id expected deletedAt => exact ⟨id, expected, _, rfl, rfl, rfl⟩
      | _ => cases matched
  | _ => cases matched

theorem Aftermath.next_unlost {op : Op}
    (quiet : ∀ id expected change, ¬op.Compares id expected change) (reply : op.Reply) :
    Aftermath.unlost.next op reply = .unlost := by
  refine if_neg fun matched => ?_
  obtain ⟨id, expected, change, compares⟩ := Op.compares_of_matched matched
  exact quiet id expected change compares

/-! ## What was compared -/

theorem Op.Compares.conditional {requests : Pid → Request} {db : Database} {i : Pid} {op : Op}
    {id : ℤ} {expected : DateTime} {change : ArticleRow → ArticleRow}
    (compares : op.Compares id expected change) (owed : rowsPre requests i op db) :
    (db.transaction i).writes = [] ∧ (requests i).conditional = some (id, expected) := by
  cases op with
  | mysql statement =>
      cases statement with
      | updateArticle id' expected' title body =>
          obtain ⟨rfl, rfl, -⟩ := compares
          obtain ⟨-, empty, -, principal, shape⟩ := owed
          exact ⟨empty, by rw [shape]; rfl⟩
      | softDeleteArticle id' expected' deletedAt =>
          obtain ⟨rfl, rfl, -⟩ := compares
          obtain ⟨-, empty, -, principal, shape⟩ := owed
          exact ⟨empty, by rw [shape]; rfl⟩
      | _ => exact compares.elim
  | _ => exact compares.elim

section
variable {σ : Setting} {i : Pid}

/-- What a compare-and-set matched is what it compared. -/
theorem exec_matched {w w' : World} {c : Choice} {op : Op} {reply : op.Reply} {id : ℤ}
    {expected : DateTime} {change : ArticleRow → ArticleRow}
    (compares : op.Compares id expected change) (step : w.exec i c op = some (reply, w')) :
    (w'.db.sessions i).compared = (w.db.sessions i).compared ∨
      ∃ count seen, op.matched reply = some count ∧ (w'.db.sessions i).compared = some seen ∧
        (0 < count ↔ Fits expected seen) := by
  have answered : ∀ {count : ℕ} {db' : Database},
      w.db.casStep i id expected change c.time = some (count, db') →
      ∃ seen, (db'.sessions i).compared = some seen ∧ (0 < count ↔ Fits expected seen) := by
    intro count db' cas
    obtain ⟨transaction, session, fits, -⟩ := casStep_session cas
    exact ⟨_, congrArg Session.compared session, fits⟩
  cases op with
  | mysql statement =>
      simp only [World.exec] at step
      split at step
      · obtain ⟨-, rfl⟩ := Prod.mk.inj (Option.some.inj step)
        exact Or.inl (by rw [Database.begin_sessions])
      · obtain ⟨⟨reply', db'⟩, answer, same⟩ := Option.map_eq_some_iff.mp step
        obtain ⟨rfl, rfl⟩ := Prod.mk.inj same
        cases statement with
        | updateArticle id' expected' title body =>
            obtain ⟨rfl, rfl, rfl⟩ := compares
            obtain ⟨⟨count, db''⟩, cas, same⟩ := Option.map_eq_some_iff.mp answer
            obtain ⟨rfl, rfl⟩ := Prod.mk.inj same
            obtain ⟨seen, compared, fits⟩ := answered cas
            exact Or.inr ⟨count, seen, rfl, compared, fits⟩
        | softDeleteArticle id' expected' deletedAt =>
            obtain ⟨rfl, rfl, rfl⟩ := compares
            obtain ⟨⟨count, db''⟩, cas, same⟩ := Option.map_eq_some_iff.mp answer
            obtain ⟨rfl, rfl⟩ := Prod.mk.inj same
            obtain ⟨seen, compared, fits⟩ := answered cas
            exact Or.inr ⟨count, seen, rfl, compared, fits⟩
        | _ => exact compares.elim
  | _ => exact compares.elim

/-- A request that lost was told so. -/
theorem Initial.lost_told (app : App) {w : World} (start : Initial w) {c : System}
    {chronicle : List (Pid × Interaction Op.Reply)}
    (run : Chronicle (Exec σ.allow) σ.env (app.start σ.requests w) chronicle c) {id : ℤ}
    {expected : DateTime} (conditional : (σ.requests i).conditional = some (id, expected))
    (lost : Own i (Lost expected) c.state) : aftermath (part i chronicle) ≠ .unlost := by
  refine Chronicle.guided (P := σ.rows) (I := fun w chronicle => Own i (Lost expected) w →
    aftermath (part i chronicle) ≠ .unlost) (start.allSafe (σ := σ) app) ?_ ?_ ?_ run lost
  · rintro ⟨seen, compared, -⟩
    rw [show (app.start σ.requests w).state.db.sessions i = .new from start.sessions i] at compared
    cases compared
  · intro j op w reply w' chronicle kept before owed stepped lost'
    obtain ⟨choice, -, step⟩ := stepped
    by_cases other : i ≠ j
    · rw [part_snoc_ne other]
      have moved := World.exec_undisturbed step other
      rw [Own, moved.session] at lost'
      exact before lost'
    · obtain rfl := not_not.mp other
      rw [part_snoc_self, aftermath_snoc]
      have kept_ : (w'.db.sessions i).compared = (w.db.sessions i).compared →
          (aftermath (part i chronicle)).next op reply ≠ .unlost := by
        intro same
        obtain ⟨seen, compared, unfit⟩ := lost'
        exact Aftermath.next_ne (before ⟨seen, same.symm.trans compared, unfit⟩) op reply
      by_cases quiet : ∀ id expected change, ¬op.Compares id expected change
      · exact kept_ (exec_compared step quiet)
      · push Not at quiet
        obtain ⟨id', expected', change, compares⟩ := quiet
        rcases exec_matched compares step with same | ⟨count, seen, matched, compared, fits⟩
        · exact kept_ same
        · obtain ⟨-, own⟩ := Op.Compares.conditional compares owed
          obtain ⟨rfl, rfl⟩ := Prod.mk.inj (Option.some.inj (own.symm.trans conditional))
          obtain ⟨seen', compared', unfit⟩ := lost'
          obtain rfl := Option.some.inj (compared.symm.trans compared')
          have none_ : count = 0 := Nat.eq_zero_of_not_pos fun some_ => unfit (fits.mp some_)
          exact Aftermath.next_matched (none_ ▸ matched) _
  · intro w w' chronicle before moved lost'
    have same := (σ.outside _ _ moved).undisturbed i
    rw [Own, same.session] at lost'
    exact before lost'

end

/-! ## What was raised -/

/-- How far each request has come, where MySQL and Redis do not raise its two errors. -/
def aftermaths : Protocol Op Op.Reply (Pid → Aftermath) where
  exec i op a reply a' := Honest op reply ∧ a' = Function.update a i ((a i).next op reply)
  env _ _ := False
  inv _ := True
  rely i a a' := a' i = a i
  pre _ _ _ := True
  rely_refl _ _ := rfl
  rely_trans first second := second.trans first
  step_inv _ _ _ := trivial
  step_rely := by
    rintro i j op a reply _ - - ⟨-, rfl⟩ other
    exact Function.update_of_ne other _ _
  env_inv _ _ := trivial
  env_rely _ impossible := impossible.elim

theorem aftermaths_hosts : Hosts aftermaths aftermaths.exec := by
  refine ⟨rfl, ?_, fun _ _ _ _ => trivial⟩
  rintro i op a reply _ isLocal ⟨-, rfl⟩
  rw [Aftermath.next_local isLocal, Function.update_eq_self]

section
variable {i : Pid} {α : Type} {p : Py α}

/-- Request `i` has come this far. -/
def Come (i : Pid) (aftermath : Aftermath) (a : Pid → Aftermath) : Prop := a i = aftermath

theorem aftermaths_stable (Q : Aftermath → Prop) : aftermaths.Stable i fun a => Q (a i) := by
  intro a a' _ holds moved _
  rw [show a' i = a i from moved]
  exact holds

theorem come_stable (aftermath : Aftermath) : aftermaths.Stable i (Come i aftermath) :=
  aftermaths_stable (· = aftermath)

theorem come_step {op : Op} {reply : op.Reply} {a a' : Pid → Aftermath} {aftermath : Aftermath}
    (step : aftermaths.exec i op a reply a') (come : Come i aftermath a) :
    Come i (aftermath.next op reply) a' := by
  obtain ⟨-, rfl⟩ := step
  rw [Come, Function.update_self, show a i = aftermath from come]

theorem quiet_come
    (sends : p.Sends fun op => ∀ id expected change, ¬op.Compares id expected change) :
    aftermaths.Triple i (Come i .unlost) p fun _ => Come i .unlost := by
  refine Triple.of_sends sends (come_stable _) (fun _ _ _ _ _ => trivial) ?_
  intro op a reply a' quiet _ come step _
  have next := come_step step come
  rw [Aftermath.next_unlost quiet] at next
  exact next

theorem reading_come (sends : p.Sends reading) :
    aftermaths.Triple i (Come i .unlost) p fun _ => Come i .unlost :=
  quiet_come (sends.mono fun _ => reading_compares)

/-- How far the answer of a compare-and-set leads. -/
def Aftermath.of (count : ℕ) : Aftermath := if count = 0 then .lost else .unlost

theorem Aftermath.next_of_matched {op : Op} {reply : op.Reply} {count : ℕ}
    (matched : op.matched reply = some count) : Aftermath.unlost.next op reply = .of count := by
  simp only [next, matched, Option.some.injEq, of]

theorem expireAll_come (count : ℕ) :
    aftermaths.Triple i (Come i (.of count)) (expireAll.bind fun _ => .ret count)
      (okOr (fun count => Come i (.of count)) (Come i .unlost)) := by
  refine Triple.call (fun _ => Come i (.of count)) (come_stable _) (fun _ _ _ => trivial) ?_
    fun _ => Triple.ret (come_stable _) fun _ _ come => come
  intro a reply a' _ come step _
  have next := come_step step come
  generalize Aftermath.of count = aftermath at next ⊢
  cases aftermath <;> exact next

theorem cas_come {statement : Statement} (count : statement.Reply → ℕ)
    (matched : ∀ reply, (Op.mysql statement).matched (.ok reply) = some (count reply))
    (failed : ∀ error, (Op.mysql statement).matched (.error error) = none) :
    aftermaths.Triple i (Come i .unlost) (mysql statement)
      (okOr (fun reply => Come i (.of (count reply))) (Come i .unlost)) := by
  refine mysql_triple (come_stable _) (fun _ => come_stable _) (come_stable _)
    ⟨fun _ _ _ => trivial, fun a reply a' _ come step _ => ?_⟩
  have next := come_step step come
  cases reply with
  | ok reply =>
      rw [Aftermath.next_of_matched (matched reply)] at next
      exact next
  | error error =>
      rw [Aftermath.next, failed error] at next
      exact next

theorem updateCas_come (rt : Runtime) {id : ℤ} {expected : DateTime} {title body : String} :
    aftermaths.Triple i (Come i .unlost) (ArticleRepository.updateCas rt id expected title body)
      (okOr (fun count => Come i (.of count)) (Come i .unlost)) := by
  apply guardedWrite_triple aftermaths_hosts (come_stable _) (fun _ => come_stable _)
    (come_stable _)
  · exact Triple.bind (cas_come (fun count => count) (fun _ => rfl) fun _ => rfl) expireAll_come
      fun _ _ _ failed => failed
  · exact fun _ come _ => come

theorem softDeleteCas_come (rt : Runtime) {id : ℤ} {expected : DateTime} :
    aftermaths.Triple i (Come i .unlost) (ArticleRepository.softDeleteCas rt id expected)
      (okOr (fun count => Come i (.of count)) (Come i .unlost)) := by
  apply guardedWrite_triple aftermaths_hosts (come_stable _) (fun _ => come_stable _)
    (come_stable _)
  · refine triple_skip aftermaths_hosts rfl (come_stable _) fun deletedAt => ?_
    show aftermaths.Triple i _ (Prog.bind (mysql (.softDeleteArticle id expected deletedAt)) _) _
    exact Triple.bind (cas_come (fun count => count) (fun _ => rfl) fun _ => rfl) expireAll_come
      fun _ _ _ failed => failed
  · exact fun _ come _ => come

/-- A request that lost raises an error, one of the two exactly if its second read was answered. -/
def Raised (i : Pid) (outcome : Except Exc α) (a : Pid → Aftermath) : Prop :=
  a i = .unlost ∨ ∃ error, outcome = .error error ∧
    a i = if error.answersLoss then .reread else .lost

theorem Raised.stable (outcome : Except Exc α) : aftermaths.Stable i (Raised i outcome) :=
  aftermaths_stable fun aftermath => aftermath = .unlost ∨ ∃ error, outcome = .error error ∧
    aftermath = if error.answersLoss then .reread else .lost

theorem Raised.raised {β : Type} {error : Exc} {a : Pid → Aftermath}
    (raised : Raised i (.error error : Except Exc α) a) :
    Raised i (.error error : Except Exc β) a := by
  refine raised.imp_right fun lost => ?_
  obtain ⟨other, same, come⟩ := lost
  obtain rfl := Except.error.inj same
  exact ⟨error, rfl, come⟩

theorem Raised.unlost {value : α} {a : Pid → Aftermath} (raised : Raised i (.ok value) a) :
    Come i .unlost a := by
  rcases raised with come | ⟨error, impossible, -⟩
  · exact come
  · cases impossible

theorem raiseConflictOrNotFound_raised (service : ArticleService) {id : ℤ} :
    aftermaths.Triple i (Come i .lost) (service.raiseConflictOrNotFound id : Py α) (Raised i) := by
  have asks : Asks aftermaths i (.mysql (.selectArticle id)) (Come i .lost)
      (okOr (fun _ => Come i .reread) (Come i .lost)) := by
    refine ⟨fun _ _ _ => trivial, fun a reply a' _ come step _ => ?_⟩
    have next := come_step step come
    cases reply <;> exact next
  have read : aftermaths.Triple i (Come i .lost) (ArticleRepository.get service.rt id)
      (okOr (fun _ => Come i .reread) (Come i .lost)) :=
    guardedRead_triple aftermaths_hosts (come_stable _) (fun _ => come_stable _) (come_stable _)
      asks asks ⟨fun _ _ _ => trivial, fun a reply a' _ come step _ => come_step step come⟩
      fun _ come _ => come
  refine Triple.bind (read.outcome (fun _ _ _ _ step => step.1) (articleGet_fails service.rt id ()))
    (fun found => ?_) fun error a _ failed => ?_
  · cases found <;> exact Triple.raise (stable_pure _ (come_stable _)) fun _ _ come =>
      Or.inr ⟨_, rfl, come.1⟩
  · obtain ⟨come, kind⟩ := failed
    refine Or.inr ⟨error, rfl, ?_⟩
    rw [kind error rfl]
    exact come

theorem conditional_raised (service : ArticleService) {actorId id : ℤ} (cas : Py ℕ)
    (rest : ℤ → ℕ → Py α)
    (compare : aftermaths.Triple i (Come i .unlost) cas
      (okOr (fun count => Come i (.of count)) (Come i .unlost)))
    (lost : ∀ authorId, rest authorId 0 = service.raiseConflictOrNotFound id)
    (won : ∀ authorId count, 0 < count → (rest authorId count).Sends reading) :
    aftermaths.Triple i (Come i .unlost)
      (do
        let article ← service.load id
        ArticleService.authorize actorId article
        let authorId := (← articleAttributes article).authorId
        let rowcount ← cas
        rest authorId rowcount) (Raised i) := by
  have early : ∀ (outcome : Except Exc α) a, Come i .unlost a → Raised i outcome a :=
    fun _ _ come => Or.inl come
  refine Triple.bind (reading_come (load_sends service rfl)) (fun article => ?_)
    fun error a _ come => early _ a come
  refine Triple.bind (reading_come (authorize_sends actorId article)) (fun _ => ?_)
    fun error a _ come => early _ a come
  refine Triple.bind (reading_come (articleAttributes_sends article)) (fun row => ?_)
    fun error a _ come => early _ a come
  refine Triple.bind compare (fun count => ?_) fun error a _ come => early _ a come
  by_cases none_ : count = 0
  · subst none_
    rw [lost]
    exact raiseConflictOrNotFound_raised service
  · have unlost : Aftermath.of count = .unlost := if_neg none_
    exact (reading_come (won row.authorId count (Nat.pos_of_ne_zero none_))).mono
      (fun _ _ come => Eq.trans come unlost) fun outcome a _ come => early outcome a come

theorem handler_raised (app : App) {id : ℤ} {expected : DateTime} {request : Request}
    (conditional : request.conditional = some (id, expected)) :
    aftermaths.Triple i (Come i .unlost) (app.handler request) (Raised i) := by
  have user : ∀ principal, aftermaths.Triple i (Come i .unlost) (app.getCurrentUser principal)
      fun _ => Come i .unlost :=
    fun principal => reading_come (getCurrentUser_sends app principal fun _ => rfl)
  cases request with
  | update principal target title body token =>
      refine Triple.bind (user principal) (fun actor => ?_) fun error a _ come => Or.inl come
      exact Triple.bind (conditional_raised app.articles _ (app.articles.updated target)
          (updateCas_come app.articles.rt) (fun _ => if_pos rfl)
          (updated_sends app.articles target))
        (fun out => Triple.ret (Raised.stable _) fun _ _ raised => Or.inl raised.unlost)
        fun error a _ raised => raised.raised
  | delete principal target token =>
      refine Triple.bind (user principal) (fun actor => ?_) fun error a _ come => Or.inl come
      exact Triple.bind (conditional_raised app.articles _ (app.articles.deleted target)
          (softDeleteCas_come app.articles.rt) (fun _ => if_pos rfl)
          (deleted_sends app.articles target))
        (fun out => Triple.ret (Raised.stable _) fun _ _ raised => Or.inl raised.unlost)
        fun error a _ raised => raised.raised
  | _ => cases conditional

theorem untilCommit_raised (app : App) {id : ℤ} {expected : DateTime} {request : Request}
    (conditional : request.conditional = some (id, expected)) :
    aftermaths.Triple i (Come i .unlost) (untilCommit (app.handler request)) (Raised i) := by
  refine Triple.bind (handler_raised app conditional) (fun response => ?_)
    fun error a _ raised => raised.raised
  refine (quiet_come ?_).mono (fun _ _ raised => Raised.unlost raised) fun _ _ _ come => Or.inl come
  exact Sends.bind (answer_sends (fun _ _ _ impossible => impossible.elim) _) fun _ => trivial

/-! ## The answer -/

/-- A request that lost ends with an error, one of the two exactly if its second read was answered
and its rollback too. -/
def Informed (outcome : Except Exc α) (aftermath : Aftermath) : Prop :=
  aftermath = .unlost ∨ ∃ error, outcome = .error error ∧
    (aftermath = .undone ↔ error.answersLoss = true)

theorem informed_stable (outcome : Except Exc α) :
    aftermaths.Stable i fun a => Informed outcome (a i) := aftermaths_stable (Informed outcome)

theorem Raised.told {error : Exc} {a a' : Pid → Aftermath}
    (raised : Raised i (.error error : Except Exc α) a) {reply : Except Exc Unit}
    (step : aftermaths.exec i .rollback a reply a') :
    Informed (afterFailure error reply : Except Exc α) (a' i) := by
  rcases raised with come | ⟨other, same, come⟩
  · exact Or.inl (come_step step come)
  · obtain rfl := Except.error.inj same
    have next := come_step step come
    cases reply with
    | ok _ =>
        refine Or.inr ⟨error, rfl, ?_⟩
        rw [show a' i = _ from next]
        cases error.answersLoss <;> simp [Aftermath.next]
    | error failure =>
        have kind : failure.answersLoss = false := step.1
        refine Or.inr ⟨failure, rfl, ?_⟩
        rw [show a' i = _ from next, kind]
        cases error.answersLoss <;> simp [Aftermath.next]

theorem abort_told (error : Exc) :
    aftermaths.Triple i (Raised i (.error error : Except Exc α))
      (rollback.bind fun _ => discardAfterCommit)
      fun outcome a => Informed (afterFailure error outcome : Except Exc α) (a i) := by
  refine Triple.call (fun reply a => Informed (afterFailure error reply : Except Exc α) (a i))
    (Raised.stable _) (fun _ _ _ => trivial) (fun a reply a' _ raised step _ => raised.told step)
    fun reply => ?_
  cases reply with
  | ok _ =>
      refine Triple.call (fun _ a => Informed (.error error : Except Exc α) (a i))
        (informed_stable _) (fun _ _ _ => trivial) (fun a reply a' _ told step _ => ?_)
        fun _ => Triple.ret (informed_stable _) fun _ _ told => told
      have next := come_step step (rfl : Come i (a i) a)
      have same : a' i = a i := by
        rw [show a' i = _ from next]
        cases a i <;> rfl
      rw [same]
      exact told
  | error failure => exact Triple.raise (informed_stable _) fun _ _ told => told

theorem serve_told (app : App) {id : ℤ} {expected : DateTime} {request : Request}
    (conditional : request.conditional = some (id, expected)) :
    aftermaths.Triple i (Come i .unlost) (app.serve request)
      fun outcome a => Informed outcome (a i) := by
  refine getSession_triple app.cache informed_stable (untilCommit_raised app conditional)
    (fun response => ?_) abort_told
  refine (quiet_come (drainAfterCommit_quiet app.cache)).mono
    (fun _ _ raised => Raised.unlost raised) fun _ _ _ come => Or.inl come

end

/-- How a request that lost ends, by what it was answered. -/
theorem Setting.Foreign.told {σ : Setting} (foreign : σ.Foreign) (app : App) {w : World}
    {c : System} {chronicle : List (Pid × Interaction Op.Reply)}
    (run : Chronicle (Exec σ.allow) σ.env (app.start σ.requests w) chronicle c) {i : Pid} {id : ℤ}
    {expected : DateTime} (conditional : (σ.requests i).conditional = some (id, expected))
    {outcome : Except Exc Response} (ended : c.outcome i = some outcome) :
    Informed outcome (aftermath (part i chronicle)) := by
  have all : aftermaths.AllSafe (fun j outcome a => (σ.requests j).conditional.isSome = true →
      Informed outcome (a j)) ⟨fun _ => .unlost, (app.start σ.requests w).code,
        (app.start σ.requests w).started⟩ := by
    refine ⟨trivial, fun j => ?_⟩
    cases shape : (σ.requests j).conditional with
    | none =>
        have free : ∀ op a, aftermaths.pre j op a := fun _ _ => trivial
        apply (Triple.anything free (app.serve (σ.requests j)) _ trivial trivial).mono
        exact fun _ _ _ _ impossible => by cases impossible
    | some target =>
        have come : Come j .unlost fun _ => Aftermath.unlost := rfl
        exact (serve_told app shape _ trivial come).mono fun _ _ _ told _ => told
  have steps : Steps aftermaths.exec aftermaths.env
      ⟨fun _ => .unlost, (app.start σ.requests w).code, (app.start σ.requests w).started⟩
      ⟨fun j => aftermath (part j chronicle), c.code, c.started⟩ :=
    run.seen aftermath fun j op v reply v' d done =>
      ⟨foreign.honest op v reply v' done, by rw [aftermath_snoc]⟩
  exact (all.steps steps).ended i outcome ended (by rw [conditional]; rfl)

end ContentPlatform
