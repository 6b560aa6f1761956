import ContentPlatform.World.Projection

/-!
# The endpoints and the articles table

Each endpoint keeps the protocol of the table as the request it makes of the service, and one that
sends no write is the author of no committed state.
-/

set_option autoImplicit false

namespace ContentPlatform

open Program Prog Protocol Py Text

/-! ## The request of an endpoint -/

/-- What an endpoint asks of the service for a user.  Where the `If-Match` header cannot be read the
version is of no account: nothing is compared with it.  A request whose parameters are invalid gets
no further than the load of its user; it stands as a creation. -/
def Endpoint.request (rt : Runtime) (userId : Option ℤ) : Endpoint → Request
  | .createArticle title body => .create userId title body
  | .listArticles limit cursor author =>
      .list limit (cursor.bind fun text => (decodeCursor text).toOption) author
  | .getArticle articleId => .get articleId
  | .updateArticle articleId title body ifMatch =>
      .update userId articleId title body ((parseIfMatch rt ifMatch).toOption.getD epoch)
  | .deleteArticle articleId ifMatch =>
      .delete userId articleId ((parseIfMatch rt ifMatch).toOption.getD epoch)
  | .register payload => .register payload.email payload.password
  | .login payload => .login payload.email payload.password
  | .invalid _ _ => .create userId "" ""

def userIdOf (rt : Runtime) (principal : Option Principal) : Option ℤ :=
  principal.bind fun principal => (jsonToInt rt principal.id).toOption

/-- What a request asks of the service, if it is let through to an endpoint. -/
def Application.requestOf (a : Application) (request : HttpRequest) : Request :=
  match request.routed with
  | .endpoint _ endpoint =>
      match AuthMiddleware.dispatch a.jwt ⟨request.method, request.path, request.authorization⟩ with
      | .ok (.proceeds principal) => endpoint.request a.app.rt (userIdOf a.app.rt principal)
      | _ => .get 0
  | _ => .get 0

theorem Application.requestOf_of_endpoint {a : Application} {request : HttpRequest}
    {principal : Option Principal} {route : String} {endpoint : Endpoint}
    (proceeds : AuthMiddleware.dispatch a.jwt ⟨request.method, request.path, request.authorization⟩ =
      .ok (.proceeds principal)) (routed : request.routed = .endpoint route endpoint) :
    a.requestOf request = endpoint.request a.app.rt (userIdOf a.app.rt principal) := by
  simp only [requestOf, routed, proceeds]

/-- A request has an endpoint behind the layers, or nothing. -/
theorem Application.core_cases (a : Application) (request : HttpRequest) :
    a.core request = .raise .runtimeError ∨ ∃ principal route endpoint,
      AuthMiddleware.dispatch a.jwt ⟨request.method, request.path, request.authorization⟩ =
        .ok (.proceeds principal) ∧ request.routed = .endpoint route endpoint ∧
      a.core request = a.app.endpoint principal endpoint ∧
      a.requestOf request = endpoint.request a.app.rt (userIdOf a.app.rt principal) := by
  cases routed : request.routed with
  | endpoint route endpoint =>
      cases dispatched : AuthMiddleware.dispatch a.jwt
          ⟨request.method, request.path, request.authorization⟩ with
      | ok admission =>
          cases admission with
          | proceeds principal =>
              exact Or.inr ⟨principal, route, endpoint, rfl, rfl, core_of_endpoint dispatched routed,
                requestOf_of_endpoint dispatched routed⟩
          | denied response => exact Or.inl (by simp only [core, routed, dispatched])
      | error error => exact Or.inl (by simp only [core, routed, dispatched])
  | _ => exact Or.inl (by simp only [core, routed])

/-! ## Endpoints that write nothing -/

def Op.spares : Op → Prop
  | .mysql statement => statement.writesArticle = false
  | _ => True

theorem spares_local (op : Op) (isLocal : op.isBookkeeping = true) : op.spares := by
  cases op <;> trivial

theorem spares_cache (op : Op) (asks : op.asksCache = true) : op.spares := by
  cases op <;> trivial

theorem spares_footprint {statements : Statement → Prop} {commands : RedisCommand → Prop}
    {queues : Prop} (reads : ∀ statement, statements statement → statement.writesArticle = false)
    (op : Op) (footprint : Footprint statements commands queues op) : op.spares := by
  cases op <;> first | trivial | exact reads _ footprint

theorem getSession_spares {α : Type} {cache : ArticleCache} {handler : Py α}
    (first : handler.Sends Op.spares) : (getSession cache handler).Sends Op.spares :=
  getSession_sends spares_local cache spares_cache (fun _ => trivial) (fun _ => trivial) first trivial
    trivial trivial

def Op.pages : Op → Prop
  | .mysql (.selectPage _ _ _) => True
  | .mysql _ => False
  | _ => True

theorem pages_local (op : Op) (isLocal : op.isBookkeeping = true) : op.pages := by
  cases op <;> trivial

theorem pages_cache (op : Op) (asks : op.asksCache = true) : op.pages := by
  cases op <;> trivial

theorem listRoute_pages (app : App) (limit : ℤ) (cursor : Option String) (author : Option ℤ) :
    (app.listRoute limit cursor author).Sends Op.pages := by
  have page : ∀ after, (app.articles.listArticles limit after author).Sends Op.pages := by
    intro after
    have footprint : (app.articles.listArticles limit after author).Sends (Footprint
        (fun statement => statement = .selectPage (limit + 1) after author) (fun _ => True) True) :=
      listArticles_sends app.articles rfl trivial fun _ =>
        ⟨trivial, fun _ _ => trivial, fun _ => trivial, trivial⟩
    refine footprint.mono fun op footprint => ?_
    cases op with
    | mysql statement =>
        rw [show statement = .selectPage (limit + 1) after author from footprint]
        trivial
    | _ => trivial
  apply getSession_sends pages_local app.cache pages_cache (fun _ => trivial) (fun _ => trivial)
  rotate_left
  · trivial
  · trivial
  · trivial
  cases cursor
  case' none =>
    refine Sends.bind (sends_ret none) fun after => Sends.bind (page after) fun found => ?_
  case' some =>
    refine Sends.bind (sends_ofExcept _) fun after => Sends.bind (page after) fun found => ?_
  all_goals
    split
    · exact Sends.bind (sends_ofExcept _) fun _ => trivial
    · trivial

theorem getCurrentUser_spares (app : App) (principal : Option ℤ) :
    (app.getCurrentUser principal).Sends Op.spares := by
  have footprint : (app.getCurrentUser principal).Sends (Footprint
      (fun statement => ∃ id, statement = .selectUser id) (fun _ => True) True) :=
    getCurrentUser_sends app principal fun id => ⟨id, rfl⟩
  refine footprint.mono (spares_footprint ?_)
  rintro _ ⟨id, rfl⟩
  rfl

theorem withPrincipal_spares (app : App) (principal : Option Principal)
    {endpoint : Option ℤ → Py Response} (each : ∀ userId, (endpoint userId).Sends Op.spares) :
    (app.withPrincipal principal endpoint).Sends Op.spares := by
  unfold App.withPrincipal
  split
  · exact each none
  · split
    · exact each _
    · exact getSession_spares trivial

theorem invalid_spares (app : App) (principal : Option Principal) (resolved : Resolved) :
    (app.invalid principal resolved).Sends Op.spares := by
  cases resolved with
  | nothing => trivial
  | session => exact getSession_spares trivial
  | currentUser =>
      rw [App.invalid]
      refine withPrincipal_spares app principal fun userId => getSession_spares ?_
      exact Sends.bind (getCurrentUser_spares app userId) fun _ => trivial

/-! ## Who has made the committed states -/

/-- None of these requests has made a committed state, and none is about to. -/
def Barren (quiet : Pid → Prop) (db : Database) : Prop :=
  ∀ i, quiet i → (db.transaction i).writes = [] ∧ ∀ n < db.version, db.writer (n + 1) ≠ i

/-- A committed state is added by the commit of a transaction with writes, and by nothing else. -/
theorem DatabaseStep.writers {i : Pid} {c : Choice} {op : Op} {db db' : Database}
    (moved : DatabaseStep i c op db db') :
    (db'.version = db.version ∧ db'.writer = db.writer) ∨
      ((db.transaction i).writes ≠ [] ∧ db'.version = db.version + 1 ∧
        db'.writer = Function.update db.writer (db.version + 1) i) := by
  cases moved with
  | aside own _ => exact Or.inl ⟨own.version, own.writer⟩
  | compare _ compared =>
      have own := Database.casStep_own compared
      exact Or.inl ⟨own.version, own.writer⟩
  | @insert _ authorId title body _ =>
      have own := Database.insertStep_own db i (Database.newRow c authorId title body)
      exact Or.inl ⟨own.version, own.writer⟩
  | rollback =>
      have own := Database.rollbackStep_own db i
      exact Or.inl ⟨own.version, own.writer⟩
  | commit =>
      rcases Database.commitStep_cases db i with ⟨-, version, writer, -⟩ | ⟨some_, version, writer, -⟩
      · exact Or.inl ⟨version, writer⟩
      · exact Or.inr ⟨some_, version, writer⟩

theorem DatabaseStep.empty {i : Pid} {c : Choice} {op : Op} {db db' : Database}
    (moved : DatabaseStep i c op db db') (spares : op.spares)
    (empty : (db.transaction i).writes = []) : (db'.transaction i).writes = [] := by
  cases moved with
  | aside _ keeps => exact keeps.writes.trans empty
  | compare compares _ =>
      cases op with
      | mysql statement =>
          cases statement with
          | updateArticle _ _ _ _ => cases spares
          | softDeleteArticle _ _ _ => cases spares
          | _ => exact compares.elim
      | _ => exact compares.elim
  | insert _ => cases spares
  | rollback =>
      rcases rollback_sessions db i with same | ended
      · rw [Database.transaction, same]
        exact empty
      · rw [Database.transaction, ended]
        rfl
  | commit =>
      rw [Database.transaction, Database.commitStep_session]
      rfl

theorem Barren.exec {quiet : Pid → Prop} {i : Pid} {c : Choice} {op : Op} {w w' : World}
    {reply : op.Reply} (kept : Barren quiet w.db) (mine : quiet i → op.spares)
    (step : w.exec i c op = some (reply, w')) : Barren quiet w'.db := by
  have moved := World.exec_database step
  intro j silent
  obtain ⟨empty, unwritten⟩ := kept j silent
  have writes : (w'.db.transaction j).writes = [] := by
    by_cases other : j ≠ i
    · rw [Database.transaction, (World.exec_undisturbed step other).session]
      exact empty
    · obtain rfl := not_not.mp other
      exact moved.empty (mine silent) empty
  refine ⟨writes, fun n past => ?_⟩
  rcases moved.writers with ⟨version, writer⟩ | ⟨some_, version, writer⟩
  · rw [version] at past
    rw [writer]
    exact unwritten n past
  · rw [version] at past
    rw [writer]
    rcases Nat.lt_succ_iff_lt_or_eq.mp past with earlier | rfl
    · rw [Function.update_of_ne (by omega)]
      exact unwritten n earlier
    · rw [Function.update_self]
      rintro rfl
      exact some_ empty

theorem Barren.event {quiet : Pid → Prop} {w w' : World} (kept : Barren quiet w.db)
    (outside : Outside w w') : Barren quiet w'.db := by
  obtain ⟨-, users, same⟩ := outside
  intro i silent
  rw [same]
  exact kept i silent

theorem Initial.barren {w : World} (start : Initial w) (quiet : Pid → Prop) :
    Barren quiet w.db := by
  intro i _
  refine ⟨by rw [Database.transaction, start.sessions i]; rfl, fun n past => ?_⟩
  rw [start.version] at past
  exact absurd past (Nat.not_lt_zero n)

/-! ## The protocol of the table -/

section
variable {σ : Setting} {i : Pid}

def Vouched (σ : Setting) (i : Pid) : Except Exc Response → World → Prop
  | .ok response, w => Served σ i (.ok response) w
  | .error _, _ => True

def VouchedOut (σ : Setting) (i : Pid) : Except Exc EndpointOut → World → Prop
  | .ok (.one response), w => Served σ i (.ok response) w
  | _, _ => True

theorem Vouched.stable (outcome : Except Exc Response) : σ.rows.Stable i (Vouched σ i outcome) := by
  cases outcome with
  | ok response => exact (Served.recorded (.ok response)).stable
  | error error => exact fun _ _ _ _ _ _ => trivial

/-- A program that asks MySQL for nothing but pages owes nothing. -/
theorem pages_triple {α : Type} {p : Py α} (pages : p.Sends Op.pages) (A : World → Prop) :
    σ.rows.Triple i A p fun _ _ => True := by
  have free : σ.rows.Triple i (fun _ => True) p fun _ _ => True := by
    refine Triple.of_sends pages (fun _ _ _ _ _ _ => trivial) ?_ fun _ _ _ _ _ _ _ _ _ => trivial
    intro op w asks _ _
    cases op with
    | mysql statement => cases statement <;> trivial
    | _ => trivial
  exact free.mono (fun _ _ _ => trivial) fun _ _ _ _ => trivial

theorem served_triple (app : App) {request : Request} (mine : σ.requests i = request) :
    σ.rows.Triple i (Own i Fresh) (app.serve request) (Vouched σ i) := by
  subst mine
  refine (serve_triple app).mono (fun _ _ holds => holds) fun outcome _ _ ended => ?_
  cases outcome with
  | ok response => exact ended
  | error error => trivial

theorem raise_triple {α : Type} (error : Exc) (A : World → Prop) :
    σ.rows.Triple i A (.raise error : Py α) fun outcome _ => ∃ error, outcome = .error error := by
  have raised : σ.rows.Triple i (fun _ => True) (.raise error : Py α)
      fun outcome _ => ∃ error, outcome = .error error :=
    Triple.raise (fun _ _ _ _ _ _ => trivial) fun _ _ _ => ⟨error, rfl⟩
  exact raised.mono (fun _ _ _ => trivial) fun _ _ _ ended => ended

theorem raising_triple {A : World → Prop} (cache : ArticleCache) {handler : Py Response}
    (raises : σ.rows.Triple i A handler fun outcome _ => ∃ error, outcome = .error error) :
    σ.rows.Triple i A (getSession cache handler) (Vouched σ i) := by
  have ends : σ.rows.Triple i A (untilCommit handler) fun outcome _ =>
      ∃ error, outcome = .error error :=
    Triple.bind raises (fun _ _ _ impossible => nomatch impossible) fun error _ _ _ => ⟨error, rfl⟩
  refine getSession_triple cache Vouched.stable ends (fun _ _ _ impossible => nomatch impossible)
    fun error => ?_
  have pages : (Prog.bind rollback fun _ => discardAfterCommit).Sends Op.pages := by
    apply Sends.bind
    · exact answer_sends trivial _
    · exact fun _ => Sends.bind (reply_sends trivial _) fun _ => trivial
  refine (pages_triple pages _).mono (fun _ _ holds => holds) fun outcome _ _ _ => ?_
  cases outcome <;> trivial

theorem withPrincipal_triple (app : App) (principal : Option Principal)
    {endpoint : Option ℤ → Py Response} (served : σ.rows.Triple i (Own i Fresh)
      (endpoint (userIdOf app.rt principal)) (Vouched σ i)) :
    σ.rows.Triple i (Own i Fresh) (app.withPrincipal principal endpoint) (Vouched σ i) := by
  unfold App.withPrincipal
  cases principal with
  | none => exact served
  | some principal =>
      cases named : jsonToInt app.rt principal.id with
      | ok userId =>
          rw [userIdOf, Option.bind_some, named] at served
          simp only [named]
          exact served
      | error error =>
          simp only [named]
          exact raising_triple app.cache (raise_triple error _)

/-- A conditional write whose version cannot be read comes to an end after the user is loaded. -/
theorem unreadable_triple (app : App) {userId : Option ℤ} (acts : (σ.requests i).principal = userId)
    {next : ℤ → DateTime → Py Response} (error : Exc) :
    σ.rows.Triple i (Own i Fresh) (getSession app.cache (Prog.bind (app.getCurrentUser userId)
      fun actor => Prog.bind (Prog.ofExcept (.error error)) (next actor))) (Vouched σ i) := by
  refine raising_triple app.cache (Triple.bind (getCurrentUser_triple app userId acts) ?_ ?_)
  · exact fun _ => raise_triple error _
  · exact fun failure _ _ _ => ⟨failure, rfl⟩

theorem updateArticle_triple (app : App) {userId : Option ℤ} {articleId : ℤ} {title body : String}
    {ifMatch : Option String} (mine : σ.requests i =
      (Endpoint.updateArticle articleId title body ifMatch).request app.rt userId) :
    σ.rows.Triple i (Own i Fresh) (app.updateArticle userId articleId title body ifMatch)
      (Vouched σ i) := by
  have acts : (σ.requests i).principal = userId := by rw [mine]; rfl
  cases parsed : parseIfMatch app.rt ifMatch with
  | ok expected =>
      rw [app.updateArticle_of_parsed parsed]
      apply served_triple
      rw [mine, Endpoint.request, parsed]
      rfl
  | error error =>
      simp only [App.updateArticle, parsed]
      exact unreadable_triple app acts error

theorem deleteArticle_triple (app : App) {userId : Option ℤ} {articleId : ℤ}
    {ifMatch : Option String} (mine : σ.requests i =
      (Endpoint.deleteArticle articleId ifMatch).request app.rt userId) :
    σ.rows.Triple i (Own i Fresh) (app.deleteArticle userId articleId ifMatch) (Vouched σ i) := by
  have acts : (σ.requests i).principal = userId := by rw [mine]; rfl
  cases parsed : parseIfMatch app.rt ifMatch with
  | ok expected =>
      rw [app.deleteArticle_of_parsed parsed]
      apply served_triple
      rw [mine, Endpoint.request, parsed]
      rfl
  | error error =>
      simp only [App.deleteArticle, parsed]
      exact unreadable_triple app acts error

theorem one_triple {p : Py Response} (served : σ.rows.Triple i (Own i Fresh) p (Vouched σ i)) :
    σ.rows.Triple i (Own i Fresh) (p.bind fun response => .ret (.one response)) (VouchedOut σ i) :=
  Triple.bind served (fun response => Triple.ret (Vouched.stable (.ok response))
    fun _ _ holds => holds) fun _ _ _ _ => trivial

theorem invalid_triple (app : App) (principal : Option Principal) (resolved : Resolved)
    (acts : (σ.requests i).principal = userIdOf app.rt principal) :
    σ.rows.Triple i (Own i Fresh) (app.invalid principal resolved) (Vouched σ i) := by
  cases resolved with
  | nothing => exact Triple.raise (stable_own σ _) fun _ _ _ => trivial
  | session => exact raising_triple app.cache (raise_triple _ _)
  | currentUser =>
      rw [App.invalid]
      refine withPrincipal_triple app principal ?_
      refine raising_triple app.cache ?_
      refine Triple.bind (getCurrentUser_triple app _ acts) (fun _ => raise_triple _ _) ?_
      exact fun failure _ _ _ => ⟨failure, rfl⟩

theorem endpoint_triple (app : App) (principal : Option Principal) (endpoint : Endpoint)
    (mine : σ.requests i = endpoint.request app.rt (userIdOf app.rt principal)) :
    σ.rows.Triple i (Own i Fresh) (app.endpoint principal endpoint) (VouchedOut σ i) := by
  cases endpoint with
  | createArticle title body =>
      exact one_triple (withPrincipal_triple app principal (served_triple app mine))
  | listArticles limit cursor author =>
      refine Triple.bind (pages_triple (listRoute_pages app limit cursor author) _) ?_
        fun _ _ _ _ => trivial
      exact fun _ => Triple.ret (fun _ _ _ _ _ _ => trivial) fun _ _ _ => trivial
  | getArticle articleId => exact one_triple (served_triple app mine)
  | updateArticle articleId title body ifMatch =>
      exact one_triple (withPrincipal_triple app principal (updateArticle_triple app mine))
  | deleteArticle articleId ifMatch =>
      exact one_triple (withPrincipal_triple app principal (deleteArticle_triple app mine))
  | register payload => exact one_triple (served_triple app mine)
  | login payload => exact one_triple (served_triple app mine)
  | invalid resolved errors =>
      exact one_triple (invalid_triple app principal resolved (by rw [mine]; rfl))

/-- What runs behind the layers keeps the protocol of the table. -/
theorem core_triple (a : Application) {request : HttpRequest}
    (mine : σ.requests i = a.requestOf request) :
    σ.rows.Triple i (Own i Fresh) (a.core request) (VouchedOut σ i) := by
  rcases a.core_cases request with nothing | ⟨principal, route, endpoint, -, -, core, asked⟩
  · rw [nothing]
    exact Triple.raise (stable_own σ _) fun _ _ _ => trivial
  · rw [core]
    exact endpoint_triple a.app principal endpoint (mine.trans asked)

end

end ContentPlatform
