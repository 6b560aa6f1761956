import ContentPlatform.Guarantees.RowHistory
import ContentPlatform.Program.Interleaved
import ContentPlatform.World.Announced
import ContentPlatform.World.Endpoints

/-!
# Who changes a row, from the request to the table

The articles table as clients see it, through every layer: whose token and which version a change
carried, and what an answer promises of the table.
-/

set_option autoImplicit false

namespace ContentPlatform

open Program Prog Protocol Text

/-! ## What a request has to show -/

/-- The bearer token of the request names this user, and the policy lets it through. -/
def Authenticates (a : Application) (request : HttpRequest) (userId : ℤ) : Prop :=
  ∃ token claims sub role, extractBearerToken request.authorization = some token ∧
    decodeAccessToken a.jwt token = .ok claims ∧ claims "sub" = some sub ∧
    claims "role" = some role ∧ jsonToInt a.app.rt sub = .ok userId ∧
    authorize (routeRequirement request.method request.path) (some ⟨sub, role⟩) = none

/-- The request is to make this of the row, and of exactly this version of it. -/
def HttpRequest.Replaces (a : Application) (request : HttpRequest) (old new : ArticleRow) : Prop :=
  (∃ route title body ifMatch,
    request.routed = .endpoint route (.updateArticle old.id title body ifMatch) ∧
    parseIfMatch a.app.rt ifMatch = .ok old.updatedAt ∧
    new = { Database.edit title body old with updatedAt := new.updatedAt }) ∨
  (∃ route ifMatch deletedAt, request.routed = .endpoint route (.deleteArticle old.id ifMatch) ∧
    parseIfMatch a.app.rt ifMatch = .ok old.updatedAt ∧
    new = { Database.markDeleted deletedAt old with updatedAt := new.updatedAt })

/-- What the committed states of a run tell about every article and its requests. -/
structure TableHistory (a : Application) (http : Pid → HttpRequest) (db : Database) : Prop where
  inserted : ∀ n < db.version, ∀ id new, (db.history n).find id = none →
    (db.history (n + 1)).find id = some new → ∃ user route,
      Authenticates a (http (db.writer (n + 1))) user.id ∧
      (db.sessions (db.writer (n + 1))).actor = some user ∧
      (http (db.writer (n + 1))).routed = .endpoint route (.createArticle new.title new.body) ∧
      new.authorId = user.id ∧ new.deletedAt = none ∧ new.updatedAt = new.createdAt
  changed : ∀ n < db.version, ∀ id old new, (db.history n).find id = some old →
    (db.history (n + 1)).find id = some new → new ≠ old → ∃ user,
      Authenticates a (http (db.writer (n + 1))) user.id ∧
      (db.sessions (db.writer (n + 1))).actor = some user ∧
      (old.authorId = user.id ∨ user.isAdmin = true) ∧ old.deletedAt = none ∧
      (http (db.writer (n + 1))).Replaces a old new
  lasting : ∀ m n, m ≤ n → n ≤ db.version → ∀ id old, (db.history m).find id = some old →
    ∃ new, (db.history n).find id = some new ∧ new.id = old.id ∧ new.authorId = old.authorId ∧
      new.createdAt = old.createdAt ∧ (old.deletedAt ≠ none → new = old)

structure Promises (http : Pid → HttpRequest) (c : HttpSystem) : Prop where
  created : ∀ i ending response route title body out, c.outcome i = some (.ok ending) →
    ending.response = some response → response.body = .out (.one (.article out)) →
    (http i).routed = .endpoint route (.createArticle title body) →
    ∃ n < c.state.world.db.version, c.state.world.db.writer (n + 1) = i ∧
      (c.state.world.db.history n).find out.id = none ∧
      ∃ row, (c.state.world.db.history (n + 1)).find out.id = some row ∧
        row.title = title ∧ row.body = body
  deleted : ∀ i ending response route articleId ifMatch, c.outcome i = some (.ok ending) →
    ending.response = some response → response.body = .out (.one .deleted) →
    (http i).routed = .endpoint route (.deleteArticle articleId ifMatch) →
    ∃ n ≤ c.state.world.db.version, ∃ row, (c.state.world.db.history n).find articleId = some row ∧
      row.deletedAt ≠ none

/-! ## From the policy to the principal -/

theorem authenticates_of_dispatch {a : Application} {request : HttpRequest}
    {principal : Option Principal} {userId : ℤ}
    (proceeds : AuthMiddleware.dispatch a.jwt ⟨request.method, request.path, request.authorization⟩ =
      .ok (.proceeds principal)) (named : userIdOf a.app.rt principal = some userId) :
    Authenticates a request userId := by
  have applied : ∀ given, AuthMiddleware.apply ⟨request.method, request.path, request.authorization⟩
      given = .proceeds principal →
      principal = given ∧ authorize (routeRequirement request.method request.path) given = none := by
    intro given same
    rw [AuthMiddleware.apply] at same
    split at same
    · cases same
    · rename_i allowed
      obtain rfl := Admission.proceeds.inj same
      exact ⟨rfl, allowed⟩
  unfold AuthMiddleware.dispatch at proceeds
  split at proceeds
  · obtain ⟨rfl, -⟩ := applied none (Except.ok.inj proceeds)
    cases named
  · rename_i token present
    split at proceeds
    · cases proceeds
    · cases proceeds
    · rename_i claims decoded
      split at proceeds
      · rename_i sub role subject named_role
        obtain ⟨rfl, allowed⟩ := applied _ (Except.ok.inj proceeds)
        refine ⟨token, claims, sub, role, present, decoded, subject, named_role, ?_, allowed⟩
        rw [userIdOf, Option.bind_some] at named
        cases read : jsonToInt a.app.rt sub with
        | ok id =>
            rw [read] at named
            obtain rfl := Option.some.inj named
            rfl
        | error error =>
            rw [read] at named
            cases named
      · cases proceeds

/-! ## Requests that cannot write -/

theorem unread_spares (app : App) (userId : Option ℤ) (error : Exc)
    (next : ℤ → DateTime → Py Response) :
    (getSession app.cache (Prog.bind (app.getCurrentUser userId)
      fun actor => Prog.bind (Prog.ofExcept (.error error)) (next actor))).Sends Op.spares :=
  getSession_spares (Sends.bind (getCurrentUser_spares app userId) fun _ => trivial)

theorem updateArticle_spares (app : App) {ifMatch : Option String} {error : Exc}
    (unread : parseIfMatch app.rt ifMatch = .error error) (userId : Option ℤ) (articleId : ℤ)
    (title body : String) :
    (app.updateArticle userId articleId title body ifMatch).Sends Op.spares := by
  simp only [App.updateArticle, unread]
  exact unread_spares app userId error _

theorem deleteArticle_spares (app : App) {ifMatch : Option String} {error : Exc}
    (unread : parseIfMatch app.rt ifMatch = .error error) (userId : Option ℤ) (articleId : ℤ) :
    (app.deleteArticle userId articleId ifMatch).Sends Op.spares := by
  simp only [App.deleteArticle, unread]
  exact unread_spares app userId error _

section
variable {a : Application} {request : HttpRequest}

theorem endpoint_of_writer (writes : ¬(a.core request).Sends Op.spares) :
    ∃ principal route endpoint,
      AuthMiddleware.dispatch a.jwt ⟨request.method, request.path, request.authorization⟩ =
        .ok (.proceeds principal) ∧ request.routed = .endpoint route endpoint ∧
      a.core request = a.app.endpoint principal endpoint ∧
      a.requestOf request = endpoint.request a.app.rt (userIdOf a.app.rt principal) := by
  refine (a.core_cases request).resolve_left fun nothing => writes ?_
  rw [nothing]
  trivial

theorem create_asked (writes : ¬(a.core request).Sends Op.spares) {userId : ℤ}
    {title body : String} (asked : a.requestOf request = .create (some userId) title body) :
    (∃ route, request.routed = .endpoint route (.createArticle title body)) ∧
      Authenticates a request userId := by
  obtain ⟨principal, route, endpoint, proceeds, routed, core, same⟩ := endpoint_of_writer writes
  rw [same] at asked
  cases endpoint with
  | createArticle title' body' =>
      obtain ⟨named, rfl, rfl⟩ := Request.create.inj asked
      exact ⟨⟨route, routed⟩, authenticates_of_dispatch proceeds named⟩
  | invalid resolved errors =>
      refine absurd ?_ writes
      rw [core]
      exact Sends.bind (invalid_spares a.app principal resolved) fun _ => trivial
  | _ => cases asked

/-- A request that may write names the version of the row in its header. -/
theorem update_asked (writes : ¬(a.core request).Sends Op.spares) {userId id : ℤ}
    {title body : String} {expected : DateTime}
    (asked : a.requestOf request = .update (some userId) id title body expected) :
    (∃ route ifMatch, request.routed = .endpoint route (.updateArticle id title body ifMatch) ∧
      parseIfMatch a.app.rt ifMatch = .ok expected) ∧ Authenticates a request userId := by
  obtain ⟨principal, route, endpoint, proceeds, routed, core, same⟩ := endpoint_of_writer writes
  rw [same] at asked
  cases endpoint with
  | updateArticle articleId title' body' ifMatch =>
      obtain ⟨named, rfl, rfl, rfl, version⟩ := Request.update.inj asked
      refine ⟨⟨route, ifMatch, routed, ?_⟩, authenticates_of_dispatch proceeds named⟩
      cases parsed : parseIfMatch a.app.rt ifMatch with
      | ok read =>
          rw [parsed] at version
          exact congrArg Except.ok version
      | error error =>
          refine absurd ?_ writes
          rw [core]
          exact Sends.bind (withPrincipal_spares a.app principal fun userId =>
            updateArticle_spares a.app parsed userId articleId title' body') fun _ => trivial
  | _ => cases asked

theorem delete_asked (writes : ¬(a.core request).Sends Op.spares) {userId id : ℤ}
    {expected : DateTime} (asked : a.requestOf request = .delete (some userId) id expected) :
    (∃ route ifMatch, request.routed = .endpoint route (.deleteArticle id ifMatch) ∧
      parseIfMatch a.app.rt ifMatch = .ok expected) ∧ Authenticates a request userId := by
  obtain ⟨principal, route, endpoint, proceeds, routed, core, same⟩ := endpoint_of_writer writes
  rw [same] at asked
  cases endpoint with
  | deleteArticle articleId ifMatch =>
      obtain ⟨named, rfl, version⟩ := Request.delete.inj asked
      refine ⟨⟨route, ifMatch, routed, ?_⟩, authenticates_of_dispatch proceeds named⟩
      cases parsed : parseIfMatch a.app.rt ifMatch with
      | ok read =>
          rw [parsed] at version
          exact congrArg Except.ok version
      | error error =>
          refine absurd ?_ writes
          rw [core]
          exact Sends.bind (withPrincipal_spares a.app principal fun userId =>
            deleteArticle_spares a.app parsed userId articleId) fun _ => trivial
  | _ => cases asked

theorem replaces_asked (writes : ¬(a.core request).Sends Op.spares) {userId : ℤ}
    (names : (a.requestOf request).principal = some userId) {old new : ArticleRow}
    (replaces : (a.requestOf request).Replaces old new) :
    Authenticates a request userId ∧ request.Replaces a old new := by
  cases asked : a.requestOf request with
  | update principal id title body expected =>
      rw [asked] at names replaces
      obtain rfl : principal = some userId := names
      obtain ⟨rfl, rfl, edited⟩ := replaces
      obtain ⟨⟨route, ifMatch, routed, read⟩, authenticates⟩ := update_asked writes asked
      exact ⟨authenticates, Or.inl ⟨route, title, body, ifMatch, routed, read, edited⟩⟩
  | delete principal id expected =>
      rw [asked] at names replaces
      obtain rfl : principal = some userId := names
      obtain ⟨rfl, rfl, deletedAt, marked⟩ := replaces
      obtain ⟨⟨route, ifMatch, routed, read⟩, authenticates⟩ := delete_asked writes asked
      exact ⟨authenticates, Or.inr ⟨route, ifMatch, deletedAt, routed, read, marked⟩⟩
  | _ =>
      rw [asked] at replaces
      exact replaces.elim

end

/-! ## What creations add -/

/-- The row that a creation is about to commit is not in the table, and was not there before its
commit. -/
structure Additions (requests : Pid → Request) (db : Database) : Prop where
  waiting : ∀ i, (requests i).creates = true → ∀ row ∈ (db.transaction i).writes,
    db.table.find row.id = none
  added : ∀ n < db.version, (requests (db.writer (n + 1))).creates = true → ∃ row,
    (db.history n).find row.id = none ∧ (db.history (n + 1)).find row.id = some row

section
variable {requests : Pid → Request} {db db' : Database} {i : Pid} {c : Choice} {op : Op}

theorem Additions.own (additions : Additions requests db) (own : OwnStep i db db')
    (mine : (requests i).creates = true → ∀ row ∈ (db'.transaction i).writes,
      db.table.find row.id = none) : Additions requests db' := by
  have table : db'.table = db.table := by rw [Database.table, own.version, own.history]; rfl
  refine ⟨fun j creates row member => ?_, fun n past => ?_⟩
  · rw [table]
    by_cases other : j ≠ i
    · rw [own.transaction other] at member
      exact additions.waiting j creates row member
    · obtain rfl := not_not.mp other
      exact mine creates row member
  · rw [own.version] at past
    rw [own.writer, own.history]
    exact additions.added n past

theorem Additions.commitStep (additions : Additions requests db) (kept : Coherent requests db) :
    Additions requests (db.commitStep i) := by
  have closed : ((db.commitStep i).transaction i).writes = [] := by
    rw [Database.transaction, Database.commitStep_session]
    rfl
  have others : ∀ j, j ≠ i → (db.commitStep i).transaction j = db.transaction j := by
    intro j other
    rw [Database.transaction, Database.commitStep_sessions db other]
    rfl
  have extended := Database.commitStep_extends db i
  rcases Database.commitStep_cases db i with ⟨-, version, writer, history⟩ |
    ⟨wrote, version, writer, -⟩
  · refine ⟨fun j creates row member => ?_, fun n past => ?_⟩
    · rw [Database.table, version, history]
      by_cases other : j ≠ i
      · rw [others j other] at member
        exact additions.waiting j creates row member
      · rw [not_not.mp other, closed] at member
        cases member
    · rw [version] at past
      rw [writer, history]
      exact additions.added n past
  obtain ⟨written, single, locked⟩ := (kept.writes i).resolve_left wrote
  have latest := kept.commitStep_find single
  refine ⟨fun j creates row member => ?_, fun n past creates => ?_⟩
  · by_cases other : j ≠ i
    · rw [others j other] at member
      rw [Database.table, version, latest]
      rcases kept.writes j with none_ | ⟨held, one, mine⟩
      · rw [none_] at member
        cases member
      · have same : row = held := by rwa [one, List.mem_singleton] at member
        subst same
        -- the lock of the new row is held by its own request
        have apart : row.id ≠ written.id := by
          intro shared
          have holder := mine.locked.symm.trans (shared ▸ locked.locked)
          exact other (Option.some.inj holder)
        rw [if_neg apart]
        exact additions.waiting j creates row member
    · rw [not_not.mp other, closed] at member
      cases member
  · rw [version] at past
    by_cases last : n = db.version
    · subst last
      rw [writer, Function.update_self] at creates
      refine ⟨written, ?_, (latest written.id).trans (if_pos rfl)⟩
      rw [extended.history _ le_rfl]
      exact additions.waiting i creates written (by rw [single]; exact List.mem_singleton_self _)
    · have earlier : n < db.version := by omega
      rw [extended.writer _ earlier] at creates
      rw [extended.history _ earlier, extended.history n earlier.le]
      exact additions.added n earlier creates

theorem Additions.step (additions : Additions requests db) (kept : Coherent requests db)
    (owed : rowsPre requests i op db) (step : DatabaseStep i c op db db') :
    Additions requests db' := by
  cases step with
  | aside own keeps =>
      refine additions.own own fun creates row member => ?_
      have same : (db'.transaction i).writes = (db.transaction i).writes := keeps.writes
      rw [same] at member
      exact additions.waiting i creates row member
  | compare compares cas =>
      refine additions.own (Database.casStep_own cas) fun creates => ?_
      obtain ⟨-, -, named⟩ := compares.owed owed
      cases request : requests i with
      | create principal title body =>
          rw [request] at named
          cases named
      | _ =>
          rw [request] at creates
          cases creates
  | @insert _ authorId title body issued =>
      refine additions.own (Database.insertStep_own db i _) fun _ row member => ?_
      obtain ⟨-, empty, -⟩ := owed
      rw [Database.transaction] at empty
      have same : row = Database.newRow c authorId title body := by
        simpa [Database.transaction, empty] using member
      rw [same, Option.eq_none_iff_forall_ne_some]
      intro old found
      have known := kept.ids db.version le_rfl _ _ found
      exact absurd known (not_lt.mpr issued.1)
  | rollback =>
      refine additions.own (Database.rollbackStep_own db i) fun creates row member => ?_
      rcases rollback_sessions db i with same | ended
      · rw [Database.transaction, same] at member
        exact additions.waiting i creates row member
      · rw [Database.transaction, ended] at member
        cases member
  | commit => exact additions.commitStep kept

end

theorem Additions.event {requests : Pid → Request} {w w' : World}
    (additions : Additions requests w.db) (outside : Outside w w') : Additions requests w'.db := by
  obtain ⟨-, users, same⟩ := outside
  rw [same]
  exact ⟨additions.waiting, additions.added⟩

theorem Initial.additions {w : World} (start : Initial w) (requests : Pid → Request) :
    Additions requests w.db := by
  refine ⟨fun i _ row member => ?_, fun n past => ?_⟩
  · rw [Database.transaction, start.sessions i] at member
    cases member
  · rw [start.version] at past
    exact absurd past (Nat.not_lt_zero n)

/-- The row that the answer to a creation shows is the one that its commit added. -/
theorem Additions.entered {requests : Pid → Request} {w : World} {i : Pid} {response : Response}
    (additions : Additions requests w.db) (entered : Entered i (requests i) response w)
    (creates : (requests i).creates = true) : ∃ n < w.db.version, w.db.writer (n + 1) = i ∧
      ∃ row, (requests i).Wrote response row.id ∧ (requests i).Fills row ∧
        (w.db.history n).find row.id = none ∧ (w.db.history (n + 1)).find row.id = some row := by
  obtain ⟨n, past, writer, row, wrote, fills, found, same⟩ := entered creates
  obtain ⟨new, missing, there⟩ := additions.added n past (by rw [writer]; exact creates)
  have own : new.id = row.id := by
    by_contra other
    rw [same new.id other, missing] at there
    cases there
  rw [own] at missing
  exact ⟨n, past, writer, row, wrote, fills, missing, found⟩

/-! ## Whole runs -/

/-- The setting in which each request asks of the service what its endpoint does. -/
def Setting.behind (σ : Setting) (a : Application) (http : Pid → HttpRequest) : Setting :=
  { σ with requests := fun i => a.requestOf (http i) }

section
variable {σ : Setting} {a : Application} {http : Pid → HttpRequest} {s : Site} {d : CoreSystem}

theorem Initial.allCores (start : Initial s.world) : (σ.behind a http).rows.AllSafe
    (fun i => VouchedOut (σ.behind a http) i)
    (Config.initial s.world fun i => a.core (http i)) :=
  ⟨start.coherent _, fun i => core_triple a rfl s.world (start.coherent _) (start.fresh i)⟩

theorem barren_cores (start : Initial s.world)
    (run : Steps (Exec σ.allow) σ.env (Config.initial s.world fun i => a.core (http i)) d) :
    Barren (fun i => (a.core (http i)).Sends Op.spares) d.state.db := by
  have sends : ∀ i, (a.core (http i)).Sends fun op =>
      (a.core (http i)).Sends Op.spares → op.spares := by
    intro i
    by_cases quiet : (a.core (http i)).Sends Op.spares
    · exact quiet.mono fun _ spares _ => spares
    · exact (sends_all _).mono fun _ _ impossible => absurd impossible quiet
  refine run.keeps (I := fun w => Barren _ w.db) sends (start.barren _) ?_ ?_
  · rintro i op w reply w' mine kept ⟨c, -, step⟩
    exact kept.exec mine step
  · intro w w' kept moved
    exact kept.event (σ.outside _ _ moved)

/-- The history of the table behind the layers, read at the requests in front of them. -/
theorem tableHistory_of_cores (start : Initial s.world)
    (run : Steps (Exec σ.allow) σ.env (Config.initial s.world fun i => a.core (http i)) d) :
    TableHistory a http d.state.db := by
  have safe : (σ.behind a http).rows.AllSafe (fun i => VouchedOut (σ.behind a http) i)
      (Config.initial s.world fun i => a.core (http i)) := start.allCores
  have kept : Coherent (fun i => a.requestOf (http i)) d.state.db := (safe.steps run).inv
  have identified : Identified (fun i => a.requestOf (http i)) d.state :=
    safe.invariant (fun _ kept owed step => Identified.exec kept owed step)
      (fun _ kept moved => Identified.event kept moved) (start.identified _) run
  have writes : ∀ n < d.state.db.version,
      ¬(a.core (http (d.state.db.writer (n + 1)))).Sends Op.spares := fun n past quiet =>
    (barren_cores start run _ quiet).2 n past rfl
  refine ⟨fun n past id new missing found => ?_, fun n past id old new before after change => ?_,
    (kept.history identified).lasting⟩
  · have step := kept.evolves n past id
    rw [missing, found] at step
    obtain ⟨principal, title, body, user, request, actor, author, rfl, rfl, live, unedited⟩ := step
    have names : (a.requestOf (http (d.state.db.writer (n + 1)))).principal = some user.id :=
      identified _ user actor
    rw [request] at names
    obtain rfl : principal = some user.id := names
    obtain ⟨⟨route, routed⟩, authenticates⟩ := create_asked (writes n past) request
    exact ⟨user, route, authenticates, actor, routed, author, live, unedited⟩
  · have step := kept.evolves n past id
    rw [before, after] at step
    rcases step with same | ⟨live, ⟨user, actor, allowed⟩, replaces⟩
    · exact absurd same change
    have names : (a.requestOf (http (d.state.db.writer (n + 1)))).principal = some user.id :=
      identified _ user actor
    obtain ⟨authenticates, makes⟩ := replaces_asked (writes n past) names replaces
    exact ⟨user, authenticates, actor, allowed, Option.isNone_iff_eq_none.mp live, makes⟩

theorem additions_of_cores (start : Initial s.world)
    (run : Steps (Exec σ.allow) σ.env (Config.initial s.world fun i => a.core (http i)) d) :
    Additions (fun i => a.requestOf (http i)) d.state.db := by
  have safe : (σ.behind a http).rows.AllSafe (fun i => VouchedOut (σ.behind a http) i)
      (Config.initial s.world fun i => a.core (http i)) := start.allCores
  refine safe.invariant (J := fun w => Additions (fun i => a.requestOf (http i)) w.db) ?_ ?_
    (start.additions _) run
  · rintro i op w reply w' kept additions owed ⟨c, -, step⟩
    exact additions.step kept owed (World.exec_database step)
  · exact fun _ additions moved => additions.event (σ.outside _ _ moved)

theorem stands_of_sent (start : Initial s.world)
    (run : Steps (Exec σ.allow) σ.env (Config.initial s.world fun i => a.core (http i)) d) {i : Pid}
    {ending : Ending} (mirrors : Mirrors a (http i) ending (d.code i)) {sent : HttpResponse}
    (response : ending.response = some sent) {answer : Response}
    (body : sent.body = .out (.one answer)) : ∃ principal,
      AuthMiddleware.dispatch a.jwt ⟨(http i).method, (http i).path, (http i).authorization⟩ =
        .ok (.proceeds principal) ∧
      ((a.requestOf (http i)).writes = true → ∃ n ≤ d.state.db.version, ∃ authorId,
        (a.requestOf (http i)).Stands answer authorId (d.state.db.history n)) ∧
      Entered i (a.requestOf (http i)) answer d.state := by
  have safe : (σ.behind a http).rows.AllSafe (fun i => VouchedOut (σ.behind a http) i)
      (Config.initial s.world fun i => a.core (http i)) := start.allCores
  have vouched : ∀ outcome, d.code i = .ofExcept outcome →
      VouchedOut (σ.behind a http) i outcome d.state := by
    intro outcome whole
    refine (safe.steps run).ended i outcome ?_
    rw [Config.outcome, whole]
    cases outcome <;> rfl
  generalize left : d.code i = code at mirrors
  cases mirrors with
  | aside other => exact absurd body (other.bare sent response _)
  | answered proceeds _ concluded =>
      refine ⟨_, proceeds, ?_⟩
      cases concluded with
      | success value header =>
          obtain rfl := Option.some.inj response
          obtain rfl := Body.out.inj body
          obtain ⟨⟨n, past, -, -, stands⟩, entered⟩ := vouched _ left
          exact ⟨fun writes => ⟨n, past, stands writes⟩, entered⟩
      | refusal kind message id header =>
          obtain rfl := Option.some.inj response
          cases body
      | invalid id =>
          obtain rfl := Option.some.inj response
          cases body
      | failure id other caught =>
          obtain rfl := Option.some.inj response
          cases body
      | cancelled other => cases response

end

/-- However requests interleave and whatever fails in them: every new row is its creator's, every
change of a row is by its author or an admin who showed a token and the version that is changed, a
deleted row is never changed again, and an answer to a creation or a deletion is true. -/
theorem table_history_end_to_end (σ : Setting) (a : Application) (http : Pid → HttpRequest)
    {s : Site}
    (start : Initial s.world) {c : HttpSystem} (run : σ.Handles (a.start http s) c) :
    TableHistory a http c.state.world.db ∧ Promises http c := by
  obtain ⟨d, inner, same, behind⟩ := run.behind
  rw [← same]
  refine ⟨tableHistory_of_cores start inner, ⟨?_, ?_⟩⟩
  · intro i ending response route title body out ended sent answer routed
    obtain ⟨_, whole, mirrors⟩ := (behind i).concluded ended
    obtain rfl := Except.ok.inj whole
    obtain ⟨principal, proceeds, -, entered⟩ := stands_of_sent start inner mirrors sent answer
    have asked := Application.requestOf_of_endpoint proceeds routed
    obtain ⟨n, past, writer, row, wrote, fills, missing, found⟩ :=
      (additions_of_cores start inner).entered entered (by rw [asked]; rfl)
    rw [asked] at wrote fills
    have shown : out.id = row.id := wrote
    rw [← same, shown]
    exact ⟨n, past, writer, missing, row, found, fills⟩
  · intro i ending response route articleId ifMatch ended sent answer routed
    obtain ⟨_, whole, mirrors⟩ := (behind i).concluded ended
    obtain rfl := Except.ok.inj whole
    obtain ⟨principal, proceeds, stands, -⟩ := stands_of_sent start inner mirrors sent answer
    rw [Application.requestOf_of_endpoint proceeds routed] at stands
    obtain ⟨n, past, authorId, id, wrote, row, found, -, dead⟩ := stands rfl
    obtain rfl : id = articleId := wrote
    rw [← same]
    refine ⟨n, past, row, found, fun alive => ?_⟩
    have live := dead rfl
    rw [ArticleRow.live, alive] at live
    cases live

def createAndDelete : Pid → HttpRequest
  | 0 => ⟨"POST", "/v1/articles", none, some "Bearer t",
      .endpoint "/v1/articles" (.createArticle "new" "text")⟩
  | _ => ⟨"DELETE", "/v1/articles/2", none, some "Bearer t",
      .endpoint "/v1/articles/{article_id}" (.deleteArticle 2 (some (isoformat (instant 2))))⟩

/-- Both succeed, and each adds its own committed state. -/
theorem table_history_of_create_and_delete : ∃ c created deleted,
    (Setting.free (requestsOf [])).Handles (guardedApplication.start createAndDelete oneArticleSite) c ∧
    c.outcome 0 = some (.ok created) ∧ created.response.map HttpResponse.status = some 201 ∧
    c.outcome 1 = some (.ok deleted) ∧ deleted.response.map HttpResponse.status = some 204 ∧
    c.state.world.db.version = 2 ∧ TableHistory guardedApplication createAndDelete c.state.world.db ∧
    Promises createAndDelete c := by
  have start : Initial oneArticleSite.world := World.fresh_initial [ann] (by decide)
  let deletion (s : Site) := (execute (fun op s => Site.answer 1 { time := instant 3 } op s)
    (guardedApplication.handle (createAndDelete 1)) s).any fun last => last.1.toOption.any
      fun ending => ending.response.map HttpResponse.status == some 204 &&
        last.2.world.db.version == 2
  obtain ⟨c, created, run, ended, both, others⟩ := exists_served
    (c := guardedApplication.start createAndDelete oneArticleSite) (i := 0) rfl
    (fun _ => { time := instant 2, newId := 2 })
    (fun ending s => ending.response.map HttpResponse.status == some 201 && deletion s)
    (by decide +kernel)
  rw [Bool.and_eq_true, beq_iff_eq] at both
  obtain ⟨c', deleted, rest, ended', gone, others'⟩ := exists_served
    (others 1 (by decide)) (fun _ => { time := instant 3 })
    (fun ending s => ending.response.map HttpResponse.status == some 204 && s.world.db.version == 2)
    both.2
  rw [Bool.and_eq_true, beq_iff_eq, beq_iff_eq] at gone
  obtain ⟨history, promises⟩ := table_history_end_to_end (Setting.free (requestsOf []))
    guardedApplication createAndDelete start (run.trans rest)
  refine ⟨c', created, deleted, run.trans rest, ?_, both.1, ended', gone.1, gone.2, history, promises⟩
  rw [Config.outcome, others' 0 (by decide)]
  exact ended

end ContentPlatform
