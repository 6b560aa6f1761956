import ContentPlatform.Program.Replay
import ContentPlatform.World.Endpoints
import ContentPlatform.World.Faults

/-!
# Faults are contained

A fault of a dependency reaches the server only if the interaction that failed with it stands
outside every guard.  A client is told to come back only if MySQL did not answer.  The commit of a
session is such an unguarded interaction: what it fails with is always raised.
-/

set_option autoImplicit false

namespace ContentPlatform

open Program Prog Py Text

/-! ## A failed commit -/

def Writing (op : Op) (xs : Exchanges) (reply : op.Reply) (xs' : Exchanges) : Prop :=
  xs' = xs ++ [⟨op, reply⟩]

def CommitsFail (P : Exc → Prop) (xs : Exchanges) : Prop :=
  ∀ error, ⟨.commit, .error error⟩ ∈ xs → P error

section
variable {α β : Type} {xs xs' : Exchanges} {P : Exc → Prop} {p : Py α} {outcome : Except Exc α}

theorem CommitsFail.snoc {op : Op} {reply : op.Reply} (before : CommitsFail P xs)
    (now : ∀ error, (⟨.commit, .error error⟩ : Interaction Op.Reply) = ⟨op, reply⟩ → P error) :
    CommitsFail P (xs ++ [⟨op, reply⟩]) := by
  intro error member
  rcases List.mem_append.mp member with earlier | here
  · exact before error earlier
  · exact now error (List.mem_singleton.mp here)

theorem CommitsFail.keeps (before : CommitsFail P xs) (aside : p.Sends (· ≠ .commit))
    (run : Runs Writing p xs outcome xs') : CommitsFail P xs' := by
  refine run.keeps aside ?_ before
  rintro op ys reply _ other kept rfl
  refine kept.snoc fun error same => ?_
  cases same
  exact absurd rfl other

theorem CommitsFail.nil : CommitsFail (fun _ => False) [] := by
  rintro error ⟨⟩

/-- The program ends with what its commit fails with, unless a rollback fails as well. -/
def CommitsLast (p : Py α) : Prop :=
  ∀ outcome xs, Runs Writing p [] outcome xs → (∀ failure, ⟨.rollback, .error failure⟩ ∉ xs) →
    CommitsFail (fun error => outcome = .error error) xs

theorem CommitsLast.map {f : α → β} (commits : CommitsLast p) :
    CommitsLast (p.bind fun value => .ret (f value)) := by
  intro outcome xs run calm error member
  obtain ⟨middle, xs₁, first, rest⟩ := Runs.of_cont run
  cases middle with
  | ok value =>
      cases rest
      have impossible : (Except.ok value : Except Exc α) = .error error :=
        commits _ _ first calm error member
      cases impossible
  | error error' =>
      cases rest
      obtain rfl := Except.error.inj (commits _ _ first calm error member)
      rfl

/-! ### Sessions -/

theorem uncommitting_local (op : Op) (isLocal : op.isBookkeeping = true) : op ≠ .commit := by
  rintro rfl
  cases isLocal

theorem uncommitting_cache (op : Op) (asks : op.asksCache = true) : op ≠ .commit := by
  rintro rfl
  cases asks

theorem drainAfterCommit_uncommitting (cache : ArticleCache) :
    (drainAfterCommit cache).Sends (· ≠ .commit) :=
  drainAfterCommit_sends uncommitting_local cache uncommitting_cache (by simp) (by simp) (by simp)

theorem abort_uncommitting (error : Exc) : (Prog.bind rollback fun _ =>
    Prog.bind discardAfterCommit fun _ => (.raise error : Py α)).Sends (· ≠ .commit) := by
  refine Sends.bind (answer_sends (by simp) _) fun _ => ?_
  exact Sends.bind (Sends.bind (reply_sends (by simp) _) fun _ => trivial) fun _ => trivial

theorem abort_outcome {error : Exc} (run : Runs Writing (Prog.bind rollback fun _ =>
      Prog.bind discardAfterCommit fun _ => (.raise error : Py α)) xs outcome xs')
    (calm : ∀ failure, ⟨.rollback, .error failure⟩ ∉ xs') : outcome = .error error := by
  cases run with
  | @call _ _ _ xs₁ _ reply _ written rest =>
      obtain rfl := written
      cases reply with
      | error failure =>
          cases rest
          exact absurd (List.mem_append_right _ (List.mem_singleton_self _)) (calm failure)
      | ok _ =>
          cases rest with
          | call _ rest =>
              cases rest
              rfl

theorem getSession_commitsLast (cache : ArticleCache) {handler : Py α}
    (aside : handler.Sends (· ≠ .commit)) : CommitsLast (getSession cache handler) := by
  intro outcome xs run calm
  obtain ⟨middle, xs₁, first, rest⟩ := Runs.of_attempt_bind run
  obtain ⟨handled, xs₀, handling, committing⟩ := Runs.of_cont first
  have before : CommitsFail (fun _ => False) xs₀ := CommitsFail.nil.keeps aside handling
  cases handled with
  | error error =>
      cases committing
      have after := before.keeps (abort_uncommitting error) rest
      exact fun error member => (after error member).elim
  | ok value =>
      cases committing with
      | @call _ _ _ _ _ reply _ written ended =>
          obtain rfl := written
          cases reply with
          | ok _ =>
              cases ended
              have whole : CommitsFail (fun _ => False) (xs₀ ++ [⟨.commit, .ok ()⟩]) :=
                before.snoc (by rintro _ ⟨⟩)
              have drained : (Prog.bind (drainAfterCommit cache) fun _ =>
                  (.ret value : Py α)).Sends (· ≠ .commit) :=
                Sends.bind (drainAfterCommit_uncommitting cache) fun _ => trivial
              have after := whole.keeps drained rest
              exact fun error member => (after error member).elim
          | error error =>
              cases ended
              have failed : CommitsFail (· = error) (xs₀ ++ [⟨.commit, .error error⟩]) := by
                refine CommitsFail.snoc (fun error member => (before error member).elim) ?_
                rintro _ ⟨⟩
                rfl
              intro error' member
              rw [abort_outcome rest calm, failed.keeps (abort_uncommitting error) rest _ member]

end

/-! ### Endpoints -/

section
variable (app : App)

theorem handler_uncommitting (request : Request) :
    (app.handler request).Sends (· ≠ .commit) := by
  refine (handler_sends app request).mono fun op footprint => ?_
  rintro rfl
  exact footprint

theorem footprint_uncommitting {α : Type} {p : Py α}
    (footprint : p.Sends (Footprint (fun _ => True) (fun _ => True) True)) :
    p.Sends (· ≠ .commit) := by
  refine footprint.mono fun op footprint => ?_
  rintro rfl
  exact footprint

theorem listRoute_commitsLast (limit : ℤ) (cursor : Option String) (author : Option ℤ) :
    CommitsLast (app.listRoute limit cursor author) := by
  have listed : ∀ after, (app.articles.listArticles limit after author).Sends
      (Footprint (fun _ => True) (fun _ => True) True) := fun _ =>
    listArticles_sends app.articles trivial trivial fun _ =>
      ⟨trivial, fun _ _ => trivial, fun _ => trivial, trivial⟩
  apply getSession_commitsLast
  cases cursor
  case' none =>
    refine Sends.bind (show (Prog.ret none : Py (Option Position)).Sends _ from trivial)
      fun after => ?_
  case' some cursor => refine Sends.bind (sends_ofExcept _) fun after => ?_
  all_goals
    refine Sends.bind (footprint_uncommitting (listed _)) fun page => ?_
    split
    · exact Sends.bind (sends_ofExcept _) fun _ => trivial
    · trivial

theorem conditional_commitsLast {α : Type} (userId : Option ℤ) (ifMatch : Option String)
    {write : ℤ → DateTime → Py α}
    (aside : ∀ actor expected, (write actor expected).Sends (· ≠ .commit)) :
    CommitsLast (getSession app.cache (Prog.bind (app.getCurrentUser userId) fun actor =>
      Prog.bind (.ofExcept (parseIfMatch app.rt ifMatch)) (write actor))) := by
  have user : (app.getCurrentUser userId).Sends
      (Footprint (fun _ => True) (fun _ => True) True) :=
    getCurrentUser_sends app userId fun _ => trivial
  apply getSession_commitsLast
  refine Sends.bind (footprint_uncommitting user) fun actor => ?_
  exact Sends.bind (sends_ofExcept _) (aside actor)

theorem withPrincipal_commitsLast (principal : Option Principal) {endpoint : Option ℤ → Py Response}
    (commits : ∀ userId, CommitsLast (endpoint userId)) :
    CommitsLast (app.withPrincipal principal endpoint) := by
  unfold App.withPrincipal
  split
  · exact commits none
  · split
    · exact commits _
    · exact getSession_commitsLast app.cache trivial

theorem endpoint_commitsLast (principal : Option Principal) (endpoint : Endpoint) :
    CommitsLast (app.endpoint principal endpoint) := by
  have served : ∀ request, CommitsLast (app.serve request) := fun request =>
    getSession_commitsLast app.cache (handler_uncommitting app request)
  cases endpoint with
  | createArticle title body =>
      exact (withPrincipal_commitsLast app principal fun _ => served _).map
  | listArticles limit cursor author => exact (listRoute_commitsLast app limit cursor author).map
  | getArticle articleId => exact (served _).map
  | updateArticle articleId title body ifMatch =>
      refine (withPrincipal_commitsLast app principal fun userId => ?_).map
      refine conditional_commitsLast app userId ifMatch fun actor expected => ?_
      exact Sends.bind (footprint_uncommitting
        (update_sends app.articles trivial trivial trivial _)) fun _ => trivial
  | deleteArticle articleId ifMatch =>
      refine (withPrincipal_commitsLast app principal fun userId => ?_).map
      refine conditional_commitsLast app userId ifMatch fun actor expected => ?_
      exact Sends.bind (footprint_uncommitting
        (delete_sends app.articles trivial (fun _ => trivial) trivial _)) fun _ => trivial
  | register payload => exact (served _).map
  | login payload => exact (served _).map
  | invalid resolved errors =>
      refine CommitsLast.map ?_
      cases resolved with
      | nothing =>
          intro _ _ run _
          cases run
          rintro error ⟨⟩
      | session => exact getSession_commitsLast app.cache trivial
      | currentUser =>
          rw [App.invalid]
          refine withPrincipal_commitsLast app principal fun userId => ?_
          apply getSession_commitsLast
          have user : (app.getCurrentUser userId).Sends
              (Footprint (fun _ => True) (fun _ => True) True) :=
            getCurrentUser_sends app userId fun _ => trivial
          exact Sends.bind (footprint_uncommitting user) fun _ => trivial

end

/-! ## Whole runs -/

/-- What an endpoint has sent, without what the layers did themselves. -/
def FrontOp.inner : Interaction FrontOp.Reply → Option (Interaction Op.Reply)
  | ⟨.endpoint op, reply⟩ => some ⟨op, reply⟩
  | _ => none

def endpointPart (i : Pid) (chronicle : List (Pid × Interaction FrontOp.Reply)) : Exchanges :=
  (part i chronicle).filterMap FrontOp.inner

abbrev Setting.Handling (σ : Setting) :
    HttpSystem → List (Pid × Interaction FrontOp.Reply) → HttpSystem → Prop :=
  Chronicle (Site.exec σ) (Site.env σ)

/-- The endpoints behind the layers take a run of their own, with their own exchanges. -/
theorem Setting.Handling.behind {σ : Setting} {a : Application} {http : Pid → HttpRequest}
    {s : Site} {c : HttpSystem} {chronicle : List (Pid × Interaction FrontOp.Reply)}
    (run : σ.Handling (a.start http s) chronicle c) (i : Pid) : ∃ code : Py EndpointOut,
      (a.core (http i)).Replays (endpointPart i chronicle) code ∧
      Behind (c.code i) code fun ending rest =>
        Mirrors a (http i) ending rest ∧ ending.Coherent := by
  have carries : ∀ j, Behind ((a.start http s).code j) (a.core (http j)) fun ending rest =>
      Mirrors a (http j) ending rest ∧ ending.Coherent := fun j => behind_handle_coherent a (http j)
  obtain ⟨d, inner, -, behind⟩ : ∃ d : CoreSystem, Chronicle (Exec σ.allow) σ.env
      (Config.initial s.world fun j => a.core (http j)) (selected FrontOp.inner chronicle) d ∧
      d.state = c.state.world ∧ ∀ j, Behind (c.code j) (d.code j) fun ending rest =>
        Mirrors a (http j) ending rest ∧ ending.Coherent := by
    have kept : ∀ (op : Op) (reply : op.Reply),
        FrontOp.inner ⟨.endpoint op, reply⟩ = some ⟨op, reply⟩ := fun _ _ => rfl
    refine Chronicle.carried FrontOp.endpoint (fun _ => id) (f := Site.world)
      (d := Config.initial s.world fun j => a.core (http j)) (fun _ _ _ _ _ step => step.2) ?_
      (fun _ _ moved => moved.1) kept ?_ rfl carries run
    · intro j op s reply s' other step
      cases op with
      | endpoint inner => exact absurd rfl (other inner)
      | _ => exact step.2
    · intro op reply other
      cases op with
      | endpoint inner => exact absurd rfl (other inner)
      | _ => rfl
  refine ⟨d.code i, ?_, behind i⟩
  rw [endpointPart, ← part_selected]
  exact inner.replays i

/-- How a request ends, by what its endpoint was answered. -/
structure Contained (a : Application) (xs : Exchanges) (ending : Ending) : Prop where
  /-- What is raised is no fault of a dependency, or nothing stood around what failed with it. -/
  raised : ∀ error, ending.raised = some error → error.isOwn = true ∨ ∃ op reply, ⟨op, reply⟩ ∈ xs ∧
    op.failure reply = some error ∧ op.contains error = false
  /-- Only an exception makes an internal error. -/
  internal : ∀ sent, ending.response = some sent → sent.status = 500 → ending.raised.isSome
  /-- A client is sent away where there is no place or MySQL does not answer. -/
  degraded : ∀ sent, ending.response = some sent → sent.status = 503 ∨ sent.status = 504 →
    sent.Shed a ∨ MysqlDown xs ∨ ∃ op reply error, ⟨op, reply⟩ ∈ xs ∧
      op.failure reply = some error ∧ error.isDependencyDown = true
  /-- Nothing stands around the commit. -/
  commit : ∀ error, ⟨.commit, .error error⟩ ∈ xs → (∀ failure, ⟨.rollback, .error failure⟩ ∉ xs) →
    error.isHandled = false → ending.raised = some error ∧
      ∀ sent, ending.response = some sent → sent.status = 500

theorem Exc.isHandled_of_isDependencyDown {error : Exc} (down : error.isDependencyDown = true) :
    error.isHandled = true := by
  cases error <;> first | rfl | cases down

theorem DomainKind.isDependencyDown_of_status {kind : DomainKind} {message : String}
    (status : kind.status.1 = 503 ∨ kind.status.1 = 504) :
    (Exc.domain kind message).isDependencyDown = true := by
  cases kind <;> first | rfl | simp [DomainKind.status] at status

/-- Where no exception of the endpoint is left unexplained. -/
theorem Concluded.contained {a : Application} {endpoint : Endpoint} {xs : Exchanges}
    {outcome : Except Exc EndpointOut} {ending : Ending}
    (concluded : Concluded endpoint outcome ending)
    (explained : ∀ error, outcome = .error error → Explained xs error)
    (commits : (∀ failure, ⟨.rollback, .error failure⟩ ∉ xs) →
      CommitsFail (fun error => outcome = .error error) xs) : Contained a xs ending := by
  have thrown : ∀ error, outcome = .error error → error.isHandled = false →
      error.isOwn = true ∨ ∃ op reply, ⟨op, reply⟩ ∈ xs ∧ op.failure reply = some error ∧
        op.contains error = false := by
    intro error same other
    cases explained error same with
    | own own => exact Or.inl own
    | down down =>
        rw [Exc.isHandled_of_isDependencyDown down] at other
        cases other
    | failed op reply member failure bare => exact Or.inr ⟨op, reply, member, failure, bare⟩
  cases concluded with
  | success value header =>
      refine ⟨by rintro _ ⟨⟩, ?_, ?_, ?_⟩
      · rintro _ ⟨⟩ status
        cases endpoint <;> cases status
      · rintro _ ⟨⟩ status
        cases endpoint <;> rcases status with status | status <;> cases status
      · intro error member calm
        cases commits calm error member
  | refusal kind message id header =>
      refine ⟨by rintro _ ⟨⟩, ?_, ?_, ?_⟩
      · rintro _ ⟨⟩ status
        cases kind <;> cases status
      · rintro _ ⟨⟩ status
        have down : (Exc.domain kind message).isDependencyDown = true :=
          DomainKind.isDependencyDown_of_status status
        cases explained _ rfl with
        | own own => simp [Exc.isOwn, down] at own
        | down _ absent => exact Or.inr (Or.inl absent)
        | failed op reply member failure =>
            exact Or.inr (Or.inr ⟨op, reply, _, member, failure, down⟩)
      · intro error member calm other
        obtain rfl := Except.error.inj (commits calm error member)
        cases other
  | invalid id header =>
      refine ⟨by rintro _ ⟨⟩, ?_, ?_, ?_⟩
      · rintro _ ⟨⟩ status
        cases status
      · rintro _ ⟨⟩ status
        rcases status with status | status <;> cases status
      · intro error member calm other
        obtain rfl := Except.error.inj (commits calm error member)
        cases other
  | @failure error id other caught =>
      refine ⟨?_, fun _ _ _ => rfl, ?_, ?_⟩
      · rintro _ ⟨⟩
        exact thrown error rfl other
      · rintro _ ⟨⟩ status
        rcases status with status | status <;> cases status
      · intro error' member calm _
        obtain rfl := Except.error.inj (commits calm error' member)
        exact ⟨rfl, by rintro _ ⟨⟩; rfl⟩
  | @cancelled error uncaught =>
      refine ⟨?_, by rintro _ ⟨⟩, by rintro _ ⟨⟩, ?_⟩
      · rintro _ ⟨⟩
        refine thrown error rfl ?_
        cases error <;> first | rfl | cases uncaught
      · intro error' member calm _
        obtain rfl := Except.error.inj (commits calm error' member)
        exact ⟨rfl, by rintro _ ⟨⟩⟩

/-- Whatever fails and however requests interleave: a request that is let through to an endpoint
ends as its own exchanges with MySQL, Redis and the rest have it. -/
theorem faults_contained (σ : Setting) (a : Application) (decodes : a.app.rt.Decodes)
    (http : Pid → HttpRequest) {s : Site} {c : HttpSystem}
    {chronicle : List (Pid × Interaction FrontOp.Reply)}
    (run : σ.Handling (a.start http s) chronicle c) {i : Pid} {ending : Ending}
    (last : c.outcome i = some (.ok ending)) {principal : Option Principal} {route : String}
    {endpoint : Endpoint} (proceeds : AuthMiddleware.dispatch a.jwt
      ⟨(http i).method, (http i).path, (http i).authorization⟩ = .ok (.proceeds principal))
    (routed : (http i).routed = .endpoint route endpoint) :
    Contained a (endpointPart i chronicle) ending := by
  obtain ⟨code, replays, behind⟩ := run.behind i
  obtain ⟨_, whole, mirrors, coherent⟩ := behind.concluded last
  obtain rfl := Except.ok.inj whole
  cases mirrors with
  | aside other =>
      -- the endpoint was not run, so there was no place
      have silent := replays.eq_nil
      rw [silent]
      rcases other.bypassed with denied | unrouted | ⟨-, shed, sent, refused⟩
      · exact absurd proceeds (denied principal)
      · exact absurd routed (unrouted route endpoint)
      · refine ⟨fun error thrown => ?_, fun sent' same status => ?_,
          fun sent' same _ => Or.inl ?_, ?_⟩
        · have internal := coherent (by rw [thrown]; rfl) shed sent
          rw [refused.1] at internal
          cases internal
        · obtain rfl := Option.some.inj (same.symm.trans sent)
          rw [refused.1] at status
          cases status
        · obtain rfl := Option.some.inj (same.symm.trans sent)
          exact refused
        · rintro error ⟨⟩
  | @answered _ _ _ outcome _ _ _ concluded =>
      rw [Application.core_of_endpoint proceeds routed] at replays
      refine concluded.contained (fun error failed => ?_) fun calm => ?_
      · have alone : Runs (Among (endpointPart i chronicle)) (a.app.endpoint principal endpoint) ()
            outcome _ := replays.runs (fun _ _ => ()) (fun _ member _ => member) ()
        exact wp_sound _ _ _ _ _ (endpoint_explained a.app decodes principal endpoint ()) alone
          error failed
      · have written : Runs Writing (a.app.endpoint principal endpoint) [] outcome
            ((endpointPart i chronicle).foldl (fun xs exchange => xs ++ [exchange]) []) :=
          replays.runs _ (fun _ _ _ => rfl) []
        have same : (endpointPart i chronicle).foldl (fun xs exchange => xs ++ [exchange]) [] =
            endpointPart i chronicle := by
          simp [← List.flatMap_def]
        rw [same] at written
        exact endpoint_commitsLast a.app principal endpoint outcome _ written calm

theorem defaultRuntime_decodes (sha256Hex : String → String) :
    (defaultRuntime sha256Hex).Decodes := by
  refine ⟨fun text error failed => ?_, fun literal error failed => ?_⟩
  · cases read : loads text with
    | none =>
        simp only [defaultRuntime, read, Option.elim] at failed
        obtain rfl := Except.error.inj failed
        rfl
    | some value =>
        simp only [defaultRuntime, read, Option.elim] at failed
        cases failed
  · obtain rfl := Except.error.inj failed
    rfl

def losingCommit : FrontOp → Choice
  | .endpoint .commit => { time := instant 2, fault := some .operationalError }
  | _ => { time := instant 2 }

/-- MySQL goes away at the commit of a deletion, and the client is told of an internal error. -/
theorem faults_contained_of_lost_commit : ∃ c chronicle ending,
    (Setting.free (requestsOf [])).Handling
      (guardedApplication.start (fun _ => authorsDelete) oneArticleSite) chronicle c ∧
    c.outcome 0 = some (.ok ending) ∧ ending.response.map HttpResponse.status = some 500 ∧
    ∃ op reply, ⟨op, reply⟩ ∈ endpointPart 0 chronicle ∧
      op.failure reply = some .operationalError ∧ op.contains .operationalError = false := by
  obtain ⟨c, ending, steps, last, lost, -⟩ := exists_served
    (c := guardedApplication.start (fun _ => authorsDelete) oneArticleSite) (i := 0) rfl losingCommit
    (fun ending _ => ending.response.map HttpResponse.status == some 500 &&
      ending.raised == some .operationalError) (by decide +kernel)
  rw [Bool.and_eq_true, beq_iff_eq, beq_iff_eq] at lost
  obtain ⟨chronicle, handling⟩ := steps.chronicled
  have proceeds : AuthMiddleware.dispatch oneToken
      ⟨authorsDelete.method, authorsDelete.path, authorsDelete.authorization⟩ =
        .ok (.proceeds (some ⟨.str "1", .str "user"⟩)) := rfl
  have contained := faults_contained (Setting.free (requestsOf [])) guardedApplication
    (defaultRuntime_decodes fun _ => "") (fun _ => authorsDelete) handling last proceeds rfl
  rcases contained.raised .operationalError lost.2 with own | unguarded
  · cases own
  · exact ⟨c, chronicle, ending, handling, last, lost.1, unguarded⟩

end ContentPlatform
