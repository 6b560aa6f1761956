import ContentPlatform.World.Site

/-!
# What runs behind the layers

Behind the middlewares a request runs its endpoint, or nothing.  The layers are looked at one by one:
what each makes of an answer, and that it reads and writes nothing of its own.
-/

set_option autoImplicit false

namespace ContentPlatform

open Program Text

/-- What a request runs behind the layers: the endpoint it is let through to, if there is one. -/
def Application.core (a : Application) (request : HttpRequest) : Py EndpointOut :=
  match request.routed with
  | .endpoint _ endpoint =>
      match AuthMiddleware.dispatch a.jwt ⟨request.method, request.path, request.authorization⟩ with
      | .ok (.proceeds principal) => a.app.endpoint principal endpoint
      | _ => .raise .runtimeError
  | _ => .raise .runtimeError

theorem Application.core_of_endpoint {a : Application} {request : HttpRequest}
    {principal : Option Principal} {route : String} {endpoint : Endpoint}
    (proceeds : AuthMiddleware.dispatch a.jwt ⟨request.method, request.path, request.authorization⟩ =
      .ok (.proceeds principal)) (routed : request.routed = .endpoint route endpoint) :
    a.core request = a.app.endpoint principal endpoint := by
  simp only [core, routed, proceeds]

/-! ## What is made of an outcome -/

/-- What the exception handlers make of the outcome of an endpoint, whatever the layers add. -/
inductive Rendered (endpoint : Endpoint) : Except Exc EndpointOut → Except Exc HttpResponse → Prop
  | success (value : EndpointOut) (header : Option String) :
      Rendered endpoint (.ok value) (.ok ⟨endpoint.status, .out value, none, header⟩)
  | refusal (kind : DomainKind) (message id : String) (header : Option String) :
      Rendered endpoint (.error (.domain kind message))
        (.ok ⟨kind.status.1, .envelope kind.status.2 message id (.obj []), kind.retryAfter, header⟩)
  | invalid (id : String) (header : Option String) :
      Rendered endpoint (.error .requestValidationError) (.ok ⟨422, .envelope "VALIDATION_ERROR"
        "Request failed validation." id (orEmpty endpoint.errors), none, header⟩)
  | raised {error : Exc} : error.isHandled = false →
      Rendered endpoint (.error error) (.error error)

/-- The response that tells a client to come back when there is a place. -/
def HttpResponse.Shed (a : Application) (response : HttpResponse) : Prop :=
  response.status = 503 ∧ response.retryAfter = some (retryAfterHeader a.shedRetryAfterSeconds)

/-- Why no endpoint is run for a request: the policy does not let it through, the router has no
endpoint for it, or there was no place. -/
def Bypassed (a : Application) (request : HttpRequest) (response : Option HttpResponse) : Prop :=
  (∀ principal, AuthMiddleware.dispatch a.jwt
    ⟨request.method, request.path, request.authorization⟩ ≠ .ok (.proceeds principal)) ∨
  (∀ route endpoint, request.routed ≠ .endpoint route endpoint) ∨
  (Application.exempt request.path = false ∧ ∃ shed, response = some shed ∧ shed.Shed a)

/-- The end of a request for which no endpoint is run. -/
structure Aside (a : Application) (request : HttpRequest) (response : Option HttpResponse) :
    Prop where
  bare : ∀ sent, response = some sent → ∀ value, sent.body ≠ .out value
  bypassed : Bypassed a request response

/-- What a layer ends with reveals what the endpoint has done: all of it, or nothing. -/
inductive Reveals (a : Application) (request : HttpRequest) :
    Except Exc HttpResponse → Py EndpointOut → Prop
  | aside {result : Except Exc HttpResponse} : Aside a request result.toOption →
      Reveals a request result (a.core request)
  | answered {principal : Option Principal} {route : String} {endpoint : Endpoint}
      {outcome : Except Exc EndpointOut} {result : Except Exc HttpResponse} :
      AuthMiddleware.dispatch a.jwt ⟨request.method, request.path, request.authorization⟩ =
        .ok (.proceeds principal) →
      request.routed = .endpoint route endpoint → Rendered endpoint outcome result →
      Reveals a request result (.ofExcept outcome)

theorem Aside.envelope {a : Application} {request : HttpRequest} {status : ℕ}
    {code message id : String} {details : Json} {retryAfter : Option ℤ} {header : Option String}
    (bypassed : Bypassed a request
      (some ⟨status, .envelope code message id details, retryAfter, header⟩)) :
    Aside a request (some ⟨status, .envelope code message id details, retryAfter, header⟩) :=
  ⟨by rintro _ ⟨⟩ _ ⟨⟩, bypassed⟩

theorem Aside.framework {a : Application} {request : HttpRequest} {status : ℕ}
    (unrouted : ∀ route endpoint, request.routed ≠ .endpoint route endpoint) :
    Aside a request (some ⟨status, .framework, none, none⟩) :=
  ⟨by rintro _ ⟨⟩ _ ⟨⟩, Or.inr (Or.inl unrouted)⟩

theorem Aside.nothing {a : Application} {request : HttpRequest}
    (bypassed : Bypassed a request none) :
    Aside a request none :=
  ⟨by rintro _ ⟨⟩, bypassed⟩

/-- The header of a response says nothing about its endpoint. -/
theorem Reveals.headed {a : Application} {request : HttpRequest} {result : Except Exc HttpResponse}
    {code : Py EndpointOut} (reveals : Reveals a request result code) (header : Option String) :
    Reveals a request (result.map fun response => { response with requestId := header }) code := by
  cases reveals with
  | aside other =>
      apply Reveals.aside
      cases result with
      | ok response =>
          refine ⟨?_, other.bypassed.imp_right (Or.imp_right ?_)⟩
          · rintro _ ⟨⟩
            exact other.bare response rfl
          · rintro ⟨counted, _, ⟨⟩, shed⟩
            exact ⟨counted, _, rfl, shed⟩
      | error error => exact other
  | answered proceeds routed rendered =>
      apply Reveals.answered proceeds routed
      cases rendered with
      | success value _ => exact .success value header
      | refusal kind message id _ => exact .refusal kind message id header
      | invalid id _ => exact .invalid id header
      | raised other => exact .raised other

/-! ## Layers over one program -/

section
variable {α β : Type} {p : Asgi α} {code : Py EndpointOut} {Q : α → Py EndpointOut → Prop}
  {Q' : β → Py EndpointOut → Prop}

/-- All that `p` does behind the layers is what `code` does, and at its end `Q` tells what is left of
it. -/
abbrev Behind (p : Asgi α) (code : Py EndpointOut) (Q : α → Py EndpointOut → Prop) : Prop :=
  Carries FrontOp.endpoint (fun _ => id)
    (fun outcome rest => ∀ value, outcome = .ok value → Q value rest) p code

namespace Behind

theorem ret {value : α} (reveals : Q value code) : Behind (.ret value) code Q :=
  Carries.ret (by rintro _ ⟨⟩; exact reveals)

theorem bind {k : α → Asgi β} (first : Behind p code Q)
    (rest : ∀ value rest, Q value rest → Behind (k value) rest Q') : Behind (p.bind k) code Q' :=
  Carries.bind first (fun value left reveals => rest value left (reveals value rfl))
    fun error => nomatch error

theorem own {op : FrontOp} {next : op.Reply → Asgi α} (other : ∀ inner, op ≠ .endpoint inner)
    (rest : ∀ reply, Behind (next reply) code Q) : Behind (.call op next) code Q :=
  Carries.outer other rest

theorem embed (code : Py EndpointOut) :
    Behind (code.embed FrontOp.endpoint fun _ => id) code fun outcome rest =>
      rest = .ofExcept outcome := by
  refine (Carries.embed code).mono fun _ rest ended value same => ?_
  obtain ⟨outcome, whole, done⟩ := ended
  obtain rfl := Except.ok.inj (whole.symm.trans same)
  exact done

end Behind

end

/-! ## The layers -/

section
variable {a : Application} {request : HttpRequest} {code : Py EndpointOut} {scope : Scope}

abbrev Shows (a : Application) (request : HttpRequest) (ended : Scope × Except Exc HttpResponse)
    (rest : Py EndpointOut) : Prop := Reveals a request ended.2 rest

theorem behind_errorEnvelope {Q : HttpResponse → Py EndpointOut → Prop} {error : ErrorResponse}
    {details : Json} (reveals : ∀ id, Q ⟨error.status,
      .envelope error.code error.message id (orEmpty details), error.retryAfter, none⟩ code) :
    Behind (errorEnvelope scope error details) code Q := by
  have minted : Behind (Prog.bind newRequestId fun requestId => .ret (⟨error.status,
      .envelope error.code error.message requestId (orEmpty details), error.retryAfter, none⟩ :
        HttpResponse)) code Q :=
    Behind.own (fun _ impossible => nomatch impossible) fun id => Behind.ret (reveals id)
  unfold errorEnvelope
  cases scope.requestId with
  | none => exact minted
  | some requestId =>
      simp only
      split
      · exact minted
      · exact Behind.ret (reveals requestId)

/-- An error that a layer answers with instead of going on. -/
theorem behind_denial (after : Scope) {error : ErrorResponse} {details : Json}
    (bypassed : ∀ response, response.status = error.status → response.retryAfter = error.retryAfter →
      Bypassed a request (some response)) :
    Behind (Prog.bind (errorEnvelope scope error details) fun response =>
      .ret (after, .ok response)) (a.core request) (Shows a request) := by
  refine Behind.bind (Q := fun response rest =>
    rest = a.core request ∧ Aside a request (some response))
    (behind_errorEnvelope fun _ => ⟨rfl, Aside.envelope (bypassed _ rfl rfl)⟩) ?_
  rintro response _ ⟨rfl, other⟩
  exact Behind.ret (.aside other)

theorem behind_handled {Q : Scope × Except Exc HttpResponse → Py EndpointOut → Prop}
    {outcome : Except Exc HttpResponse}
    (refused : ∀ kind message, outcome = .error (.domain kind message) → ∀ id, Q (scope,
      .ok ⟨kind.status.1, .envelope kind.status.2 message id (.obj []), kind.retryAfter, none⟩) code)
    (invalid : outcome = .error .requestValidationError → ∀ id, Q (scope,
      .ok ⟨422, .envelope "VALIDATION_ERROR" "Request failed validation." id
        (orEmpty request.routed.errors), none, none⟩) code)
    (other : (∀ error, outcome = .error error → error.isHandled = false) →
      Q (scope, outcome) code) :
    Behind (a.handled request scope outcome) code Q := by
  unfold Application.handled
  split
  · rename_i kind message
    have answer : Behind (Prog.bind (errorEnvelope scope (errorResponse (.domain kind message)) .null)
        fun response => .ret (scope, (.ok response : Except Exc HttpResponse))) code Q := by
      refine Behind.bind (Q := fun response rest => rest = code ∧ Q (scope, .ok response) code)
        (behind_errorEnvelope fun id => ⟨rfl, refused kind message rfl id⟩) ?_
      rintro response _ ⟨rfl, reveals⟩
      exact Behind.ret reveals
    unfold Application.domainError
    split
    · exact Behind.own (fun _ impossible => nomatch impossible) fun _ => answer
    · exact answer
  · refine Behind.bind (Q := fun response rest => rest = code ∧ Q (scope, .ok response) code)
      (behind_errorEnvelope fun id => ⟨rfl, invalid rfl id⟩) ?_
    rintro response _ ⟨rfl, reveals⟩
    exact Behind.ret reveals
  · rename_i undomained unrequested
    refine Behind.ret (other ?_)
    rintro error rfl
    cases error <;> first | rfl | exact absurd rfl (undomained _ _) | exact absurd rfl unrequested

theorem behind_router (proceeds : AuthMiddleware.dispatch a.jwt
      ⟨request.method, request.path, request.authorization⟩ = .ok (.proceeds scope.principal)) :
    Behind (a.router request scope) (a.core request) (Shows a request) := by
  unfold Application.router
  have unrouted : ∀ routed, request.routed = routed →
      (∀ route endpoint, routed ≠ .endpoint route endpoint) →
      ∀ route endpoint, request.routed ≠ .endpoint route endpoint := by
    rintro routed rfl other
    exact other
  cases routed : request.routed with
  | notFound => exact Behind.ret (.aside (Aside.framework (unrouted _ routed nofun)))
  | methodNotAllowed route =>
      exact Behind.ret (.aside (Aside.framework (unrouted _ routed nofun)))
  | elsewhere route result =>
      have bypassed : ∀ response, Bypassed a request response :=
        fun _ => Or.inr (Or.inl (unrouted _ routed nofun))
      refine behind_handled (fun _ _ _ _ => .aside (Aside.envelope (bypassed _)))
        (fun _ _ => .aside (Aside.envelope (bypassed _))) fun _ => ?_
      apply Reveals.aside
      cases result with
      | ok status => exact Aside.framework (unrouted _ routed nofun)
      | error error => exact Aside.nothing (bypassed none)
  | endpoint route endpoint =>
      rw [Application.core_of_endpoint proceeds routed]
      refine Behind.bind (Behind.embed _) fun outcome rest done => ?_
      subst done
      apply behind_handled
      · intro kind message failed id
        cases outcome with
        | ok value => cases failed
        | error error =>
            obtain rfl := Except.error.inj failed
            exact .answered proceeds routed (.refusal kind message id none)
      · intro failed id
        cases outcome with
        | ok value => cases failed
        | error error =>
            obtain rfl := Except.error.inj failed
            simp only [routed, Routed.errors]
            exact .answered proceeds routed (.invalid id none)
      · intro unhandled
        apply Reveals.answered proceeds routed
        cases outcome with
        | ok value => exact .success value none
        | error error => exact .raised (unhandled error rfl)

theorem behind_authorized {callNext : CallNext}
    (dispatched : AuthMiddleware.dispatch a.jwt ⟨request.method, request.path,
      request.authorization⟩ = .ok (AuthMiddleware.apply ⟨request.method, request.path,
      request.authorization⟩ scope.principal))
    (inner : authorize (routeRequirement request.method request.path) scope.principal = none →
      Behind (callNext scope) (a.core request) (Shows a request)) :
    Behind (a.authorized request callNext scope) (a.core request) (Shows a request) := by
  unfold Application.authorized
  simp only
  split
  · rename_i allowed
    exact inner allowed
  · rename_i denial denied
    refine Behind.own (fun _ impossible => nomatch impossible) fun _ =>
      behind_denial _ fun _ _ _ => Or.inl fun principal proceeds => ?_
    rw [dispatched, AuthMiddleware.apply, denied] at proceeds
    cases proceeds

theorem behind_auth : Behind (a.authMiddleware request (a.router request) scope) (a.core request)
    (Shows a request) := by
  have proceeds : ∀ principal : Option Principal,
      AuthMiddleware.dispatch a.jwt ⟨request.method, request.path, request.authorization⟩ =
        .ok (AuthMiddleware.apply ⟨request.method, request.path, request.authorization⟩ principal) →
      Behind (a.authorized request (a.router request) { scope with principal := principal })
        (a.core request) (Shows a request) := by
    intro principal dispatched
    refine behind_authorized dispatched fun allowed => behind_router ?_
    rw [dispatched, AuthMiddleware.apply, allowed]
  unfold Application.authMiddleware
  simp only
  split
  · rename_i absent
    apply proceeds none
    simp only [AuthMiddleware.dispatch, absent]
  · rename_i token present
    split
    · rename_i decoded
      refine Behind.own (fun _ impossible => nomatch impossible) fun _ =>
        behind_denial _ fun _ _ _ => Or.inl fun principal passed => ?_
      simp only [AuthMiddleware.dispatch, present, decoded] at passed
      cases passed
    · rename_i decoded
      refine Behind.ret (.aside (Aside.nothing (Or.inl fun principal passed => ?_)))
      simp only [AuthMiddleware.dispatch, present, decoded] at passed
      cases passed
    · rename_i claims decoded
      split
      · rename_i sub role subject named_role
        apply proceeds (some ⟨sub, role⟩)
        simp only [AuthMiddleware.dispatch, present, decoded, subject, named_role]
      · refine Behind.ret (.aside (Aside.nothing (Or.inl fun principal passed => ?_)))
        simp only [AuthMiddleware.dispatch, present, decoded] at passed
        cases passed

theorem behind_loadShed : Behind (a.loadShedMiddleware request (a.authMiddleware request
    (a.router request)) scope) (a.core request) (Shows a request) := by
  unfold Application.loadShedMiddleware
  split
  · exact behind_auth
  · rename_i counted
    refine Behind.own (fun _ impossible => nomatch impossible) fun refused => ?_
    cases refused with
    | some inflight =>
        refine Behind.own (fun _ impossible => nomatch impossible) fun _ =>
          behind_denial _ fun response status retryAfter => Or.inr (Or.inr ?_)
        exact ⟨Bool.eq_false_iff.mpr counted, response, rfl, status, retryAfter⟩
    | none =>
        refine Behind.bind behind_auth fun ended rest reveals => ?_
        exact Behind.own (fun _ impossible => nomatch impossible) fun _ => Behind.ret reveals

theorem behind_observe {Q : Unit → Py EndpointOut → Prop} {status : ℕ} (reveals : Q () code) :
    Behind (a.observe request scope status) code Q := by
  unfold Application.observe
  simp only
  split
  · exact Behind.ret reveals
  · exact Behind.own (fun _ impossible => nomatch impossible) fun _ => Behind.ret reveals

theorem behind_metrics : Behind (a.metricsMiddleware request (a.loadShedMiddleware request
    (a.authMiddleware request (a.router request))) scope) (a.core request) (Shows a request) := by
  refine Behind.bind behind_loadShed fun ended rest reveals => ?_
  have observed : ∀ status, Behind (Prog.bind (a.observe request ended.1 status) fun _ => .ret ended)
      rest (Shows a request) := by
    intro status
    refine Behind.bind (Q := fun _ after => after = rest) (behind_observe rfl) ?_
    rintro _ _ rfl
    exact Behind.ret reveals
  obtain ⟨after, outcome⟩ := ended
  cases outcome with
  | ok response => exact observed _
  | error error =>
      simp only
      split
      · exact observed _
      · exact Behind.ret reveals

theorem behind_accessLog : Behind (a.accessLogMiddleware request (a.metricsMiddleware request
    (a.loadShedMiddleware request (a.authMiddleware request (a.router request)))) scope)
    (a.core request) (Shows a request) := by
  refine Behind.bind behind_metrics fun ended rest reveals => ?_
  obtain ⟨after, outcome⟩ := ended
  cases outcome with
  | ok response =>
      exact Behind.own (fun _ impossible => nomatch impossible) fun _ => Behind.ret reveals
  | error error =>
      simp only
      split
      · exact Behind.own (fun _ impossible => nomatch impossible) fun _ => Behind.ret reveals
      · exact Behind.ret reveals

theorem behind_chain : Behind (a.chain request scope) (a.core request) (Shows a request) := by
  have inside : ∀ requestId scope, Behind (Prog.bind (a.accessLogMiddleware request
      (a.metricsMiddleware request (a.loadShedMiddleware request (a.authMiddleware request
        (a.router request)))) scope) fun ended => .ret (ended.1, ended.2.map fun response =>
          { response with requestId := some requestId })) (a.core request) (Shows a request) :=
    fun requestId _ => Behind.bind behind_accessLog fun _ _ reveals =>
      Behind.ret (reveals.headed (some requestId))
  unfold Application.chain Application.requestIDMiddleware
  cases sanitizeRequestId request.requestId with
  | some requestId => exact inside requestId _
  | none =>
      exact Behind.own (fun _ impossible => nomatch impossible) fun requestId => inside requestId _

end

/-! ## The end of a request -/

/-- What a client gets of the outcome of an endpoint, and the server of an exception. -/
inductive Concluded (endpoint : Endpoint) : Except Exc EndpointOut → Ending → Prop
  | success (value : EndpointOut) (header : Option String) :
      Concluded endpoint (.ok value) ⟨some ⟨endpoint.status, .out value, none, header⟩, none⟩
  | refusal (kind : DomainKind) (message id : String) (header : Option String) :
      Concluded endpoint (.error (.domain kind message)) ⟨some ⟨kind.status.1,
        .envelope kind.status.2 message id (.obj []), kind.retryAfter, header⟩, none⟩
  | invalid (id : String) (header : Option String) :
      Concluded endpoint (.error .requestValidationError) ⟨some ⟨422, .envelope "VALIDATION_ERROR"
        "Request failed validation." id (orEmpty endpoint.errors), none, header⟩, none⟩
  | failure {error : Exc} (id : String) : error.isHandled = false → error.isException = true →
      Concluded endpoint (.error error) ⟨some ⟨500, .envelope "INTERNAL_ERROR"
        "An unexpected error occurred." id (.obj []), none, none⟩, some error⟩
  | cancelled {error : Exc} : error.isException = false →
      Concluded endpoint (.error error) ⟨none, some error⟩

/-- How a request ends, beside what is left of the program behind the layers. -/
inductive Mirrors (a : Application) (request : HttpRequest) : Ending → Py EndpointOut → Prop
  | aside {ending : Ending} : Aside a request ending.response →
      Mirrors a request ending (a.core request)
  | answered {principal : Option Principal} {route : String} {endpoint : Endpoint}
      {outcome : Except Exc EndpointOut} {ending : Ending} :
      AuthMiddleware.dispatch a.jwt ⟨request.method, request.path, request.authorization⟩ =
        .ok (.proceeds principal) →
      request.routed = .endpoint route endpoint → Concluded endpoint outcome ending →
      Mirrors a request ending (.ofExcept outcome)

theorem Reveals.sent {a : Application} {request : HttpRequest} {response : HttpResponse}
    {code : Py EndpointOut} (reveals : Reveals a request (.ok response) code) :
    Mirrors a request ⟨some response, none⟩ code := by
  generalize same : (.ok response : Except Exc HttpResponse) = result at reveals
  cases reveals with
  | aside other =>
      subst same
      exact .aside other
  | answered proceeds routed rendered =>
      apply Mirrors.answered proceeds routed
      cases rendered with
      | success value header =>
          obtain rfl := Except.ok.inj same
          exact .success value header
      | refusal kind message id header =>
          obtain rfl := Except.ok.inj same
          exact .refusal kind message id header
      | invalid id header =>
          obtain rfl := Except.ok.inj same
          exact .invalid id header
      | raised other => cases same

/-- An exception that leaves the chain, with what is sent for it. -/
theorem Reveals.thrown {a : Application} {request : HttpRequest} {error : Exc}
    {code : Py EndpointOut}
    (reveals : Reveals a request (.error error) code) {ending : Ending}
    (aside : Bypassed a request none → Aside a request ending.response)
    (rendered : ∀ endpoint, error.isHandled = false → Concluded endpoint (.error error) ending) :
    Mirrors a request ending code := by
  generalize same : (.error error : Except Exc HttpResponse) = result at reveals
  cases reveals with
  | aside other =>
      subst same
      exact .aside (aside other.bypassed)
  | answered proceeds routed outcome =>
      apply Mirrors.answered proceeds routed
      cases outcome with
      | success value header => cases same
      | refusal kind message id header => cases same
      | invalid id header => cases same
      | raised other =>
          obtain rfl := Except.error.inj same
          exact rendered _ other

/-- Whatever is sent for an exception tells of an internal error. -/
def Ending.Coherent (ending : Ending) : Prop :=
  ending.raised.isSome → ∀ sent, ending.response = some sent → sent.status = 500

theorem behind_handle_coherent (a : Application) (request : HttpRequest) :
    Behind (a.handle request) (a.core request) fun ending rest =>
      Mirrors a request ending rest ∧ ending.Coherent := by
  refine Behind.bind behind_chain fun ended rest reveals => ?_
  obtain ⟨after, outcome⟩ := ended
  cases outcome with
  | ok response => exact Behind.ret ⟨reveals.sent, by rintro ⟨⟩⟩
  | error error =>
      simp only
      split
      · rename_i caught
        refine Behind.bind (Q := fun response left => left = rest ∧ ∃ id, response =
          ⟨500, .envelope "INTERNAL_ERROR" "An unexpected error occurred." id (.obj []), none, none⟩)
          (behind_errorEnvelope fun id => ⟨rfl, id, rfl⟩) ?_
        rintro _ _ ⟨rfl, id, rfl⟩
        refine Behind.ret ⟨?_, by rintro - _ ⟨⟩; rfl⟩
        refine Reveals.thrown reveals (fun bypassed => ?_) fun endpoint other =>
          .failure id other caught
        refine Aside.envelope (bypassed.imp_right (Or.imp_right ?_))
        rintro ⟨_, _, ⟨⟩, _⟩
      · rename_i cancelled
        refine Behind.ret ⟨?_, by rintro - _ ⟨⟩⟩
        exact Reveals.thrown reveals Aside.nothing fun endpoint _ =>
          .cancelled (Bool.eq_false_iff.mpr cancelled)

theorem behind_handle (a : Application) (request : HttpRequest) :
    Behind (a.handle request) (a.core request) (Mirrors a request) :=
  (behind_handle_coherent a request).mono fun _ _ both ending ended => (both ending ended).1

/-! ## Whole runs -/

abbrev CoreSystem := Config Op Op.Reply Exc EndpointOut World

/-- In every run of the application the programs behind its layers take a run of their own. -/
theorem Setting.Handles.behind {σ : Setting} {a : Application} {http : Pid → HttpRequest} {s : Site}
    {c : HttpSystem} (run : σ.Handles (a.start http s) c) : ∃ d : CoreSystem,
      Steps (Exec σ.allow) σ.env (Config.initial s.world fun i => a.core (http i)) d ∧
      d.state = c.state.world ∧ ∀ i, Behind (c.code i) (d.code i) (Mirrors a (http i)) := by
  have carries : ∀ i, Behind ((a.start http s).code i) (a.core (http i)) (Mirrors a (http i)) :=
    fun i => behind_handle a (http i)
  refine Steps.carried (f := Site.world) (d := Config.initial s.world fun i => a.core (http i))
    (fun _ _ _ _ _ step => step.2) ?_ (fun _ _ moved => moved.1) rfl carries run
  intro i op s reply s' other step
  cases op with
  | endpoint inner => exact absurd rfl (other inner)
  | _ => exact step.2

theorem Behind.concluded {c : HttpSystem} {i : Pid} {code : Py EndpointOut}
    {Q : Ending → Py EndpointOut → Prop} (behind : Behind (c.code i) code Q)
    {outcome : Except Empty Ending} (last : c.outcome i = some outcome) :
    ∃ ending, outcome = .ok ending ∧ Q ending code := by
  unfold Config.outcome at last
  cases whole : c.code i with
  | ret ending =>
      rw [whole] at last behind
      obtain rfl := Option.some.inj last
      exact ⟨ending, rfl, behind.ended ending rfl⟩
  | raise error => exact nomatch error
  | call op next =>
      rw [whole] at last
      cases last

/-! ## A deletion, through every layer -/

def oneToken : Jwt where
  signingKey := "key"
  decode token _ :=
    if token = "t" then
      some fun name =>
        if name = "sub" then some (.str "1") else if name = "role" then some (.str "user") else none
    else none
  isZero _ := false

def guardedApplication : Application :=
  ⟨⟨defaultRuntime fun _ => "", true⟩, oneToken, fun _ => "", [], 1⟩

def oneArticleSite : Site where
  world := World.fresh editedArticle 2 [ann]
  front := ⟨⟨1, 1, 0, 0, fun _ => 0⟩, fun _ => 0, fun _ => 0, fun _ => 0, []⟩

def authorsDelete : HttpRequest :=
  ⟨"DELETE", "/v1/articles/1", none, some "Bearer t", .endpoint "/v1/articles/{article_id}"
    (.deleteArticle 1 (some (isoformat (instant 1))))⟩

theorem exists_authorsDelete : ∃ c ending, (Setting.free (requestsOf [])).Handles
    (guardedApplication.start (fun _ => authorsDelete) oneArticleSite) c ∧
    c.outcome 0 = some (.ok ending) ∧ ending.response.map HttpResponse.status = some 204 := by
  obtain ⟨c, ending, run, ended, deleted, -⟩ := exists_served
    (c := guardedApplication.start (fun _ => authorsDelete) oneArticleSite) (i := 0) rfl
    (fun _ => { time := instant 2 })
    (fun ending _ => ending.response.map HttpResponse.status == some 204) (by decide +kernel)
  exact ⟨c, ending, run, ended, eq_of_beq deleted⟩

end ContentPlatform
