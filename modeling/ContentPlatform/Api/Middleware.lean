import ContentPlatform.Api.Access
import ContentPlatform.Api.Accounts
import ContentPlatform.Api.Articles
import ContentPlatform.Observability.Context
import ContentPlatform.Program.Embedding

/-!
# The application

The chain of `app/api/middleware.py` as `create_app` puts it together, around the endpoints and the
exception handlers of `app/api/errors.py`.
-/

set_option autoImplicit false

namespace ContentPlatform

open Program Text

/-! ## Requests and their scope -/

/-- What the framework has resolved by the time it finds that parameters are invalid.  It resolves
the dependencies of an endpoint before it looks at the parameters, but only once it has read the
body as JSON. -/
inductive Resolved where
  | nothing
  /-- `get_session`. -/
  | session
  /-- `get_session` and `get_current_user`. -/
  | currentUser

/-- The endpoints of `app/api/routers/articles.py` and `app/api/routers/auth.py`, with parameters
that passed validation, or with what is wrong about them. -/
inductive Endpoint where
  | createArticle (title body : String)
  | listArticles (limit : ℤ) (cursor : Option String) (author : Option ℤ)
  | getArticle (articleId : ℤ)
  | updateArticle (articleId : ℤ) (title body : String) (ifMatch : Option String)
  | deleteArticle (articleId : ℤ) (ifMatch : Option String)
  | register (payload : RegisterIn)
  | login (payload : LoginIn)
  | invalid (resolved : Resolved) (errors : Json)

/-- `exc.errors()` of its `RequestValidationError`. -/
def Endpoint.errors : Endpoint → Json
  | .invalid _ errors => errors
  | _ => .null

/-- What the framework's routing and validation make of a request. -/
inductive Routed where
  | notFound
  | methodNotAllowed (route : String)
  /-- The probes, the scrape and the documentation of the API. -/
  | elsewhere (route : String) (result : Except Exc ℕ)
  | endpoint (route : String) (endpoint : Endpoint)

def Routed.route : Routed → Option String
  | .notFound => none
  | .methodNotAllowed route | .elsewhere route _ | .endpoint route _ => some route

def Routed.errors : Routed → Json
  | .endpoint _ reached => reached.errors
  | _ => .null

structure HttpRequest where
  method : String
  /-- `request.url.path`. -/
  path : String
  /-- The header `X-Request-ID`. -/
  requestId : Option String
  authorization : Option String
  routed : Routed

structure Scope where
  /-- `request.state.request_id`. -/
  requestId : Option String
  /-- The id that is bound in the context of the logger. -/
  bound : Option String
  /-- `request.state.principal`. -/
  principal : Option Principal
  /-- The path of `scope["route"]`. -/
  route : Option String

/-! ## What the process keeps -/

inductive LogLevel where
  | info
  | warning
  | error
  deriving DecidableEq

inductive LogEvent where
  /-- `http.request`. -/
  | httpRequest (userId : Option String) (route method : String) (status : ℕ) (traceback : Bool)
  /-- `request.shed`. -/
  | requestShed (path : String) (inflight : ℤ)
  /-- `auth.failed`. -/
  | authFailed (path : String)
  /-- `auth.denied`. -/
  | authDenied (status : ℕ) (code requirement : String) (userId : Option String) (path : String)
  deriving DecidableEq

structure LogRecord where
  level : LogLevel
  requestId : Option String
  event : LogEvent
  deriving DecidableEq

/-- The collectors that the layers move, and the log. -/
structure Front where
  loadShed : LoadShedMiddleware
  /-- `http_requests_total` by route, method and status. -/
  requests : String × String × ℕ → ℕ
  /-- The number of observations of `http_request_duration_seconds` by route and method. -/
  requestDuration : String × String → ℕ
  /-- `degraded_responses_total` by route and reason, as far as `domain_error` counts it. -/
  degradedResponses : String × String → ℕ
  log : List LogRecord

/-- Anything of an endpoint, and what a layer does between two awaits. -/
inductive FrontOp where
  | endpoint (op : Op)
  | newRequestId
  /-- From the comparison with the ceiling to `track_inflight(1)` or to the refusal. -/
  | arrive (route : String)
  | depart
  | observeRequest (route method : String) (status : ℕ)
  | observeDegradedResponse (route reason : String)
  | log (record : LogRecord)
  deriving DecidableEq

/-- `arrive` answers with the number of requests in flight where it refuses. -/
@[reducible] def FrontOp.Reply : FrontOp → Type
  | .endpoint op => op.Reply
  | .newRequestId => String
  | .arrive _ => Option ℤ
  | _ => Unit

def LoadShedMiddleware.arrive (m : LoadShedMiddleware) (route : String) :
    Option ℤ × LoadShedMiddleware :=
  if m.inflight ≥ m.maxInflight then (some m.inflight, m.observeShed route) else (none, m.enter)

def Front.observeRequest (f : Front) (route method : String) (status : ℕ) : Front :=
  { f with
    requests := Function.update f.requests (route, method, status)
      (f.requests (route, method, status) + 1)
    requestDuration := Function.update f.requestDuration (route, method)
      (f.requestDuration (route, method) + 1) }

def Front.observeDegradedResponse (f : Front) (route reason : String) : Front :=
  { f with
    degradedResponses := Function.update f.degradedResponses (route, reason)
      (f.degradedResponses (route, reason) + 1) }

def Front.exec (f : Front) : (op : FrontOp) → op.Reply → Front → Prop
  | .endpoint _, _, f' => f' = f
  | .newRequestId, id, f' => IsHexId id ∧ f' = f
  | .arrive route, refused, f' => refused = (f.loadShed.arrive route).1 ∧
      f' = { f with loadShed := (f.loadShed.arrive route).2 }
  | .depart, _, f' => f' = { f with loadShed := f.loadShed.leave }
  | .observeRequest route method status, _, f' => f' = f.observeRequest route method status
  | .observeDegradedResponse route reason, _, f' => f' = f.observeDegradedResponse route reason
  | .log record, _, f' => f' = { f with log := f.log ++ [record] }

/-! ## Endpoints -/

inductive EndpointOut where
  | one (response : Response)
  | many (items : List ArticleSummaryOut) (nextCursor : Option String)

namespace App

section
variable (app : App)

/-- An endpoint with `CurrentUser`.  `int(principal["id"])` raises inside the session. -/
def withPrincipal (principal : Option Principal) (endpoint : Option ℤ → Py Response) :
    Py Response :=
  match principal with
  | none => endpoint none
  | some principal =>
      match jsonToInt app.rt principal.id with
      | .ok userId => endpoint (some userId)
      | .error error => getSession app.cache (.raise error)

/-- A request whose parameters are invalid.  The `RequestValidationError` leaves through the session,
unless a dependency has raised before. -/
def invalid (principal : Option Principal) : Resolved → Py Response
  | .nothing => .raise .requestValidationError
  | .session => getSession app.cache (.raise .requestValidationError)
  | .currentUser => app.withPrincipal principal fun userId => getSession app.cache do
      let _ ← app.getCurrentUser userId
      .raise .requestValidationError

def endpoint (principal : Option Principal) : Endpoint → Py EndpointOut
  | .createArticle title body => do
      return .one (← app.withPrincipal principal fun userId => app.serve (.create userId title body))
  | .listArticles limit cursor author => do
      let page ← app.listRoute limit cursor author
      return .many page.1 page.2
  | .getArticle articleId => do
      return .one (← app.serve (.get articleId))
  | .updateArticle articleId title body ifMatch => do
      return .one (← app.withPrincipal principal fun userId =>
        app.updateArticle userId articleId title body ifMatch)
  | .deleteArticle articleId ifMatch => do
      return .one (← app.withPrincipal principal fun userId =>
        app.deleteArticle userId articleId ifMatch)
  | .register payload => do
      return .one (← app.register payload)
  | .login payload => do
      return .one (← app.login payload)
  | .invalid resolved _ => do
      return .one (← app.invalid principal resolved)

end

end App

def Endpoint.status : Endpoint → ℕ
  | .createArticle _ _ | .register _ => 201
  | .deleteArticle _ _ => 204
  | _ => 200

/-! ## Responses -/

inductive Body where
  | out (value : EndpointOut)
  | envelope (code message requestId : String) (details : Json)
  /-- What the framework renders itself. -/
  | framework

structure HttpResponse where
  status : ℕ
  body : Body
  /-- The header `Retry-After`. -/
  retryAfter : Option ℤ
  /-- The header `X-Request-ID`. -/
  requestId : Option String

/-- `details or {}`. -/
def orEmpty : Json → Json
  | .null | .arr [] => .obj []
  | details => details

/-- `_DEGRADED_REASONS`. -/
def DomainKind.degradedReason : DomainKind → Option String
  | .upstreamTimeout _ => some "upstream_timeout"
  | .dependencyUnavailable _ => some "breaker_open"
  | _ => none

def Requirement.value : Requirement → String
  | .publicRoute => "public"
  | .authenticated => "authenticated"
  | .admin => "admin"

/-! ## The layers -/

/-- What is done of a request in the layers.  An exception is a value there. -/
abbrev Asgi (α : Type) := Prog FrontOp FrontOp.Reply Empty α

abbrev CallNext := Scope → Asgi (Scope × Except Exc HttpResponse)

/-- What the process is started with. -/
structure Application where
  app : App
  jwt : Jwt
  /-- `str(value)` of a claim. -/
  str : Json → String
  /-- `app.routes`. -/
  routes : List RouteNode
  shedRetryAfterSeconds : ℚ

structure Ending where
  response : Option HttpResponse
  raised : Option Exc

def newRequestId : Asgi String := .call .newRequestId .ret

def logger (level : LogLevel) (scope : Scope) (event : LogEvent) : Asgi Unit :=
  .call (.log ⟨level, scope.bound, event⟩) .ret

/-- `error_response`. -/
def errorEnvelope (scope : Scope) (error : ErrorResponse) (details : Json) : Asgi HttpResponse := do
  let requestId ← match scope.requestId with
    | some requestId => if requestId = "" then newRequestId else .ret requestId
    | none => newRequestId
  return ⟨error.status, .envelope error.code error.message requestId (orEmpty details),
    error.retryAfter, none⟩

namespace Application

section
variable (a : Application) (request : HttpRequest)

/-- `route_label(request.scope)`. -/
def routeLabel (scope : Scope) : String :=
  routeTemplate a.routes request.method request.path scope.route

def principalUserId (scope : Scope) : Option String :=
  match scope.principal with
  | none => none
  | some principal =>
      match principal.id with
      | .null => none
      | id => some (a.str id)

def domainError (scope : Scope) (kind : DomainKind) (message : String) : Asgi HttpResponse :=
  match kind.degradedReason with
  | some reason =>
      .call (.observeDegradedResponse (a.routeLabel request scope) reason) fun _ =>
        errorEnvelope scope (errorResponse (.domain kind message)) .null
  | none => errorEnvelope scope (errorResponse (.domain kind message)) .null

/-- The registered handlers around what a route ended with. -/
def handled (scope : Scope) : Except Exc HttpResponse → Asgi (Scope × Except Exc HttpResponse)
  | .error (.domain kind message) => do
      let response ← a.domainError request scope kind message
      return (scope, .ok response)
  | .error .requestValidationError => do
      let response ← errorEnvelope scope (errorResponse .requestValidationError)
        request.routed.errors
      return (scope, .ok response)
  | outcome => .ret (scope, outcome)

def router (scope : Scope) : Asgi (Scope × Except Exc HttpResponse) :=
  let scope := { scope with route := request.routed.route }
  match request.routed with
  | .notFound => .ret (scope, .ok ⟨404, .framework, none, none⟩)
  | .methodNotAllowed _ => .ret (scope, .ok ⟨405, .framework, none, none⟩)
  | .elsewhere _ result =>
      a.handled request scope (result.map fun status => ⟨status, .framework, none, none⟩)
  | .endpoint _ endpoint => do
      let outcome ← (a.app.endpoint scope.principal endpoint).embed FrontOp.endpoint fun _ => id
      a.handled request scope (outcome.map fun value => ⟨endpoint.status, .out value, none, none⟩)

/-- The end of `AuthMiddleware.dispatch`. -/
def authorized (callNext : CallNext) (scope : Scope) : Asgi (Scope × Except Exc HttpResponse) :=
  let requirement := routeRequirement request.method request.path
  match authorize requirement scope.principal with
  | none => callNext scope
  | some denial => do
      logger .warning scope (.authDenied denial.status denial.code requirement.value
        (a.principalUserId scope) request.path)
      let response ← errorEnvelope scope denial .null
      return (scope, .ok response)

def authMiddleware (callNext : CallNext) (scope : Scope) : Asgi (Scope × Except Exc HttpResponse) :=
  let scope := { scope with principal := none }
  match extractBearerToken request.authorization with
  | none => a.authorized request callNext scope
  | some token =>
      match decodeAccessToken a.jwt token with
      | .error (.domain .unauthenticated _) => do
          logger .warning scope (.authFailed request.path)
          let response ← errorEnvelope scope
            ⟨401, "UNAUTHENTICATED", "Invalid or expired token.", none⟩ .null
          return (scope, .ok response)
      | .error error => .ret (scope, .error error)
      | .ok claims =>
          match claims "sub", claims "role" with
          | some sub, some role =>
              a.authorized request callNext { scope with principal := some ⟨sub, role⟩ }
          | _, _ => .ret (scope, .error .keyError)

/-- The paths that `LoadShedMiddleware` lets through uncounted. -/
def exempt (path : String) : Bool := path == metricsPath || probePaths.contains path

def loadShedMiddleware (callNext : CallNext) (scope : Scope) :
    Asgi (Scope × Except Exc HttpResponse) :=
  if exempt request.path then callNext scope
  else
    .call (.arrive (a.routeLabel request scope)) fun refused =>
      match refused with
      | some inflight => do
          logger .warning scope (.requestShed request.path inflight)
          let response ← errorEnvelope scope ⟨503, "SERVICE_UNAVAILABLE",
            "The service is at capacity. Retry shortly.",
            some (retryAfterHeader a.shedRetryAfterSeconds)⟩ .null
          return (scope, .ok response)
      | none => do
          let ended ← callNext scope
          .call .depart fun _ => .ret ended

/-- `MetricsMiddleware._observe`. -/
def observe (scope : Scope) (status : ℕ) : Asgi Unit :=
  let route := a.routeLabel request scope
  if exempt route then .ret ()
  else .call (.observeRequest route request.method status) .ret

def metricsMiddleware (callNext : CallNext) (scope : Scope) :
    Asgi (Scope × Except Exc HttpResponse) := do
  let ended ← callNext scope
  match ended.2 with
  | .ok response => do
      a.observe request ended.1 response.status
      return ended
  | .error error =>
      -- a cancellation is no `Exception`
      if error.isException then do
        a.observe request ended.1 500
        return ended
      else return ended

/-- `AccessLogMiddleware._fields`. -/
def fields (scope : Scope) (status : ℕ) (traceback : Bool) : LogEvent :=
  .httpRequest (a.principalUserId scope) (a.routeLabel request scope) request.method status traceback

def logLevel (status : ℕ) : LogLevel :=
  if status ≥ 500 then .error else if status ≥ 400 then .warning else .info

def accessLogMiddleware (callNext : CallNext) (scope : Scope) :
    Asgi (Scope × Except Exc HttpResponse) := do
  let ended ← callNext scope
  match ended.2 with
  | .ok response => do
      logger (logLevel response.status) ended.1 (a.fields request ended.1 response.status false)
      return ended
  | .error error =>
      if error.isException then do
        logger .error ended.1 (a.fields request ended.1 500 true)
        return ended
      else return ended

def requestIDMiddleware (callNext : CallNext) (scope : Scope) :
    Asgi (Scope × Except Exc HttpResponse) := do
  let requestId ← match sanitizeRequestId request.requestId with
    | some requestId => .ret requestId
    | none => newRequestId
  let ended ← callNext { scope with requestId := some requestId, bound := some requestId }
  return (ended.1, ended.2.map fun response => { response with requestId := some requestId })

/-- The fallback handler, which the framework runs outside the chain. -/
def serverErrorMiddleware (callNext : CallNext) (scope : Scope) : Asgi Ending := do
  let ended ← callNext scope
  match ended.2 with
  | .ok response => return ⟨some response, none⟩
  | .error error =>
      if error.isException then do
        let response ← errorEnvelope ended.1
          ⟨500, "INTERNAL_ERROR", "An unexpected error occurred.", none⟩ .null
        return ⟨some response, some error⟩
      else return ⟨none, some error⟩

/-- The chain of `create_app`. -/
def chain : CallNext :=
  requestIDMiddleware request <| a.accessLogMiddleware request <| a.metricsMiddleware request <|
    a.loadShedMiddleware request <| a.authMiddleware request <| a.router request

def handle : Asgi Ending := serverErrorMiddleware (a.chain request) ⟨none, none, none, none⟩

end

end Application

end ContentPlatform
