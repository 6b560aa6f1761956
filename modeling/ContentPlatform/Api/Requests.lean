import ContentPlatform.Api.Pagination
import ContentPlatform.Services.ArticleService
import ContentPlatform.Services.AuthService
import ContentPlatform.Session

/-!
# Requests

The handlers of `app/api/routers/` with the dependencies of `app/api/deps.py`
resolved, each inside the session of its request, and the answers that
`app/api/errors.py` makes of exceptions.
-/

set_option autoImplicit false

namespace ContentPlatform

open Program Py

/-- `principal` is the identity the authentication middleware attached, if any. -/
inductive Request where
  | create (principal : Option ℤ) (title body : String)
  | get (articleId : ℤ)
  | list (limit : ℤ) (after : Option Position) (author : Option ℤ)
  | update (principal : Option ℤ) (articleId : ℤ) (title body : String) (expected : DateTime)
  | delete (principal : Option ℤ) (articleId : ℤ) (expected : DateTime)
  | register (email password : String)
  | login (email password : String)
  deriving DecidableEq

inductive Response where
  | article (out : ArticleOut)
  | page (page : Page)
  | deleted
  | user (out : UserOut)
  | token (token : String)
  deriving DecidableEq

structure App where
  rt : Runtime
  cacheEnabled : Bool

namespace App

section
variable (app : App)

def cache : ArticleCache := ⟨app.cacheEnabled⟩

def articles : ArticleService := ⟨app.rt, app.cache, true⟩

def getCurrentUser (principal : Option ℤ) : Py ℤ := do
  match principal with
  | none => .raise (.unauthenticated "Missing or invalid identity.")
  | some userId =>
      match ← UserRepository.getById app.rt userId with
      | none => .raise (.unauthenticated "Missing or invalid identity.")
      | some user => return user

def handler : Request → Py Response
  | .create principal title body => do
      let actor ← app.getCurrentUser principal
      return .article (← app.articles.create actor title body)
  | .get articleId => do
      return .article (← app.articles.get articleId)
  | .list limit after author => do
      return .page (← app.articles.listArticles limit after author)
  | .update principal articleId title body expected => do
      let actor ← app.getCurrentUser principal
      return .article (← app.articles.update actor articleId title body expected)
  | .delete principal articleId expected => do
      let actor ← app.getCurrentUser principal
      app.articles.delete actor articleId expected
      return .deleted
  | .register email password => do
      let user ← AuthService.register app.rt email password
      let row ← userAttributes user
      return .user ⟨row.id, row.email, row.roleName⟩
  | .login email password => do
      return .token (← AuthService.login app.rt email password)

def serve (request : Request) : Py Response := getSession app.cache (app.handler request)

def listRoute (limit : ℤ) (cursor : Option String) (author : Option ℤ) :
    Py (List ArticleSummaryOut × Option String) :=
  getSession app.cache do
    let after ← match cursor with
      | some cursor => Prog.ofExcept ((decodeCursor cursor).map some)
      | none => .ret none
    let page ← app.articles.listArticles limit after author
    match page.2 with
    | some (createdAt, articleId) => do
        let nextCursor ← Prog.ofExcept (encodeCursor createdAt articleId)
        return (page.1, some nextCursor)
    | none => return (page.1, none)

end

end App

/-! ## Errors -/

structure ErrorResponse where
  status : ℕ
  code : String
  message : String
  retryAfter : Option ℤ
  deriving DecidableEq

/-- `_DOMAIN_STATUS`. -/
def DomainKind.status : DomainKind → ℕ × String
  | .unauthenticated => (401, "UNAUTHENTICATED")
  | .forbidden => (403, "FORBIDDEN")
  | .articleNotFound => (404, "ARTICLE_NOT_FOUND")
  | .conflict => (409, "CONFLICT")
  | .preconditionRequired => (422, "VALIDATION_ERROR")
  | .invalidCursor => (422, "VALIDATION_ERROR")
  | .upstreamTimeout _ => (504, "UPSTREAM_TIMEOUT")
  | .dependencyUnavailable _ => (503, "SERVICE_UNAVAILABLE")

/-- Whole seconds, rounded up and never below one. -/
def retryAfterHeader (seconds : ℚ) : ℤ := max 1 seconds.ceil

def DomainKind.retryAfter : DomainKind → Option ℤ
  | .upstreamTimeout seconds => some (retryAfterHeader seconds)
  | .dependencyUnavailable seconds => some (retryAfterHeader seconds)
  | _ => none

/-- The registered exception handlers. -/
def errorResponse : Exc → ErrorResponse
  | .domain kind message => ⟨kind.status.1, kind.status.2, message, kind.retryAfter⟩
  | .requestValidationError => ⟨422, "VALIDATION_ERROR", "Request failed validation.", none⟩
  | _ => ⟨500, "INTERNAL_ERROR", "An unexpected error occurred.", none⟩

/-- Every answer to a domain error is a client error, 503 or 504, and the two that tell the
client to come back say when. -/
theorem DomainKind.status_spec (kind : DomainKind) :
    (kind.retryAfter = none ∧ 400 ≤ kind.status.1 ∧ kind.status.1 < 500) ∨
      (∃ seconds, kind.retryAfter = some seconds ∧ 1 ≤ seconds ∧
        (kind.status.1 = 503 ∨ kind.status.1 = 504)) := by
  cases kind <;> simp [DomainKind.status, DomainKind.retryAfter, retryAfterHeader]

/-- The fallback is the only way to a 500. -/
theorem errorResponse_status (error : Exc) :
    (errorResponse error).status = 500 ↔ error.isHandled = false := by
  cases error with
  | domain kind message =>
      refine ⟨fun status => ?_, fun other => by cases other⟩
      rcases DomainKind.status_spec kind with ⟨_, _, _⟩ | ⟨_, _, _, _ | _⟩ <;>
        simp only [errorResponse] at status <;> omega
  | requestValidationError =>
      exact ⟨fun status => absurd status (by decide), fun other => absurd other (by decide)⟩
  | _ => exact ⟨fun _ => rfl, fun _ => rfl⟩

end ContentPlatform
