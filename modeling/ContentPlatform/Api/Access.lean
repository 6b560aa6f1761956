import ContentPlatform.Api.LoadShed
import ContentPlatform.Text.Json

/-!
# Access control

The route policy and `AuthMiddleware` of `app/api/middleware.py`, with `decode_access_token` of
`app/core/security.py`.
-/

set_option autoImplicit false

namespace ContentPlatform

open Text

/-! ## The route policy -/

inductive Requirement where
  | publicRoute
  | authenticated
  | admin
  deriving DecidableEq

/-- `_PUBLIC_PREFIXES`. -/
def publicPrefixes : List String :=
  ["/health", "/docs", "/redoc", "/openapi.json", "/v1/auth", metricsPath]

/-- `_ADMIN_PREFIX` and `_ARTICLES_PREFIX`. -/
def adminPrefix : String := "/v1/admin"
def articlesPrefix : String := "/v1/articles"

/-- `text.startswith(front)`. -/
def startsWith (text front : String) : Bool := front.toList.isPrefixOf text.toList

/-- `method.upper() == "GET"`.  No letter outside ASCII has one of these as its upper case. -/
def isGet (method : String) : Bool := method.toList.map Char.toUpper == "GET".toList

def routeRequirement (method path : String) : Requirement :=
  if path == "/" || publicPrefixes.any fun p => path == p || startsWith path (p ++ "/") then
    .publicRoute
  else if path == adminPrefix || startsWith path (adminPrefix ++ "/") then .admin
  else if path == articlesPrefix || startsWith path articlesPrefix then
    if isGet method then .publicRoute else .authenticated
  else .authenticated

/-! ## Principals -/

structure Principal where
  id : Json
  role : Json

abbrev Claims := String → Option Json

/-- `None` when the principal may proceed. -/
def authorize (requirement : Requirement) (principal : Option Principal) : Option ErrorResponse :=
  match requirement, principal with
  | .publicRoute, _ => none
  | _, none => some ⟨401, "UNAUTHENTICATED", "Authentication is required.", none⟩
  | .admin, some ⟨_, .str "admin"⟩ => none
  | .admin, some _ => some ⟨403, "FORBIDDEN", "Administrator privileges are required.", none⟩
  | .authenticated, some _ => none

/-- Truth of a claim. -/
def truthy (isZero : String → Bool) : Json → Bool
  | .null => false
  | .bool value => value
  | .int value => value != 0
  | .float literal => !isZero literal
  | .str value => value != ""
  | .arr items => !items.isEmpty
  | .obj fields => !fields.isEmpty

/-- The signing key, `jwt.decode` under a key, with `none` for a `PyJWTError`, and whether the
number that a literal denotes is zero. -/
structure Jwt where
  signingKey : String
  decode : String → String → Option Claims
  isZero : String → Bool

def decodeAccessToken (jwt : Jwt) (token : String) : Except Exc Claims :=
  -- `require_signing_key`
  if jwt.signingKey = "" then .error .runtimeError
  else
    match jwt.decode token jwt.signingKey with
    | none => .error (.unauthenticated "Invalid or expired token.")
    | some claims =>
        if (claims "sub").any (truthy jwt.isZero) && (claims "role").any (truthy jwt.isZero) then
          .ok claims
        else .error (.unauthenticated "Invalid or expired token.")

/-- The token of an `Authorization: Bearer <token>` header. -/
def extractBearerToken (authorization : Option String) : Option String :=
  match authorization with
  | none => none
  | some header =>
      let scheme := header.toList.takeWhile (· ≠ ' ')
      let token := (header.toList.dropWhile (· ≠ ' ')).drop 1
      if scheme.map Char.toLower ≠ "bearer".toList || (stripOf isSpace token).isEmpty then none
      else some (String.ofList (stripOf isSpace token))

/-! ## The middleware -/

structure AuthRequest where
  method : String
  /-- `request.url.path`. -/
  path : String
  authorization : Option String

/-- The request goes on to its route with a principal, or it is answered here. -/
inductive Admission where
  | proceeds (principal : Option Principal)
  | denied (response : ErrorResponse)

namespace AuthMiddleware

def apply (request : AuthRequest) (principal : Option Principal) : Admission :=
  match authorize (routeRequirement request.method request.path) principal with
  | some denial => .denied denial
  | none => .proceeds principal

def dispatch (jwt : Jwt) (request : AuthRequest) : Except Exc Admission :=
  match extractBearerToken request.authorization with
  | none => .ok (apply request none)
  | some token =>
      match decodeAccessToken jwt token with
      | .error (.domain .unauthenticated _) =>
          .ok (.denied ⟨401, "UNAUTHENTICATED", "Invalid or expired token.", none⟩)
      | .error e => .error e
      | .ok claims =>
          match claims "sub", claims "role" with
          | some sub, some role => .ok (apply request (some ⟨sub, role⟩))
          | _, _ => .error .keyError

end AuthMiddleware

end ContentPlatform
