import ContentPlatform.Api.Requests

/-!
# The auth endpoints

The request schemas of `app/schemas/auth.py` with the password policy of
`app/security/password_policy.py`, and the two routes of `app/api/routers/auth.py`.
-/

set_option autoImplicit false

namespace ContentPlatform

open Program Py

/-- What the schemas take from elsewhere: `EmailStr`, with `none` for a `ValidationError`,
`str.lower`, and the bundled blocklist. -/
structure AuthRules where
  emailStr : String → Option String
  lower : String → String
  blocklist : List String

def maxEmailLength : ℕ := 254

def minPasswordLength : ℕ := 12
def maxPasswordLength : ℕ := 128

section
variable (rules : AuthRules)

/-- `LocalBlocklistChecker.is_breached`. -/
def isBreached (password : String) : Bool := rules.blocklist.contains (rules.lower password)

/-- `screen_password`, with the message of a `PasswordPolicyError`. -/
def screenPassword (password : String) : Except String String :=
  if password.length < minPasswordLength then
    .error s!"Password must be at least {minPasswordLength} characters."
  else if maxPasswordLength < password.length then
    .error s!"Password must be at most {maxPasswordLength} characters."
  else if isBreached rules password then
    .error "This password appears in a known-breached-password list; choose a different one."
  else .ok password

structure RegisterIn where
  email : String
  password : String
  deriving DecidableEq

structure LoginIn where
  email : String
  password : String
  deriving DecidableEq

/-- The bounds of a field hold of what its type returns, and its validator runs after them. -/
def RegisterIn.validate (email password : String) : Option RegisterIn := do
  let address ← rules.emailStr email
  if maxEmailLength < address.length then none
  else if password.length < minPasswordLength ∨ maxPasswordLength < password.length then none
  else
    match screenPassword rules password with
    | .ok screened => some ⟨rules.lower address, screened⟩
    | .error _ => none

def LoginIn.validate (email password : String) : LoginIn := ⟨rules.lower email, password⟩

/-- A password is never changed. -/
theorem screenPassword_ok {password screened : String}
    (passed : screenPassword rules password = .ok screened) : screened = password := by
  unfold screenPassword at passed
  split at passed
  · cases passed
  split at passed
  · cases passed
  split at passed
  · cases passed
  · exact (Except.ok.inj passed).symm

/-- What is accepted is the address that `EmailStr` returns, in lower case. -/
theorem RegisterIn.validate_some {email password : String} {payload : RegisterIn}
    (accepted : RegisterIn.validate rules email password = some payload) :
    ∃ address, rules.emailStr email = some address ∧ payload.email = rules.lower address ∧
      payload.password = password := by
  obtain ⟨address, valid, rest⟩ := Option.bind_eq_some_iff.mp accepted
  refine ⟨address, valid, ?_⟩
  split at rest
  · cases rest
  split at rest
  · cases rest
  cases screen : screenPassword rules password with
  | error message =>
      rw [screen] at rest
      cases rest
  | ok screened =>
      rw [screen] at rest
      obtain rfl := Option.some.inj rest
      exact ⟨rfl, screenPassword_ok rules screen⟩

end

namespace App

section
variable (app : App)

/-- The two endpoints of `app/api/routers/auth.py`. -/
def register (payload : RegisterIn) : Py Response :=
  app.serve (.register payload.email payload.password)

def login (payload : LoginIn) : Py Response := app.serve (.login payload.email payload.password)

end

end App

end ContentPlatform
