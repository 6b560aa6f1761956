import ContentPlatform.Repositories

/-!
# Registration and login

`app/services/auth_service.py`.
-/

set_option autoImplicit false

namespace ContentPlatform

open Program Py

/-- `_dummy_hash`. -/
def dummyHash : Py String := do
  match ← (.call .dummyHash .ret : Py (Option String)) with
  | some hash => return hash
  | none =>
      let hash ← hashPassword "timing-equalizer-not-a-real-password"
      .call (.setDummyHash hash) fun _ => .ret hash

namespace AuthService

section
variable (rt : Runtime)

def register (email password : String) : Py ℤ := do
  match ← UserRepository.getByEmail rt email with
  | some _ => .raise (.conflict "A user with this email already exists.")
  | none =>
      let passwordHash ← hashPassword password
      UserRepository.create rt email passwordHash "user"

def login (email password : String) : Py String := do
  match ← UserRepository.getByEmail rt email with
  | none =>
      let _ ← verifyPassword password (← dummyHash)
      .raise (.unauthenticated "Invalid email or password.")
  | some user =>
      if ← verifyPassword password (← userAttributes user).passwordHash then
        let sub := toString (← userAttributes user).id
        let role := (← userAttributes user).roleName
        let issuedAt ← utcnow
        .call (.encodeToken sub role issuedAt) .ret
      else
        .raise (.unauthenticated "Invalid email or password.")

end

end AuthService

end ContentPlatform
