import ContentPlatform.Runtime

/-!
# Repositories

The guarded methods of `app/repositories/`.  The statements themselves are given
their meaning by the database.
-/

set_option autoImplicit false

namespace ContentPlatform

open Program Py

section
variable (rt : Runtime)

namespace ArticleRepository

/-- The flush and the refresh of the server-generated timestamps. -/
def create (authorId : ℤ) (title body : String) : Py ℤ :=
  guardedWrite (rt.policy .mysql) .mysql do
    let articleId ← mysql (.insertArticle authorId title body)
    mysql (.refreshArticle articleId)
    return articleId

def get (articleId : ℤ) : Py (Option ℤ) :=
  guardedRead (rt.policy .mysql) .mysql (mysql (.selectArticle articleId))

def list (limit : ℤ) (after : Option Position) (authorId : Option ℤ) :
    Py (List ArticleSummaryOut) :=
  guardedRead (rt.policy .mysql) .mysql (mysql (.selectPage limit after authorId))

/-- The matched-row count.  The statement bypasses the identity map, so every loaded instance
is expired. -/
def updateCas (articleId : ℤ) (expectedUpdatedAt : DateTime) (title body : String) : Py ℕ :=
  guardedWrite (rt.policy .mysql) .mysql do
    let rowcount ← mysql (.updateArticle articleId expectedUpdatedAt title body)
    expireAll
    return rowcount

def softDeleteCas (articleId : ℤ) (expectedUpdatedAt : DateTime) : Py ℕ :=
  guardedWrite (rt.policy .mysql) .mysql do
    let deletedAt ← utcnow
    let rowcount ← mysql (.softDeleteArticle articleId expectedUpdatedAt deletedAt)
    expireAll
    return rowcount

end ArticleRepository

namespace UserRepository

def getById (userId : ℤ) : Py (Option ℤ) :=
  guardedRead (rt.policy .mysql) .mysql (mysql (.selectUser userId))

def getByEmail (email : String) : Py (Option ℤ) :=
  guardedRead (rt.policy .mysql) .mysql (mysql (.selectUserByEmail email))

/-- `scalar_one` of the role. -/
def getRole (roleName : String) : Py String := do
  match ← mysql (.selectRole roleName) with
  | some role => return role
  | none => .raise .noResultFound

def create (email passwordHash roleName : String) : Py ℤ :=
  guardedWrite (rt.policy .mysql) .mysql do
    let role ← getRole roleName
    mysql (.insertUser email passwordHash role)

end UserRepository

end

end ContentPlatform
