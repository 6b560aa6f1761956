import ContentPlatform.Api.Requests
import ContentPlatform.Schemas

/-!
# The article endpoints

The JSON that `app/api/routers/articles.py` answers with, and the `If-Match` header of its two
conditional writes.
-/

set_option autoImplicit false

namespace ContentPlatform

open Program Py Text

/-- A response body: `response_model=ArticleOut` in JSON mode. -/
def ArticleOut.response (out : ArticleOut) : Json := .obj out.fields

def updatedAtText : Json → Option String
  | .obj fields => strField fields "updated_at"
  | _ => none

@[simp] theorem updatedAtText_response (out : ArticleOut) :
    updatedAtText out.response = some (isoformat out.updatedAt) := by
  simp [updatedAtText, ArticleOut.response, ArticleOut.fields, ArticleSummaryOut.fields, strField,
    lookupField]

/-! ## The precondition -/

def isQuote (c : Char) : Bool := c == '"'

/-- `_parse_if_match`. -/
def parseIfMatch (rt : Runtime) (ifMatch : Option String) : Except Exc DateTime :=
  match ifMatch with
  | none => .error (.domain .preconditionRequired
      "If-Match header (the article's current updated_at) is required.")
  | some header =>
      match rt.fromIsoformat (String.ofList (stripOf isQuote (stripOf isSpace header.toList))) with
      | some expected => .ok expected
      | none => .error (.domain .preconditionRequired
          "If-Match must be the updated_at value previously returned for the article.")

/-! ## Conditional writes -/

namespace App

section
variable (app : App)

def updateArticle (principal : Option ℤ) (articleId : ℤ) (title body : String)
    (ifMatch : Option String) : Py Response :=
  getSession app.cache do
    let actor ← app.getCurrentUser principal
    let expected ← Prog.ofExcept (parseIfMatch app.rt ifMatch)
    return .article (← app.articles.update actor articleId title body expected)

def deleteArticle (principal : Option ℤ) (articleId : ℤ) (ifMatch : Option String) :
    Py Response :=
  getSession app.cache do
    let actor ← app.getCurrentUser principal
    let expected ← Prog.ofExcept (parseIfMatch app.rt ifMatch)
    app.articles.delete actor articleId expected
    return .deleted

/-- A header that is read reaches the write as the version it names. -/
theorem updateArticle_of_parsed {ifMatch : Option String} {expected : DateTime}
    (parsed : parseIfMatch app.rt ifMatch = .ok expected) (principal : Option ℤ) (articleId : ℤ)
    (title body : String) :
    app.updateArticle principal articleId title body ifMatch =
      app.serve (.update principal articleId title body expected) := by
  simp only [updateArticle, parsed]
  rfl

theorem deleteArticle_of_parsed {ifMatch : Option String} {expected : DateTime}
    (parsed : parseIfMatch app.rt ifMatch = .ok expected) (principal : Option ℤ)
    (articleId : ℤ) :
    app.deleteArticle principal articleId ifMatch =
      app.serve (.delete principal articleId expected) := by
  simp only [deleteArticle, parsed]
  rfl

end

end App

end ContentPlatform
