import ContentPlatform.Services.ArticleService

/-!
# The shapes of `app/schemas/article.py` as JSON

What pydantic writes for the two article shapes and how it reads it back, for
texts without characters that JSON escapes differently, and a process with the
defaults of `app/config.py` that uses them.
-/

set_option autoImplicit false

namespace ContentPlatform

open Program Py Text

def ArticleSummaryOut.fields (out : ArticleSummaryOut) : List (String × Json) :=
  [("id", .int out.id), ("author_id", .int out.authorId), ("title", .str out.title),
    ("created_at", .str (isoformat out.createdAt)), ("updated_at", .str (isoformat out.updatedAt))]

def intField (fields : List (String × Json)) (name : String) : Option ℤ :=
  match lookupField fields name with
  | some (.int value) => some value
  | _ => none

def strField (fields : List (String × Json)) (name : String) : Option String :=
  match lookupField fields name with
  | some (.str value) => some value
  | _ => none

def datetimeField (fields : List (String × Json)) (name : String) : Option DateTime :=
  (strField fields name).bind fromIsoformat

def readSummary (fields : List (String × Json)) : Option ArticleSummaryOut := do
  let id ← intField fields "id"
  let authorId ← intField fields "author_id"
  let title ← strField fields "title"
  let createdAt ← datetimeField fields "created_at"
  let updatedAt ← datetimeField fields "updated_at"
  return ⟨id, authorId, title, createdAt, updatedAt⟩

def ArticleSummaryOut.dump (out : ArticleSummaryOut) : Json := .obj out.fields

def ArticleSummaryOut.validate : Json → Option ArticleSummaryOut
  | .obj fields => readSummary fields
  | _ => none

def ArticleOut.fields (out : ArticleOut) : List (String × Json) :=
  out.toArticleSummaryOut.fields ++ [("body", .str out.body)]

def ArticleOut.dumpJson (out : ArticleOut) : String := dumpsCompact (.obj out.fields)

def ArticleOut.validateJson (text : String) : Option ArticleOut := do
  let fields ← match loads text with
    | some (.obj fields) => some fields
    | _ => none
  let summary ← readSummary fields
  let body ← strField fields "body"
  return { summary with body }

theorem lookup_fields (out : ArticleSummaryOut) :
    ∀ field ∈ out.fields, lookupField out.fields field.1 = some field.2 := by
  simp [ArticleSummaryOut.fields, lookupField]

theorem lookup_article_fields (out : ArticleOut) :
    ∀ field ∈ out.fields, lookupField out.fields field.1 = some field.2 := by
  simp [ArticleSummaryOut.fields, ArticleOut.fields, lookupField]

/-- A summary is read from any object that has its fields. -/
theorem readSummary_of_lookup {fields : List (String × Json)} {out : ArticleSummaryOut}
    (each : ∀ field ∈ out.fields, lookupField fields field.1 = some field.2) :
    readSummary fields = some out := by
  simp only [ArticleSummaryOut.fields, List.forall_mem_cons] at each
  obtain ⟨id, authorId, title, createdAt, updatedAt, -⟩ := each
  simp only [readSummary, intField, strField, datetimeField, id, authorId, title, createdAt,
    updatedAt, Option.bind_some, fromIsoformat_isoformat, Option.bind_eq_bind]
  rfl

/-- So is an article. -/
theorem ArticleOut.validateJson_of_lookup {text : String} {fields : List (String × Json)}
    {out : ArticleOut} (loaded : loads text = some (.obj fields))
    (each : ∀ field ∈ out.fields, lookupField fields field.1 = some field.2) :
    ArticleOut.validateJson text = some out := by
  have summary : readSummary fields = some out.toArticleSummaryOut :=
    readSummary_of_lookup fun field member => each field (List.mem_append_left _ member)
  have body : lookupField fields "body" = some (.str out.body) :=
    each ("body", .str out.body) (List.mem_append_right _ (List.mem_singleton_self _))
  simp only [ArticleOut.validateJson, loaded, summary, strField, body, Option.bind_some,
    Option.bind_eq_bind]
  rfl

theorem ArticleSummaryOut.validate_dump (out : ArticleSummaryOut) :
    ArticleSummaryOut.validate out.dump = some out := readSummary_of_lookup (lookup_fields out)

theorem plain_article (out : ArticleOut) : Plain (.obj out.fields) := by
  simp [ArticleOut.fields, ArticleSummaryOut.fields, Plain, PlainFields]

theorem ArticleOut.validateJson_dumpJson (out : ArticleOut) :
    ArticleOut.validateJson out.dumpJson = some out :=
  ArticleOut.validateJson_of_lookup (loads_dumpsCompact _ (plain_article out))
    (lookup_article_fields out)

/-- The defaults of `app/config.py`; the jitter is switched off. -/
def defaultPolicy : Dependency → DependencyPolicy
  | .mysql => ⟨3, 2, 1 / 20, 1 / 2, 5, 10, 1⟩
  | .redis => ⟨2, 1, 1 / 20, 1 / 2, 5, 10, 1⟩

def defaultRuntime (sha256Hex : String → String) : Runtime where
  policy := defaultPolicy
  articleTtlSeconds := 300
  listTtlSeconds := 60
  ttlJitter := 0
  lockTimeoutSeconds := 2
  sha256Hex := sha256Hex
  articleDumpJson := ArticleOut.dumpJson
  articleValidateJson := ArticleOut.validateJson
  summaryDump := ArticleSummaryOut.dump
  summaryValidate := ArticleSummaryOut.validate
  jsonLoads := fun text => (loads text).elim (.error .valueError) .ok
  fromIsoformat := fromIsoformat
  floatToInt := fun _ => .error .valueError
  polls := 0

theorem defaultRuntime_serializes (sha256Hex : String → String) :
    (defaultRuntime sha256Hex).Serializes := by
  refine ⟨fun out => ?_, fun out => ?_, fun out => ?_, fun value plain => ?_, fun t => ?_⟩
  · simp only [defaultRuntime]
    exact ArticleOut.validateJson_dumpJson out
  · simp only [defaultRuntime]
    exact ArticleSummaryOut.validate_dump out
  · simp [defaultRuntime, ArticleSummaryOut.dump, ArticleSummaryOut.fields, Plain, PlainFields]
  · simp only [defaultRuntime, loads_dumps value plain]
    rfl
  · exact fromIsoformat_isoformat t

end ContentPlatform
