import ContentPlatform.Resilience.Guard
import ContentPlatform.Text.IsoDateTime
import ContentPlatform.Text.Json

/-!
# The settings of the process and the functions it takes from libraries
-/

set_option autoImplicit false

namespace ContentPlatform

open Text

structure Runtime where
  policy : Dependency → DependencyPolicy
  articleTtlSeconds : ℤ
  listTtlSeconds : ℤ
  ttlJitter : ℚ
  lockTimeoutSeconds : ℚ
  /-- `hashlib.sha256(text.encode("ascii")).hexdigest()`. -/
  sha256Hex : String → String
  /-- `ArticleOut.model_dump_json` and `model_validate_json`. -/
  articleDumpJson : ArticleOut → String
  articleValidateJson : String → Option ArticleOut
  /-- `ArticleSummaryOut.model_dump(mode="json")` and `model_validate`. -/
  summaryDump : ArticleSummaryOut → Json
  summaryValidate : Json → Option ArticleSummaryOut
  /-- `json.loads`, which raises a `ValueError` for a text that is no JSON. -/
  jsonLoads : String → Except Exc Json
  /-- `datetime.fromisoformat`, with `none` for `ValueError`.  An offset is not kept. -/
  fromIsoformat : String → Option DateTime
  /-- `int(...)` of the floating-point number that a JSON literal denotes. -/
  floatToInt : String → Except Exc ℤ
  /-- How often a single-flight loser may poll in one run. -/
  polls : ℕ

/-- Validation inverts serialization, what is serialized holds no floating-point number, and texts
are read as they were written. -/
structure Runtime.Serializes (rt : Runtime) : Prop where
  article : ∀ out, rt.articleValidateJson (rt.articleDumpJson out) = some out
  summary : ∀ out, rt.summaryValidate (rt.summaryDump out) = some out
  plain : ∀ out, Plain (rt.summaryDump out)
  loads : ∀ value, Plain value → rt.jsonLoads (dumps value) = .ok value
  iso : ∀ t, rt.fromIsoformat (isoformat t) = some t

/-- Only the functions that write and read the shapes decide it. -/
theorem Runtime.Serializes.transfer {rt rt' : Runtime} (serializes : rt.Serializes)
    (dumpJson : rt'.articleDumpJson = rt.articleDumpJson)
    (validateJson : rt'.articleValidateJson = rt.articleValidateJson)
    (dump : rt'.summaryDump = rt.summaryDump)
    (validate : rt'.summaryValidate = rt.summaryValidate)
    (jsonLoads : rt'.jsonLoads = rt.jsonLoads)
    (fromIsoformat : rt'.fromIsoformat = rt.fromIsoformat) : rt'.Serializes := by
  constructor
  · rw [dumpJson, validateJson]
    exact serializes.article
  · rw [dump, validate]
    exact serializes.summary
  · rw [dump]
    exact serializes.plain
  · rw [jsonLoads]
    exact serializes.loads
  · rw [fromIsoformat]
    exact serializes.iso

end ContentPlatform
