import ContentPlatform.Cache.ArticleCache
import ContentPlatform.Repositories

/-!
# The article service

`app/services/article_service.py`.  Reads go through the cache and one loader at
a time; writes read and compare in the database only, and queue their
invalidation for after the commit.
-/

set_option autoImplicit false

namespace ContentPlatform

open Program Py Text

def pollIntervalSeconds : ℚ := 1 / 50

/-! ## Bodies of cache entries -/

/-- The value of a name in a JSON object; of equal names the last one counts. -/
def lookupField (fields : List (String × Json)) (name : String) : Option Json :=
  (fields.reverse.find? fun field => field.1 == name).map Prod.snd

/-- `_decode_article`. -/
def decodeArticle (rt : Runtime) (body : Option String) : Option ArticleOut :=
  body.bind rt.articleValidateJson

/-- `_encode_page`. -/
def encodePage (rt : Runtime) (page : Page) : String :=
  dumps (.obj [
    ("items", .arr (page.1.map rt.summaryDump)),
    ("next",
      match page.2 with
      | none => .null
      | some (createdAt, articleId) => .arr [.str (isoformat createdAt), .int articleId])])

/-- What `for item in payload["items"]` runs over. -/
def iterate : Json → Option (List Json)
  | .arr items => some items
  | .str text => some (text.toList.map fun c => .str (String.singleton c))
  | .obj fields => some (fields.map fun field => .str field.1)
  | _ => none

/-- `int(value)`. -/
def jsonToInt (rt : Runtime) : Json → Except Exc ℤ
  | .int value => .ok value
  | .bool value => .ok (if value then 1 else 0)
  | .float literal => rt.floatToInt literal
  | .str text =>
      match parseInt text.toList with
      | some value => .ok value
      | none => .error .valueError
  | _ => .error .typeError

/-- `raw_next[index]`. -/
def subscript (value : Json) (index : ℕ) : Except Exc Json :=
  match value with
  | .arr items =>
      match items[index]? with
      | some item => .ok item
      | none => .error .indexError
  | .str text =>
      match text.toList[index]? with
      | some c => .ok (.str (String.singleton c))
      | none => .error .indexError
  | .obj _ => .error .keyError
  | _ => .error .typeError

def decodeNext (rt : Runtime) (rawNext : Json) : Except Exc Position := do
  let createdAt ←
    match ← subscript rawNext 0 with
    | .str text =>
        match rt.fromIsoformat text with
        | some createdAt => .ok createdAt
        | none => .error .valueError
    | _ => .error .typeError
  let articleId ← jsonToInt rt (← subscript rawNext 1)
  return (createdAt, articleId)

/-- `value[name]`. -/
def getItem (value : Json) (name : String) : Except Exc Json :=
  match value with
  | .obj fields =>
      match lookupField fields name with
      | some item => .ok item
      | none => .error .keyError
  | _ => .error .typeError

/-- The first `try` of `_decode_page`.  A `ValidationError` is a `ValueError`. -/
def decodePayload (rt : Runtime) (body : String) :
    Except Exc (List ArticleSummaryOut × Json) := do
  let payload ← rt.jsonLoads body
  match iterate (← getItem payload "items") with
  | none => .error .typeError
  | some items =>
      match items.mapM rt.summaryValidate with
      | none => .error .valueError
      | some items => return (items, ← getItem payload "next")

/-- `_decode_page`. -/
def decodePage (rt : Runtime) (body : Option String) : Except Exc (Option Page) :=
  match body with
  | none => .ok none
  | some body =>
      match decodePayload rt body with
      | .error .valueError | .error .keyError | .error .typeError => .ok none
      | .error error => .error error
      | .ok (items, .null) => .ok (some (items, none))
      | .ok (items, rawNext) =>
          match decodeNext rt rawNext with
          | .ok next => .ok (some (items, some next))
          | .error .valueError | .error .typeError | .error .indexError => .ok none
          | .error error => .error error

theorem mapM_summary {rt : Runtime} (serializes : rt.Serializes) (items : List ArticleSummaryOut) :
    (items.map rt.summaryDump).mapM rt.summaryValidate = some items := by
  induction items with
  | nil => rfl
  | cons item rest ih =>
      rw [List.map_cons, List.mapM_cons, serializes.summary item, ih]
      rfl

theorem plain_items {rt : Runtime} (serializes : rt.Serializes) (items : List ArticleSummaryOut) :
    PlainItems (items.map rt.summaryDump) := by
  induction items with
  | nil => trivial
  | cons item rest ih => exact ⟨serializes.plain item, ih⟩

theorem decodeNext_position {rt : Runtime} (serializes : rt.Serializes) (createdAt : DateTime)
    (articleId : ℤ) :
    decodeNext rt (.arr [.str (isoformat createdAt), .int articleId]) =
      .ok (createdAt, articleId) := by
  simp [decodeNext, subscript, jsonToInt, bind, Except.bind, serializes.iso]
  rfl

theorem decodePayload_fields {rt : Runtime} {body : String} {fields : List (String × Json)}
    {values : List Json} {items : List ArticleSummaryOut} {rawNext : Json}
    (read : rt.jsonLoads body = .ok (.obj fields))
    (listed : lookupField fields "items" = some (.arr values))
    (valid : values.mapM rt.summaryValidate = some items)
    (next : lookupField fields "next" = some rawNext) :
    decodePayload rt body = .ok (items, rawNext) := by
  simp [decodePayload, read, getItem, listed, next, iterate, valid, bind, Except.bind]
  rfl

/-- A page comes out of its entry as it went in. -/
theorem decodePage_encodePage {rt : Runtime} (serializes : rt.Serializes) (page : Page) :
    decodePage rt (some (encodePage rt page)) = .ok (some page) := by
  obtain ⟨items, next⟩ := page
  have found := mapM_summary serializes items
  have plain := plain_items serializes items
  cases next with
  | none =>
      have read := serializes.loads (.obj [("items", .arr (items.map rt.summaryDump)),
        ("next", .null)]) (by simp [Plain, PlainFields, plain])
      have payload := decodePayload_fields read (by simp [lookupField]) found
        (by simp [lookupField]; rfl)
      rw [decodePage, encodePage, payload]
  | some last =>
      obtain ⟨createdAt, articleId⟩ := last
      have read := serializes.loads (.obj [("items", .arr (items.map rt.summaryDump)),
        ("next", .arr [.str (isoformat createdAt), .int articleId])])
        (by simp [Plain, PlainFields, PlainItems, plain])
      have payload := decodePayload_fields read (by simp [lookupField]) found
        (by simp [lookupField]; rfl)
      simp only [decodePage, encodePage, payload, decodeNext_position serializes]

/-! ## The service -/

/-- `rows[:limit]`. -/
def sliceTo {α : Type} (rows : List α) (limit : ℤ) : List α :=
  if 0 ≤ limit then rows.take limit.toNat else rows.take (rows.length - (-limit).toNat)

/-- The page of `limit` rows that `_load_page` makes of what it fetched. -/
def splitPage (limit : ℤ) (rows : List ArticleSummaryOut) : Except Exc Page :=
  if (rows.length : ℤ) ≤ limit then .ok (rows, none)
  else
    match (sliceTo rows limit).getLast? with
    | some last => .ok (sliceTo rows limit, some (last.createdAt, last.id))
    | none => .error .indexError

structure ArticleService where
  rt : Runtime
  cache : ArticleCache
  /-- Whether a session was passed to queue invalidations on. -/
  session : Bool

namespace ArticleService

section
variable (service : ArticleService)

def lockTtl : ℤ := max 1 (roundHalfEven service.rt.lockTimeoutSeconds)

def articleTtlJittered : Py ℤ := jitteredTtl service.rt.articleTtlSeconds service.rt.ttlJitter

def listTtlJittered : Py ℤ := jitteredTtl service.rt.listTtlSeconds service.rt.ttlJitter

def invalidateAfterCommit (authorId : ℤ) (articleId : Option ℤ) : Py Unit :=
  if service.session then afterCommit ⟨articleId, authorId⟩ else return ()

/-- `_load`. -/
def load (articleId : ℤ) : Py ℤ := do
  match ← ArticleRepository.get service.rt articleId with
  | none => .raise (.articleNotFound "Article does not exist.")
  | some article => return article

def loadPage (limit : ℤ) (after : Option Position) (authorId : Option ℤ) : Py Page := do
  let rows ← ArticleRepository.list service.rt (limit + 1) after authorId
  .ofExcept (splitPage limit rows)

/-- The loop of `_await_loader`. -/
def pollUntil (key : String) (deadline : ℚ) : (polls : ℕ) → Py (Option String)
  | 0 => do
      if (← loopTime) < deadline then outOfFuel else return none
  | polls + 1 => do
      if (← loopTime) < deadline then
        sleep pollIntervalSeconds
        match ← service.cache.peek key with
        | some body => return some body
        | none => pollUntil key deadline polls
      else return none

def awaitLoader (key : String) : Py (Option String) := do
  let deadline := (← loopTime) + service.rt.lockTimeoutSeconds
  service.pollUntil key deadline service.rt.polls

/-- What the loser of the lock finds while it waits; the winner does not wait. -/
def waitUnlessWon (won : Bool) (key : String) : Py (Option String) :=
  if won then return none else service.awaitLoader key

def releaseIfWon (won : Bool) (key : String) : Py Unit :=
  if won then service.cache.releaseLock key else return ()

def raiseConflictOrNotFound {α : Type} (articleId : ℤ) : Py α := do
  match ← ArticleRepository.get service.rt articleId with
  | none => .raise (.articleNotFound "Article does not exist.")
  | some _ => .raise (.conflict
      "The article changed since it was read; re-fetch and retry with the current updated_at.")

/-- `_authorize`. -/
def authorize (actor article : ℤ) : Py Unit := do
  let authorId := (← articleAttributes article).authorId
  if authorId ≠ (← userAttributes actor).id then
    if !(← userAttributes actor).isAdmin then
      .raise (.forbidden "Only the author or an admin may modify this article.")

def create (actor : ℤ) (title body : String) : Py ArticleOut := do
  let _span ← userAttributes actor
  let article ← ArticleRepository.create service.rt (← userAttributes actor).id title body
  service.invalidateAfterCommit (← userAttributes actor).id none
  return (← articleAttributes article).out

def loadAndStore (articleId : ℤ) : Py ArticleOut := do
  let article ← service.load articleId
  let dto := (← articleAttributes article).out
  let ttl ← service.articleTtlJittered
  service.cache.setArticle articleId (service.rt.articleDumpJson dto) ttl
  return dto

def get (articleId : ℤ) : Py ArticleOut := do
  let key := articleKey articleId
  match decodeArticle service.rt (← service.cache.getArticle articleId) with
  | some cached => return cached
  | none =>
      let won ← service.cache.acquireLock key service.lockTtl
      match decodeArticle service.rt (← service.waitUnlessWon won key) with
      | some waited => return waited
      | none =>
          (service.loadAndStore articleId).tryFinally (service.releaseIfWon won key)

def loadAndStorePage (key : String) (limit : ℤ) (after : Option Position)
    (authorId : Option ℤ) : Py Page := do
  let page ← service.loadPage limit after authorId
  let ttl ← service.listTtlJittered
  service.cache.setListPage key (encodePage service.rt page) ttl
  return page

def listArticles (limit : ℤ) (after : Option Position) (authorId : Option ℤ) : Py Page := do
  let generations ← service.cache.getGenerations authorId
  let generation := if authorId.isSome then generations.2 else generations.1
  let key := listKey service.rt generation authorId limit (cursorParts after)
  match ← Prog.ofExcept (decodePage service.rt (← service.cache.getListPage key)) with
  | some cached => return cached
  | none =>
      let won ← service.cache.acquireLock key service.lockTtl
      match ← Prog.ofExcept (decodePage service.rt (← service.waitUnlessWon won key)) with
      | some waited => return waited
      | none =>
          (service.loadAndStorePage key limit after authorId).tryFinally
            (service.releaseIfWon won key)

def update (actor articleId : ℤ) (title body : String) (expectedUpdatedAt : DateTime) :
    Py ArticleOut := do
  let article ← service.load articleId
  authorize actor article
  let authorId := (← articleAttributes article).authorId
  let rowcount ← ArticleRepository.updateCas service.rt articleId expectedUpdatedAt title body
  if rowcount = 0 then
    service.raiseConflictOrNotFound articleId
  else
    service.invalidateAfterCommit authorId (some articleId)
    let article ← service.load articleId
    return (← articleAttributes article).out

def delete (actor articleId : ℤ) (expectedUpdatedAt : DateTime) : Py Unit := do
  let article ← service.load articleId
  authorize actor article
  let authorId := (← articleAttributes article).authorId
  let rowcount ← ArticleRepository.softDeleteCas service.rt articleId expectedUpdatedAt
  if rowcount = 0 then
    service.raiseConflictOrNotFound articleId
  else
    service.invalidateAfterCommit authorId (some articleId)

end

end ArticleService

end ContentPlatform
