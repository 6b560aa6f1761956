import ContentPlatform.Cache.Keys

/-!
# The article cache

`app/cache/article_cache.py`.  A failed command stops the instance for the rest
of its request; the breaker is shared by all of them.
-/

set_option autoImplicit false

namespace ContentPlatform

open Program Py Text

/-- What the constructor is given that decides anything. -/
structure ArticleCache where
  enabled : Bool

/-- `_as_int`. -/
def asInt (value : Option String) : ℤ :=
  match value with
  | none => 0
  | some text => (parseInt text.toList).getD 0

def pickGeneration (author : Option ℤ) (pair : ℤ × ℤ) : ℤ :=
  if author.isSome then pair.2 else pair.1

namespace ArticleCache

section
variable (cache : ArticleCache)

def live : Py Bool := do
  if cache.enabled then
    if ← cacheDegraded then return false
    else breakerAllow .redis
  else return false

def succeed : Py Unit := breakerSuccess .redis

def degrade (operation : CacheOperation) : Py Unit := do
  degradeCache
  breakerFailure .redis
  observe (.cacheError operation)

/-- One admitted command under `try: ... except CACHE_FAILURES`. -/
def answered {α : Type} (operation : CacheOperation) (command : Py α) : Py (Option α) := do
  match ← command.attempt with
  | .ok value =>
      succeed
      return some value
  | .error error =>
      if error.isCacheFailure then
        degrade operation
        return none
      else
        .raise error

def peek (key : String) : Py (Option String) := do
  if ← cache.live then
    match ← answered .get (redis (.get key)) with
    | some value => return value
    | none => return none
  else return none

/-- `_get`. -/
def fetch (key : String) (entity : CacheEntity) : Py (Option String) := do
  if ← cache.live then
    match ← answered .get (redis (.get key)) with
    | some none =>
        observe (.cacheMiss entity)
        return none
    | some (some value) =>
        observe (.cacheHit entity)
        return some value
    | none => return none
  else return none

def getArticle (articleId : ℤ) : Py (Option String) := cache.fetch (articleKey articleId) .article

def getListPage (key : String) : Py (Option String) := cache.fetch key .list

def generationPair (values : List (Option String)) : ℤ × ℤ :=
  let parsed := values.map asInt ++ List.replicate (2 - values.length) 0
  (parsed.getD 0 0, parsed.getD 1 0)

def generationKeys (authorId : Option ℤ) : List String :=
  match authorId with
  | none => [generationKey]
  | some authorId => [generationKey, authorGenerationKey authorId]

def getGenerations (authorId : Option ℤ) : Py (ℤ × ℤ) := do
  if ← cache.live then
    match ← answered .get (redis (.mget (generationKeys authorId))) with
    | some values => return generationPair values
    | none => return (0, 0)
  else return (0, 0)

/-- `_set`. -/
def store (key body : String) (ttlSeconds : ℤ) : Py Unit := do
  if ← cache.live then
    let _ ← answered .set (redis (.set key body (max 1 ttlSeconds) false))

def setArticle (articleId : ℤ) (body : String) (ttlSeconds : ℤ) : Py Unit :=
  cache.store (articleKey articleId) body ttlSeconds

def setListPage (key body : String) (ttlSeconds : ℤ) : Py Unit := cache.store key body ttlSeconds

def invalidateArticle (articleId : ℤ) : Py Unit := do
  if ← cache.live then
    let _ ← answered .delete (redis (.delete (articleKey articleId)))

def bumpGenerations (authorId : Option ℤ) : Py Unit := do
  if ← cache.live then
    let _ ← answered .incr (do
      let _ ← redis (.incr generationKey)
      match authorId with
      | some authorId =>
          let _ ← redis (.incr (authorGenerationKey authorId))
      | none => return ())

def acquireLock (key : String) (ttlSeconds : ℤ) : Py Bool := do
  if ← cache.live then
    match ← answered .lock (redis (.set (lockKey key) "1" (max 1 ttlSeconds) true)) with
    | some acquired => return acquired
    | none => return true
  else return true

def releaseLock (key : String) : Py Unit := do
  if ← cache.live then
    let _ ← answered .lock (redis (.delete (lockKey key)))

end

end ArticleCache

end ContentPlatform
