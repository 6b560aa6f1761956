import ContentPlatform.Cache.ArticleCache

/-!
# The session of one request

`get_session` of `app/db/session.py` around a handler, and the queue of
`app/db/after_commit.py`.
-/

set_option autoImplicit false

namespace ContentPlatform

open Program Py

def invalidateGiven (cache : ArticleCache) : Option ℤ → Py Unit
  | some articleId => cache.invalidateArticle articleId
  | none => return ()

/-- The body of `invalidate`. -/
def runInvalidation (cache : ArticleCache) (callback : Invalidation) : Py Unit := do
  invalidateGiven cache callback.articleId
  cache.bumpGenerations (some callback.authorId)

/-- Every callback runs; what one of them raises is logged. -/
def runCallbacks (cache : ArticleCache) : List Invalidation → Py Unit
  | [] => return ()
  | callback :: rest => do
      match ← (runInvalidation cache callback).attempt with
      | .ok _ => runCallbacks cache rest
      | .error error =>
          if error.isException then runCallbacks cache rest
          else .raise error

def drainAfterCommit (cache : ArticleCache) : Py Unit := do
  let callbacks ← popAfterCommit
  runCallbacks cache callbacks

def discardAfterCommit : Py Unit := do
  let _ ← popAfterCommit

/-- The handler and the commit that follows it. -/
def untilCommit {α : Type} (handler : Py α) : Py α := do
  let value ← handler
  commit
  return value

def getSession {α : Type} (cache : ArticleCache) (handler : Py α) : Py α := do
  match ← (untilCommit handler).attempt with
  | .ok value =>
      drainAfterCommit cache
      return value
  | .error error =>
      rollback
      discardAfterCommit
      .raise error

end ContentPlatform
