import ContentPlatform.Program.Interaction
import ContentPlatform.Exceptions
import ContentPlatform.Values

/-!
# What a request asks of its environment

One `Op` is one interaction of a request's coroutine with something outside its
own local variables: a Redis command, a MySQL statement of its session, an
object that outlives the statement (the ORM session, the per-request cache
instance, a circuit breaker, a metric), the clock, or the random source.  The
code between two interactions runs without interruption.
-/

set_option autoImplicit false

namespace ContentPlatform

open Program

inductive Dependency where
  | mysql
  | redis
  deriving DecidableEq

def Dependency.name : Dependency → String
  | .mysql => "mysql"
  | .redis => "redis"

inductive RedisCommand where
  | get (key : String)
  | mget (keys : List String)
  | set (key value : String) (ex : ℤ) (nx : Bool)
  | delete (key : String)
  | incr (key : String)
  deriving DecidableEq

@[reducible] def RedisCommand.Reply : RedisCommand → Type
  | .get _ => Option String
  | .mget _ => List (Option String)
  | .set _ _ _ _ => Bool
  | .delete _ => Unit
  | .incr _ => ℤ

/-- The statements the repositories send.  A statement that loads an ORM entity answers
with the primary key of the instance; its attributes are read from the session. -/
inductive Statement where
  | selectUser (id : ℤ)
  | selectUserByEmail (email : String)
  | selectRole (name : String)
  | insertUser (email passwordHash roleName : String)
  | selectArticle (id : ℤ)
  | selectPage (limit : ℤ) (after : Option Position) (author : Option ℤ)
  | insertArticle (authorId : ℤ) (title body : String)
  | refreshArticle (id : ℤ)
  | updateArticle (id : ℤ) (expected : DateTime) (title body : String)
  | softDeleteArticle (id : ℤ) (expected deletedAt : DateTime)
  deriving DecidableEq

@[reducible] def Statement.Reply : Statement → Type
  | .selectUser _ => Option ℤ
  | .selectUserByEmail _ => Option ℤ
  | .selectRole _ => Option String
  | .insertUser _ _ _ => ℤ
  | .selectArticle _ => Option ℤ
  | .selectPage _ _ _ => List ArticleSummaryOut
  | .insertArticle _ _ _ => ℤ
  | .refreshArticle _ => Unit
  | .updateArticle _ _ _ _ => ℕ
  | .softDeleteArticle _ _ _ => ℕ

/-- The closure `invalidate` of `_invalidate_after_commit`, by the variables it captures. -/
structure Invalidation where
  articleId : Option ℤ
  authorId : ℤ
  deriving DecidableEq

inductive CacheEntity where
  | article
  | list
  deriving DecidableEq

inductive CacheOperation where
  | get
  | set
  | delete
  | incr
  | lock
  deriving DecidableEq

inductive RetryOutcome where
  | success
  | exhausted
  deriving DecidableEq

inductive Metric where
  | cacheHit (entity : CacheEntity)
  | cacheMiss (entity : CacheEntity)
  | cacheError (operation : CacheOperation)
  | dependencyTimeout (dependency : Dependency)
  | dependencyRetry (dependency : Dependency) (outcome : RetryOutcome)
  deriving DecidableEq

inductive Op where
  | redis (command : RedisCommand)
  | mysql (statement : Statement)
  | commit
  | rollback
  | expireAll
  | articleAttributes (id : ℤ)
  | userAttributes (id : ℤ)
  | afterCommit (callback : Invalidation)
  | popAfterCommit
  | cacheDegraded
  | degradeCache
  | breakerAllow (dependency : Dependency)
  | breakerSuccess (dependency : Dependency)
  | breakerFailure (dependency : Dependency)
  | secondsUntilProbe (dependency : Dependency)
  | observe (metric : Metric)
  | loopTime
  | sleep (seconds : ℚ)
  | backoff (longest : ℚ)
  | uniform (low high : ℚ)
  | utcnow
  | hashPassword (password : String)
  | verifyPassword (password passwordHash : String)
  | dummyHash
  | setDummyHash (hash : String)
  | encodeToken (sub role : String) (issuedAt : DateTime)
  /-- The bound on the number of polls that a run is given is used up.  Nobody answers. -/
  | outOfFuel
  deriving DecidableEq

@[reducible] def Op.Reply : Op → Type
  | .redis command => Except Exc command.Reply
  | .mysql statement => Except Exc statement.Reply
  | .commit => Except Exc Unit
  | .rollback => Except Exc Unit
  | .expireAll => Unit
  | .articleAttributes _ => Except Exc ArticleRow
  | .userAttributes _ => Except Exc UserRow
  | .afterCommit _ => Unit
  | .popAfterCommit => List Invalidation
  | .cacheDegraded => Bool
  | .degradeCache => Unit
  | .breakerAllow _ => Bool
  | .breakerSuccess _ => Unit
  | .breakerFailure _ => Unit
  | .secondsUntilProbe _ => ℚ
  | .observe _ => Unit
  | .loopTime => ℚ
  | .sleep _ => Except Exc Unit
  | .backoff _ => Except Exc Unit
  | .uniform _ _ => ℚ
  | .utcnow => DateTime
  | .hashPassword _ => Except Exc String
  | .verifyPassword _ _ => Except Exc Bool
  | .dummyHash => Option String
  | .setDummyHash _ => Unit
  | .encodeToken _ _ _ => String
  | .outOfFuel => Empty

abbrev Py (α : Type) := Prog Op Op.Reply Exc α

namespace Py

def redis (command : RedisCommand) : Py command.Reply := .call (.redis command) .ofExcept
def mysql (statement : Statement) : Py statement.Reply := .call (.mysql statement) .ofExcept
def commit : Py Unit := .call .commit .ofExcept
def rollback : Py Unit := .call .rollback .ofExcept
def sleep (seconds : ℚ) : Py Unit := .call (.sleep seconds) .ofExcept
def backoff (longest : ℚ) : Py Unit := .call (.backoff longest) .ofExcept
def articleAttributes (id : ℤ) : Py ArticleRow := .call (.articleAttributes id) .ofExcept
def userAttributes (id : ℤ) : Py UserRow := .call (.userAttributes id) .ofExcept
def hashPassword (password : String) : Py String := .call (.hashPassword password) .ofExcept
def verifyPassword (password passwordHash : String) : Py Bool :=
  .call (.verifyPassword password passwordHash) .ofExcept

def expireAll : Py Unit := .call .expireAll .ret
def afterCommit (callback : Invalidation) : Py Unit := .call (.afterCommit callback) .ret
def popAfterCommit : Py (List Invalidation) := .call .popAfterCommit .ret
def cacheDegraded : Py Bool := .call .cacheDegraded .ret
def degradeCache : Py Unit := .call .degradeCache .ret
def breakerAllow (dependency : Dependency) : Py Bool := .call (.breakerAllow dependency) .ret
def breakerSuccess (dependency : Dependency) : Py Unit := .call (.breakerSuccess dependency) .ret
def breakerFailure (dependency : Dependency) : Py Unit := .call (.breakerFailure dependency) .ret
def secondsUntilProbe (dependency : Dependency) : Py ℚ := .call (.secondsUntilProbe dependency) .ret
def observe (metric : Metric) : Py Unit := .call (.observe metric) .ret
def loopTime : Py ℚ := .call .loopTime .ret
def uniform (low high : ℚ) : Py ℚ := .call (.uniform low high) .ret
def utcnow : Py DateTime := .call .utcnow .ret
def outOfFuel {α : Type} : Py α := .call .outOfFuel fun never => nomatch never

end Py

section
variable {α : Type} {allowed : Op → Prop}

theorem call_sends {op : Op} (may : allowed op) {next : op.Reply → Py α}
    (rest : ∀ reply, (next reply).Sends allowed) : Prog.Sends allowed (.call op next : Py α) :=
  ⟨may, rest⟩

theorem answer_sends {op : Op} (may : allowed op) (next : op.Reply → Except Exc α) :
    Prog.Sends allowed (.call op fun reply => .ofExcept (next reply) : Py α) :=
  ⟨may, fun reply => Prog.sends_ofExcept (next reply)⟩

theorem reply_sends {op : Op} (may : allowed op) (next : op.Reply → α) :
    Prog.Sends allowed (.call op fun reply => .ret (next reply) : Py α) :=
  ⟨may, fun _ => trivial⟩

end

end ContentPlatform
