import Mathlib.Data.Rat.Defs

/-!
# Exceptions

The domain exceptions of `app/services/exceptions.py`, the driver exceptions
the resilience layer tells apart, and the classifications the code makes of
them.  `cancelledError` is an outside cancellation of the task and
`callExpired` the cancellation that `asyncio.timeout` sends into its own block;
neither is an `Exception` in Python.
-/

set_option autoImplicit false

namespace ContentPlatform

/-- The subclasses of `DomainError`.  The two subclasses of `DependencyDownError`
carry the number of seconds to wait. -/
inductive DomainKind where
  | unauthenticated
  | forbidden
  | articleNotFound
  | conflict
  | preconditionRequired
  | invalidCursor
  | upstreamTimeout (retryAfter : ℚ)
  | dependencyUnavailable (retryAfter : ℚ)
  deriving DecidableEq

inductive Exc where
  | domain (kind : DomainKind) (message : String)
  | operationalError
  | interfaceError
  | disconnectionError
  | redisConnectionError
  | redisTimeoutError
  | timeoutError
  | osError
  | redisError
  | integrityError
  | programmingError
  | noResultFound
  | missingGreenlet
  | indexError
  | keyError
  | typeError
  | valueError
  | overflowError
  | runtimeError
  | requestValidationError
  | cancelledError
  | callExpired
  deriving DecidableEq

namespace Exc

def unauthenticated (message : String) : Exc := .domain .unauthenticated message
def forbidden (message : String) : Exc := .domain .forbidden message
def articleNotFound (message : String) : Exc := .domain .articleNotFound message
def conflict (message : String) : Exc := .domain .conflict message
def invalidCursor (message : String) : Exc := .domain .invalidCursor message

/-- `TRANSIENT_ERRORS`, through `is_transient`. -/
def isTransient : Exc → Bool
  | .operationalError | .interfaceError | .disconnectionError | .redisConnectionError
  | .redisTimeoutError | .timeoutError | .osError => true
  | _ => false

/-- `TIMEOUT_ERRORS`. -/
def isTimeout : Exc → Bool
  | .timeoutError | .redisTimeoutError => true
  | _ => false

/-- `CACHE_FAILURES`: every `RedisError`, the standard `TimeoutError`, and `OSError`. -/
def isCacheFailure : Exc → Bool
  | .redisError | .redisConnectionError | .redisTimeoutError | .timeoutError | .osError => true
  | _ => false

/-- Whether `except Exception` catches it. -/
def isException : Exc → Bool
  | .cancelledError | .callExpired => false
  | _ => true

/-- Whether `register_exception_handlers` has a handler for it, the fallback apart. -/
def isHandled : Exc → Bool
  | .domain _ _ | .requestValidationError => true
  | _ => false

def isDependencyDown : Exc → Bool
  | .domain (.upstreamTimeout _) _ | .domain (.dependencyUnavailable _) _ => true
  | _ => false

end Exc

end ContentPlatform
