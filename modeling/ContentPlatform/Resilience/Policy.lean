import ContentPlatform.Resilience.Guard
import ContentPlatform.Rounding

/-!
# The validated budget

`app/resilience/policy.py`.  Python's floats are rational numbers here, without rounding.
-/

set_option autoImplicit false

namespace ContentPlatform

/-- The settings that the policies are built from, with their defaults. -/
structure BudgetSettings where
  redisSocketTimeout : ℚ := 2
  dbConnectTimeoutSeconds : ℚ := 5
  dbStatementTimeoutSeconds : ℚ := 2
  dbCallTimeoutSeconds : ℚ := 3
  dbRetryAttempts : ℤ := 2
  retryBackoffBaseSeconds : ℚ := 1 / 20
  retryBackoffMaxSeconds : ℚ := 1 / 2
  breakerFailureThreshold : ℤ := 5
  breakerResetSeconds : ℚ := 10
  breakerHalfOpenMaxCalls : ℤ := 1

/-- The longest the waits between attempts can add up to. -/
def DependencyPolicy.worstCaseBackoffSeconds (policy : DependencyPolicy) : ℚ :=
  ((List.range (max (policy.attempts - 1) 0).toNat).map fun index =>
    min (policy.backoffBaseSeconds * 2 ^ index) policy.backoffMaxSeconds).sum

/-- `f"{x:.2f}"` of a number that is not negative. -/
def formatCents (x : ℚ) : String :=
  let cents := (roundHalfEven (100 * x)).toNat
  let rest := cents % 100
  toString (cents / 100) ++ "." ++ (if rest < 10 then "0" else "") ++ toString rest

/-- `raise ValueError(message)` where the guard of an `if` holds. -/
def refuseIf (guard : Bool) (message : String) : Except String Unit :=
  if guard then .error message else .ok ()

/-- `_require_positive`. -/
def requirePositive (value : ℚ) (setting reason : String) : Except String Unit :=
  refuseIf (value ≤ 0) (setting ++ " must be positive; " ++ reason)

namespace BudgetSettings

variable (settings : BudgetSettings)

def policy (callTimeoutSeconds : ℚ) (attempts : ℤ) : DependencyPolicy where
  callTimeoutSeconds := callTimeoutSeconds
  attempts := attempts
  backoffBaseSeconds := settings.retryBackoffBaseSeconds
  backoffMaxSeconds := settings.retryBackoffMaxSeconds
  breakerFailureThreshold := settings.breakerFailureThreshold
  breakerResetSeconds := settings.breakerResetSeconds
  breakerHalfOpenMaxCalls := settings.breakerHalfOpenMaxCalls

def database : DependencyPolicy := settings.policy settings.dbCallTimeoutSeconds settings.dbRetryAttempts

/-- A cache read is not retried. -/
def cache : DependencyPolicy := settings.policy settings.redisSocketTimeout 1

end BudgetSettings

/-- One policy per dependency, or the text of a `ValueError`.  `repr` writes a float. -/
def buildPolicies (repr : ℚ → String) (settings : BudgetSettings) :
    Except String (Dependency → DependencyPolicy) := do
  requirePositive settings.dbConnectTimeoutSeconds "DB_CONNECT_TIMEOUT_SECONDS"
    ("aiomysql reads a non-positive value as no timeout, so a blackholed host holds the " ++
      "request until the kernel gives up.")
  requirePositive settings.dbStatementTimeoutSeconds "DB_STATEMENT_TIMEOUT_SECONDS"
    ("MySQL reads max_execution_time=0 as no limit, so a runaway query keeps its " ++
      "connection until it finishes.")
  requirePositive settings.dbCallTimeoutSeconds "DB_CALL_TIMEOUT_SECONDS"
    "a call with no ceiling turns one unresponsive dependency into an unresponsive API."
  requirePositive settings.redisSocketTimeout "REDIS_SOCKET_TIMEOUT"
    "an unbounded cache read makes the cache a dependency instead of an optimization."
  requirePositive settings.retryBackoffBaseSeconds "RETRY_BACKOFF_BASE_SECONDS"
    "a zero base retries at once, which adds load to a dependency that is already failing."
  requirePositive settings.breakerResetSeconds "BREAKER_RESET_SECONDS"
    "an open circuit that never probes never closes."
  refuseIf (settings.dbRetryAttempts < 1)
    ("DB_RETRY_ATTEMPTS must be at least 1; it counts attempts, not retries, so a " ++
      "value below 1 makes no call at all.")
  refuseIf (settings.breakerFailureThreshold < 1)
    ("BREAKER_FAILURE_THRESHOLD must be at least 1; a threshold of 0 opens the circuit " ++
      "before anything fails.")
  refuseIf (settings.breakerHalfOpenMaxCalls < 1)
    ("BREAKER_HALF_OPEN_MAX_CALLS must be at least 1; a half-open circuit that admits " ++
      "no probe never learns that the dependency came back.")
  refuseIf (settings.retryBackoffMaxSeconds < settings.retryBackoffBaseSeconds)
    ("RETRY_BACKOFF_MAX_SECONDS must not be below RETRY_BACKOFF_BASE_SECONDS; the cap " ++
      "would silently replace the base and every wait would be the same length.")
  refuseIf (settings.dbCallTimeoutSeconds ≤ settings.dbStatementTimeoutSeconds)
    ("DB_CALL_TIMEOUT_SECONDS must exceed DB_STATEMENT_TIMEOUT_SECONDS; otherwise the " ++
      "client abandons the query before the server kills it, and the connection stays " ++
      "pinned to work nobody is waiting for.")
  refuseIf (settings.database.callTimeoutSeconds ≤ settings.database.worstCaseBackoffSeconds)
    ("DB_RETRY_ATTEMPTS is too high for the budget: the waits between " ++
      toString settings.database.attempts ++ " attempts can reach " ++
      formatCents settings.database.worstCaseBackoffSeconds ++ "s, which is already the whole " ++
      repr settings.database.callTimeoutSeconds ++ "s DB_CALL_TIMEOUT_SECONDS. The later attempts " ++
      "could never run.")
  return fun dependency =>
    match dependency with
    | .mysql => settings.database
    | .redis => settings.cache

/-! ## What is accepted -/

/-- The settings that no check refuses. -/
structure BudgetSettings.Accepted (settings : BudgetSettings) : Prop where
  connectTimeout : 0 < settings.dbConnectTimeoutSeconds
  statementTimeout : 0 < settings.dbStatementTimeoutSeconds
  callTimeout : 0 < settings.dbCallTimeoutSeconds
  socketTimeout : 0 < settings.redisSocketTimeout
  base : 0 < settings.retryBackoffBaseSeconds
  reset : 0 < settings.breakerResetSeconds
  attempts : 1 ≤ settings.dbRetryAttempts
  threshold : 1 ≤ settings.breakerFailureThreshold
  probes : 1 ≤ settings.breakerHalfOpenMaxCalls
  cap : settings.retryBackoffBaseSeconds ≤ settings.retryBackoffMaxSeconds
  room : settings.dbStatementTimeoutSeconds < settings.dbCallTimeoutSeconds
  fits : settings.database.worstCaseBackoffSeconds < settings.dbCallTimeoutSeconds

theorem refuseIf_bind_ok {α : Type} {guard : Bool} {message : String} {next : Except String α}
    {value : α} : (refuseIf guard message >>= fun _ => next) = .ok value ↔
      guard = false ∧ next = .ok value := by
  cases guard with
  | false => exact ⟨fun same => ⟨rfl, same⟩, fun ended => ended.2⟩
  | true =>
      constructor
      · intro impossible
        cases impossible
      · rintro ⟨impossible, -⟩
        cases impossible

/-- The settings are accepted exactly where no check refuses them. -/
theorem buildPolicies_ok {repr : ℚ → String} {settings : BudgetSettings}
    {policies : Dependency → DependencyPolicy} :
    buildPolicies repr settings = .ok policies ↔ settings.Accepted ∧
      policies = fun dependency =>
        match dependency with
        | .mysql => settings.database
        | .redis => settings.cache := by
  unfold buildPolicies requirePositive
  simp only [refuseIf_bind_ok, decide_eq_false_iff_not, not_le, not_lt]
  constructor
  · rintro ⟨connect, statement, call, socket, base, reset, attempts, threshold, probes, cap, room,
      fits, same⟩
    exact ⟨⟨connect, statement, call, socket, base, reset, attempts, threshold, probes, cap, room,
      fits⟩, (Except.ok.inj same).symm⟩
  · rintro ⟨accepted, rfl⟩
    exact ⟨accepted.connectTimeout, accepted.statementTimeout, accepted.callTimeout,
      accepted.socketTimeout, accepted.base, accepted.reset, accepted.attempts,
      accepted.threshold, accepted.probes, accepted.cap, accepted.room, accepted.fits, rfl⟩

end ContentPlatform
