import ContentPlatform.Api.Requests
import ContentPlatform.Program.Tasks

/-!
# Load shedding

`LoadShedMiddleware` of `app/api/middleware.py`, with the collectors it moves.
-/

set_option autoImplicit false

namespace ContentPlatform

open Program

/-- `METRICS_PATH` and `PROBE_PATHS`. -/
def metricsPath : String := "/metrics"
def probePaths : List String := ["/health/live", "/health/ready"]

/-- What the middleware reads of a request: its path and the template that its route resolves to. -/
structure Arrival where
  path : String
  routeLabel : String
  deriving DecidableEq

def Arrival.exempt (request : Arrival) : Bool :=
  request.path == metricsPath || probePaths.contains request.path

structure LoadShedMiddleware where
  maxInflight : ℤ
  retryAfter : ℚ
  inflight : ℤ
  /-- The gauge `inflight_requests`. -/
  inflightRequests : ℤ
  /-- The counter `degraded_responses` with the reason `load_shed`, by route. -/
  degradedResponses : String → ℕ

/-- What a dispatch ends with: how `call_next` ended, or its own answer. -/
inductive Dispatched (R : Type) where
  | passedOn (result : Except Exc R)
  | shed (response : ErrorResponse)
  deriving DecidableEq

namespace LoadShedMiddleware

/-- `__init__`, where nothing was counted yet. -/
def create (maxInflight : ℤ) (retryAfterSeconds : ℚ) : Except String LoadShedMiddleware :=
  if maxInflight < 1 then
    .error ("MAX_INFLIGHT_REQUESTS must be at least 1; a lower ceiling sheds every " ++
      "request, which is an outage spelled as a configuration.")
  else if retryAfterSeconds ≤ 0 then
    .error ("SHED_RETRY_AFTER_SECONDS must be positive; a non-positive wait tells every " ++
      "shed caller to come back at once, which is the stampede shedding prevents.")
  else .ok ⟨maxInflight, retryAfterSeconds, 0, 0, fun _ => 0⟩

section
variable (m : LoadShedMiddleware)

/-- `track_inflight`. -/
def trackInflight (delta : ℤ) : LoadShedMiddleware :=
  { m with inflightRequests := m.inflightRequests + delta }

/-- `observe_degraded_response(route, "load_shed")`. -/
def observeShed (route : String) : LoadShedMiddleware :=
  { m with degradedResponses :=
      Function.update m.degradedResponses route (m.degradedResponses route + 1) }

def shedResponse : ErrorResponse :=
  ⟨503, "SERVICE_UNAVAILABLE", "The service is at capacity. Retry shortly.",
    some (retryAfterHeader m.retryAfter)⟩

/-- Up to `await call_next(request)`. -/
def enter : LoadShedMiddleware := trackInflight { m with inflight := m.inflight + 1 } 1

/-- The `finally` block. -/
def leave : LoadShedMiddleware := trackInflight { m with inflight := m.inflight - 1 } (-1)

end

section
variable {R : Type}

/-- `call_next` delivers a response, an exception or the cancellation of the request. -/
def dispatch (request : Arrival) (m : LoadShedMiddleware) :
    LoadShedMiddleware × Task LoadShedMiddleware (Except Exc R) (Dispatched R) :=
  if request.exempt then (m, .waits fun result m => (m, .done (.passedOn result)))
  else if m.inflight ≥ m.maxInflight then
    (m.observeShed request.routeLabel, .done (.shed m.shedResponse))
  else (m.enter, .waits fun result m => (m.leave, .done (.passedOn result)))

theorem dispatch_exempt {request : Arrival} (m : LoadShedMiddleware)
    (exempt : request.exempt = true) :
    (dispatch request m : _ × Task _ (Except Exc R) _) =
      (m, .waits fun result m => (m, .done (.passedOn result))) := by
  rw [dispatch, if_pos exempt]

theorem dispatch_full {request : Arrival} {m : LoadShedMiddleware}
    (counted : request.exempt = false)
    (full : m.maxInflight ≤ m.inflight) :
    (dispatch request m : _ × Task _ (Except Exc R) _) =
      (m.observeShed request.routeLabel, .done (.shed m.shedResponse)) := by
  rw [dispatch, if_neg (by rw [counted]; exact Bool.false_ne_true), if_pos full]

theorem dispatch_admitted {request : Arrival} {m : LoadShedMiddleware}
    (counted : request.exempt = false) (room : m.inflight < m.maxInflight) :
    (dispatch request m : _ × Task _ (Except Exc R) _) =
      (m.enter, .waits fun result m => (m.leave, .done (.passedOn result))) := by
  rw [dispatch, if_neg (by rw [counted]; exact Bool.false_ne_true), if_neg (not_le.mpr room)]

end

end LoadShedMiddleware

end ContentPlatform
