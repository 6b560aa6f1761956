import ContentPlatform.World.Site

/-!
# What is counted and logged

The metrics and the log of a process, as sums over the interactions of its requests.
-/

set_option autoImplicit false

namespace ContentPlatform

open Program

/-! ## What a request has exchanged -/

abbrev FrontExchange : Type := Interaction FrontOp.Reply

def recordOf (exchange : FrontExchange) : Option LogRecord :=
  match exchange.1 with
  | .log record => some record
  | _ => none

def records (exchanges : List FrontExchange) : List LogRecord := exchanges.filterMap recordOf

def LogRecord.isAccess (record : LogRecord) : Bool :=
  match record.event with
  | .httpRequest _ _ _ _ _ => true
  | _ => false

def accessRecords (exchanges : List FrontExchange) : List LogRecord :=
  (records exchanges).filter LogRecord.isAccess

def observationOf (exchange : FrontExchange) : Option (String × String × ℕ) :=
  match exchange.1 with
  | .observeRequest route method status => some (route, method, status)
  | _ => none

def observations (exchanges : List FrontExchange) : List (String × String × ℕ) :=
  exchanges.filterMap observationOf

def isArrival : FrontExchange → Bool
  | ⟨.arrive _, none⟩ => true
  | _ => false

def isDeparture (exchange : FrontExchange) : Bool := exchange.1 == .depart

def arrivals (exchanges : List FrontExchange) : ℕ := exchanges.countP isArrival
def departures (exchanges : List FrontExchange) : ℕ := exchanges.countP isDeparture

def refusalOf : FrontExchange → Option String
  | ⟨.arrive route, some _⟩ => some route
  | _ => none

def refusals (exchanges : List FrontExchange) : List String := exchanges.filterMap refusalOf

def degradationOf (exchange : FrontExchange) : Option (String × String) :=
  match exchange.1 with
  | .observeDegradedResponse route reason => some (route, reason)
  | _ => none

def degradations (exchanges : List FrontExchange) : List (String × String) :=
  exchanges.filterMap degradationOf

/-! ## What the process has counted -/

structure Tallied (f₀ f : Front) (exchanges : List FrontExchange) : Prop where
  requests : ∀ labels, f.requests labels = f₀.requests labels + (observations exchanges).count labels
  durations : ∀ labels, f.requestDuration labels = f₀.requestDuration labels +
    ((observations exchanges).map fun seen => (seen.1, seen.2.1)).count labels
  log : f.log = f₀.log ++ records exchanges
  inflight : f.loadShed.inflight = f₀.loadShed.inflight + arrivals exchanges - departures exchanges
  gauge : f.loadShed.inflightRequests =
    f₀.loadShed.inflightRequests + arrivals exchanges - departures exchanges
  shed : ∀ route, f.loadShed.degradedResponses route =
    f₀.loadShed.degradedResponses route + (refusals exchanges).count route
  degraded : ∀ labels, f.degradedResponses labels =
    f₀.degradedResponses labels + (degradations exchanges).count labels

theorem Tallied.start (f₀ : Front) : Tallied f₀ f₀ [] :=
  ⟨fun _ => rfl, fun _ => rfl, (List.append_nil _).symm, by simp [arrivals, departures],
    by simp [arrivals, departures], fun _ => rfl, fun _ => rfl⟩

section
variable (exchanges added : List FrontExchange)

theorem records_append : records (exchanges ++ added) = records exchanges ++ records added :=
  List.filterMap_append

theorem accessRecords_append :
    accessRecords (exchanges ++ added) = accessRecords exchanges ++ accessRecords added := by
  rw [accessRecords, records_append, List.filter_append, accessRecords, accessRecords]

theorem observations_append :
    observations (exchanges ++ added) = observations exchanges ++ observations added :=
  List.filterMap_append

theorem refusals_append : refusals (exchanges ++ added) = refusals exchanges ++ refusals added :=
  List.filterMap_append

theorem degradations_append :
    degradations (exchanges ++ added) = degradations exchanges ++ degradations added :=
  List.filterMap_append

theorem arrivals_append : arrivals (exchanges ++ added) = arrivals exchanges + arrivals added :=
  List.countP_append

theorem departures_append :
    departures (exchanges ++ added) = departures exchanges + departures added :=
  List.countP_append

end

section
variable {exchanges : List FrontExchange} {exchange : FrontExchange}

theorem filterMap_snoc {β : Type} (f : FrontExchange → Option β) :
    (exchanges ++ [exchange]).filterMap f = exchanges.filterMap f ++ (f exchange).toList := by
  rw [List.filterMap_append]
  cases found : f exchange <;> simp [found]

theorem records_snoc : records (exchanges ++ [exchange]) =
    records exchanges ++ (recordOf exchange).toList := filterMap_snoc recordOf

theorem observations_snoc : observations (exchanges ++ [exchange]) =
    observations exchanges ++ (observationOf exchange).toList := filterMap_snoc observationOf

theorem refusals_snoc : refusals (exchanges ++ [exchange]) =
    refusals exchanges ++ (refusalOf exchange).toList := filterMap_snoc refusalOf

theorem degradations_snoc : degradations (exchanges ++ [exchange]) =
    degradations exchanges ++ (degradationOf exchange).toList := filterMap_snoc degradationOf

theorem arrivals_snoc : arrivals (exchanges ++ [exchange]) =
    arrivals exchanges + if isArrival exchange then 1 else 0 := by
  rw [arrivals, List.countP_append, List.countP_singleton, arrivals]

theorem departures_snoc : departures (exchanges ++ [exchange]) =
    departures exchanges + if isDeparture exchange then 1 else 0 := by
  rw [departures, List.countP_append, List.countP_singleton, departures]

end

structure Adds (f f' : Front) (exchange : FrontExchange) : Prop where
  requests : ∀ labels, f'.requests labels =
    f.requests labels + (observationOf exchange).toList.count labels
  durations : ∀ labels, f'.requestDuration labels = f.requestDuration labels +
    ((observationOf exchange).toList.map fun seen => (seen.1, seen.2.1)).count labels
  log : f'.log = f.log ++ (recordOf exchange).toList
  inflight : f'.loadShed.inflight = f.loadShed.inflight +
    (if isArrival exchange then 1 else 0) - (if isDeparture exchange then 1 else 0)
  gauge : f'.loadShed.inflightRequests = f.loadShed.inflightRequests +
    (if isArrival exchange then 1 else 0) - (if isDeparture exchange then 1 else 0)
  shed : ∀ route, f'.loadShed.degradedResponses route =
    f.loadShed.degradedResponses route + (refusalOf exchange).toList.count route
  degraded : ∀ labels, f'.degradedResponses labels =
    f.degradedResponses labels + (degradationOf exchange).toList.count labels

theorem count_update {κ : Type} [DecidableEq κ] [BEq κ] [LawfulBEq κ] (counter : κ → ℕ)
    (label k : κ) :
    Function.update counter label (counter label + 1) k = counter k + [label].count k := by
  by_cases same : k = label
  · subst same
    rw [Function.update_self, List.count_singleton_self]
  · rw [Function.update_of_ne same, List.count_singleton]
    simp [Ne.symm same]

theorem Adds.nothing (f : Front) {exchange : FrontExchange} (record : recordOf exchange = none)
    (observation : observationOf exchange = none) (refusal : refusalOf exchange = none)
    (degradation : degradationOf exchange = none) (arrival : isArrival exchange = false)
    (departure : isDeparture exchange = false) : Adds f f exchange := by
  constructor <;> simp [record, observation, refusal, degradation, arrival, departure]

theorem adds_of_exec {f f' : Front} {op : FrontOp} {reply : op.Reply} (step : f.exec op reply f') :
    Adds f f' ⟨op, reply⟩ := by
  cases op with
  | endpoint op =>
      obtain rfl : f' = f := step
      exact Adds.nothing f' rfl rfl rfl rfl rfl rfl
  | newRequestId =>
      obtain ⟨-, rfl⟩ := step
      exact Adds.nothing f' rfl rfl rfl rfl rfl rfl
  | arrive route =>
      obtain ⟨rfl, rfl⟩ := step
      unfold LoadShedMiddleware.arrive
      split
      · refine ⟨fun _ => rfl, fun _ => rfl, (List.append_nil _).symm, ?_, ?_, fun other => ?_, fun _ => rfl⟩
        · simp [isArrival, isDeparture, LoadShedMiddleware.observeShed]
        · simp [isArrival, isDeparture, LoadShedMiddleware.observeShed]
        · exact count_update f.loadShed.degradedResponses route other
      · refine ⟨fun _ => rfl, fun _ => rfl, (List.append_nil _).symm, ?_, ?_, fun _ => rfl, fun _ => rfl⟩
        · simp [isArrival, isDeparture, LoadShedMiddleware.enter, LoadShedMiddleware.trackInflight]
        · simp [isArrival, isDeparture, LoadShedMiddleware.enter, LoadShedMiddleware.trackInflight]
  | depart =>
      obtain rfl : f' = { f with loadShed := f.loadShed.leave } := step
      refine ⟨fun _ => rfl, fun _ => rfl, (List.append_nil _).symm, ?_, ?_, fun _ => rfl, fun _ => rfl⟩
      · simp [isArrival, isDeparture, LoadShedMiddleware.leave, LoadShedMiddleware.trackInflight]
      · simp [isArrival, isDeparture, LoadShedMiddleware.leave, LoadShedMiddleware.trackInflight]
        rfl
  | observeRequest route method status =>
      obtain rfl : f' = f.observeRequest route method status := step
      refine ⟨count_update f.requests _, count_update f.requestDuration _,
        (List.append_nil _).symm, ?_, ?_, fun _ => rfl, fun _ => rfl⟩
      · simp [isArrival, isDeparture, Front.observeRequest]
      · simp [isArrival, isDeparture, Front.observeRequest]
  | observeDegradedResponse route reason =>
      obtain rfl : f' = f.observeDegradedResponse route reason := step
      refine ⟨fun _ => rfl, fun _ => rfl, (List.append_nil _).symm, ?_, ?_, fun _ => rfl,
        count_update f.degradedResponses _⟩
      · simp [isArrival, isDeparture, Front.observeDegradedResponse]
      · simp [isArrival, isDeparture, Front.observeDegradedResponse]
  | log record =>
      obtain rfl : f' = { f with log := f.log ++ [record] } := step
      refine ⟨fun _ => rfl, fun _ => rfl, rfl, ?_, ?_, fun _ => rfl, fun _ => rfl⟩
      · simp [isArrival, isDeparture]
      · simp [isArrival, isDeparture]

theorem Tallied.snoc {f₀ f f' : Front} {exchanges : List FrontExchange} {exchange : FrontExchange}
    (tallied : Tallied f₀ f exchanges) (adds : Adds f f' exchange) :
    Tallied f₀ f' (exchanges ++ [exchange]) := by
  refine ⟨fun labels => ?_, fun labels => ?_, ?_, ?_, ?_, fun route => ?_, fun labels => ?_⟩
  · rw [adds.requests, tallied.requests, observations_snoc, List.count_append, Nat.add_assoc]
  · rw [adds.durations, tallied.durations, observations_snoc, List.map_append, List.count_append,
      Nat.add_assoc]
  · rw [adds.log, tallied.log, records_snoc, List.append_assoc]
  · rw [adds.inflight, tallied.inflight, arrivals_snoc, departures_snoc]
    push_cast
    ring
  · rw [adds.gauge, tallied.gauge, arrivals_snoc, departures_snoc]
    push_cast
    ring
  · rw [adds.shed, tallied.shed, refusals_snoc, List.count_append, Nat.add_assoc]
  · rw [adds.degraded, tallied.degraded, degradations_snoc, List.count_append, Nat.add_assoc]

end ContentPlatform
