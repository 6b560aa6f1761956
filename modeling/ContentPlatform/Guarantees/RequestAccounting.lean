import ContentPlatform.World.Tally

/-!
# One record, one observation, one id

Every request that is answered is in the access log once and in the request counter once, under the
status that was sent, and everything that names it names it by one id.
-/

set_option autoImplicit false

namespace ContentPlatform

open Program Text

/-! ## What a request may do next -/

def Admitted (a : Application) (request : HttpRequest) : Prop :=
  ∃ principal, AuthMiddleware.dispatch a.jwt ⟨request.method, request.path, request.authorization⟩ =
    .ok (.proceeds principal)

def HasPlace (request : HttpRequest) (before : List FrontExchange) : Prop :=
  Application.exempt request.path = true ∨ arrivals before = departures before + 1

def Permitted (a : Application) (request : HttpRequest) (before : List FrontExchange) :
    FrontOp → Prop
  | .endpoint _ => Admitted a request ∧ HasPlace request before
  | .newRequestId => before = []
  | .arrive _ => Application.exempt request.path = false ∧ arrivals before = 0 ∧ refusals before = []
  | .depart => arrivals before = departures before + 1
  | .observeRequest route method _ => Application.exempt route = false ∧ method = request.method ∧
      observations before = [] ∧ accessRecords before = []
  | .observeDegradedResponse _ _ => Admitted a request ∧ HasPlace request before
  | .log record => record.isAccess = true → accessRecords before = []

/-- The only answer that is not the process' own. -/
def answered : (op : FrontOp) → op.Reply → Prop
  | .newRequestId, id => IsHexId id
  | _, _ => True

theorem Site.exec_answered {σ : Setting} {i : Pid} {op : FrontOp} {s s' : Site} {reply : op.Reply}
    (step : Site.exec σ i op s reply s') : answered op reply := by
  cases op with
  | newRequestId => exact step.1.1
  | _ => trivial

/-! ## The layers -/

def Body.Names (id : String) : Body → Prop
  | .envelope _ _ requestId _ => requestId = id
  | _ => True

theorem errorEnvelope_named {scope : Scope} {id : String} (named : scope.requestId = some id)
    (nonempty : id ≠ "") (error : ErrorResponse) (details : Json) :
    errorEnvelope scope error details = .ret ⟨error.status,
      .envelope error.code error.message id (orEmpty details), error.retryAfter, none⟩ := by
  rw [errorEnvelope, named]
  simp only [if_neg nonempty]
  rfl

structure Scope.Named (request : HttpRequest) (id : String) (scope : Scope) : Prop where
  requestId : scope.requestId = some id
  bound : scope.bound = some id
  route : scope.route = none ∨ scope.route = request.routed.route

def tellsWhen : Except Exc HttpResponse → Bool
  | .ok response => response.retryAfter.isSome
  | .error _ => false

/-- An answer that tells the client when to come back is counted as one for load or as one for a
dependency, and no other answer is. -/
def Shortfall (a : Application) (request : HttpRequest) (ended : Scope × Except Exc HttpResponse)
    (added : List FrontExchange) : Prop :=
  if tellsWhen ended.2 then
    (refusals added = [a.routeLabel request ended.1] ∧ degradations added = []) ∨
      (refusals added = [] ∧ ∃ kind : DomainKind, ∃ reason, kind.degradedReason = some reason ∧
        degradations added = [(a.routeLabel request ended.1, reason)])
  else refusals added = [] ∧ degradations added = []

namespace Shortfall

variable {a : Application} {request : HttpRequest} {ended : Scope × Except Exc HttpResponse}
  {added : List FrontExchange}

theorem none_ (plain : tellsWhen ended.2 = false) (refused : refusals added = [])
    (degraded : degradations added = []) : Shortfall a request ended added := by
  rw [Shortfall, plain]
  exact ⟨refused, degraded⟩

/-- Only these two counts matter. -/
theorem congr_ (shortfall : Shortfall a request ended added) {added' : List FrontExchange}
    (refused : refusals added' = refusals added)
    (degraded : degradations added' = degradations added) : Shortfall a request ended added' := by
  rw [Shortfall, refused, degraded]
  exact shortfall

end Shortfall

structure Unseen (added : List FrontExchange) : Prop where
  records : records added = []
  observations : observations added = []
  arrivals : arrivals added = 0
  departures : departures added = 0
  refusals : refusals added = []
  degradations : degradations added = []

theorem Unseen.of_inner {added : List FrontExchange}
    (inner : ∀ exchange ∈ added, ∃ op, exchange.1 = .endpoint op) : Unseen added := by
  refine ⟨List.filterMap_eq_nil_iff.mpr ?_, List.filterMap_eq_nil_iff.mpr ?_,
    List.countP_eq_zero.mpr ?_, List.countP_eq_zero.mpr ?_, List.filterMap_eq_nil_iff.mpr ?_,
    List.filterMap_eq_nil_iff.mpr ?_⟩
  all_goals
    rintro ⟨op, reply⟩ member
    obtain ⟨op, rfl⟩ := inner _ member
    first | rfl | exact Bool.false_ne_true

/-- What every layer leaves to the next one. -/
structure Left (a : Application) (request : HttpRequest) (id : String)
    (ended : Scope × Except Exc HttpResponse) (added : List FrontExchange) : Prop where
  scope : ended.1.Named request id
  names : ∀ response, ended.2 = .ok response → response.body.Names id
  records : ∀ record ∈ records added, record.requestId = some id
  balanced : arrivals added = departures added
  shortfall : Shortfall a request ended added

structure OwnPart (id : String) (own : List FrontExchange) : Prop where
  records : ∀ record ∈ records own, record.requestId = some id
  balanced : arrivals own = departures own
  refusals : refusals own = []
  degradations : degradations own = []

namespace Left

variable {a : Application} {request : HttpRequest} {id : String}
  {ended : Scope × Except Exc HttpResponse} {added : List FrontExchange}

theorem append (left : Left a request id ended added) {own : List FrontExchange}
    (adds : OwnPart id own) : Left a request id ended (added ++ own) := by
  refine ⟨left.scope, left.names, ?_, ?_, left.shortfall.congr_ ?_ ?_⟩
  · rw [records_append]
    intro record member
    rcases List.mem_append.mp member with within | last
    · exact left.records record within
    · exact adds.records record last
  · rw [arrivals_append, departures_append, left.balanced, adds.balanced]
  · rw [refusals_append, adds.refusals, List.append_nil]
  · rw [degradations_append, adds.degradations, List.append_nil]

theorem prepend (left : Left a request id ended added) {unseen : List FrontExchange}
    (aside : Unseen unseen) : Left a request id ended (unseen ++ added) := by
  refine ⟨left.scope, left.names, ?_, ?_, left.shortfall.congr_ ?_ ?_⟩
  · rw [records_append, aside.records, List.nil_append]
    exact left.records
  · rw [arrivals_append, departures_append, aside.arrivals, aside.departures, left.balanced]
  · rw [refusals_append, aside.refusals, List.nil_append]
  · rw [degradations_append, aside.degradations, List.nil_append]

end Left

/-- A record of the layer. -/
theorem OwnPart.log {id : String} {level : LogLevel} {scope : Scope} {event : LogEvent}
    {reply : Unit}
    (bound : scope.bound = some id) : OwnPart id [⟨.log ⟨level, scope.bound, event⟩, reply⟩] := by
  refine ⟨fun record member => ?_, rfl, rfl, rfl⟩
  obtain rfl := List.mem_singleton.mp member
  exact bound

structure Silent (a : Application) (request : HttpRequest) (id : String)
    (ended : Scope × Except Exc HttpResponse) (added : List FrontExchange) : Prop
    extends Left a request id ended added where
  observations : observations added = []
  access : accessRecords added = []

section
variable {a : Application} {http : Pid → HttpRequest} {i : Pid} {id : String} {scope : Scope}
  {before : List FrontExchange}

abbrev Does {α : Type} (a : Application) (http : Pid → HttpRequest) (i : Pid)
    (before : List FrontExchange) (p : Asgi α) (post : α → List FrontExchange → Prop) : Prop :=
  Writes (fun i => Permitted a (http i)) answered i before p post

/-- An answer of the layer itself, -/
theorem Silent.answer (named : scope.Named (http i) id) {outcome : Except Exc HttpResponse}
    (names : ∀ response, outcome = .ok response → response.body.Names id)
    (plain : tellsWhen outcome = false) : Silent a (http i) id (scope, outcome) [] :=
  ⟨⟨named, names, (fun _ impossible => nomatch impossible), rfl, .none_ plain rfl rfl⟩, rfl, rfl⟩

/-- with a record of it. -/
theorem Silent.logged {ended : Scope × Except Exc HttpResponse} (named : scope.Named (http i) id)
    (silent : Silent a (http i) id ended []) {level : LogLevel} {event : LogEvent} (reply : Unit)
    (other : LogRecord.isAccess ⟨level, scope.bound, event⟩ = false) :
    Silent a (http i) id ended [⟨.log ⟨level, scope.bound, event⟩, reply⟩] := by
  refine ⟨silent.toLeft.append (OwnPart.log named.bound), rfl, ?_⟩
  show List.filter LogRecord.isAccess [⟨level, scope.bound, event⟩] = []
  rw [List.filter_cons_of_neg (by rw [other]; exact Bool.false_ne_true), List.filter_nil]

theorem Silent.prepend {ended : Scope × Except Exc HttpResponse} {added added' : List FrontExchange}
    (unseen : Unseen added) (silent : Silent a (http i) id ended added') :
    Silent a (http i) id ended (added ++ added') := by
  refine ⟨silent.toLeft.prepend unseen, ?_, ?_⟩
  · rw [observations_append, unseen.observations, silent.observations]
    rfl
  · rw [accessRecords_append, silent.access, accessRecords, unseen.records]
    rfl

theorem tellsWhen_domain (kind : DomainKind) (message : String) :
    (errorResponse (.domain kind message)).retryAfter.isSome = kind.degradedReason.isSome := by
  cases kind <;> rfl

theorem does_domainError (named : scope.Named (http i) id) (nonempty : id ≠ "")
    (admitted : Admitted a (http i)) (place : HasPlace (http i) before) (kind : DomainKind)
    (message : String) :
    Does a http i before (a.domainError (http i) scope kind message) fun response added =>
      Silent a (http i) id (scope, .ok response) added := by
  have when := tellsWhen_domain kind message
  unfold Application.domainError
  simp only [errorEnvelope_named named.requestId nonempty]
  split
  · rename_i reason degraded
    apply Writes.call ⟨admitted, place⟩
    intro _ _
    apply Writes.ret
    refine ⟨⟨named, ?_, (fun _ impossible => nomatch impossible), rfl, ?_⟩, rfl, rfl⟩
    · rintro _ ⟨⟩
      rfl
    · rw [Shortfall, if_pos (by rw [tellsWhen, when, degraded]; rfl)]
      exact Or.inr ⟨rfl, kind, reason, degraded, rfl⟩
  · rename_i plain
    apply Writes.ret
    apply Silent.answer named
    · rintro _ ⟨⟩
      rfl
    · rw [tellsWhen, when, plain]
      rfl

theorem HasPlace.append {request : HttpRequest} (place : HasPlace request before)
    {added : List FrontExchange} (unseen : Unseen added) : HasPlace request (before ++ added) := by
  rcases place with exempt | place
  · exact Or.inl exempt
  · right
    rw [arrivals_append, departures_append, unseen.arrivals, unseen.departures]
    exact place

structure Bare (outcome : Except Exc HttpResponse) : Prop where
  names : ∀ id response, outcome = .ok response → response.body.Names id
  silent : tellsWhen outcome = false

theorem does_handled (named : scope.Named (http i) id) (nonempty : id ≠ "")
    (admitted : Admitted a (http i)) (place : HasPlace (http i) before)
    {outcome : Except Exc HttpResponse} (plain : Bare outcome) :
    Does a http i before (a.handled (http i) scope outcome) (Silent a (http i) id) := by
  unfold Application.handled
  split
  · rename_i kind message
    refine (does_domainError named nonempty admitted place kind message).bind
      fun response added silent => Writes.ret ?_
    rw [List.append_nil]
    exact silent
  · simp only [errorEnvelope_named named.requestId nonempty]
    exact Writes.ret (Silent.answer named (by rintro _ ⟨⟩; rfl) rfl)
  · exact Writes.ret (Silent.answer named (plain.names id) plain.silent)

theorem does_router (named : scope.Named (http i) id) (nonempty : id ≠ "")
    (admitted : Admitted a (http i)) (place : HasPlace (http i) before) :
    Does a http i before (a.router (http i) scope) (Silent a (http i) id) := by
  have routed : ({ scope with route := (http i).routed.route } : Scope).Named (http i) id :=
    ⟨named.requestId, named.bound, Or.inr rfl⟩
  unfold Application.router
  generalize ({ scope with route := (http i).routed.route } : Scope) = inside at routed
  simp only
  split
  · exact Writes.ret (Silent.answer routed (by rintro _ ⟨⟩; trivial) rfl)
  · exact Writes.ret (Silent.answer routed (by rintro _ ⟨⟩; trivial) rfl)
  · rename_i result _
    apply does_handled routed nonempty admitted place
    cases result with
    | ok status => exact ⟨by rintro _ _ ⟨⟩; trivial, rfl⟩
    | error error => exact ⟨by rintro _ _ ⟨⟩, rfl⟩
  · rename_i endpoint _
    refine (Writes.embed _ fun added inner op => ⟨admitted, place.append (Unseen.of_inner inner)⟩).bind
      fun outcome added inner => ?_
    have unseen := Unseen.of_inner inner
    refine (does_handled routed nonempty admitted (place.append unseen) ?_).mono
      fun _ _ silent => silent.prepend unseen
    cases outcome with
    | ok value => exact ⟨by rintro _ _ ⟨⟩; trivial, rfl⟩
    | error error => exact ⟨by rintro _ _ ⟨⟩, rfl⟩

theorem authorize_plain {requirement : Requirement} {principal : Option Principal}
    {denial : ErrorResponse} (denied : authorize requirement principal = some denial) :
    denial.retryAfter = none := by
  unfold authorize at denied
  split at denied
  · cases denied
  · obtain rfl := Option.some.inj denied
    rfl
  · cases denied
  · obtain rfl := Option.some.inj denied
    rfl
  · cases denied

/-- What `AuthMiddleware` and the router owe the layers around them. -/
theorem does_authorized {callNext : CallNext} (named : scope.Named (http i) id) (nonempty : id ≠ "")
    (inner : authorize (routeRequirement (http i).method (http i).path) scope.principal = none →
      Does a http i before (callNext scope) (Silent a (http i) id)) :
    Does a http i before (a.authorized (http i) callNext scope) (Silent a (http i) id) := by
  unfold Application.authorized
  simp only
  split
  · rename_i allowed
    exact inner allowed
  · rename_i denied
    simp only [errorEnvelope_named named.requestId nonempty]
    apply Writes.call (fun impossible => nomatch impossible)
    intro reply _
    apply Writes.ret
    refine Silent.logged named (Silent.answer named ?_ ?_) reply rfl
    · rintro _ ⟨⟩
      rfl
    · rw [tellsWhen, authorize_plain denied]
      rfl

theorem admitted_of_apply {principal : Option Principal}
    (dispatched : AuthMiddleware.dispatch a.jwt ⟨(http i).method, (http i).path,
      (http i).authorization⟩ = .ok (AuthMiddleware.apply ⟨(http i).method, (http i).path,
      (http i).authorization⟩ principal))
    (allowed : authorize (routeRequirement (http i).method (http i).path) principal = none) :
    Admitted a (http i) := by
  refine ⟨principal, ?_⟩
  rw [dispatched, AuthMiddleware.apply, allowed]

theorem does_auth (named : scope.Named (http i) id) (nonempty : id ≠ "")
    (place : HasPlace (http i) before) :
    Does a http i before (a.authMiddleware (http i) (a.router (http i)) scope)
      (Silent a (http i) id) := by
  have outside : ∀ principal, ({ scope with principal := principal } : Scope).Named (http i) id :=
    fun _ => ⟨named.requestId, named.bound, named.route⟩
  have proceeds : ∀ principal : Option Principal,
      AuthMiddleware.dispatch a.jwt ⟨(http i).method, (http i).path, (http i).authorization⟩ =
        .ok (AuthMiddleware.apply ⟨(http i).method, (http i).path, (http i).authorization⟩
          principal) →
      Does a http i before (a.authorized (http i) (a.router (http i))
        { scope with principal := principal }) (Silent a (http i) id) := fun principal dispatched =>
    does_authorized (outside principal) nonempty fun allowed =>
      does_router (outside principal) nonempty (admitted_of_apply dispatched allowed) place
  unfold Application.authMiddleware
  simp only
  split
  · rename_i absent
    apply proceeds none
    simp only [AuthMiddleware.dispatch, absent]
  · rename_i token present
    split
    · simp only [errorEnvelope_named (outside none).requestId nonempty]
      apply Writes.call (fun impossible => nomatch impossible)
      intro reply _
      apply Writes.ret
      exact Silent.logged (outside none) (Silent.answer (outside none) (by rintro _ ⟨⟩; rfl) rfl)
        reply rfl
    · exact Writes.ret (Silent.answer (outside none) (by rintro _ ⟨⟩) rfl)
    · rename_i claims decoded
      split
      · rename_i sub role subject named_role
        apply proceeds (some ⟨sub, role⟩)
        simp only [AuthMiddleware.dispatch, present, decoded, subject, named_role]
      · exact Writes.ret (Silent.answer (outside none) (by rintro _ ⟨⟩) rfl)

structure Beginning (before : List FrontExchange) : Prop where
  observations : observations before = []
  access : accessRecords before = []
  arrivals : arrivals before = 0
  departures : departures before = 0
  refusals : refusals before = []

/-- A request that was let in and has left again. -/
theorem Silent.around {ended : Scope × Except Exc HttpResponse} {added : List FrontExchange}
    (silent : Silent a (http i) id ended added) (route : String) (reply : Unit) :
    Silent a (http i) id ended (⟨.arrive route, none⟩ :: (added ++ [⟨.depart, reply⟩])) := by
  have whole : (⟨.arrive route, none⟩ :: (added ++ [⟨.depart, reply⟩]) : List FrontExchange) =
      [⟨.arrive route, none⟩] ++ added ++ [⟨.depart, reply⟩] := rfl
  refine ⟨⟨silent.scope, silent.names, ?_, ?_, silent.shortfall.congr_ ?_ ?_⟩, ?_, ?_⟩
  · rw [whole, records_append, records_append]
    intro record member
    rcases List.mem_append.mp member with within | impossible
    · exact silent.records record within
    · cases impossible
  · rw [whole, arrivals_append, arrivals_append, departures_append, departures_append,
      silent.balanced]
    show 1 + departures added + 0 = 0 + departures added + 1
    omega
  · rw [whole, refusals_append, refusals_append]
    exact List.append_nil _
  · rw [whole, degradations_append, degradations_append]
    exact List.append_nil _
  · rw [whole, observations_append, observations_append, silent.observations]
    rfl
  · rw [whole, accessRecords_append, accessRecords_append, silent.access]
    rfl

theorem does_loadShed (named : scope.Named (http i) id) (nonempty : id ≠ "")
    (beginning : Beginning before) :
    Does a http i before (a.loadShedMiddleware (http i)
      (a.authMiddleware (http i) (a.router (http i))) scope) (Silent a (http i) id) := by
  unfold Application.loadShedMiddleware
  split
  · rename_i exempt
    exact does_auth named nonempty (Or.inl exempt)
  · rename_i counted
    apply Writes.call ⟨Bool.eq_false_iff.mpr counted, beginning.arrivals, beginning.refusals⟩
    intro refused _
    cases refused with
    | some inflight =>
        simp only [errorEnvelope_named named.requestId nonempty]
        apply Writes.call (fun impossible => nomatch impossible)
        intro _ _
        apply Writes.ret
        refine ⟨⟨named, ?_, ?_, rfl, Or.inl ⟨rfl, rfl⟩⟩, rfl, rfl⟩
        · rintro _ ⟨⟩
          rfl
        · intro record member
          obtain rfl := List.mem_singleton.mp member
          exact named.bound
    | none =>
        have place : arrivals (before ++ [⟨.arrive (a.routeLabel (http i) scope), none⟩]) =
            departures (before ++ [⟨.arrive (a.routeLabel (http i) scope), none⟩]) + 1 := by
          rw [arrivals_append, departures_append, beginning.arrivals, beginning.departures]
          rfl
        refine (does_auth named nonempty (Or.inr place)).bind fun ended added silent => ?_
        refine Writes.call ?_ fun _ _ => Writes.ret (silent.around _ _)
        show arrivals _ = departures _ + 1
        rw [arrivals_append, departures_append, place, silent.balanced]
        omega

/-- The status that is counted for what a layer ends with; a cancellation has none. -/
def countedStatus : Except Exc HttpResponse → Option ℕ
  | .ok response => some response.status
  | .error error => if error.isException then some 500 else none

def hasRaised : Except Exc HttpResponse → Bool
  | .ok _ => false
  | .error _ => true

def expectedObservations (a : Application) (request : HttpRequest)
    (ended : Scope × Except Exc HttpResponse) : List (String × String × ℕ) :=
  match countedStatus ended.2 with
  | some status =>
      if Application.exempt (a.routeLabel request ended.1) then []
      else [(a.routeLabel request ended.1, request.method, status)]
  | none => []

def expectedRecords (a : Application) (request : HttpRequest) (id : String)
    (ended : Scope × Except Exc HttpResponse) : List LogRecord :=
  match countedStatus ended.2 with
  | some status => [⟨Application.logLevel status, some id,
      a.fields request ended.1 status (hasRaised ended.2)⟩]
  | none => []

structure Metered (a : Application) (request : HttpRequest) (id : String)
    (ended : Scope × Except Exc HttpResponse) (added : List FrontExchange) : Prop
    extends Left a request id ended added where
  observations : observations added = expectedObservations a request ended
  access : accessRecords added = []

structure Logged (a : Application) (request : HttpRequest) (id : String)
    (ended : Scope × Except Exc HttpResponse) (added : List FrontExchange) : Prop
    extends Left a request id ended added where
  observations : observations added = expectedObservations a request ended
  access : accessRecords added = expectedRecords a request id ended

theorem does_observe {ended : Scope × Except Exc HttpResponse} {added : List FrontExchange}
    {status : ℕ} (counted : countedStatus ended.2 = some status) (beginning : Beginning before)
    (silent : Silent a (http i) id ended added) :
    Does a http i (before ++ added) (a.observe (http i) ended.1 status) fun _ added' =>
      Metered a (http i) id ended (added ++ added') := by
  unfold Application.observe
  simp only
  split
  · rename_i exempt
    apply Writes.ret
    rw [List.append_nil]
    refine ⟨silent.toLeft, ?_, silent.access⟩
    rw [silent.observations, expectedObservations, counted]
    simp only [exempt, if_true]
  · rename_i seen
    have other : Application.exempt (a.routeLabel (http i) ended.1) = false :=
      Bool.eq_false_iff.mpr seen
    apply Writes.call
    · refine ⟨other, rfl, ?_, ?_⟩
      · rw [observations_append, beginning.observations, silent.observations]
        rfl
      · rw [accessRecords_append, beginning.access, silent.access]
        rfl
    · intro _ _
      apply Writes.ret
      refine ⟨silent.toLeft.append ⟨(fun _ impossible => nomatch impossible), rfl, rfl, rfl⟩, ?_, ?_⟩
      · rw [observations_append, silent.observations, expectedObservations, counted]
        simp only [other, Bool.false_eq_true, if_false]
        rfl
      · rw [accessRecords_append, silent.access]
        rfl

theorem does_metrics (named : scope.Named (http i) id) (nonempty : id ≠ "")
    (beginning : Beginning before) :
    Does a http i before (a.metricsMiddleware (http i) (a.loadShedMiddleware (http i)
      (a.authMiddleware (http i) (a.router (http i)))) scope) (Metered a (http i) id) := by
  refine (does_loadShed named nonempty beginning).bind fun ended added silent => ?_
  obtain ⟨after, outcome⟩ := ended
  cases outcome with
  | ok response =>
      refine (does_observe rfl beginning silent).bind fun _ added' observed => Writes.ret ?_
      rw [List.append_nil]
      exact observed
  | error error =>
      simp only
      split
      · rename_i caught
        have counted : countedStatus (.error error) = some 500 := if_pos caught
        refine (does_observe counted beginning silent).bind fun _ added' observed => Writes.ret ?_
        rw [List.append_nil]
        exact observed
      · rename_i cancelled
        apply Writes.ret
        rw [List.append_nil]
        refine ⟨silent.toLeft, ?_, silent.access⟩
        have counted : countedStatus (.error error) = none := if_neg cancelled
        rw [silent.observations, expectedObservations, counted]

theorem does_logger {ended : Scope × Except Exc HttpResponse} {added : List FrontExchange}
    {status : ℕ} (counted : countedStatus ended.2 = some status) (beginning : Beginning before)
    (observed : Metered a (http i) id ended added) :
    Does a http i (before ++ added) (logger (Application.logLevel status) ended.1
      (a.fields (http i) ended.1 status (hasRaised ended.2))) fun _ added' =>
      Logged a (http i) id ended (added ++ added') := by
  apply Writes.call
  · intro _
    rw [accessRecords_append, beginning.access, observed.access]
    rfl
  · intro _ _
    apply Writes.ret
    refine ⟨observed.toLeft.append (OwnPart.log observed.scope.bound), ?_, ?_⟩
    · rw [observations_append, observed.observations]
      exact List.append_nil _
    · rw [accessRecords_append, observed.access, expectedRecords, counted, ← observed.scope.bound]
      rfl

theorem does_accessLog (named : scope.Named (http i) id) (nonempty : id ≠ "")
    (beginning : Beginning before) :
    Does a http i before (a.accessLogMiddleware (http i) (a.metricsMiddleware (http i)
      (a.loadShedMiddleware (http i) (a.authMiddleware (http i) (a.router (http i))))) scope)
      (Logged a (http i) id) := by
  refine (does_metrics named nonempty beginning).bind fun ended added observed => ?_
  obtain ⟨after, outcome⟩ := ended
  cases outcome with
  | ok response =>
      refine (does_logger rfl beginning observed).bind fun _ added' logged => Writes.ret ?_
      rw [List.append_nil]
      exact logged
  | error error =>
      simp only
      split
      · rename_i caught
        have counted : countedStatus (.error error) = some 500 := if_pos caught
        refine (does_logger counted beginning observed).bind fun _ added' logged => Writes.ret ?_
        rw [List.append_nil]
        exact logged
      · rename_i cancelled
        apply Writes.ret
        rw [List.append_nil]
        refine ⟨observed.toLeft, observed.observations, ?_⟩
        have counted : countedStatus (.error error) = none := if_neg cancelled
        rw [observed.access, expectedRecords, counted]

/-! ## The whole chain -/

def Identifies (request : HttpRequest) (id : String) : Prop :=
  isRequestId id = true ∧ ∀ given, sanitizeRequestId request.requestId = some given → id = given

theorem Identifies.nonempty {request : HttpRequest} (identifies : Identifies request id) :
    id ≠ "" := by
  rintro rfl
  have impossible := identifies.1
  revert impossible
  decide

theorem Scope.Named.label {request : HttpRequest} (named : scope.Named request id) :
    a.routeLabel request scope = matchRouteTable a.routes request.method request.path ∨
      request.routed.route = some (a.routeLabel request scope) := by
  unfold Application.routeLabel routeTemplate
  rcases named.route with absent | routed
  · rw [absent]
    exact Or.inl rfl
  · cases chosen : scope.route with
    | none => exact Or.inl rfl
    | some route =>
        rw [chosen] at routed
        exact Or.inr routed.symm

theorem Logged.prepend {request : HttpRequest} {ended : Scope × Except Exc HttpResponse}
    {added added' : List FrontExchange} (unseen : Unseen added)
    (logged : Logged a request id ended added') : Logged a request id ended (added ++ added') := by
  refine ⟨logged.toLeft.prepend unseen, ?_, ?_⟩
  · rw [observations_append, unseen.observations, logged.observations]
    rfl
  · rw [accessRecords_append, logged.access, accessRecords, unseen.records]
    rfl

/-- What the outermost layer of the chain leaves: the header of `X-Request-ID` is on a response. -/
def Headed (a : Application) (request : HttpRequest) (ended : Scope × Except Exc HttpResponse)
    (added : List FrontExchange) : Prop :=
  ∃ id outcome, Identifies request id ∧ Logged a request id (ended.1, outcome) added ∧
    ended.2 = outcome.map fun response => { response with requestId := some id }

theorem does_chain : Does a http i [] (a.chain (http i) ⟨none, none, none, none⟩)
    (Headed a (http i)) := by
  have inside : ∀ requestId before, Identifies (http i) requestId → Beginning before →
      Does a http i before (Prog.bind (a.accessLogMiddleware (http i) (a.metricsMiddleware (http i)
        (a.loadShedMiddleware (http i) (a.authMiddleware (http i) (a.router (http i)))))
        ⟨some requestId, some requestId, none, none⟩) fun ended =>
          .ret (ended.1, ended.2.map fun response => { response with requestId := some requestId }))
        fun ended added => ∃ outcome, Logged a (http i) requestId (ended.1, outcome) added ∧
          ended.2 = outcome.map fun response => { response with requestId := some requestId } := by
    intro requestId before identifies beginning
    refine (does_accessLog ⟨rfl, rfl, Or.inl rfl⟩ identifies.nonempty beginning).bind
      fun ended added logged => Writes.ret ⟨ended.2, ?_, rfl⟩
    rw [List.append_nil]
    exact logged
  unfold Application.chain Application.requestIDMiddleware
  cases given : sanitizeRequestId (http i).requestId with
  | some requestId =>
      have valid : Identifies (http i) requestId := by
        refine ⟨(Option.filter_eq_some_iff.mp given).2, fun other same => ?_⟩
        exact Option.some.inj (given.symm.trans same)
      exact (inside requestId [] valid ⟨rfl, rfl, rfl, rfl, rfl⟩).mono
        fun ended added ⟨outcome, logged, same⟩ => ⟨requestId, outcome, valid, logged, same⟩
  | none =>
      apply Writes.call rfl
      intro requestId minted
      have valid : Identifies (http i) requestId := by
        refine ⟨IsHexId.isRequestId minted, fun other same => ?_⟩
        cases given.symm.trans same
      refine (inside requestId _ valid ⟨rfl, rfl, rfl, rfl, rfl⟩).mono
        fun ended added ⟨outcome, logged, same⟩ => ⟨requestId, outcome, valid, ?_, same⟩
      have unseen : Unseen [⟨.newRequestId, requestId⟩] := ⟨rfl, rfl, rfl, rfl, rfl, rfl⟩
      exact logged.prepend unseen

/-- A response that was sent: what was logged, counted and sent with it.  An exception that nothing
handles is answered outside the chain, where the header is not set. -/
structure Sent (request : HttpRequest) (id route : String) (response : HttpResponse)
    (raised : Option Exc) (exchanges : List FrontExchange) : Prop where
  logged : ∃ user, accessRecords exchanges = [⟨Application.logLevel response.status, some id,
    .httpRequest user route request.method response.status raised.isSome⟩]
  observed : observations exchanges =
    if Application.exempt route then [] else [(route, request.method, response.status)]
  names : response.body.Names id
  header : (raised = none ∧ response.requestId = some id) ∨
    (raised.isSome = true ∧ response.status = 500 ∧ response.requestId = none)
  shortfall : if response.retryAfter.isSome then
      (refusals exchanges = [route] ∧ degradations exchanges = []) ∨
        (refusals exchanges = [] ∧ ∃ kind : DomainKind, ∃ reason, kind.degradedReason = some reason ∧
          degradations exchanges = [(route, reason)])
    else refusals exchanges = [] ∧ degradations exchanges = []

/-- A request that was cancelled: nothing was sent, and nothing counts it. -/
structure Cancelled (raised : Option Exc) (exchanges : List FrontExchange) : Prop where
  raised : ∃ error, raised = some error ∧ error.isException = false
  logged : accessRecords exchanges = []
  observed : observations exchanges = []
  refused : refusals exchanges = []
  degraded : degradations exchanges = []

/-- What the end of a request has left. -/
structure Accounted (a : Application) (request : HttpRequest) (id route : String) (ending : Ending)
    (exchanges : List FrontExchange) : Prop where
  identifies : Identifies request id
  label : route = matchRouteTable a.routes request.method request.path ∨
    request.routed.route = some route
  records : ∀ record ∈ records exchanges, record.requestId = some id
  balanced : arrivals exchanges = departures exchanges
  sent : ∀ response, ending.response = some response →
    Sent request id route response ending.raised exchanges
  cancelled : ending.response = none → Cancelled ending.raised exchanges

theorem does_handle : Does a http i [] (a.handle (http i)) fun ending exchanges =>
    ∃ id route, Accounted a (http i) id route ending exchanges := by
  refine does_chain.bind fun ended added headed => ?_
  obtain ⟨after, shown⟩ := ended
  obtain ⟨id, outcome, identifies, logged, rfl⟩ := headed
  have access := logged.access
  have observed := logged.observations
  have shortfall := logged.shortfall
  have label : a.routeLabel (http i) after = matchRouteTable a.routes (http i).method (http i).path ∨
      (http i).routed.route = some (a.routeLabel (http i) after) := logged.scope.label
  cases outcome with
  | ok response =>
      apply Writes.ret
      rw [List.append_nil]
      refine ⟨id, _, identifies, label, logged.records, logged.balanced, ?_, nofun⟩
      rintro _ ⟨⟩
      exact ⟨⟨_, access⟩, observed, logged.names response rfl, Or.inl ⟨rfl, rfl⟩, shortfall⟩
  | error error =>
      show Does a http i _ (if error.isException then _ else _) _
      split
      · rename_i caught
        have counted : countedStatus (.error error) = some 500 := if_pos caught
        rw [expectedRecords, counted] at access
        rw [expectedObservations, counted] at observed
        rw [errorEnvelope_named logged.scope.requestId identifies.nonempty]
        apply Writes.ret
        rw [List.append_nil]
        refine ⟨id, _, identifies, label, logged.records, logged.balanced, ?_, nofun⟩
        rintro _ ⟨⟩
        exact ⟨⟨_, access⟩, observed, rfl, Or.inr ⟨rfl, rfl, rfl⟩, shortfall⟩
      · rename_i cancelled
        have counted : countedStatus (.error error) = none := if_neg cancelled
        rw [expectedRecords, counted] at access
        rw [expectedObservations, counted] at observed
        apply Writes.ret
        rw [List.append_nil]
        refine ⟨id, _, identifies, label, logged.records, logged.balanced, by rintro _ ⟨⟩,
          fun _ => ?_⟩
        exact ⟨⟨error, rfl, Bool.eq_false_iff.mpr cancelled⟩, access, observed, shortfall.1,
          shortfall.2⟩

end

/-- However requests interleave and whatever fails in them: each does what it may do only, and one
that ends leaves one record, one observation and one id behind; what the process has counted is what
its requests have done. -/
theorem requests_accounted (σ : Setting) (a : Application) (http : Pid → HttpRequest) {s : Site}
    {c : HttpSystem} (run : σ.Handles (a.start http s) c) :
    ∃ chronicle : List (Pid × FrontExchange),
      Tallied s.front c.state.front (chronicle.map Prod.snd) ∧
      (∀ i, Disciplined (Permitted a (http i)) (part i chronicle)) ∧
      ∀ i outcome, c.outcome i = some outcome → ∃ ending id route, outcome = .ok ending ∧
        Accounted a (http i) id route ending (part i chronicle) := by
  obtain ⟨chronicle, written⟩ := run.chronicled
  have tallied : Tallied s.front c.state.front (chronicle.map Prod.snd) := by
    refine written.invariant (I := fun s' chronicle =>
      Tallied s.front s'.front (chronicle.map Prod.snd)) (Tallied.start _) ?_ ?_
    · intro i op s₁ reply s₂ chronicle before step
      rw [List.map_append]
      exact before.snoc (adds_of_exec step.1)
    · rintro s₁ s₂ chronicle before ⟨-, same⟩
      rw [same]
      exact before
  obtain ⟨orderly, ended⟩ := written.writes (fun _ _ _ _ _ step => Site.exec_answered step)
    fun i => does_handle
  refine ⟨chronicle, tallied, orderly, fun i outcome last => ?_⟩
  obtain ⟨ending, same, id, route, accounted⟩ := ended i outcome last
  exact ⟨ending, id, route, same, accounted⟩

/-! ## A request that is denied -/

def emptySite : Site where
  world := World.fresh editedArticle 2 [ann]
  front := ⟨⟨1, 1, 0, 0, fun _ => 0⟩, fun _ => 0, fun _ => 0, fun _ => 0, []⟩

def smallApplication : Application :=
  ⟨⟨defaultRuntime fun _ => "", true⟩, ⟨"key", fun _ _ => none, fun _ => false⟩, fun _ => "", [], 1⟩

def anonymousDelete : HttpRequest :=
  ⟨"DELETE", "/v1/articles/1", some "trace-me-1", none,
    .endpoint "/v1/articles/{article_id}" (.deleteArticle 1 none)⟩

/-- It is logged and counted as a 401, under its own id. -/
theorem requests_accounted_of_denied : ∃ c ending chronicle id route,
    (Setting.free (requestsOf [])).Handles
      (smallApplication.start (fun _ => anonymousDelete) emptySite) c ∧
    c.outcome 0 = some (.ok ending) ∧ ending.response.map HttpResponse.status = some 401 ∧
    Tallied emptySite.front c.state.front (chronicle.map Prod.snd) ∧
    Accounted smallApplication anonymousDelete id route ending (part 0 chronicle) := by
  obtain ⟨c, ending, steps, ended, denied, -⟩ := exists_served
    (c := smallApplication.start (fun _ => anonymousDelete) emptySite) (i := 0) rfl (fun _ => {})
    (fun ending _ => ending.response.map HttpResponse.status == some 401) (by decide +kernel)
  obtain ⟨chronicle, tallied, -, accounted⟩ := requests_accounted (Setting.free (requestsOf []))
    smallApplication (fun _ => anonymousDelete) steps
  obtain ⟨_, id, route, same, accounted⟩ := accounted 0 (.ok ending) ended
  obtain rfl := Except.ok.inj same
  exact ⟨c, ending, chronicle, id, route, steps, ended, eq_of_beq denied, tallied, accounted⟩

end ContentPlatform
