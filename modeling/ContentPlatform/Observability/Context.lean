import Mathlib.Data.Nat.Notation

/-!
# Correlation ids and route labels

The rules of `app/observability/context.py`.
-/

set_option autoImplicit false

namespace ContentPlatform

/-! ## Correlation ids -/

/-- `[A-Za-z0-9._-]`. -/
def isIdChar (c : Char) : Bool := c.isAlphanum || c == '.' || c == '_' || c == '-'

/-- The whole text matches `_REQUEST_ID_RE`. -/
def isRequestId (value : String) : Bool :=
  value.toList.all isIdChar && decide (1 ≤ value.length) && decide (value.length ≤ 64)

/-- What `sanitize_request_id` keeps; a new id is minted where it keeps nothing. -/
def sanitizeRequestId (value : Option String) : Option String := value.filter isRequestId

/-- A digit of `uuid4().hex`. -/
def isHexDigit (c : Char) : Bool := c.isDigit || (decide ('a' ≤ c) && decide (c ≤ 'f'))

def IsHexId (value : String) : Prop := value.length = 32 ∧ ∀ c ∈ value.toList, isHexDigit c = true

theorem IsHexId.isRequestId {value : String} (hex : IsHexId value) : isRequestId value = true := by
  obtain ⟨length, digits⟩ := hex
  have chars : value.toList.all isIdChar = true := by
    rw [List.all_eq_true]
    intro c member
    have alphanumeric : c.isAlphanum = true := by
      have digit := digits c member
      rw [isHexDigit, Bool.or_eq_true] at digit
      apply Bool.or_eq_true_iff.mpr
      rcases digit with digit | letter
      · exact Or.inr digit
      · rw [Bool.and_eq_true, decide_eq_true_eq, decide_eq_true_eq] at letter
        have upper : c.val ≤ 122 := UInt32.le_trans letter.2 (by decide)
        have lower : c.isLower = true :=
          Bool.and_eq_true_iff.mpr ⟨decide_eq_true letter.1, decide_eq_true upper⟩
        exact Or.inl (Bool.or_eq_true_iff.mpr (Or.inr lower))
    rw [isIdChar, alphanumeric]
    rfl
  rw [ContentPlatform.isRequestId, chars, length]
  rfl

/-! ## Route labels -/

inductive RouteMatch where
  | noMatch
  | partialMatch
  | fullMatch
  deriving DecidableEq

/-- A route or a router: its path, `matches` by method and path, and the routes it contains. -/
inductive RouteNode where
  | node (path : Option String) (matches_ : String → String → RouteMatch) (nested : List RouteNode)

/-- `UNMATCHED_ROUTE`. -/
def unmatchedRoute : String := "__unmatched__"

mutual
def leafRoutes : List RouteNode → List RouteNode
  | [] => []
  | route :: rest => route.leaves ++ leafRoutes rest

def RouteNode.leaves : RouteNode → List RouteNode
  | .node path matches_ nested =>
      match nested with
      | [] => [.node path matches_ []]
      | first :: rest => first.leaves ++ leafRoutes rest
end

/-- The loop of `_match_route_table`, with the first path that matched in part. -/
def matchLeaves (method path : String) : List RouteNode → Option String → String
  | [], found => found.getD unmatchedRoute
  | .node none _ _ :: rest, found => matchLeaves method path rest found
  | .node (some template) matches_ _ :: rest, found =>
      match matches_ method path with
      | .fullMatch => template
      | .partialMatch => matchLeaves method path rest (found.or (some template))
      | .noMatch => matchLeaves method path rest found

/-- `_match_route_table`, over the routes of the application. -/
def matchRouteTable (routes : List RouteNode) (method path : String) : String :=
  matchLeaves method path (leafRoutes routes) none

/-- `route` is the path of `scope["route"]`, where the router has set it. -/
def routeTemplate (routes : List RouteNode) (method path : String) (route : Option String) :
    String :=
  match route with
  | some template => template
  | none => matchRouteTable routes method path

end ContentPlatform
