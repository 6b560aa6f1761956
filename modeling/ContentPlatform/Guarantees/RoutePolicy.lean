import ContentPlatform.Api.Access

/-!
# What is open to everyone

A path belongs to a prefix when it is the prefix or goes on with a slash.  The test for the articles
prefix lacks the slash, and that is the one way into a route that nobody opened.
-/

set_option autoImplicit false

namespace ContentPlatform

/-! ## Paths under a prefix -/

/-- `path` is `front`, or extends it at a segment boundary. -/
def Under (path front : String) : Prop := path = front ∨ ∃ rest, path = front ++ "/" ++ rest

theorem startsWith_iff {text front : String} :
    startsWith text front = true ↔ ∃ rest, text = front ++ rest := by
  rw [startsWith, List.isPrefixOf_iff_prefix]
  constructor
  · rintro ⟨rest, whole⟩
    have joined : text = front ++ String.ofList rest := by
      apply String.toList_inj.mp
      rw [String.toList_append, String.toList_ofList, whole]
    exact ⟨String.ofList rest, joined⟩
  · rintro ⟨rest, rfl⟩
    rw [String.toList_append]
    exact List.prefix_append _ _

/-- The test that the code makes. -/
theorem under_iff {path front : String} :
    (path == front || startsWith path (front ++ "/")) = true ↔ Under path front := by
  rw [Bool.or_eq_true, beq_iff_eq, startsWith_iff, Under]

theorem Under.front {path front : String} (under : Under path front) :
    front.toList <+: path.toList := by
  rcases under with rfl | ⟨rest, rfl⟩
  · exact List.prefix_refl _
  · rw [String.toList_append, String.toList_append, List.append_assoc]
    exact List.prefix_append _ _

def Apart (front front' : String) : Prop :=
  ¬front.toList <+: front'.toList ∧ ¬front'.toList <+: front.toList

instance (front front' : String) : Decidable (Apart front front') :=
  inferInstanceAs (Decidable (_ ∧ _))

theorem Apart.not_both {front front' : String} (apart : Apart front front') {text : List Char}
    (here : front.toList <+: text) : ¬front'.toList <+: text := by
  intro there
  rcases List.prefix_or_prefix_of_prefix here there with inside | inside
  · exact apart.1 inside
  · exact apart.2 inside

theorem apart_admin : ∀ front ∈ publicPrefixes, Apart front adminPrefix := by decide

theorem apart_articles : ∀ front ∈ publicPrefixes, Apart front articlesPrefix := by decide

theorem apart_admin_articles : Apart adminPrefix articlesPrefix := by decide

/-! ## The policy -/

def Open (path : String) : Prop := path = "/" ∨ ∃ front ∈ publicPrefixes, Under path front

/-- What is to be public: the open paths, and reads of articles. -/
def PublicSet (method path : String) : Prop :=
  Open path ∨ isGet method = true ∧ Under path articlesPrefix

theorem open_iff {path : String} :
    (path == "/" || publicPrefixes.any fun p => path == p || startsWith path (p ++ "/")) = true ↔
      Open path := by
  rw [Bool.or_eq_true, beq_iff_eq, List.any_eq_true, Open]
  apply or_congr_right
  constructor
  · rintro ⟨front, listed, test⟩
    exact ⟨front, listed, under_iff.mp test⟩
  · rintro ⟨front, listed, under⟩
    exact ⟨front, listed, under_iff.mpr under⟩

/-- What begins with a prefix apart from the public ones is not open. -/
theorem Open.not_front {path front : String} (isOpen : Open path)
    (apart : ∀ front' ∈ publicPrefixes, Apart front' front) (long : 1 < front.toList.length) :
    ¬front.toList <+: path.toList := by
  rcases isOpen with rfl | ⟨front', listed, under⟩
  · intro here
    have bound := here.length_le
    have one : "/".toList.length = 1 := by decide
    omega
  · exact (apart front' listed).not_both under.front

theorem Open.not_admin {path : String} (isOpen : Open path) : ¬Under path adminPrefix :=
  fun under => isOpen.not_front apart_admin (by decide) under.front

theorem Open.not_articles {path : String} (isOpen : Open path) :
    startsWith path articlesPrefix = false := by
  rw [Bool.eq_false_iff, Ne, startsWith, List.isPrefixOf_iff_prefix]
  exact isOpen.not_front apart_articles (by decide)

theorem not_articles_of_admin {path : String} (under : Under path adminPrefix) :
    startsWith path articlesPrefix = false := by
  rw [Bool.eq_false_iff, Ne, startsWith, List.isPrefixOf_iff_prefix]
  exact apart_admin_articles.not_both under.front

/-- The path begins as the articles do and goes on without a slash. -/
def Trails (path : String) : Prop :=
  ∃ c rest, c ≠ '/' ∧ path.toList = articlesPrefix.toList ++ c :: rest

theorem startsWith_articles_iff {path : String} :
    startsWith path articlesPrefix = true ↔ Under path articlesPrefix ∨ Trails path := by
  have slash : "/".toList = ['/'] := by decide
  constructor
  · intro test
    obtain ⟨rest, rfl⟩ := startsWith_iff.mp test
    cases shape : rest.toList with
    | nil =>
        obtain rfl := String.toList_inj.mp (shape.trans String.toList_empty.symm)
        exact Or.inl (Or.inl (String.append_empty ..))
    | cons c cs =>
        by_cases boundary : c = '/'
        · have split : rest = "/" ++ String.ofList cs := by
            apply String.toList_inj.mp
            rw [String.toList_append, slash, String.toList_ofList, shape, boundary]
            rfl
          rw [split, ← String.append_assoc]
          exact Or.inl (Or.inr ⟨_, rfl⟩)
        · exact Or.inr ⟨c, cs, boundary, by rw [String.toList_append, shape]⟩
  · intro either
    rw [startsWith, List.isPrefixOf_iff_prefix]
    rcases either with under | ⟨c, rest, -, whole⟩
    · exact under.front
    · rw [whole]
      exact List.prefix_append _ _

theorem Trails.not_under {path : String} (trails : Trails path) : ¬Under path articlesPrefix := by
  have slash : "/".toList = ['/'] := by decide
  obtain ⟨c, rest, other, whole⟩ := trails
  rintro (rfl | ⟨rest', rfl⟩)
  · have longer := congrArg List.length whole
    simp at longer
  · rw [String.toList_append, String.toList_append, slash, List.append_assoc,
      List.append_cancel_left_eq] at whole
    exact other (List.cons.inj whole).1.symm

/-! ## What each test decides -/

theorem routeRequirement_open {path : String} (isOpen : Open path) (method : String) :
    routeRequirement method path = .publicRoute := by
  rw [routeRequirement, if_pos (open_iff.mpr isOpen)]

theorem routeRequirement_admin {path : String} (under : Under path adminPrefix) (method : String) :
    routeRequirement method path = .admin := by
  rw [routeRequirement, if_neg fun test => (open_iff.mp test).not_admin under,
    if_pos (under_iff.mpr under)]

/-- Past the first two tests, only a text that begins as the articles do is public. -/
theorem routeRequirement_rest {path : String} (closed : ¬Open path)
    (noAdmin : ¬Under path adminPrefix) (method : String) :
    routeRequirement method path =
      if startsWith path articlesPrefix && isGet method then .publicRoute else .authenticated := by
  rw [routeRequirement, if_neg fun test => closed (open_iff.mp test),
    if_neg fun test => noAdmin (under_iff.mp test)]
  have whole : (path == articlesPrefix || startsWith path articlesPrefix) =
      startsWith path articlesPrefix := by
    rw [Bool.or_eq_right_iff_imp, beq_iff_eq]
    rintro rfl
    exact startsWith_articles_iff.mpr (Or.inl (Or.inl rfl))
  rw [whole]
  cases startsWith path articlesPrefix with
  | false => rfl
  | true => rfl

theorem routeRequirement_public_iff (method path : String) :
    routeRequirement method path = .publicRoute ↔
      Open path ∨ startsWith path articlesPrefix = true ∧ isGet method = true := by
  by_cases isOpen : Open path
  · rw [routeRequirement_open isOpen]
    exact iff_of_true rfl (Or.inl isOpen)
  · by_cases under : Under path adminPrefix
    · rw [routeRequirement_admin under, not_articles_of_admin under]
      simp [isOpen]
    · rw [routeRequirement_rest isOpen under, ← Bool.and_eq_true]
      cases startsWith path articlesPrefix && isGet method with
      | false => simp [isOpen]
      | true => simp

theorem routeRequirement_admin_iff (method path : String) :
    routeRequirement method path = .admin ↔ Under path adminPrefix := by
  by_cases isOpen : Open path
  · rw [routeRequirement_open isOpen]
    simp [isOpen.not_admin]
  · by_cases under : Under path adminPrefix
    · rw [routeRequirement_admin under]
      simp [under]
    · rw [routeRequirement_rest isOpen under]
      cases startsWith path articlesPrefix && isGet method with
      | false => simp [under]
      | true => simp [under]

/-! ## Who proceeds -/

/-- A request that no principal makes goes on to a public route only. -/
theorem authorize_none {requirement : Requirement} (allowed : authorize requirement none = none) :
    requirement = .publicRoute := by
  cases requirement with
  | publicRoute => rfl
  | authenticated => cases allowed
  | admin => cases allowed

theorem AuthMiddleware.apply_anonymous {request : AuthRequest} {principal : Option Principal}
    (proceeds : AuthMiddleware.apply request principal = .proceeds none) :
    routeRequirement request.method request.path = .publicRoute := by
  rw [AuthMiddleware.apply] at proceeds
  cases verdict : authorize (routeRequirement request.method request.path) principal with
  | some denial => rw [verdict] at proceeds; cases proceeds
  | none =>
      rw [verdict] at proceeds
      cases proceeds
      exact authorize_none verdict

theorem AuthMiddleware.dispatch_anonymous {jwt : Jwt} {request : AuthRequest}
    (proceeds : AuthMiddleware.dispatch jwt request = .ok (.proceeds none)) :
    routeRequirement request.method request.path = .publicRoute := by
  rw [AuthMiddleware.dispatch] at proceeds
  cases bearer : extractBearerToken request.authorization with
  | none =>
      rw [bearer] at proceeds
      exact AuthMiddleware.apply_anonymous (Except.ok.inj proceeds)
  | some token =>
      rw [bearer] at proceeds
      dsimp only at proceeds
      split at proceeds
      · cases proceeds
      · cases proceeds
      · split at proceeds
        · exact AuthMiddleware.apply_anonymous (Except.ok.inj proceeds)
        · cases proceeds

/-! ## Closed by default -/

/-- The policy at one request: only the public set is public, only the paths under the admin prefix
are for administrators, the rest is for principals, and so nobody else proceeds. -/
structure ClosedByDefault (method path : String) : Prop where
  onlyPublic : routeRequirement method path = .publicRoute → PublicSet method path
  admin : routeRequirement method path = .admin ↔ Under path adminPrefix
  otherwise : ¬PublicSet method path → ¬Under path adminPrefix →
    routeRequirement method path = .authenticated
  principal : ¬PublicSet method path → ∀ jwt authorization principal,
    AuthMiddleware.dispatch jwt ⟨method, path, authorization⟩ = .ok (.proceeds principal) →
      principal ≠ none

/-- The policy is closed by default except where a read begins as the articles do and goes on
without a slash. -/
theorem closed_by_default_iff (method path : String) :
    ClosedByDefault method path ↔ (isGet method = true → ¬Trails path) := by
  constructor
  · intro closed get trails
    have test := startsWith_articles_iff.mpr (Or.inr trails)
    have isPublic := (routeRequirement_public_iff method path).mpr (Or.inr ⟨test, get⟩)
    rcases closed.onlyPublic isPublic with isOpen | ⟨-, under⟩
    · rw [isOpen.not_articles] at test
      cases test
    · exact trails.not_under under
  · intro bounded
    have onlyPublic : routeRequirement method path = .publicRoute → PublicSet method path := by
      intro isPublic
      rcases (routeRequirement_public_iff method path).mp isPublic with isOpen | ⟨test, get⟩
      · exact Or.inl isOpen
      · exact Or.inr ⟨get, (startsWith_articles_iff.mp test).resolve_right (bounded get)⟩
    have admin := routeRequirement_admin_iff method path
    constructor
    · exact onlyPublic
    · exact admin
    · intro outside noAdmin
      cases verdict : routeRequirement method path with
      | publicRoute => exact absurd (onlyPublic verdict) outside
      | authenticated => rfl
      | admin => exact absurd (admin.mp verdict) noAdmin
    · intro outside jwt authorization principal proceeds
      rintro rfl
      exact outside (onlyPublic (AuthMiddleware.dispatch_anonymous proceeds))

/-- `GET /v1/articlesfoo` is public. -/
theorem unbounded_articles_prefix : ¬∀ method path, ClosedByDefault method path := by
  intro every
  have isPublic : routeRequirement "GET" "/v1/articlesfoo" = .publicRoute := by decide
  have trails : Trails "/v1/articlesfoo" := ⟨'f', ['o', 'o'], by decide, by decide⟩
  rcases (every _ _).onlyPublic isPublic with isOpen | ⟨-, under⟩
  · have test := startsWith_articles_iff.mpr (Or.inr trails)
    rw [isOpen.not_articles] at test
    cases test
  · exact trails.not_under under

end ContentPlatform
