import ContentPlatform.Schemas
import ContentPlatform.World.Listing

/-!
# Lists after a write

A list request that starts after the callback of a write has finished answers with a page that has
seen the write, if the write concerns its list.
-/

set_option autoImplicit false

namespace ContentPlatform

open Program Py Prog Protocol

def Unpaged (rt : Runtime) (w : World) : Prop :=
  ∀ generation author limit parts, w.store.entries (listKey rt generation author limit parts) = none

/-- Every `INCR` of a counter finds a number that it can increase. -/
def Setting.Counts (σ : Setting) : Prop :=
  ∀ w i author c, σ.allow w i (.redis (.incr (counterKey author))) c →
    (w.store.incremented (counterKey author)).isSome = true

/-- Redis drops any entry at any time, but no counter. -/
def Setting.KeepsCounters (σ : Setting) : Prop :=
  ∀ w w', σ.env w w' → ∃ key, (∀ author, key ≠ counterKey author) ∧
    w' = { w with store := w.store.setEntry key none }

/-- The page has seen a write that request `j` has answered with this response in `before`, if the
write concerns the list. -/
def SeesWrite (σ : Setting) (j : Pid) (response : Response) (before : World) (limit : ℤ)
    (after : Option Position) (author : Option ℤ) (page : Page) (w : World) : Prop :=
  ∃ n authorId, (before.db.sessions j).committed = some n ∧
    (σ.requests j).Stands response authorId (before.db.history n) ∧
    (author = none ∨ author = some authorId → ShowsSince n limit after author page w)

section
variable {σ : Setting} {rt : Runtime} {w : World} {i : Pid}

theorem Setting.Counts.bumps (counts : σ.Counts) : σ.Bumps rt :=
  fun w i author c allowed => Or.inl (counts w i author c allowed)

theorem Setting.KeepsCounters.spares (keeps : σ.KeepsCounters) : σ.Spares rt := by
  intro w w' event
  obtain ⟨key, other, rfl⟩ := keeps w w' event
  exact .drop other

theorem Initial.listed (start : Initial w) (unpaged : Unpaged rt w) : Listed σ rt w := by
  have nobody : ∀ author generation i, ¬Lists σ author generation i w := by
    intro author generation i lists
    have noted := lists.generation
    rw [start.requests i] at noted
    cases noted
  refine ⟨start.coherent σ.requests, fun i generation limit after author entry _ stored => ?_,
    fun author => ⟨fun i generation lists => absurd lists (nobody author generation i),
      fun generation n holds => ?_⟩⟩
  · rw [unpaged] at stored
    cases stored
  · cases holds with
    | loaded lists _ => exact absurd lists (nobody author generation _)
    | stored entry _ =>
        rw [unpaged] at entry
        cases entry

theorem Initial.awaiting (start : Initial w) (i : Pid) : Awaiting i w := by
  refine ⟨start.fresh i, ?_⟩
  rw [start.requests i]
  rfl

theorem Initial.untouched (start : Initial w) (i : Pid) :
    Own i (fun s r => Untouched s ∧ s.committed = none ∧ r.degraded = false) w := by
  rw [Own, start.sessions i, start.requests i]
  exact ⟨⟨rfl, rfl, rfl⟩, rfl, rfl⟩

theorem Initial.allLists (start : Initial w) (unpaged : Unpaged rt w) (answers : Answers σ.allow)
    (bumps : σ.Bumps rt) (distinct : σ.Distinct rt) (spares : σ.Spares rt) (app : App)
    (same : app.rt = rt) (enabled : app.cacheEnabled = true) (serializes : rt.Serializes) :
    (σ.lists rt distinct spares).AllSafe (Announces σ rt) (app.start σ.requests w) := by
  have listed : Listed σ rt w := start.listed unpaged
  refine ⟨listed, fun i => ?_⟩
  by_cases lists : ∃ limit after author, σ.requests i = .list limit after author
  · obtain ⟨limit, after, author, request⟩ := lists
    have seen : Cleared σ rt author 0 w :=
      ⟨Nat.zero_le _, fun ⟨m, before, _⟩ => absurd before (Nat.not_lt_zero m)⟩
    have safe : (σ.lists rt distinct spares).Safe i (app.serve (σ.requests i))
        (AnswersSince 0 limit after author) w :=
      serve_since answers app same enabled serializes request w listed ⟨start.untouched i, seen⟩
    apply safe.mono
    intro outcome w' _ _
    cases outcome with
    | error error => trivial
    | ok response =>
        intro writes
        exact absurd request (writes_list_nothing writes limit after author)
  · apply other_lists answers bumps app same enabled _ w listed (start.awaiting i)
    exact fun limit after author request => lists ⟨limit, after, author, request⟩

/-- A list request that starts when a write has been answered sees the write. -/
theorem lists_see_writes (start : Initial w) (unpaged : Unpaged rt w) (answers : Answers σ.allow)
    (bumps : σ.Bumps rt) (distinct : σ.Distinct rt) (spares : σ.Spares rt) (app : App)
    (same : app.rt = rt) (enabled : app.cacheEnabled = true) (serializes : rt.Serializes)
    {c c' : System} (before : σ.Reaches (app.start σ.requests w) c) {j : Pid} {response : Response}
    (writes : (σ.requests j).writes = true) (written : c.outcome j = some (.ok response))
    {limit : ℤ} {after : Option Position} {author : Option ℤ}
    (request : σ.requests i = .list limit after author) (unstarted : c.started i = false)
    (later : σ.Reaches c c') {page : Page} (listed : c'.outcome i = some (.ok (.page page))) :
    SeesWrite σ j response c.state limit after author page c'.state := by
  have all := start.allLists unpaged answers bumps distinct spares app same enabled serializes
  obtain ⟨whole, moved⟩ := all.unstarted before unstarted
  have then_ := all.steps before
  obtain ⟨n, past, authorId, told, stands⟩ := then_.ended j _ written writes
  refine ⟨n, authorId, told.committed, stands, fun concerns => ?_⟩
  have seen : Cleared σ rt author n c.state := by
    rcases concerns with rfl | rfl
    · exact told.all
    · exact told.own
  have asking : Asking σ rt i author n c.state :=
    ⟨(start.untouched i).undisturbed moved.1, seen⟩
  have safe : (σ.lists rt distinct spares).Safe i (c.code i) (AnswersSince n limit after author)
      c.state := by
    rw [whole]
    exact serve_since answers app same enabled serializes request c.state then_.inv asking
  have ended := ((then_.replace i _ safe).steps later).ended i _ listed
  rw [Function.update_self] at ended
  exact ended

/-- However list requests and writes interleave and whatever expires, a list request that starts
after the callback of a write has finished answers with a page loaded since its commit, if the
write concerns the list. -/
theorem listing_follows_writes (σ : Setting) (answers : Answers σ.allow) (counts : σ.Counts)
    (keeps : σ.KeepsCounters) (app : App) (enabled : app.cacheEnabled = true)
    (distinct : σ.Distinct app.rt) (serializes : app.rt.Serializes) (start : Initial w)
    (unpaged : Unpaged app.rt w) {c c' : System} (before : σ.Reaches (app.start σ.requests w) c)
    {j : Pid} {response : Response} (writes : (σ.requests j).writes = true)
    (written : c.outcome j = some (.ok response)) {limit : ℤ} {after : Option Position}
    {author : Option ℤ} (request : σ.requests i = .list limit after author)
    (unstarted : c.started i = false) (later : σ.Reaches c c') {page : Page}
    (listed : c'.outcome i = some (.ok (.page page))) :
    SeesWrite σ j response c.state limit after author page c'.state :=
  lists_see_writes start unpaged answers counts.bumps distinct keeps.spares app rfl enabled
    serializes before writes written request unstarted later listed

end

/-! ## A list after a write -/

def counting (w : World) (_ : Pid) (op : Op) (c : Choice) : Bool :=
  c.fault.isNone && c.flag &&
    match op with
    | .redis (.incr key) => (w.store.incremented key).isSome
    | _ => true

def Setting.obliging (requests : Pid → Request) (may : String → World → Prop) : Setting where
  requests := requests
  allow w i op c := counting w i op c = true
  env w w' := ∃ key, may key w ∧ w' = { w with store := w.store.setEntry key none }
  outside := by
    rintro w w' ⟨key, -, rfl⟩
    exact ⟨rfl, w.db.users, rfl⟩

def noCounter (key : String) (_ : World) : Prop := ∀ author, key ≠ counterKey author

section
variable {requests : Pid → Request} {may : String → World → Prop}

theorem Setting.obliging_answers : Answers (Setting.obliging requests may).allow := by
  refine ⟨fun w i command c allowed => ?_, fun w i c allowed => ?_⟩
  · have checked : counting w i (.redis command) c = true := allowed
    simp only [counting, Bool.and_eq_true] at checked
    exact Option.isNone_iff_eq_none.mp checked.1.1
  · have checked : counting w i (.breakerAllow .redis) c = true := allowed
    simp only [counting, Bool.and_eq_true] at checked
    exact checked.1.2

theorem Setting.obliging_counts : (Setting.obliging requests may).Counts := by
  intro w i author c allowed
  have checked : counting w i (.redis (.incr (counterKey author))) c = true := allowed
  simp only [counting, Bool.and_eq_true] at checked
  exact checked.2

end

def answeredPage (c : System) (i : Pid) : Option Page :=
  match c.outcome i with
  | some (.ok (.page page)) => some page
  | _ => none

theorem outcome_of_answeredPage {c : System} {i : Pid} {page : Page}
    (ended : answeredPage c i = some page) :
    c.outcome i = some (.ok (.page page)) := by
  unfold answeredPage at ended
  split at ended
  · rename_i same
    rw [same, Option.some.inj ended]
  · cases ended

def between (j i : Pid) (c : System) : Bool :=
  (match c.outcome j with | some (.ok _) => true | _ => false) && !c.started i

theorem of_between {j i : Pid} {c : System} (facts : between j i c = true) :
    (∃ response, c.outcome j = some (.ok response)) ∧ c.started i = false := by
  simp only [between, Bool.and_eq_true, Bool.not_eq_true'] at facts
  obtain ⟨done, unstarted⟩ := facts
  refine ⟨?_, unstarted⟩
  split at done
  · rename_i response same
    exact ⟨response, same⟩
  · cases done

def listCreateList : List Request :=
  [.list 10 none none, .create (some 1) "new" "body", .list 10 none none]

theorem listCreateList_window {i : Pid} {limit : ℤ} {after : Option Position} {author : Option ℤ}
    (request : requestsOf listCreateList i = .list limit after author) :
    limit = 10 ∧ after = none := by
  rcases i with _ | _ | _ | i <;> cases request <;> exact ⟨rfl, rfl⟩

theorem listCreateList_distinct {may : String → World → Prop} :
    (Setting.obliging (requestsOf listCreateList) may).Distinct (defaultRuntime fun _ => "") := by
  intro i j limit limit' after after' author first second _
  obtain ⟨rfl, rfl⟩ := listCreateList_window first
  obtain ⟨rfl, rfl⟩ := listCreateList_window second
  exact ⟨rfl, rfl⟩

/-- The page of the first list is in Redis when the second one begins. -/
theorem listing_follows_create : ∃ c c' response page,
    (Setting.obliging (requestsOf listCreateList) noCounter).Reaches
      (App.start ⟨defaultRuntime fun _ => "", true⟩ (requestsOf listCreateList)
        (World.fresh editedArticle 2 [ann])) c ∧
      c.outcome 1 = some (.ok response) ∧
      (Setting.obliging (requestsOf listCreateList) noCounter).Reaches c c' ∧
      c'.outcome 2 = some (.ok (.page page)) ∧
      SeesWrite (Setting.obliging (requestsOf listCreateList) noCounter) 1 response c.state 10 none none page
        c'.state := by
  obtain ⟨c, run, facts⟩ := (Setting.obliging (requestsOf listCreateList) noCounter).exists_replay counting
    (fun _ _ _ _ checked => checked)
    (App.start ⟨defaultRuntime fun _ => "", true⟩ (requestsOf listCreateList)
      (World.fresh editedArticle 2 [ann]))
    (turns 0 26 {} ++ turns 1 19 { newId := 2 })
    (fun c => between 1 2 c &&
      (replay counting c (turns 2 26 {})).any fun c' => (answeredPage c' 2).isSome) (by decide +kernel)
  rw [Bool.and_eq_true] at facts
  obtain ⟨⟨response, written⟩, unstarted⟩ := of_between facts.1
  obtain ⟨c', later, paged⟩ := (Setting.obliging (requestsOf listCreateList) noCounter).exists_replay
    counting (fun _ _ _ _ checked => checked) c (turns 2 26 {}) _ facts.2
  obtain ⟨page, ended⟩ := Option.isSome_iff_exists.mp paged
  have listed := outcome_of_answeredPage ended
  refine ⟨c, c', response, page, run, written, later, listed, ?_⟩
  exact listing_follows_writes (Setting.obliging (requestsOf listCreateList) noCounter)
    Setting.obliging_answers Setting.obliging_counts (fun _ _ event => event)
    ⟨defaultRuntime fun _ => "", true⟩ rfl listCreateList_distinct (defaultRuntime_serializes fun _ => "")
    (World.fresh_initial _ (by decide)) (fun _ _ _ _ => rfl) run rfl written rfl unstarted later
    listed

end ContentPlatform
