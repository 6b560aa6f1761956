import ContentPlatform.Guarantees.ListFreshness
import ContentPlatform.Guarantees.WriteIndependence

/-!
# Bad counters

A counter that is lost starts again, and with it the pages of its old values come back.
-/

set_option autoImplicit false

namespace ContentPlatform

open Program Py Prog Protocol

/-- Whatever the counters hold and however they change: as long as no change from outside and no
`INCR` that fails leaves an older page in sight, a list request that starts after the callback of a
write has finished answers with a page loaded since its commit, if the write concerns the list. -/
theorem listing_survives_bad_counters (σ : Setting) (answers : Answers σ.allow) (app : App)
    (enabled : app.cacheEnabled = true) (bumps : σ.Bumps app.rt) (spares : σ.Spares app.rt)
    (distinct : σ.Distinct app.rt) (serializes : app.rt.Serializes) {w : World} (start : Initial w)
    (unpaged : Unpaged app.rt w) {c c' : System} (before : σ.Reaches (app.start σ.requests w) c)
    {j : Pid} {response : Response} (writes : (σ.requests j).writes = true)
    (written : c.outcome j = some (.ok response)) {i : Pid} {limit : ℤ} {after : Option Position}
    {author : Option ℤ} (request : σ.requests i = .list limit after author)
    (unstarted : c.started i = false) (later : σ.Reaches c c') {page : Page}
    (listed : c'.outcome i = some (.ok (.page page))) :
    SeesWrite σ j response c.state limit after author page c'.state :=
  lists_see_writes start unpaged answers bumps distinct spares app rfl enabled serializes before
    writes written request unstarted later listed

/-! ## A counter is dropped -/

def dropping (key : String) (c : System) : System :=
  ⟨{ c.state with store := c.state.store.setEntry key none }, c.code, c.started⟩

theorem dropping_reached {requests : Pid → Request} {may : String → World → Prop} {key : String}
    {c : System} (allowed : may key c.state) :
    (Setting.obliging requests may).Reaches c (dropping key c) :=
  Step.steps (.env ⟨key, allowed, rfl⟩)

def anyEntry (_ : String) (_ : World) : Prop := True

def listsOutdated (i : Pid) (limit : ℤ) (c : System) : Bool :=
  match answeredPage c i with
  | some page => c.state.db.version == 1 &&
      !decide (splitPage limit ((c.state.db.history 1).fetch (limit + 1) none none) = .ok page)
  | none => false

theorem not_showsSince_of_listsOutdated {i : Pid} {limit : ℤ} {c : System}
    (outdated : listsOutdated i limit c = true) : ∃ page, c.outcome i = some (.ok (.page page)) ∧
      ¬ShowsSince 1 limit none none page c.state := by
  unfold listsOutdated at outdated
  split at outdated
  · rename_i page ended
    simp only [Bool.and_eq_true, beq_iff_eq, Bool.not_eq_true', decide_eq_false_iff_not] at outdated
    refine ⟨page, outcome_of_answeredPage ended, ?_⟩
    rintro ⟨m, past, since, shows⟩
    obtain rfl : m = 1 := le_antisymm (past.trans outdated.1.le) since
    exact outdated.2 shows
  · cases outdated

/-- The counter is dropped between the two lists: it reads as zero again, and the second list is
answered with the page of the first. -/
theorem dropped_counter_shows_old_page :
    Answers (Setting.obliging (requestsOf listCreateList) anyEntry).allow ∧
      (Setting.obliging (requestsOf listCreateList) anyEntry).Distinct (defaultRuntime fun _ => "") ∧
      Initial (World.fresh editedArticle 2 [ann]) ∧
      Unpaged (defaultRuntime fun _ => "") (World.fresh editedArticle 2 [ann]) ∧
      ∃ c c' response page,
        (Setting.obliging (requestsOf listCreateList) anyEntry).Reaches
          (App.start ⟨defaultRuntime fun _ => "", true⟩ (requestsOf listCreateList)
            (World.fresh editedArticle 2 [ann])) c ∧
        c.outcome 1 = some (.ok response) ∧ c.started 2 = false ∧
        (Setting.obliging (requestsOf listCreateList) anyEntry).Reaches c c' ∧
        c'.outcome 2 = some (.ok (.page page)) ∧
        ¬SeesWrite (Setting.obliging (requestsOf listCreateList) anyEntry) 1 response c.state 10
          none none page c'.state := by
  obtain ⟨c, run, facts⟩ := (Setting.obliging (requestsOf listCreateList) anyEntry).exists_replay
    counting (fun _ _ _ _ checked => checked)
    (App.start ⟨defaultRuntime fun _ => "", true⟩ (requestsOf listCreateList)
      (World.fresh editedArticle 2 [ann]))
    (turns 0 26 {} ++ turns 1 19 { newId := 2 })
    (fun c => (c.state.db.sessions 1).committed == some 1 && between 1 2 c &&
      (replay counting (dropping (counterKey none) c) (turns 2 11 {})).any (listsOutdated 2 10))
    (by decide +kernel)
  simp only [Bool.and_eq_true, beq_iff_eq] at facts
  obtain ⟨⟨committed, idle⟩, outdated⟩ := facts
  obtain ⟨⟨response, written⟩, unstarted⟩ := of_between idle
  obtain ⟨c', later, outdated⟩ := (Setting.obliging (requestsOf listCreateList) anyEntry).exists_replay
    counting (fun _ _ _ _ checked => checked) (dropping (counterKey none) c) (turns 2 11 {})
    (listsOutdated 2 10) outdated
  obtain ⟨page, listed, unseen⟩ := not_showsSince_of_listsOutdated outdated
  have dropped : (Setting.obliging (requestsOf listCreateList) anyEntry).Reaches c
      (dropping (counterKey none) c) := dropping_reached trivial
  refine ⟨Setting.obliging_answers, listCreateList_distinct, World.fresh_initial _ (by decide),
    fun _ _ _ _ => rfl, c, c', response, page, run, written, unstarted, dropped.trans later, listed,
    ?_⟩
  rintro ⟨n, authorId, left, -, sees⟩
  rw [committed] at left
  obtain rfl := Option.some.inj left
  exact unseen (sees (Or.inl rfl))

/-! ## A counter that is no number -/

def lowCounter (key : String) (w : World) : Prop :=
  ∀ author, key = counterKey author → w.store.reading key ≤ 0

/-- A counter that reads as zero does so without its content, too. -/
theorem lowCounter_spares {requests : Pid → Request} {rt : Runtime} :
    (Setting.obliging requests lowCounter).Spares rt := by
  rintro w w' ⟨key, low, rfl⟩
  by_cases counter : ∃ author, key = counterKey author
  · obtain ⟨author, rfl⟩ := counter
    apply HarmlessEvent.counter author none
    left
    rw [show (w.store.setEntry (counterKey author) none).reading (counterKey author) = 0 by
      rw [Redis.reading, Redis.value, Redis.setEntry_self]
      rfl]
    exact low author rfl
  · exact .drop fun author same => counter ⟨author, same⟩

def spoiledWorld : World := { World.fresh editedArticle 2 [ann] with store := spoiled }

theorem spoiledWorld_initial : Initial spoiledWorld := by
  have start : Initial (World.fresh editedArticle 2 [ann]) := World.fresh_initial _ (by decide)
  exact ⟨start.sessions, start.requests, start.version, start.issued, start.unlocked,
    start.unclaimed⟩

theorem spoiledWorld_unpaged (rt : Runtime) : Unpaged rt spoiledWorld := by
  intro generation author limit parts
  exact if_neg (listKey_ne_counterKey rt generation limit author none parts)

/-- The page of the first list is stored under zero, and the counter that is no number is dropped
before the article is created. -/
theorem listing_survives_spoiled_counter : ∃ c c' response page,
    (Setting.obliging (requestsOf listCreateList) lowCounter).Reaches
      (App.start ⟨defaultRuntime fun _ => "", true⟩ (requestsOf listCreateList) spoiledWorld) c ∧
      c.outcome 1 = some (.ok response) ∧
      (Setting.obliging (requestsOf listCreateList) lowCounter).Reaches c c' ∧
      c'.outcome 2 = some (.ok (.page page)) ∧
      SeesWrite (Setting.obliging (requestsOf listCreateList) lowCounter) 1 response c.state 10
        none none page c'.state := by
  obtain ⟨c₁, run₁, facts⟩ := (Setting.obliging (requestsOf listCreateList) lowCounter).exists_replay
    counting (fun _ _ _ _ checked => checked)
    (App.start ⟨defaultRuntime fun _ => "", true⟩ (requestsOf listCreateList) spoiledWorld)
    (turns 0 26 {})
    (fun c => decide (c.state.store.reading (counterKey none) ≤ 0) &&
      (replay counting (dropping (counterKey none) c) (turns 1 19 { newId := 2 })).any fun c =>
        between 1 2 c && (replay counting c (turns 2 26 {})).any fun c => (answeredPage c 2).isSome)
    (by decide +kernel)
  rw [Bool.and_eq_true, decide_eq_true_eq] at facts
  obtain ⟨low, facts⟩ := facts
  have dropped : (Setting.obliging (requestsOf listCreateList) lowCounter).Reaches c₁
      (dropping (counterKey none) c₁) := dropping_reached fun _ _ => low
  obtain ⟨c, run, facts⟩ := (Setting.obliging (requestsOf listCreateList) lowCounter).exists_replay
    counting (fun _ _ _ _ checked => checked) (dropping (counterKey none) c₁) _ _ facts
  rw [Bool.and_eq_true] at facts
  obtain ⟨⟨response, written⟩, unstarted⟩ := of_between facts.1
  obtain ⟨c', later, paged⟩ := (Setting.obliging (requestsOf listCreateList) lowCounter).exists_replay
    counting (fun _ _ _ _ checked => checked) c _ _ facts.2
  obtain ⟨page, ended⟩ := Option.isSome_iff_exists.mp paged
  have listed := outcome_of_answeredPage ended
  have before := (run₁.trans dropped).trans run
  refine ⟨c, c', response, page, before, written, later, listed, ?_⟩
  exact listing_survives_bad_counters (Setting.obliging (requestsOf listCreateList) lowCounter)
    Setting.obliging_answers ⟨defaultRuntime fun _ => "", true⟩ rfl Setting.obliging_counts.bumps
    lowCounter_spares listCreateList_distinct (defaultRuntime_serializes fun _ => "")
    spoiledWorld_initial (spoiledWorld_unpaged _) before rfl written rfl unstarted later listed

end ContentPlatform
