import ContentPlatform.Schemas
import ContentPlatform.World.Readers

/-!
# Invalidation is exact

The callback of a write makes unreachable what the write changed, and leaves every
other entry where the requests look for it.
-/

set_option autoImplicit false

namespace ContentPlatform

open Program Py Prog

/-! ## Where nothing fails -/

def Op.answered : (op : Op) → op.Reply → Bool
  | .redis _, .ok _ => true
  | .redis _, .error _ => false
  | .breakerAllow .redis, admitted => admitted
  | .cacheDegraded, degraded => !degraded
  | _, _ => true

/-- The steps of request `i` in a world where Redis does not fail. -/
structure Healthy (i : Pid) (op : Op) (w : World) (reply : op.Reply) (w' : World) : Prop where
  step : ∃ c, w.exec i c op = some (reply, w')
  answered : op.answered reply = true

section
variable {i : Pid} {w : World} {α β : Type}

theorem healthy_local {op : Op} {next : op.Reply → Py α} {post : Except Exc α → World → Prop}
    (isLocal : op.isLocal = true)
    (rest : ∀ reply, op.answered reply = true → wp (Healthy i) (next reply) post w) :
    wp (Healthy i) (.call op next) post w := by
  rintro reply w' ⟨⟨c, step⟩, answered⟩
  obtain rfl := World.exec_local isLocal step
  exact rest reply answered

theorem healthy_redis {command : RedisCommand} {post : Except Exc command.Reply → World → Prop}
    (rest : ∀ value, (w.store.step (w.provenance i) command).1 = .ok value →
      post (.ok value) (w.redisStep i command).2) :
    wp (Healthy i) (redis command) post w := by
  rintro (error | value) w' ⟨⟨c, step⟩, answered⟩
  · cases answered
  · simp only [World.exec] at step
    cases fault : c.fault with
    | none =>
        rw [fault] at step
        obtain ⟨answer, rfl⟩ := Prod.mk.inj (Option.some.inj step)
        exact rest value answer
    | some error =>
        rw [fault] at step
        cases (Prod.mk.inj (Option.some.inj step)).1

/-- A command that asks for no counters changes nothing but the store. -/
theorem healthy_command {command : RedisCommand} {post : Except Exc command.Reply → World → Prop}
    (other : ∀ keys, command ≠ .mget keys)
    (rest : ∀ value, (w.store.step (w.provenance i) command).1 = .ok value →
      post (.ok value) { w with store := (w.store.step (w.provenance i) command).2 }) :
    wp (Healthy i) (redis command) post w := by
  apply healthy_redis
  rw [redisStep_of_not_mget other]
  exact rest

theorem healthy_live {cache : ArticleCache} (enabled : cache.enabled = true)
    {p q : Py α} {post : Except Exc α → World → Prop} (on : wp (Healthy i) p post w) :
    wp (Healthy i) (cache.live.bind fun live => if live then p else q) post w := by
  unfold ArticleCache.live
  rw [if_pos enabled]
  apply healthy_local rfl
  rintro (_ | _) answered
  · apply healthy_local rfl
    rintro _ rfl
    exact on
  · cases answered

theorem healthy_answered {operation : CacheOperation} {command : Py α} {f : Option α → Py β}
    {post : Except Exc β → World → Prop}
    (first : wp (Healthy i) command (fun outcome w' => ∃ value, outcome = .ok value ∧
      wp (Healthy i) (f (some value)) post w') w) :
    wp (Healthy i) ((ArticleCache.answered operation command).bind f) post w := by
  rw [wp_bind]
  apply (wp_bind _ _ _ _).mpr
  apply (wp_attempt _ _ _).mpr
  apply wp_mono first
  rintro _ w' ⟨value, rfl, rest⟩
  apply healthy_local rfl
  intro _ _
  exact rest

/-! ## What the callback does -/

def Invalidation.Moves (callback : Invalidation) (author : Option ℤ) : Prop :=
  author = none ∨ author = some callback.authorId

/-- What is left of a store when the callback has run. -/
structure Invalidated (callback : Invalidation) (store store' : Redis) : Prop where
  article : ∀ id, callback.articleId = some id → store'.entries (articleKey id) = none
  moved : ∀ author, callback.Moves author →
    store'.reading (counterKey author) = store.reading (counterKey author) + 1
  kept : ∀ key, (∀ id, callback.articleId = some id → key ≠ articleKey id) →
    (∀ author, callback.Moves author → key ≠ counterKey author) →
    store'.entries key = store.entries key

/-- After its `DEL`, the callback still has to move its counters. -/
theorem bumpGenerations_healthy {cache : ArticleCache} (enabled : cache.enabled = true)
    (authorId : ℤ) :
    wp (Healthy i) (cache.bumpGenerations (some authorId)) (fun outcome w' =>
      outcome = .ok () ∧ w'.requests = w.requests ∧
        Invalidated ⟨none, authorId⟩ w.store w'.store) w := by
  apply healthy_live enabled
  apply healthy_answered
  apply (wp_bind _ _ _ _).mpr
  apply healthy_command fun _ impossible => by cases impossible
  intro first counted
  apply (wp_bind _ _ _ _).mpr
  apply healthy_command fun _ impossible => by cases impossible
  intro second counted'
  refine ⟨(), rfl, rfl, rfl, nofun, ?_, ?_⟩
  · have other : counterKey none ≠ counterKey (some authorId) := fun equal => by
      cases counterKey_injective equal
    rintro author (rfl | rfl)
    · exact (Redis.reading_congr (Redis.step_incr_ne other)).trans (Redis.step_incr_ok counted)
    · exact (Redis.step_incr_ok counted').trans
        (congrArg (· + 1) (Redis.reading_congr (Redis.step_incr_ne other.symm)))
  · intro key _ aside
    exact (Redis.step_incr_ne (aside _ (Or.inr rfl))).trans
      (Redis.step_incr_ne (aside _ (Or.inl rfl)))

theorem runInvalidation_healthy {cache : ArticleCache} (enabled : cache.enabled = true)
    (callback : Invalidation) :
    wp (Healthy i) (runInvalidation cache callback) (fun outcome w' =>
      outcome = .ok () ∧ w'.requests = w.requests ∧ Invalidated callback w.store w'.store) w := by
  obtain ⟨articleId, authorId⟩ := callback
  cases articleId with
  | none => exact bumpGenerations_healthy enabled authorId
  | some id =>
      apply (wp_bind _ _ _ _).mpr
      apply healthy_live enabled
      apply healthy_answered
      apply healthy_command fun _ impossible => by cases impossible
      intro _ _
      refine ⟨(), rfl, ?_⟩
      apply wp_mono (bumpGenerations_healthy enabled authorId)
      rintro outcome w' ⟨rfl, requests, bumped⟩
      refine ⟨rfl, requests, ?_, ?_, ?_⟩
      · rintro _ ⟨⟩
        rw [bumped.kept (articleKey id) nofun fun author _ => articleKey_ne_counterKey id author]
        exact Redis.setEntry_self ..
      · intro author moves
        rw [bumped.moved author moves]
        congr 1
        exact Redis.reading_congr
          (Redis.setEntry_ne w.store none (articleKey_ne_counterKey id author).symm)
      · intro key other aside
        rw [bumped.kept key nofun aside]
        exact Redis.setEntry_ne w.store none (other id rfl)

/-! ## Where requests look -/

/-- A request, sent to a healthy Redis, looks under this key. -/
def LeadsTo (app : App) (w : World) : Request → String → Prop
  | .get id, key => key = articleKey id
  | .list limit after author, key => ∃ i pair w',
      Runs (Healthy i) (app.cache.getGenerations author) w (.ok pair) w' ∧
        key = listKey app.rt (pickGeneration author pair) author limit (cursorParts after)
  | _, _ => False

/-- The lookup of a page reads the counter that the key follows. -/
theorem getGenerations_healthy {cache : ArticleCache} (enabled : cache.enabled = true)
    (author : Option ℤ) :
    wp (Healthy i) (cache.getGenerations author) (fun outcome _ =>
      ∃ pair, outcome = .ok pair ∧
        pickGeneration author pair = w.store.reading (counterKey author)) w := by
  apply healthy_live enabled
  apply healthy_answered
  apply healthy_redis
  rintro _ ⟨⟩
  exact ⟨_, rfl, _, rfl, pickGeneration_values author w.store⟩

/-- A request whose cache is not degraded gets at its counter. -/
theorem exists_getGenerations {cache : ArticleCache} (enabled : cache.enabled = true)
    (author : Option ℤ) (fresh : Undegraded i w) :
    ∃ pair w', Runs (Healthy i) (cache.getGenerations author) w (.ok pair) w' := by
  have degraded : w.exec i {} .cacheDegraded = some (false, w) := by
    simp only [World.exec]
    rw [fresh]
  have admitted : w.exec i {} (.breakerAllow .redis) = some (true, w) := rfl
  have answered : w.exec i {} (.redis (.mget (ArticleCache.generationKeys author))) =
      some (.ok ((ArticleCache.generationKeys author).map w.store.value),
        (w.redisStep i (.mget (ArticleCache.generationKeys author))).2) := rfl
  have reported : ∀ w' : World, w'.exec i {} (.breakerSuccess .redis) = some ((), w') :=
    fun _ => rfl
  unfold ArticleCache.getGenerations ArticleCache.live
  rw [if_pos enabled]
  exact ⟨_, _, .call ⟨⟨_, degraded⟩, rfl⟩ (.call ⟨⟨_, admitted⟩, rfl⟩
    (.call ⟨⟨_, answered⟩, rfl⟩ (.call ⟨⟨_, reported _⟩, rfl⟩ (.ret _ _))))⟩

theorem undegraded_of_runs {cache : ArticleCache} (enabled : cache.enabled = true)
    {author : Option ℤ} {outcome : Except Exc (ℤ × ℤ)} {w' : World}
    (run : Runs (Healthy i) (cache.getGenerations author) w outcome w') : Undegraded i w := by
  unfold ArticleCache.getGenerations ArticleCache.live at run
  rw [if_pos enabled] at run
  cases run with
  | call step _ =>
      obtain ⟨⟨c, step⟩, answered⟩ := step
      have reply := (Prod.mk.inj (Option.some.inj step)).1
      exact reply.trans (Bool.not_eq_true' _ |>.mp answered)

theorem leadsTo_list {app : App} (enabled : app.cacheEnabled = true) {limit : ℤ}
    {after : Option Position} {author : Option ℤ} {key : String} :
    LeadsTo app w (.list limit after author) key ↔ (∃ i, Undegraded i w) ∧
      key = listKey app.rt (w.store.reading (counterKey author)) author limit
        (cursorParts after) := by
  constructor
  · rintro ⟨i, pair, w', run, rfl⟩
    obtain ⟨_, ⟨⟩, read⟩ := wp_sound _ _ _ _ _ (getGenerations_healthy enabled author) run
    exact ⟨⟨i, undegraded_of_runs enabled run⟩, by rw [read]⟩
  · rintro ⟨⟨i, fresh⟩, rfl⟩
    obtain ⟨pair, w', run⟩ :=
      exists_getGenerations (show app.cache.enabled = true from enabled) author fresh
    obtain ⟨_, ⟨⟩, read⟩ := wp_sound _ _ _ _ _ (getGenerations_healthy enabled author) run
    exact ⟨i, pair, w', run, by rw [read]⟩

/-! ## The guarantee -/

/-- What a callback for this author, and article if any, makes stale. -/
inductive Stale (rt : Runtime) (callback : Invalidation) : String → Prop where
  | article (id : ℤ) : callback.articleId = some id → Stale rt callback (articleKey id)
  | page (generation limit : ℤ) (author : Option ℤ) (parts : Option (ℤ × ℤ)) :
      callback.Moves author → Stale rt callback (listKey rt generation author limit parts)

theorem Stale.of_article {rt : Runtime} {callback : Invalidation} {id : ℤ}
    (stale : Stale rt callback (articleKey id)) : callback.articleId = some id := by
  generalize same : articleKey id = key at stale
  cases stale with
  | article id' written =>
      rw [articleKey_injective same]
      exact written
  | page _ _ _ _ _ => exact absurd same (articleKey_ne_listKey _ _ _ _ _ _)

theorem Stale.of_page {rt : Runtime} {callback : Invalidation} {generation limit : ℤ}
    {author : Option ℤ} {parts : Option (ℤ × ℤ)}
    (stale : Stale rt callback (listKey rt generation author limit parts)) :
    callback.Moves author := by
  generalize same : listKey rt generation author limit parts = key at stale
  cases stale with
  | article _ _ => exact absurd same.symm (articleKey_ne_listKey _ _ _ _ _ _)
  | page _ _ author' _ moves =>
      obtain ⟨-, rfl, -⟩ := listKey_injective rt same
      exact moves

/-- Whether what a request reads may show the article that was written. -/
def Invalidation.Concerns (callback : Invalidation) : Request → Prop
  | .get id => callback.articleId = some id
  | .list _ _ author => callback.Moves author
  | _ => False

/-- What becomes of the entries between `w` and `w'`. -/
structure Exact (app : App) (callback : Invalidation) (w w' : World) : Prop where
  /-- Nothing leads to an entry that the write made stale. -/
  gone : ∀ request key, LeadsTo app w' request key → Stale app.rt callback key →
    w'.store.entries key = none
  /-- Whatever else was cached is still there. -/
  kept : ∀ key, (∀ id, callback.articleId = some id → key ≠ articleKey id) →
    (∀ author, callback.Moves author → key ≠ counterKey author) →
    w'.store.entries key = w.store.entries key
  /-- And where it was found before, it is found again. -/
  found : ∀ request key, ¬callback.Concerns request → LeadsTo app w request key →
    LeadsTo app w' request key ∧ ¬Stale app.rt callback key ∧
      w'.store.entries key = w.store.entries key

theorem Invalidated.gone {rt : Runtime} {callback : Invalidation} {store store' : Redis}
    (behind : Redis.Behind rt store) (invalidated : Invalidated callback store store')
    {author : Option ℤ} (moves : callback.Moves author) (limit : ℤ) (parts : Option (ℤ × ℤ)) :
    store'.entries (listKey rt (store'.reading (counterKey author)) author limit parts) = none := by
  rw [invalidated.kept]
  · cases stored : store.entries
        (listKey rt (store'.reading (counterKey author)) author limit parts) with
    | none => rfl
    | some entry =>
        have below := behind.pages _ author limit parts entry stored
        have above := invalidated.moved author moves
        omega
  · exact fun id _ => (articleKey_ne_listKey id rt _ limit author parts).symm
  · exact fun author' _ => listKey_ne_counterKey rt _ limit author author' parts

theorem Invalidated.exact {app : App} (enabled : app.cacheEnabled = true)
    {callback : Invalidation} {w' : World} (behind : Redis.Behind app.rt w.store)
    (requests : w'.requests = w.requests) (invalidated : Invalidated callback w.store w'.store) :
    Exact app callback w w' := by
  refine ⟨fun request key leads stale => ?_, invalidated.kept, fun request key aside leads => ?_⟩
  · cases stale with
    | article id same => exact invalidated.article id same
    | page generation limit author parts moves =>
        cases request with
        | get id => exact absurd leads (articleKey_ne_listKey id app.rt _ _ _ _).symm
        | list limit' after author' =>
            obtain ⟨-, same⟩ := (leadsTo_list enabled).mp leads
            obtain ⟨rfl, rfl, -⟩ := listKey_injective app.rt same
            exact invalidated.gone behind moves limit parts
        | _ => exact leads.elim
  · cases request with
    | get id =>
        obtain rfl : key = articleKey id := leads
        have other : ∀ id', callback.articleId = some id' → articleKey id ≠ articleKey id' := by
          intro id' written same
          obtain rfl := articleKey_injective same
          exact aside written
        refine ⟨rfl, fun stale => aside stale.of_article, ?_⟩
        · exact invalidated.kept _ other fun author _ => articleKey_ne_counterKey id author
    | list limit after author =>
        obtain ⟨⟨i, fresh⟩, rfl⟩ := (leadsTo_list enabled).mp leads
        have counter : w'.store.reading (counterKey author) = w.store.reading (counterKey author) := by
          apply Redis.reading_congr
          apply invalidated.kept
          · exact fun id _ => (articleKey_ne_counterKey id author).symm
          · rintro author' moves same
            obtain rfl := counterKey_injective same
            exact aside moves
        refine ⟨(leadsTo_list enabled).mpr ⟨⟨i, ?_⟩, ?_⟩, fun stale => aside stale.of_page, ?_⟩
        · rw [Undegraded, requests]
          exact fresh
        · rw [counter]
        · apply invalidated.kept
          · exact fun id _ => (articleKey_ne_listKey id app.rt _ limit author _).symm
          · exact fun author' _ => listKey_ne_counterKey app.rt _ limit author author' _
    | _ => exact leads.elim

/-- In every store that requests have built up, whatever failed and however they interleaved, a
callback whose commands succeed makes unreachable all that its write made stale and nothing
else.  Entries may have expired, the counters stay. -/
theorem invalidation_exact (σ : Setting) (shrinks : ∀ w w', σ.env w w' → Shrinks w w') (app : App)
    (enabled : app.cacheEnabled = true) {start : World} (initial : Initial start)
    (empty : Unstored start) {c : System} (run : σ.Reaches (app.start σ.requests start) c)
    (callback : Invalidation) {outcome : Except Exc Unit} {w' : World}
    (ran : Runs (Healthy i) (runInvalidation app.cache callback) c.state outcome w') :
    outcome = .ok () ∧ Exact app callback c.state w' := by
  have kept := ((initial.allStores shrinks empty app).steps run).inv.2
  obtain ⟨done, requests, invalidated⟩ :=
    wp_sound _ _ _ _ _ (runInvalidation_healthy enabled callback) ran
  exact ⟨done, invalidated.exact enabled kept requests⟩

end

/-! ## A cached article is edited -/

def healthyAnswer (i : Pid) (op : Op) (w : World) : Option (op.Reply × World) :=
  (w.exec i {} op).filter fun answer => op.answered answer.1

theorem healthyAnswer_sound (i : Pid) (op : Op) (w : World) (reply : op.Reply) (w' : World)
    (answer : healthyAnswer i op w = some (reply, w')) : Healthy i op w reply w' := by
  obtain ⟨step, answered⟩ := Option.filter_eq_some_iff.mp answer
  exact ⟨⟨_, step⟩, answered⟩

def readersOfAll : List Request :=
  [.get 1, .list 10 none none, .list 10 none (some 1), .list 10 none (some 2)]

/-- The article and the pages are cached, and the callback of an edit runs. -/
theorem invalidation_exact_of_edit : ∃ c outcome w',
    (Setting.free (requestsOf readersOfAll)).Reaches
      (App.start ⟨defaultRuntime fun _ => "", true⟩ (requestsOf readersOfAll)
        (World.fresh editedArticle 2 [ann])) c ∧
      (c.state.store.value (articleKey 1)).isSome = true ∧
      Runs (Healthy 4) (runInvalidation ⟨true⟩ ⟨some 1, 1⟩) c.state outcome w' ∧
      outcome = .ok () ∧ Exact ⟨defaultRuntime fun _ => "", true⟩ ⟨some 1, 1⟩ c.state w' := by
  obtain ⟨c, run, facts⟩ := (Setting.free (requestsOf readersOfAll)).exists_replay
    (fun _ _ _ _ => true) (fun _ _ _ _ _ => trivial)
    (App.start ⟨defaultRuntime fun _ => "", true⟩ (requestsOf readersOfAll)
      (World.fresh editedArticle 2 [ann]))
    (turns 0 23 {} ++ turns 1 26 {} ++ turns 2 26 {} ++ turns 3 26 {})
    (fun c => (c.state.store.value (articleKey 1)).isSome &&
      (execute (healthyAnswer 4) (runInvalidation ⟨true⟩ ⟨some 1, 1⟩) c.state).any
        fun ended => ended.1.isOk) (by decide +kernel)
  rw [Bool.and_eq_true] at facts
  obtain ⟨outcome, w', ran, -⟩ := exists_runs (healthyAnswer_sound 4) _ _ _ facts.2
  exact ⟨c, outcome, w', run, facts.1, ran, invalidation_exact
    (Setting.free (requestsOf readersOfAll)) (fun _ _ => Expires.shrinks)
    ⟨defaultRuntime fun _ => "", true⟩ rfl (World.fresh_initial _ (by decide)) ⟨fun _ => rfl⟩ run
    ⟨some 1, 1⟩ ran⟩

end ContentPlatform
