import ContentPlatform.Schemas
import ContentPlatform.World.Timed

/-!
# Bounded staleness

Whatever a read gets from Redis was stored at most one time to live before, by a
request that had loaded it from MySQL itself.
-/

set_option autoImplicit false

namespace ContentPlatform

open Program Prog Protocol

inductive ContentKey (rt : Runtime) : String → Prop where
  | article (id : ℤ) : ContentKey rt (articleKey id)
  | page (generation limit : ℤ) (author : Option ℤ) (parts : Option (ℤ × ℤ)) :
      ContentKey rt (listKey rt generation author limit parts)

theorem ContentKey.ne_counterKey {rt : Runtime} {key : String} (content : ContentKey rt key)
    (author : Option ℤ) : key ≠ counterKey author := by
  cases content with
  | article id => exact articleKey_ne_counterKey id author
  | page generation limit author' parts => exact listKey_ne_counterKey rt _ _ _ _ _

theorem ContentKey.ne_lockKey {rt : Runtime} {key : String} (content : ContentKey rt key)
    (other : String) : key ≠ lockKey other := by
  cases content with
  | article id => exact (lockKey_ne_articleKey other id).symm
  | page generation limit author' parts => exact (lockKey_ne_listKey other rt _ _ _ _).symm

section
variable (σ : Setting) (rt : Runtime) (bound : ℤ → ℚ → ℤ) (start : TimedSystem)

/-- On the way to `c`, request `p` sent this in state `s` and was answered. -/
def Happened (c : TimedSystem) (p : Pid) (op : Op) (reply : op.Reply) (s : Timed) : Prop :=
  ∃ c₁ next s', σ.Passing start c₁ ∧ c₁.state = s ∧ c₁.code p = .call op next ∧
    TimedExec σ.allow p op s reply s' ∧
    σ.Passing ⟨s', Function.update c₁.code p (next reply), Function.update c₁.started p true⟩ c

/-- Request `p`, which is about to store this entry at `c`, has itself read its content in a
committed state, and the entry is to last for no longer than the bound. -/
inductive StoresLoaded (c : TimedSystem) (p : Pid) : (key body : String) → (ttl : ℤ) → Prop where
  | article {id ttl : ℤ} {found : Option ℤ} {row : ArticleRow} {s : Timed} :
      Happened σ start c p (.mysql (.selectArticle id)) (.ok found) s →
      s.now ≤ c.state.now → s.world.db.viewed p ≤ s.world.db.version →
      (s.world.db.history (s.world.db.viewed p)).find id = some row → row.live = true →
      1 ≤ ttl → ttl ≤ bound rt.articleTtlSeconds rt.ttlJitter →
      StoresLoaded c p (articleKey id) (rt.articleDumpJson row.out) ttl
  | page {generation limit ttl : ℤ} {after : Option Position} {author : Option ℤ}
      {rows : List ArticleSummaryOut} {page : Page} {s : Timed} :
      Happened σ start c p (.mysql (.selectPage (limit + 1) after author)) (.ok rows) s →
      s.now ≤ c.state.now → s.world.db.viewed p ≤ s.world.db.version →
      splitPage limit ((s.world.db.history (s.world.db.viewed p)).fetch (limit + 1) after author) =
        .ok page →
      1 ≤ ttl → ttl ≤ bound rt.listTtlSeconds rt.ttlJitter →
      StoresLoaded c p (listKey rt generation author limit (cursorParts after)) (encodePage rt page)
        ttl

structure BoundedStaleness (c : TimedSystem) : Prop where
  /-- Nothing is stored but what its request has loaded, never what it found in the cache. -/
  stores : ∀ p key body ttl next, c.code p = .call (.redis (.set key body ttl false)) next →
    StoresLoaded σ rt bound start c p key body ttl
  /-- What a `GET` answers was stored by a `SET` whose time to live is not over yet. -/
  reads : ∀ i key body next s', ContentKey rt key → c.code i = .call (.redis (.get key)) next →
    TimedExec σ.allow i (.redis (.get key)) c.state (.ok (some body)) s' →
    ∃ stamp c₁ next₁, c.state.stamps key = some stamp ∧ σ.Passing start c₁ ∧ σ.Passing c₁ c ∧
      c₁.code stamp.by_ = .call (.redis (.set key body stamp.ttl false)) next₁ ∧
      c₁.state.now = stamp.time ∧ StoresLoaded σ rt bound start c₁ stamp.by_ key body stamp.ttl ∧
      stamp.time ≤ c.state.now ∧ c.state.now < stamp.time + stamp.ttl

end

section
variable {σ : Setting} {start c c' : TimedSystem} {p : Pid} {op : Op} {reply : op.Reply} {s : Timed}

theorem Happened.later (happened : Happened σ start c p op reply s) (run : σ.Passing c c') :
    Happened σ start c' p op reply s := by
  obtain ⟨c₁, next, s', before, state, code, step, after⟩ := happened
  exact ⟨c₁, next, s', before, state, code, step, after.trans run⟩

theorem Happened.now_le (happened : Happened σ start c p op reply s) : s.now ≤ c.state.now := by
  obtain ⟨c₁, next, s', -, rfl, -, step, after⟩ := happened
  exact step.now.ge.trans after.now_le

/-- What a session read last, it has read on the way. -/
def Read (σ : Setting) (start c : TimedSystem) : Prop :=
  ∀ p n, (c.state.world.db.sessions p).loadedFrom = some n →
    ∃ op reply s, Happened σ start c p op reply s ∧ ReadsArticles op reply ∧
      s.world.db.viewed p = n

theorem Read.steps (fresh : ∀ p, (start.state.world.db.sessions p).loadedFrom = none)
    (run : σ.Passing start c) : Read σ start c := by
  induction run with
  | refl =>
      intro p n loaded
      rw [fresh p] at loaded
      cases loaded
  | @tail c c' before step ih =>
      have later : ∀ p n, (c.state.world.db.sessions p).loadedFrom = some n →
          ∃ op reply s, Happened σ start c' p op reply s ∧ ReadsArticles op reply ∧
            s.world.db.viewed p = n := by
        intro p n loaded
        obtain ⟨op, reply, s, happened, reads, viewed⟩ := ih p n loaded
        exact ⟨op, reply, s, happened.later step.steps, reads, viewed⟩
      intro p n loaded
      cases step with
      | @run i op next reply s' code step =>
          obtain ⟨choice, allowed, exec⟩ := step
          have world := (Timed.exec_world exec).1
          by_cases same : p = i
          · subst same
            rcases World.exec_loadedFrom world with kept | ⟨reads, loads⟩
            · exact later p n (kept.symm.trans loaded)
            · refine ⟨op, reply, c.state, ⟨c, next, s', before, rfl, code, ⟨choice, allowed, exec⟩,
                .refl⟩, reads, ?_⟩
              exact Option.some.inj (loads.symm.trans loaded)
          · have kept := (World.exec_undisturbed world same).session
            dsimp only at loaded
            rw [kept] at loaded
            exact later p n loaded
      | @env s' passes =>
          have kept : s'.world.db.sessions p = c.state.world.db.sessions p := by
            rcases passes.world with same | moved
            · rw [same]
            · exact ((σ.outside _ _ moved).undisturbed p).session
          dsimp only at loaded
          rw [kept] at loaded
          exact later p n loaded

/-! ## What is stored -/

def Traced (σ : Setting) (rt : Runtime) (start c : TimedSystem) : Prop :=
  ∀ key entry, ContentKey rt key → c.state.world.store.entries key = some entry →
    entry.expires = true ∧ ∃ stamp c₁ next, c.state.stamps key = some stamp ∧
      σ.Passing start c₁ ∧ σ.Passing c₁ c ∧
      c₁.code stamp.by_ = .call (.redis (.set key entry.value stamp.ttl false)) next ∧
      c₁.state.now = stamp.time ∧ stamp.time ≤ c.state.now ∧
      c.state.now < stamp.time + stamp.ttl

variable {rt : Runtime} {shrinks : ∀ w w', σ.env w w' → Shrinks w w'}

/-- The stamp of an entry that a step leaves as it is. -/
theorem Traced.kept (traced : Traced σ rt start c) (next : Step (TimedExec σ.allow)
    (Passes σ.env) c c') {key : String} {entry : Entry} (content : ContentKey rt key)
    (stored : c.state.world.store.entries key = some entry)
    (stamps : c'.state.stamps key = c.state.stamps key)
    (alive : ∀ stamp, c.state.stamps key = some stamp → entry.expires = true →
      c.state.now < stamp.time + stamp.ttl → c'.state.now < stamp.time + stamp.ttl) :
    entry.expires = true ∧ ∃ stamp c₁ next, c'.state.stamps key = some stamp ∧
      σ.Passing start c₁ ∧ σ.Passing c₁ c' ∧
      c₁.code stamp.by_ = .call (.redis (.set key entry.value stamp.ttl false)) next ∧
      c₁.state.now = stamp.time ∧ stamp.time ≤ c'.state.now ∧
      c'.state.now < stamp.time + stamp.ttl := by
  obtain ⟨expires, stamp, c₁, rest, own, before, after, code, time, past, left⟩ :=
    traced key entry content stored
  have passing : σ.Passing c c' := next.steps
  exact ⟨expires, stamp, c₁, rest, stamps.trans own, before, after.trans passing, code, time,
    past.trans passing.now_le, alive stamp own expires left⟩

/-- One step keeps every stamp, or it is the `SET` that the new stamp names. -/
theorem Traced.step (traced : Traced σ rt start c) (before : σ.Passing start c)
    (safe : (σ.stores rt shrinks).AllSafe (fun _ (_ : Except Exc Response) _ => True)
      (c.map Timed.world))
    (next : Step (TimedExec σ.allow) (Passes σ.env) c c') : Traced σ rt start c' := by
  intro key entry content stored
  cases next with
  | @run i op rest reply s' code step =>
      have next : Step (TimedExec σ.allow) (Passes σ.env) c _ := .run i code step
      have now := step.now
      obtain ⟨choice, allowed, exec⟩ := step
      have may : ∀ command, op = .redis command → MaySend σ rt i c.state.world command :=
        (safe.owed (i := i) code).2
      have uncounted : op ≠ .redis (.incr key) := by
        rintro rfl
        obtain ⟨author, same⟩ := (may _ rfl).counter
        exact content.ne_counterKey author same
      rcases Timed.exec_key exec uncounted stored with ⟨stamps, stored⟩ | ⟨ttl, nx, rfl, own, expires⟩
      · exact traced.kept next content stored stamps fun _ _ _ left => by rw [now]; exact left
      · cases nx with
        | true =>
            obtain ⟨other, same⟩ := (may _ rfl).locked
            exact absurd same (content.ne_lockKey other)
        | false =>
            have lasts : (1 : ℚ) ≤ ttl := by exact_mod_cast (may _ rfl).lasts
            refine ⟨expires, _, c, rest, own, before, next.steps, code, rfl, now.ge, ?_⟩
            rw [now]
            linarith
  | @env s' passes =>
      have next : Step (TimedExec σ.allow) (Passes σ.env) c _ := .env passes
      have before : c.state.world.store.entries key = some entry := by
        rcases passes.world with same | moved
        · rw [← same]
          exact stored
        · rcases (shrinks _ _ moved).entries key with same | ⟨gone, -⟩
          · exact same.symm.trans stored
          · cases gone.symm.trans stored
      exact traced.kept next content before (by rw [passes.stamps]) fun stamp own expires _ =>
        passes.alive key entry stamp stored expires own

theorem Traced.steps {app : App} {w : World} (initial : Initial w) (empty : Unstored w)
    (shrinks : ∀ w w', σ.env w w' → Shrinks w w') {now : ℚ}
    (run : σ.Passing (app.startAt σ.requests w now) c) :
    Traced σ app.rt (app.startAt σ.requests w now) c := by
  induction run with
  | refl =>
      intro key entry _ stored
      cases (empty.entries key).symm.trans stored
  | @tail c c' before step ih =>
      exact ih.step before (Setting.Passing.allStores initial empty app shrinks before) step

/-! ## The guarantee -/

/-- What a read request has read is what its request names. -/
theorem Happened.reads {app : App} {w : World} {now : ℚ}
    (happened : Happened σ (app.startAt σ.requests w now) c p op reply s)
    (reads : ReadsArticles op reply) :
    (∀ id, σ.requests p = .get id →
      ∃ found, Happened σ (app.startAt σ.requests w now) c p (.mysql (.selectArticle id))
        (.ok found) s) ∧
    ∀ limit after author, σ.requests p = .list limit after author →
      ∃ rows, Happened σ (app.startAt σ.requests w now) c p
        (.mysql (.selectPage (limit + 1) after author)) (.ok rows) s := by
  have sent : ∀ statement, op = .mysql statement → (σ.requests p).statements statement := by
    obtain ⟨c₁, next, s', before, -, code, -, -⟩ := happened
    have sends := before.sends (serve_statements app (σ.requests p))
    rw [code] at sends
    exact sends.1
  cases reads with
  | article id' found =>
      have named := sent _ rfl
      refine ⟨fun id request => ?_, fun limit after author request => ?_⟩
      · rw [request] at named
        obtain ⟨⟩ : Statement.selectArticle id' = .selectArticle id := named
        exact ⟨found, happened⟩
      · rw [request] at named
        cases (show Statement.selectArticle id' = .selectPage (limit + 1) after author from named)
  | page limit' after' author' rows =>
      have named := sent _ rfl
      refine ⟨fun id request => ?_, fun limit after author request => ?_⟩
      · rw [request] at named
        cases (show Statement.selectPage limit' after' author' = .selectArticle id from named)
      · rw [request] at named
        obtain ⟨⟩ : Statement.selectPage limit' after' author' =
          .selectPage (limit + 1) after author := named
        exact ⟨rows, happened⟩
  | refresh id' reply =>
      have named := sent _ rfl
      refine ⟨fun id request => ?_, fun limit after author request => ?_⟩
      · rw [request] at named
        cases (show Statement.refreshArticle id' = .selectArticle id from named)
      · rw [request] at named
        cases (show Statement.refreshArticle id' = .selectPage (limit + 1) after author from named)

theorem Happened.extends_ (happened : Happened σ start c p op reply s) :
    Extends s.world.db c.state.world.db := by
  obtain ⟨c₁, next, s', -, rfl, code, step, after⟩ := happened
  have first : Step (TimedExec σ.allow) (Passes σ.env) c₁ _ := .run p code step
  have run : σ.Passing c₁ c := first.steps.trans after
  exact run.extends_

theorem Happened.viewed_le {app : App} {w : World} {now : ℚ} (initial : Initial w)
    (happened : Happened σ (app.startAt σ.requests w now) c p op reply s) :
    s.world.db.viewed p ≤ s.world.db.version := by
  obtain ⟨c₁, next, s', before, rfl, -, -, -⟩ := happened
  exact ((initial.allSafe app).steps before.reaches).inv.view p

/-- What a request is about to store it has loaded. -/
theorem stores_loaded {app : App} {w : World} (initial : Initial w) (empty : Unstored w)
    (shrinks : ∀ w w', σ.env w w' → Shrinks w w') (draws : Draws σ.allow) {now : ℚ}
    (run : σ.Passing (app.startAt σ.requests w now) c) {key body : String} {ttl : ℤ}
    {next : Except Exc Bool → Py Response}
    (code : c.code p = .call (.redis (.set key body ttl false)) next) :
    StoresLoaded σ app.rt longestTtl (app.startAt σ.requests w now) c p key body ttl := by
  have fresh : ∀ p, (w.db.sessions p).loadedFrom = none := by
    intro p
    rw [initial.sessions p]
    rfl
  have read : Read σ (app.startAt σ.requests w now) c := Read.steps fresh run
  have safe := Setting.Passing.allStores initial empty app shrinks run
  have may : MaySend σ app.rt p c.state.world (.set key body ttl false) :=
    (safe.owed (i := p) code).2 _ rfl
  have earlier : ∀ n, n ≤ c.state.world.db.version →
      (c.state.world.db.sessions p).loadedFrom = some n →
      ∃ op reply s, Happened σ (app.startAt σ.requests w now) c p op reply s ∧
        ReadsArticles op reply ∧ s.world.db.viewed p ≤ s.world.db.version ∧
        s.world.db.history (s.world.db.viewed p) = c.state.world.db.history n := by
    intro n past loaded
    obtain ⟨op, reply, s, happened, reads, rfl⟩ := read p n loaded
    have viewed := happened.viewed_le initial
    exact ⟨op, reply, s, happened, reads, viewed, (happened.extends_.history _ viewed).symm⟩
  cases may with
  | article request past loaded found live bound =>
      obtain ⟨op, reply, s, happened, reads, viewed, same⟩ := earlier _ past loaded
      obtain ⟨answer, loads⟩ := (happened.reads reads).1 _ request
      exact .article loads loads.now_le viewed (by rw [same]; exact found) live bound.least
        (bound.most draws)
  | page request past loaded split _ bound =>
      obtain ⟨op, reply, s, happened, reads, viewed, same⟩ := earlier _ past loaded
      obtain ⟨rows, loads⟩ := (happened.reads reads).2 _ _ _ request
      exact .page loads loads.now_le viewed (by rw [same]; exact split) bound.least
        (bound.most draws)

/-- In every run of any requests, whatever fails, whatever Redis drops and whichever invalidations
are lost, what a request gets from Redis was stored at most one time to live before by a request
that had loaded exactly that from MySQL, and nothing else is ever stored. -/
theorem staleness_bounded (σ : Setting) (shrinks : ∀ w w', σ.env w w' → Shrinks w w')
    (draws : Draws σ.allow) (app : App) {w : World} (initial : Initial w) (empty : Unstored w)
    (now : ℚ) {c : TimedSystem} (run : σ.Passing (app.startAt σ.requests w now) c) :
    BoundedStaleness σ app.rt longestTtl (app.startAt σ.requests w now) c := by
  refine ⟨fun p key body ttl next code => stores_loaded initial empty shrinks draws run code,
    fun i key body next s' content code step => ?_⟩
  obtain ⟨entry, stored, rfl⟩ : ∃ entry, c.state.world.store.entries key = some entry ∧
      entry.value = body := by
    rcases World.redis_cases step.exec with ⟨-, answer | ⟨_, ⟨⟩⟩⟩ | ⟨-, _, ⟨⟩⟩
    have value : some body = c.state.world.store.value key := Except.ok.inj answer
    exact Option.map_eq_some_iff.mp value.symm
  obtain ⟨-, stamp, c₁, next₁, own, before, after, sends, time, past, left⟩ :=
    Traced.steps initial empty shrinks run key entry content stored
  exact ⟨stamp, c₁, next₁, own, before, after, sends, time,
    stores_loaded initial empty shrinks draws before sends, past, left⟩

end

/-! ## The longest time to live -/

def spreadTtl (baseSeconds : ℤ) (jitter : ℚ) : ℤ :=
  max 1 (roundHalfEven (baseSeconds * (1 + max jitter 0)))

theorem longestTtl_of_nonneg {baseSeconds : ℤ} (nonneg : 0 ≤ baseSeconds) (jitter : ℚ) :
    longestTtl baseSeconds jitter = spreadTtl baseSeconds jitter := by
  have same : |(baseSeconds : ℚ)| = baseSeconds := abs_of_nonneg (by exact_mod_cast nonneg)
  rw [longestTtl, spreadTtl, same]
  congr 2
  ring

theorem StoresLoaded.article_ttl {σ : Setting} {rt : Runtime} {bound : ℤ → ℚ → ℤ}
    {start c : TimedSystem} {p : Pid} {id ttl : ℤ} {body : String}
    (stores : StoresLoaded σ rt bound start c p (articleKey id) body ttl) :
    ttl ≤ bound rt.articleTtlSeconds rt.ttlJitter := by
  generalize same : articleKey id = key at stores
  cases stores with
  | article _ _ _ _ _ _ most => exact most
  | page _ _ _ _ _ _ => exact absurd same (articleKey_ne_listKey _ _ _ _ _ _)

/-! ## An entry read late -/

/-- `random.uniform` keeps to its range; anything else may happen. -/
def drawnChoice (_ : World) (_ : Pid) (op : Op) (c : Choice) : Bool :=
  match op with
  | .uniform low high => decide (min low high ≤ c.number) && decide (c.number ≤ max low high)
  | _ => true

def Setting.drawing (requests : Pid → Request) : Setting :=
  ⟨requests, fun w i op c => drawnChoice w i op c = true, Expires, fun _ _ => Expires.outside⟩

theorem Setting.drawing_draws (requests : Pid → Request) :
    Draws (Setting.drawing requests).allow := by
  intro w i low high c allowed
  have drawn : (decide (min low high ≤ c.number) && decide (c.number ≤ max low high)) = true :=
    allowed
  simpa using drawn

def readerSettings (baseSeconds : ℤ) (jitter : ℚ) : Runtime :=
  { defaultRuntime fun _ => "" with articleTtlSeconds := baseSeconds, ttlJitter := jitter }

def twoReaders (baseSeconds : ℤ) (jitter : ℚ) : TimedSystem :=
  App.startAt ⟨readerSettings baseSeconds jitter, true⟩ (requestsOf [.get 1, .get 1])
    (World.fresh editedArticle 2 [ann]) 0

def readLater (steps : ℕ) (drawn now : ℚ) : List Turn :=
  List.replicate steps (.step 0 { number := drawn }) ++ [.wait now] ++
    List.replicate 2 (.step 1 {})

def finds (c : TimedSystem) (i : Pid) (key : String) : Bool :=
  match c.code i with
  | .call (.redis (.get key')) _ => key' == key && (c.state.world.store.value key).isSome
  | _ => false

theorem exists_get {requests : Pid → Request} {c : TimedSystem} {i : Pid} {key : String}
    (about : finds c i key = true) : ∃ next body s', c.code i = .call (.redis (.get key)) next ∧
      TimedExec (Setting.drawing requests).allow i (.redis (.get key)) c.state (.ok (some body)) s' := by
  unfold finds at about
  split at about
  · rename_i key' next code
    rw [Bool.and_eq_true] at about
    obtain rfl := eq_of_beq about.1
    obtain ⟨body, found⟩ := Option.isSome_iff_exists.mp about.2
    refine ⟨next, body, ⟨(c.state.world.redisStep i (.get key')).2, c.state.now, c.state.stamps⟩,
      code, {}, rfl, ?_⟩
    rw [← found]
    rfl
  · cases about

/-- A base that is negative is spread to the other side: ten seconds where one is the bound. -/
theorem staleness_exceeds_spread :
    Draws (Setting.drawing (requestsOf [.get 1, .get 1])).allow ∧
    ∃ c, (Setting.drawing (requestsOf [.get 1, .get 1])).Passing (twoReaders (-10) 2) c ∧
      ¬BoundedStaleness (Setting.drawing (requestsOf [.get 1, .get 1])) (readerSettings (-10) 2)
        spreadTtl (twoReaders (-10) 2) c := by
  refine ⟨Setting.drawing_draws _, ?_⟩
  obtain ⟨c, run, facts⟩ := (Setting.drawing (requestsOf [.get 1, .get 1])).exists_turns drawnChoice
    (fun _ _ _ _ checked => checked) (twoReaders (-10) 2) ⟨fun _ => rfl⟩ (readLater 24 10 5)
    (fun c => finds c 1 (articleKey 1) &&
      (c.state.stamps (articleKey 1)).all fun stamp => stamp.ttl == 10) (by decide +kernel)
  rw [Bool.and_eq_true] at facts
  refine ⟨c, run, fun bounded => ?_⟩
  obtain ⟨next, body, s', code, step⟩ := exists_get facts.1
  obtain ⟨stamp, c₁, next₁, own, -, -, -, -, stores, -, -⟩ :=
    bounded.reads 1 (articleKey 1) body next s' (.article 1) code step
  have ten : stamp.ttl = 10 := by
    have all := facts.2
    rw [own] at all
    exact eq_of_beq all
  have most := stores.article_ttl
  rw [ten] at most
  exact absurd most (by decide +kernel)

/-- A body that is read in the last second of its time to live. -/
theorem staleness_bounded_of_late_read :
    ∃ c, (Setting.drawing (requestsOf [.get 1, .get 1])).Passing (twoReaders 300 0) c ∧
      c.state.now = 299 ∧ finds c 1 (articleKey 1) = true ∧
      BoundedStaleness (Setting.drawing (requestsOf [.get 1, .get 1])) (readerSettings 300 0)
        longestTtl (twoReaders 300 0) c := by
  obtain ⟨c, run, facts⟩ := (Setting.drawing (requestsOf [.get 1, .get 1])).exists_turns drawnChoice
    (fun _ _ _ _ checked => checked) (twoReaders 300 0) ⟨fun _ => rfl⟩ (readLater 23 0 299)
    (fun c => decide (c.state.now = 299) && finds c 1 (articleKey 1)) (by decide +kernel)
  rw [Bool.and_eq_true, decide_eq_true_eq] at facts
  exact ⟨c, run, facts.1, facts.2, staleness_bounded (Setting.drawing (requestsOf [.get 1, .get 1]))
    (fun _ _ => Expires.shrinks) (Setting.drawing_draws _) ⟨readerSettings 300 0, true⟩
    (World.fresh_initial _ (by decide)) ⟨fun _ => rfl⟩ 0 run⟩

end ContentPlatform
