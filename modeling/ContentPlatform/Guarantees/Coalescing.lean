import ContentPlatform.Schemas
import ContentPlatform.World.Flight

/-!
# One load for all readers

As long as nobody wins the lock once the row is stored, a run has at most one winner: the
leader of `World.Flight`, which is not known before a lock is created.
-/

set_option autoImplicit false

namespace ContentPlatform

open Program Py Prog Protocol

structure Setting.Populates (σ : Setting) (id : ℤ) (timeout : ℚ) : Prop where
  stored : ∀ w i c, σ.allow w i (.redis (.delete (lockKey (articleKey id)))) c →
    (w.store.entries (articleKey id)).isSome
  patient : σ.Patient timeout

def Setting.NoLateWinner (σ : Setting) (id : ℤ) : Prop :=
  ∀ w i body ttl c, σ.allow w i (.redis (.set (lockKey (articleKey id)) body ttl true)) c →
    w.store.entries (lockKey (articleKey id)) = none → w.store.entries (articleKey id) = none

structure Unread (w : World) (id : ℤ) (row : ArticleRow) : Prop where
  found : w.db.table.find id = some row
  live : row.live = true
  absent : w.store.entries (articleKey id) = none
  free : w.store.entries (lockKey (articleKey id)) = none

/-- One request reads the row, once, and all are answered with it. -/
structure Coalesced (σ : Setting) (id : ℤ) (row : ArticleRow) (c : System) : Prop where
  once : ∀ i j, HasLoaded i c.state → HasLoaded j c.state → i = j
  first : ∀ i statement next, c.code i = .call (.mysql statement) next →
    statement = .selectArticle id ∧ ∀ j, ¬HasLoaded j c.state
  returned : ∀ i response, c.outcome i = some (.ok response) →
    response = .article row.out ∧ ∃ j, HasLoaded j c.state
  failed : σ.Calm → ∀ i error, c.outcome i ≠ some (.error error)

section
variable {σ : Setting} {id : ℤ} {row : ArticleRow} {leader : Pid} {app : App} {w : World}
  {c c' : System}

theorem Initial.unloaded (start : Initial w) (i : Pid) : ¬HasLoaded i w := by
  rw [HasLoaded, start.sessions i]
  exact fun loaded => loaded rfl

theorem Initial.arriving (start : Initial w) (i : Pid) : Own i Arriving w := by
  rw [Own, start.sessions i, start.requests i]
  exact ⟨rfl, rfl, rfl, rfl, rfl⟩

theorem Initial.flight (start : Initial w) (unread : Unread w id row) :
    Flight app.rt id row leader σ.requests w := by
  refine ⟨start.coherent σ.requests, ?_, fun entry stored => ?_, fun i loaded => ?_⟩
  · have found := unread.found
    rw [Database.table, start.version] at found
    exact found
  · cases unread.absent.symm.trans stored
  · exact absurd loaded (start.unloaded i)

theorem App.allFlight (sharing : σ.Sharing id) (serializes : app.rt.Serializes)
    (enabled : app.cacheEnabled = true) (patient : σ.Patient app.rt.lockTimeoutSeconds)
    (start : Initial w) (unread : Unread w id row) :
    (σ.flight app.rt id row leader sharing).AllSafe
      (fun _ => okOr (fun response w => HasLoaded leader w ∧ response = .article row.out)
        fun _ => ¬σ.Calm) (app.start σ.requests w) := by
  have kept : Flight app.rt id row leader σ.requests w := start.flight unread
  refine ⟨kept, fun i => ?_⟩
  show (σ.flight app.rt id row leader sharing).Safe i (app.serve (σ.requests i)) _ w
  rw [sharing.requests i]
  exact serve_flight app serializes enabled unread.live patient w kept (start.arriving i)

/-! ## The leader of a run -/

/-- Who leads a run that has come this far: whoever gets the lock, or the one who has it. -/
inductive Leads (σ : Setting) (id : ℤ) (start c : System) : Prop where
  | undecided : c.state.store.entries (articleKey id) = none →
      c.state.store.entries (lockKey (articleKey id)) = none →
      (∀ leader, (σ.led (articleKey id) leader).Reaches start c) → Leads σ id start c
  | decided (leader : Pid) : (σ.led (articleKey id) leader).Reaches start c →
      (c.state.store.entries (lockKey (articleKey id)) = none →
        c.state.store.entries (articleKey id) ≠ none) → Leads σ id start c

theorem Leads.led {start : System} (leads : Leads σ id start c) :
    ∃ leader, (σ.led (articleKey id) leader).Reaches start c := by
  cases leads with
  | undecided _ _ all => exact ⟨0, all 0⟩
  | decided leader run _ => exact ⟨leader, run⟩

def Creates (id : ℤ) (op : Op) (w : World) : Prop :=
  (∃ body ttl, op = .redis (.set (lockKey (articleKey id)) body ttl true)) ∧
    w.store.entries (lockKey (articleKey id)) = none

structure Passive (rt : Runtime) (row : ArticleRow) (id : ℤ) (leader : Pid) (op : Op)
    (w w' : World) :
    Prop where
  key : w'.store.entries (articleKey id) = w.store.entries (articleKey id) ∨
    HasLoaded leader w ∧ w'.store.entries (articleKey id) ≠ none
  lock : w'.store.entries (lockKey (articleKey id)) = w.store.entries (lockKey (articleKey id)) ∨
    op = .redis (.delete (lockKey (articleKey id))) ∧
      w'.store.entries (lockKey (articleKey id)) = none

theorem passive_of_pre {rt : Runtime} {i : Pid} {op : Op} {reply : op.Reply} {w w' : World}
    (answers : Answers σ.allow) (owed : FlightPre rt id row leader i op w)
    (step : Exec σ.allow i op w reply w') (creates : ¬Creates id op w) :
    Passive rt row id leader op w w' := by
  cases asks : op.asksRedis with
  | false =>
      obtain ⟨c, -, exec⟩ := step
      have same : w'.store = w.store := World.exec_store asks exec
      exact ⟨Or.inl (by rw [same]), Or.inl (by rw [same])⟩
  | true =>
      cases op with
      | redis command =>
          obtain ⟨-, rfl⟩ := answers.exec step
          have owed : FlightCommand rt id row leader w command := owed
          refine ⟨?_, ?_⟩
          · rcases FlightCommand.entries (w.provenance i) owed with same | ⟨loaded, _, -, stored⟩
            · exact Or.inl same
            · refine Or.inr ⟨loaded, ?_⟩
              rw [redisStep_store, stored]
              exact Option.some_ne_none _
          · cases owed with
            | get key => exact Or.inl rfl
            | lock body ttl =>
                cases stored : w.store.entries (lockKey (articleKey id)) with
                | none => exact absurd ⟨⟨body, ttl, rfl⟩, stored⟩ creates
                | some entry =>
                    left
                    simp [Redis.step, stored]
            | store ttl loaded =>
                exact Or.inl (Redis.step_entries (lockKey_ne_articleKey (articleKey id) id))
            | unlock => exact Or.inr ⟨rfl, Redis.setEntry_self ..⟩
      | _ => cases asks

theorem Leads.step {rt : Runtime} {start : System} (sharing : σ.Sharing id)
    (stored : ∀ w i c, σ.allow w i (.redis (.delete (lockKey (articleKey id)))) c →
      (w.store.entries (articleKey id)).isSome)
    (noLateWinner : σ.NoLateWinner id)
    (kept : ∀ leader, (σ.led (articleKey id) leader).Reaches start c →
      Flight rt id row leader σ.requests c.state)
    (owed : ∀ leader, (σ.led (articleKey id) leader).Reaches start c → ∀ i op next,
      c.code i = .call op next → FlightPre rt id row leader i op c.state)
    (leads : Leads σ id start c) (step : Step (Exec σ.allow) σ.env c c') :
    Leads σ id start c' := by
  cases step with
  | @env w' moved =>
      have same : w'.store = c.state.store := sharing.keeps _ _ moved
      cases leads with
      | undecided absent free all =>
          apply Leads.undecided
          · rw [same]
            exact absent
          · rw [same]
            exact free
          · exact fun leader => (all leader).tail (Step.env moved)
      | decided leader run known =>
          apply Leads.decided leader (run.tail (Step.env moved))
          rw [same]
          exact known
  | @run i op next reply w' code exec =>
      by_cases creates : Creates id op c.state
      · -- whoever creates the lock leads
        obtain ⟨⟨body, ttl, rfl⟩, free⟩ := creates
        obtain ⟨-, rfl⟩ := sharing.answers.exec exec
        obtain ⟨choice, allowed, exec⟩ := exec
        have absent := noLateWinner _ _ _ _ _ allowed free
        have created :
            ((c.state.redisStep i (.set (lockKey (articleKey id)) body ttl true)).2).store.entries
            (lockKey (articleKey id)) ≠ none := by
          simp [Redis.step, free]
        cases leads with
        | undecided _ _ all =>
            apply Leads.decided i
            · exact (all i).tail (Step.run i code ⟨choice, ⟨allowed, fun _ _ _ _ => rfl⟩, exec⟩)
            · exact fun gone => absurd gone created
        | decided leader run known => exact absurd absent (known free)
      · have extend : ∀ leader, (σ.led (articleKey id) leader).Reaches start c →
            (σ.led (articleKey id) leader).Reaches start
              ⟨w', Function.update c.code i (next reply), Function.update c.started i true⟩ := by
          intro leader run
          obtain ⟨choice, allowed, exec⟩ := exec
          refine run.tail (Step.run i code ⟨choice, ⟨allowed, fun body ttl same free => ?_⟩, exec⟩)
          exact absurd ⟨⟨body, ttl, same⟩, free⟩ creates
        have passive : ∀ leader, (σ.led (articleKey id) leader).Reaches start c →
            Passive rt row id leader op c.state w' := fun leader run =>
          passive_of_pre sharing.answers (owed leader run i op next code) exec creates
        cases leads with
        | undecided absent free all =>
            apply Leads.undecided
            · rcases (passive 0 (all 0)).key with same | ⟨zero, -⟩
              · exact same.trans absent
              · -- nobody has read, since anybody might lead
                rcases (passive 1 (all 1)).key with same | ⟨one, -⟩
                · exact same.trans absent
                · exact absurd ((kept 0 (all 0)).only 1 one) Nat.one_ne_zero
            · rcases (passive 0 (all 0)).lock with same | ⟨-, gone⟩
              · exact same.trans free
              · exact gone
            · exact fun leader => extend leader (all leader)
        | decided leader run known =>
            apply Leads.decided leader (extend leader run)
            intro gone
            have after : c.state.store.entries (articleKey id) ≠ none →
                w'.store.entries (articleKey id) ≠ none := by
              intro present
              rcases (passive leader run).key with same | ⟨-, present'⟩
              · rw [same]
                exact present
              · exact present'
            rcases (passive leader run).lock with same | ⟨rfl, -⟩
            · exact after (known (same.symm.trans gone))
            · obtain ⟨choice, allowed, -⟩ := exec
              exact after (Option.isSome_iff_ne_none.mp (stored _ _ _ allowed))

/-- Every run is a run under a leader. -/
theorem exists_leader (sharing : σ.Sharing id) (serializes : app.rt.Serializes)
    (enabled : app.cacheEnabled = true) (populates : σ.Populates id app.rt.lockTimeoutSeconds)
    (noLateWinner : σ.NoLateWinner id) (start : Initial w) (unread : Unread w id row)
    (run : σ.Reaches (app.start σ.requests w) c) :
    ∃ leader, (σ.led (articleKey id) leader).Reaches (app.start σ.requests w) c := by
  have leads : Leads σ id (app.start σ.requests w) c := by
    induction run with
    | refl => exact .undecided unread.absent unread.free fun _ => .refl
    | @tail c₁ c₂ _ step ih =>
        have all : ∀ leader, (σ.led (articleKey id) leader).Reaches (app.start σ.requests w) c₁ →
            (σ.flight app.rt id row leader sharing).AllSafe
              (fun _ => okOr (fun response w => HasLoaded leader w ∧ response = .article row.out)
                fun _ => ¬σ.Calm) c₁ := fun leader run =>
          (App.allFlight sharing serializes enabled populates.patient start unread).steps run
        apply ih.step sharing populates.stored noLateWinner
        · exact fun leader run => (all leader run).inv
        · exact fun leader run i op next code => ((all leader run).owed code).2
        · exact step
  exact leads.led

/-! ## The guarantee -/

/-- In every run of readers of one live article that starts with its key absent and its lock free,
in which Redis answers and forgets nothing, every winner stores the row before it releases its
lock, and nobody wins the lock later: one reader reads the row, once, and all get it. -/
theorem loads_coalesced (σ : Setting) (id : ℤ) (row : ArticleRow) (app : App) (w : World)
    (sharing : σ.Sharing id) (serializes : app.rt.Serializes) (enabled : app.cacheEnabled = true)
    (populates : σ.Populates id app.rt.lockTimeoutSeconds) (noLateWinner : σ.NoLateWinner id)
    (start : Initial w) (unread : Unread w id row) {c : System}
    (run : σ.Reaches (app.start σ.requests w) c) : Coalesced σ id row c := by
  obtain ⟨leader, led⟩ :=
    exists_leader sharing serializes enabled populates noLateWinner start unread run
  have all : (σ.flight app.rt id row leader sharing).AllSafe
      (fun _ => okOr (fun response w => HasLoaded leader w ∧ response = .article row.out)
        fun _ => ¬σ.Calm) c :=
    (App.allFlight sharing serializes enabled populates.patient start unread).steps led
  have only : ∀ i, HasLoaded i c.state → i = leader := all.inv.only
  refine ⟨fun i j mine other => ?_, fun i statement next code => ?_,
    fun i response last => ?_, fun calm i error last => ?_⟩
  · exact (only i mine).trans (only j other).symm
  · have owed : statement = .selectArticle id ∧ i = leader ∧ ¬HasLoaded i c.state :=
      (all.owed code).2
    obtain ⟨same, rfl, unread⟩ := owed
    refine ⟨same, fun j loaded => ?_⟩
    obtain rfl := only j loaded
    exact unread loaded
  · have ended := all.ended i _ last
    exact ⟨ended.2, leader, ended.1⟩
  · exact all.ended i _ last calm

end

/-! ## A reader that comes too late -/

/-- Nothing fails, the clock stands still, and a lock is released once the article is stored. -/
def inOrder (w : World) (_ : Pid) (op : Op) (c : Choice) : Bool :=
  c.fault.isNone && c.flag && c.number == 0 &&
    match op with
    | .redis (.delete _) => (w.store.entries (articleKey 1)).isSome
    | _ => true

/-- Besides, no lock is won once the article is stored. -/
def inTime (w : World) (i : Pid) (op : Op) (c : Choice) : Bool :=
  inOrder w i op c &&
    match op with
    | .redis (.set key _ _ true) =>
        (w.store.entries key).isSome || (w.store.entries (articleKey 1)).isNone
    | _ => true

def Setting.readers (check : World → Pid → Op → Choice → Bool) : Setting :=
  ⟨fun _ => .get 1, fun w i op c => check w i op c = true, fun _ _ => False,
    fun _ _ impossible => impossible.elim⟩

def pollingApp : App := ⟨{ defaultRuntime fun _ => "" with polls := 1 }, true⟩

section
variable {check : World → Pid → Op → Choice → Bool}
  (ordered : ∀ w i op c, check w i op c = true → inOrder w i op c = true)
include ordered

theorem Setting.readers_sharing : (Setting.readers check).Sharing 1 := by
  refine ⟨fun _ => rfl, ⟨fun w i command c allowed => ?_, fun w i c allowed => ?_⟩,
    fun _ _ impossible => impossible.elim⟩
  · have checked := ordered w i _ c allowed
    simp only [inOrder, Bool.and_eq_true] at checked
    exact Option.isNone_iff_eq_none.mp checked.1.1.1
  · have checked := ordered w i _ c allowed
    simp only [inOrder, Bool.and_eq_true] at checked
    exact checked.1.1.2

theorem Setting.readers_populates :
    (Setting.readers check).Populates 1 pollingApp.rt.lockTimeoutSeconds := by
  have still : ∀ w i c, (Setting.readers check).allow w i .loopTime c → c.number = 0 := by
    intro w i c allowed
    have checked := ordered w i _ c allowed
    simp only [inOrder, Bool.and_eq_true, beq_iff_eq] at checked
    exact checked.1.2
  refine ⟨fun w i c allowed => ?_, fun i w w' c c' first later => ?_⟩
  · have checked := ordered w i _ c allowed
    simp only [inOrder, Bool.and_eq_true] at checked
    exact checked.2
  · rw [still w i c first, still w' i c' later]
    decide +kernel

end

theorem inTime_inOrder (w : World) (i : Pid) (op : Op) (c : Choice)
    (checked : inTime w i op c = true) : inOrder w i op c = true :=
  (Bool.and_eq_true _ _ ▸ checked : _ ∧ _).1

theorem pollingApp_serializes : pollingApp.rt.Serializes :=
  (defaultRuntime_serializes fun _ => "").transfer rfl rfl rfl rfl rfl rfl

theorem readers_initial : Initial (World.fresh editedArticle 2 [ann]) :=
  World.fresh_initial [ann] (by decide)

theorem readers_unread : Unread (World.fresh editedArticle 2 [ann]) 1
    ⟨1, 1, "title", "text", instant 0, instant 1, none⟩ :=
  ⟨by decide +kernel, rfl, rfl, rfl⟩

/-- A reader misses before the row is stored and asks for the lock after it is released: it wins
it, does not look again, and loads the row once more. -/
theorem late_reader_loads_again :
    (Setting.readers inOrder).Sharing 1 ∧ pollingApp.rt.Serializes ∧
      (Setting.readers inOrder).Populates 1 pollingApp.rt.lockTimeoutSeconds ∧
      Initial (World.fresh editedArticle 2 [ann]) ∧
      Unread (World.fresh editedArticle 2 [ann]) 1
        ⟨1, 1, "title", "text", instant 0, instant 1, none⟩ ∧
      ∃ c, (Setting.readers inOrder).Reaches
          (pollingApp.start (fun _ => .get 1) (World.fresh editedArticle 2 [ann])) c ∧
        ¬Coalesced (Setting.readers inOrder) 1
          ⟨1, 1, "title", "text", instant 0, instant 1, none⟩ c := by
  have ordered : ∀ w i op c, inOrder w i op c = true → inOrder w i op c = true :=
    fun _ _ _ _ checked => checked
  obtain ⟨c, run, both⟩ := (Setting.readers inOrder).exists_replay inOrder ordered
    (pollingApp.start (fun _ => .get 1) (World.fresh editedArticle 2 [ann]))
    (turns 1 3 {} ++ turns 0 23 {} ++ turns 1 12 {})
    (fun c => (c.state.db.sessions 0).loadedFrom.isSome && (c.state.db.sessions 1).loadedFrom.isSome)
    (by decide +kernel)
  rw [Bool.and_eq_true] at both
  refine ⟨Setting.readers_sharing ordered, pollingApp_serializes,
    Setting.readers_populates ordered, readers_initial, readers_unread, c, run, fun coalesced => ?_⟩
  exact Nat.zero_ne_one (coalesced.once 0 1 (Option.isSome_iff_ne_none.mp both.1)
    (Option.isSome_iff_ne_none.mp both.2))

/-- Of two readers the first loads the row, and the second waits for it. -/
theorem loads_coalesced_of_two : ∃ c,
    (Setting.readers inTime).Reaches
        (pollingApp.start (fun _ => .get 1) (World.fresh editedArticle 2 [ann])) c ∧
      (c.outcome 0).isSome ∧ (c.outcome 1).isSome ∧
      Coalesced (Setting.readers inTime) 1
        ⟨1, 1, "title", "text", instant 0, instant 1, none⟩ c := by
  obtain ⟨c, run, both⟩ := (Setting.readers inTime).exists_replay inTime
    (fun _ _ _ _ checked => checked)
    (pollingApp.start (fun _ => .get 1) (World.fresh editedArticle 2 [ann]))
    (turns 0 9 {} ++ turns 1 11 {} ++ turns 0 14 {} ++ turns 1 7 {})
    (fun c => (c.outcome 0).isSome && (c.outcome 1).isSome) (by decide +kernel)
  rw [Bool.and_eq_true] at both
  have noLateWinner : (Setting.readers inTime).NoLateWinner 1 := by
    intro w i body ttl c allowed free
    have checked : inTime w i (.redis (.set (lockKey (articleKey 1)) body ttl true)) c = true :=
      allowed
    simp only [inTime, Bool.and_eq_true, free] at checked
    exact Option.isNone_iff_eq_none.mp checked.2
  exact ⟨c, run, both.1, both.2, loads_coalesced (Setting.readers inTime) 1
    ⟨1, 1, "title", "text", instant 0, instant 1, none⟩ pollingApp
    (World.fresh editedArticle 2 [ann]) (Setting.readers_sharing inTime_inOrder)
    pollingApp_serializes rfl (Setting.readers_populates inTime_inOrder) noLateWinner
    readers_initial readers_unread run⟩

end ContentPlatform
