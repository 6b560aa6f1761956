import ContentPlatform.Guarantees.ListFreshness
import ContentPlatform.World.Details

/-!
# Reads after a write

A read of an article that starts after the callback of an update or a delete has finished answers
with a row since its commit, in every run where no body is stored after such a callback that the
write has replaced.
-/

set_option autoImplicit false

namespace ContentPlatform

open Program Py Prog Protocol

/-- The answer has seen a conditional write that request `j` has answered in `before`: the write was
no delete, and the answer is a row that is live in a committed state since it. -/
def SeesRewrite (σ : Setting) (j : Pid) (response : Response) (before : World) (id : ℤ)
    (out : ArticleOut) (w : World) : Prop :=
  ∃ n authorId, (before.db.sessions j).committed = some n ∧
    (σ.requests j).Stands response authorId (before.db.history n) ∧
    (σ.requests j).deletes = false ∧ AnswersLive id n out w

section
variable {σ : Setting} {rt : Runtime} {w : World} {i : Pid}

theorem Unstored.current (empty : Unstored w) : Current rt w := by
  intro id entry stored
  rw [empty.entries] at stored
  cases stored

theorem Initial.allDetails (start : Initial w) (empty : Unstored w) (answers : Answers σ.allow)
    (timely : σ.Timely) (fades : ∀ w w', σ.env w w' → Fades w w') (app : App)
    (enabled : app.cacheEnabled = true) :
    (σ.details app.rt timely fades).AllSafe (Purges σ) (app.start σ.requests w) := by
  have kept : (σ.details app.rt timely fades).inv w :=
    ⟨⟨start.coherent σ.requests, empty.behind⟩, empty.current⟩
  exact ⟨kept, fun i => serve_details answers app rfl enabled w kept
    ⟨start.sessions i, start.requests i⟩⟩

theorem Unbegun.seeking (unbegun : Unbegun i w) {id : ℤ} {n : ℕ} (past : n ≤ w.db.version)
    (purged : n ≤ w.store.purged (articleKey id)) : Seeking i id n w := by
  obtain ⟨session, state⟩ := unbegun
  refine ⟨?_, ⟨?_, past⟩, purged⟩
  · rw [Own, session, state]
    exact ⟨⟨rfl, rfl⟩, rfl⟩
  · rw [Own, session]
    constructor <;> (intro m none_; cases none_)

theorem wrote_target {request : Request} {response : Response} {id id' : ℤ}
    (target : request.target = some id) (wrote : request.Wrote response id') : id' = id := by
  cases request <;> cases target <;> cases response <;> first | exact wrote | cases wrote

/-- A row that is live at commit `n` or later was not deleted by then. -/
theorem LiveSince.not_dead {requests : Pid → Request} {id : ℤ} {n : ℕ} {row dead : ArticleRow}
    (kept : Coherent requests w.db) (live : LiveSince id n row w)
    (found : (w.db.history n).find id = some dead) : dead.live = true := by
  obtain ⟨m, past, since, there, lives⟩ := live
  obtain ⟨later, found', descends⟩ := kept.descends since past found
  obtain rfl := Option.some.inj (there.symm.trans found')
  by_contra gone
  rw [descends.final (by simpa using gone)] at lives
  exact gone lives

/-- However reads and writes interleave and whatever expires, a read that starts after the callback
of a conditional write has finished has seen the write, if bodies are stored in time. -/
theorem detail_follows_writes (σ : Setting) (answers : Answers σ.allow) (timely : σ.Timely)
    (fades : ∀ w w', σ.env w w' → Fades w w') (app : App) (enabled : app.cacheEnabled = true)
    (serializes : app.rt.Serializes) (start : Initial w) (empty : Unstored w) {c c' : System}
    (before : σ.Reaches (app.start σ.requests w) c) {j : Pid} {id : ℤ} {response : Response}
    (target : (σ.requests j).target = some id) (written : c.outcome j = some (.ok response))
    (request : σ.requests i = .get id) (unstarted : c.started i = false)
    (later : σ.Reaches c c') {out : ArticleOut}
    (found : c'.outcome i = some (.ok (.article out))) :
    SeesRewrite σ j response c.state id out c'.state := by
  have all := start.allDetails empty answers timely fades app enabled
  obtain ⟨whole, moved⟩ := all.unstarted before unstarted
  have then_ := all.steps before
  obtain ⟨n, committed, purged⟩ := then_.ended j _ written id target
  obtain ⟨⟨n', past, committed', -, stands⟩, -⟩ :=
    ((start.allSafe app).steps before).ended j _ written
  obtain rfl := Option.some.inj (committed.symm.trans committed')
  have writes : (σ.requests j).writes = true := by
    cases write : σ.requests j <;> rw [write] at target <;> first | rfl | cases target
  obtain ⟨authorId, stands⟩ := stands writes
  have seeking : Seeking i id n c.state := by
    have unbegun : Unbegun i c.state :=
      Own.undisturbed (w := w) ⟨start.sessions i, start.requests i⟩ moved.1.1
    exact unbegun.seeking past purged
  have safe : (σ.details app.rt timely fades).Safe i (c.code i) (EndsLive id n) c.state := by
    rw [whole]
    exact serve_live answers app rfl serializes request c.state then_.inv seeking
  have ended := (then_.replace i _ safe).steps later
  have live := ended.ended i _ found
  rw [Function.update_self] at live
  refine ⟨n, authorId, committed, stands, ?_, live⟩
  -- a deleted row stays deleted, so the row that was read is of no article that was deleted
  by_contra deletes
  rw [Bool.not_eq_false] at deletes
  obtain ⟨id', wrote, dead, there, -, gone⟩ := stands
  obtain rfl : id' = id := wrote_target target wrote
  obtain ⟨row, -, live⟩ := live
  have lives : dead.live = true := by
    apply live.not_dead ended.inv.1.1
    rw [later.extends_.history n past]
    exact there
  rw [gone deletes] at lives
  cases lives

end

/-! ## A read before an update, and one after it -/

def punctual (w : World) (i : Pid) (op : Op) (c : Choice) : Bool :=
  counting w i op c &&
    match op with
    | .redis (.set key _ _ false) =>
        (w.db.sessions i).loadedFrom.all fun m =>
          decide (w.store.purged key ≤ m) && decide (m ≤ w.db.version)
    | _ => true

def Setting.punctual (requests : Pid → Request) : Setting :=
  ⟨requests, fun w i op c => ContentPlatform.punctual w i op c = true, Expires,
    fun _ _ => Expires.outside⟩

section
variable {requests : Pid → Request}

theorem Setting.punctual_answers : Answers (Setting.punctual requests).allow := by
  have counts : ∀ {w i op c}, (Setting.punctual requests).allow w i op c →
      counting w i op c = true := by
    intro w i op c allowed
    have checked : ContentPlatform.punctual w i op c = true := allowed
    simp only [ContentPlatform.punctual, Bool.and_eq_true] at checked
    exact checked.1
  have answers : Answers (Setting.obliging requests noCounter).allow := Setting.obliging_answers
  exact ⟨fun w i command c allowed => answers.redis w i command c (counts allowed),
    fun w i c allowed => answers.breaker w i c (counts allowed)⟩

theorem Setting.punctual_timely : (Setting.punctual requests).Timely := by
  intro w i id body ttl c m allowed loaded
  have checked : ContentPlatform.punctual w i (.redis (.set (articleKey id) body ttl false)) c =
    true := allowed
  simp only [ContentPlatform.punctual, Bool.and_eq_true, loaded, Option.all_some,
    decide_eq_true_eq] at checked
  exact ⟨m, checked.2.2, checked.2.1, rfl⟩

end

def answeredArticle (c : System) (i : Pid) : Option ArticleOut :=
  match c.outcome i with
  | some (.ok (.article out)) => some out
  | _ => none

theorem outcome_of_answeredArticle {c : System} {i : Pid} {out : ArticleOut}
    (ended : answeredArticle c i = some out) : c.outcome i = some (.ok (.article out)) := by
  unfold answeredArticle at ended
  split at ended
  · rename_i same
    rw [same, Option.some.inj ended]
  · cases ended

def readEditRead : List Request :=
  [.get 1, .update (some 1) 1 "new" "text" (instant 1), .get 1]

/-- The body of the first read is in Redis when the article is edited. -/
theorem detail_follows_edit : ∃ c c' response out,
    (Setting.punctual (requestsOf readEditRead)).Reaches
      (App.start ⟨defaultRuntime fun _ => "", true⟩ (requestsOf readEditRead)
        (World.fresh editedArticle 2 [ann])) c ∧
      c.outcome 1 = some (.ok response) ∧
      (Setting.punctual (requestsOf readEditRead)).Reaches c c' ∧
      c'.outcome 2 = some (.ok (.article out)) ∧
      SeesRewrite (Setting.punctual (requestsOf readEditRead)) 1 response c.state 1 out
        c'.state := by
  obtain ⟨c, run, facts⟩ := (Setting.punctual (requestsOf readEditRead)).exists_replay punctual
    (fun _ _ _ _ checked => checked)
    (App.start ⟨defaultRuntime fun _ => "", true⟩ (requestsOf readEditRead)
      (World.fresh editedArticle 2 [ann]))
    (turns 0 23 {} ++ turns 1 29 { time := instant 2 })
    (fun c => between 1 2 c &&
      (replay punctual c (turns 2 23 {})).any fun c' => (answeredArticle c' 2).isSome)
    (by decide +kernel)
  rw [Bool.and_eq_true] at facts
  obtain ⟨⟨response, written⟩, unstarted⟩ := of_between facts.1
  obtain ⟨c', later, answered⟩ := (Setting.punctual (requestsOf readEditRead)).exists_replay
    punctual (fun _ _ _ _ checked => checked) c (turns 2 23 {}) _ facts.2
  obtain ⟨out, ended⟩ := Option.isSome_iff_exists.mp answered
  have found := outcome_of_answeredArticle ended
  refine ⟨c, c', response, out, run, written, later, found, ?_⟩
  exact detail_follows_writes (Setting.punctual (requestsOf readEditRead)) Setting.punctual_answers
    Setting.punctual_timely (fun _ _ event => event.fades) ⟨defaultRuntime fun _ => "", true⟩ rfl
    (defaultRuntime_serializes fun _ => "") (World.fresh_initial _ (by decide)) ⟨fun _ => rfl⟩ run
    rfl written rfl unstarted later found

/-! ## A body that is stored late -/

def noEntry (_ : String) (_ : World) : Prop := False

def answersOutdated (i : Pid) (id : ℤ) (c : System) : Bool :=
  (answeredArticle c i).any fun out => c.state.db.version == 1 &&
    ((c.state.db.history 1).find id).all fun row => out != row.out

theorem not_answersLive_of_outdated {i : Pid} {id : ℤ} {c : System}
    (outdated : answersOutdated i id c = true) : ∃ out,
      c.outcome i = some (.ok (.article out)) ∧ ¬AnswersLive id 1 out c.state := by
  obtain ⟨out, ended, outdated⟩ := (Option.any_eq_true ..).mp outdated
  simp only [Bool.and_eq_true, beq_iff_eq] at outdated
  refine ⟨out, outcome_of_answeredArticle ended, ?_⟩
  rintro ⟨row, rfl, m, past, since, found, -⟩
  obtain rfl : m = 1 := le_antisymm (past.trans outdated.1.le) since
  rw [found] at outdated
  simp at outdated

/-- The first read loads the article before the edit is committed and stores it after the callback
of the edit has run.  The second read is answered with the old article. -/
theorem late_store_shows_old_article :
    Answers (Setting.obliging (requestsOf readEditRead) noEntry).allow ∧
      Initial (World.fresh editedArticle 2 [ann]) ∧ Unstored (World.fresh editedArticle 2 [ann]) ∧
      ∃ c c' response out,
        (Setting.obliging (requestsOf readEditRead) noEntry).Reaches
          (App.start ⟨defaultRuntime fun _ => "", true⟩ (requestsOf readEditRead)
            (World.fresh editedArticle 2 [ann])) c ∧
        c.outcome 1 = some (.ok response) ∧ c.started 2 = false ∧
        (Setting.obliging (requestsOf readEditRead) noEntry).Reaches c c' ∧
        c'.outcome 2 = some (.ok (.article out)) ∧
        ¬SeesRewrite (Setting.obliging (requestsOf readEditRead) noEntry) 1 response c.state 1 out
          c'.state := by
  obtain ⟨c, run, facts⟩ := (Setting.obliging (requestsOf readEditRead) noEntry).exists_replay
    counting (fun _ _ _ _ checked => checked)
    (App.start ⟨defaultRuntime fun _ => "", true⟩ (requestsOf readEditRead)
      (World.fresh editedArticle 2 [ann]))
    (turns 0 11 {} ++ turns 1 29 { time := instant 2 } ++ turns 0 12 {})
    (fun c => (c.state.db.sessions 1).committed == some 1 && between 1 2 c &&
      (replay counting c (turns 2 7 {})).any (answersOutdated 2 1))
    (by decide +kernel)
  simp only [Bool.and_eq_true, beq_iff_eq] at facts
  obtain ⟨⟨committed, idle⟩, outdated⟩ := facts
  obtain ⟨⟨response, written⟩, unstarted⟩ := of_between idle
  obtain ⟨c', later, outdated⟩ := (Setting.obliging (requestsOf readEditRead) noEntry).exists_replay
    counting (fun _ _ _ _ checked => checked) c (turns 2 7 {}) (answersOutdated 2 1) outdated
  obtain ⟨out, found, unseen⟩ := not_answersLive_of_outdated outdated
  refine ⟨Setting.obliging_answers, World.fresh_initial _ (by decide), ⟨fun _ => rfl⟩, c, c',
    response, out, run, written, unstarted, later, found, ?_⟩
  rintro ⟨n, authorId, left, -, -, live⟩
  rw [committed] at left
  obtain rfl := Option.some.inj left
  exact unseen live

end ContentPlatform
