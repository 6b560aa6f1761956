import ContentPlatform.Guarantees.FailOpen
import ContentPlatform.Guarantees.LoadedAttributes
import ContentPlatform.Guarantees.SingleFlight
import ContentPlatform.World.Holders

/-!
# No request waits for ever for an article

The lock of a row goes with the transaction that holds it, the transaction with its request, and a
request that holds a row waits for nobody.  Where the clock of the event loop runs, each request but a
registration can be brought to its end from wherever a run has come.
-/

set_option autoImplicit false

namespace ContentPlatform

open Program Prog Protocol Py Text

/-! ## The end of a transaction -/

def NoTransaction (i : Pid) (w : World) : Prop := (w.db.sessions i).transaction = none

section
variable {σ : Setting} {i : Pid} {α : Type}

theorem NoTransaction.stable : σ.plain.Stable i (NoTransaction i) := by
  intro w w' _ closed moved _
  rw [NoTransaction, moved.session]
  exact closed

theorem noTransaction_aside {p : Py α} (aside : p.Sends fun op => op.asksDatabase = false) :
    σ.plain.Triple i (NoTransaction i) p fun _ => NoTransaction i := by
  refine Triple.of_sends aside NoTransaction.stable (fun _ _ _ _ _ => trivial) ?_
  rintro op w reply w' silent _ closed ⟨c, -, step⟩ _
  rw [NoTransaction, World.exec_db silent step]
  exact closed

theorem Database.rollbackStep_transaction (db : Database) (i : Pid) :
    ((db.rollbackStep i).sessions i).transaction = none := by
  unfold rollbackStep
  split
  · assumption
  · simp [release]

/-- However a request ends, it has ended its transaction. -/
theorem getSession_ends_transaction (cache : ArticleCache) (handler : Py α) :
    σ.plain.Triple i (fun _ => True) (getSession cache handler) fun _ => NoTransaction i := by
  have anywhere : σ.plain.Stable i fun _ => True := fun _ _ _ _ _ _ => trivial
  refine getSession_triple (C := fun outcome w => ∀ value, outcome = .ok value → NoTransaction i w)
    cache (fun _ => NoTransaction.stable) ?_ (fun value => ?_) fun error => ?_
  · refine Triple.bind (Triple.anything (fun _ _ => trivial) handler) (fun value => ?_)
      fun _ _ _ _ _ impossible => nomatch impossible
    refine Triple.bind (C := fun outcome w => ∀ done, outcome = .ok done → NoTransaction i w) ?_ ?_
      fun _ _ _ _ _ impossible => nomatch impossible
    · refine Triple.call (fun reply w => ∀ done, reply = .ok done → NoTransaction i w) anywhere
        (fun _ _ _ => trivial) ?_ fun reply => ?_
      · rintro w reply w' - - ⟨c, -, step⟩ - done rfl
        obtain ⟨answer, rfl⟩ := Prod.mk.inj (Option.some.inj step)
        unfold Database.commitReply at answer
        unfold NoTransaction Database.commitReply
        split at answer
        · cases answer
        · rename_i other
          simp
      · cases reply with
        | ok done =>
            refine Triple.ret (fun w w' _ closed moved _ => ?_) fun _ _ closed => closed
            exact fun done' same =>
              NoTransaction.stable w w' trivial (closed done' same) moved trivial
        | error failure =>
            exact Triple.raise (fun _ _ _ _ _ _ _ impossible => nomatch impossible)
              fun _ _ _ _ impossible => nomatch impossible
    · intro done
      refine (Triple.ret NoTransaction.stable fun _ _ closed _ _ => closed).mono
        (fun w _ closed => closed done rfl) fun _ _ _ ended => ended
  · refine (noTransaction_aside ?_).mono (fun w _ closed => closed value rfl)
      fun _ _ _ ended => ended
    apply drainAfterCommit_sends
    · intro op isLocal
      cases op <;> first | rfl | cases isLocal
    · intro op asks
      cases op <;> first | rfl | cases asks
    · exact fun _ => rfl
    · exact fun _ => rfl
    · rfl
  · refine Triple.bind (C := fun _ => NoTransaction i) ?_ (fun _ => ?_) fun _ _ _ closed => closed
    · refine (Triple.call (fun _ => NoTransaction i) anywhere (fun _ _ _ => trivial) ?_ ?_).mono
        (fun _ _ _ => trivial) fun _ _ _ ended => ended
      · rintro w reply w' - - ⟨c, -, step⟩ -
        obtain ⟨-, rfl⟩ := Prod.mk.inj (Option.some.inj step)
        exact Database.rollbackStep_transaction w.db i
      · intro reply
        exact noTransaction_aside (sends_ofExcept reply)
    · exact noTransaction_aside ⟨rfl, fun _ => trivial⟩

/-- A request that begins with no transaction open ends with none. -/
theorem core_ends_transaction (a : Application) (request : HttpRequest) :
    σ.plain.Triple i (NoTransaction i) (a.core request) fun _ => NoTransaction i := by
  have one : ∀ {p : Py Response}, σ.plain.Triple i (fun _ => True) p (fun _ => NoTransaction i) →
      σ.plain.Triple i (fun _ => True) (p.bind fun response => .ret (EndpointOut.one response))
        fun _ => NoTransaction i := fun ends => Triple.bind ends
    (fun _ => Triple.ret NoTransaction.stable fun _ _ closed => closed) fun _ _ _ closed => closed
  have withPrincipal : ∀ (principal : Option Principal) {endpoint : Option ℤ → Py Response},
      (∀ userId, σ.plain.Triple i (fun _ => True) (endpoint userId) fun _ => NoTransaction i) →
      σ.plain.Triple i (fun _ => True) (a.app.withPrincipal principal endpoint)
        fun _ => NoTransaction i := by
    intro principal endpoint ends
    unfold App.withPrincipal
    split
    · exact ends none
    · split
      · exact ends _
      · exact getSession_ends_transaction _ _
  rcases a.core_cases request with nothing | ⟨principal, route, endpoint, -, -, core, -⟩
  · rw [nothing]
    exact Triple.raise NoTransaction.stable fun _ _ closed => closed
  · rw [core]
    have reached : ∀ {p : Py EndpointOut},
        σ.plain.Triple i (fun _ => True) p (fun _ => NoTransaction i) →
        σ.plain.Triple i (NoTransaction i) p fun _ => NoTransaction i :=
      fun ends => ends.mono (fun _ _ _ => trivial) fun _ _ _ ended => ended
    cases endpoint with
    | listArticles limit cursor author =>
        refine reached (Triple.bind (getSession_ends_transaction _ _) (fun page => ?_)
          fun _ _ _ closed => closed)
        exact Triple.ret NoTransaction.stable fun _ _ closed => closed
    | createArticle title body =>
        exact reached (one (withPrincipal _ fun _ => getSession_ends_transaction _ _))
    | getArticle articleId => exact reached (one (getSession_ends_transaction _ _))
    | updateArticle articleId title body ifMatch =>
        exact reached (one (withPrincipal _ fun _ => getSession_ends_transaction _ _))
    | deleteArticle articleId ifMatch =>
        exact reached (one (withPrincipal _ fun _ => getSession_ends_transaction _ _))
    | register payload => exact reached (one (getSession_ends_transaction _ _))
    | login payload => exact reached (one (getSession_ends_transaction _ _))
    | invalid resolved errors =>
        cases resolved with
        | nothing => exact Triple.raise NoTransaction.stable fun _ _ closed => closed
        | session => exact reached (one (getSession_ends_transaction _ _))
        | currentUser =>
            refine reached (one ?_)
            rw [App.invalid]
            exact withPrincipal _ fun _ => getSession_ends_transaction _ _

end

/-! ## The clock of the event loop -/

/-- What an interaction tells of the time that a request has seen: the clock does not go back, and a
wait takes its time at least. -/
def Elapses : (op : Op) → ℚ → op.Reply → ℚ → Prop
  | .loopTime, t, now, t' => t ≤ now ∧ now ≤ t'
  | .sleep seconds, t, reply, t' => t ≤ t' ∧ (reply = .ok () → t + seconds ≤ t')
  | _, t, _, t' => t ≤ t'

theorem Elapses.forward {op : Op} {t t' : ℚ} {reply : op.Reply} (elapsed : Elapses op t reply t') :
    t ≤ t' := by
  cases op with
  | loopTime => exact elapsed.1.trans elapsed.2
  | sleep seconds => exact elapsed.1
  | _ => exact elapsed

theorem elapses_clocked : Clocked Elapses id :=
  ⟨fun _ _ _ read => read, fun _ _ slept => slept.2 rfl, fun _ _ _ _ elapsed => elapsed.forward⟩

theorem Elapses.exists {op : Op} {t : ℚ} (reply : op.Reply) (other : op ≠ .loopTime) :
    ∃ t', Elapses op t reply t' := by
  cases op with
  | loopTime => exact absurd rfl other
  | sleep seconds => exact ⟨max t (t + seconds), le_max_left _ _, fun _ => le_max_right _ _⟩
  | _ => exact ⟨t, le_rfl⟩

theorem elapses_answering : Answering Elapses := by
  intro op t asked
  by_cases clock : op = .loopTime
  · subst clock
    exact ⟨t, t, le_rfl, le_rfl⟩
  · obtain ⟨reply, -⟩ : ∃ reply s', ReadsFrom (fun _ _ => True) 0 op ⟨[], t⟩ reply s' :=
      exists_reads op asked ⟨[], t⟩
    obtain ⟨t', elapsed⟩ := Elapses.exists reply clock
    exact ⟨reply, t', elapsed⟩

/-- A program that comes to its end whenever the clock runs. -/
abbrev InTime {α : Type} (p : Py α) : Prop := ∀ t, Live Elapses p t

section
variable {α β : Type} {p : Py α}

theorem inTime_of_sure (sure : p.Sends fun op => ¬op.hangs) : InTime p :=
  fun t => elapses_answering.live (sure.mono fun op holds same => by subst same; exact holds trivial) t

theorem InTime.map (inTime : InTime p) (f : α → β) : InTime (p.bind fun value => .ret (f value)) :=
  LockedRead.live_bind inTime fun _ _ => trivial

theorem getSession_inTime (cache : ArticleCache) (inTime : InTime p) :
    InTime (getSession cache p) := by
  have sure : ∀ {q : Py α}, q.Sends Op.Unhindered → InTime q := fun unhindered =>
    inTime_of_sure (unhindered.mono fun _ holds => holds.2)
  have whole : InTime (untilCommit p) :=
    LockedRead.live_bind inTime fun value => sure (commit_unhindered value)
  refine LockedRead.live_bind (LockedRead.live_cont whole (fun _ _ => trivial) fun _ _ => trivial)
    fun outcome => sure ?_
  cases outcome with
  | ok value => exact Sends.bind (drainAfterCommit_unhindered cache) fun _ => trivial
  | error error => exact abort_unhindered error

end

/-- Whatever is not a registration comes to its end behind the layers, if the clock runs. -/
theorem core_inTime {a : Application} {request : HttpRequest}
    (enough : ⌈a.app.rt.lockTimeoutSeconds / pollIntervalSeconds⌉₊ ≤ a.app.rt.polls)
    (other : ∀ route payload, request.routed ≠ .endpoint route (.register payload)) :
    InTime (a.core request) := by
  rcases a.core_cases request with nothing | ⟨principal, route, endpoint, -, routed, core, -⟩
  · rw [nothing]
    exact fun _ => trivial
  rw [core]
  by_cases lingers : endpoint.lingers
  · cases endpoint with
    | getArticle articleId =>
        refine InTime.map (getSession_inTime _ ?_) _
        exact InTime.map (fun t => (get_kept a.app.articles elapses_clocked elapses_answering enough
          articleId t).live) _
    | listArticles limit cursor author =>
        have page : ∀ after, InTime (a.app.articles.listArticles limit after author) :=
          fun after t => (listArticles_kept a.app.articles elapses_clocked elapses_answering enough
            limit after author t).live
        have read : ∀ {γ : Type} (result : Except Exc γ), InTime (Prog.ofExcept result : Py γ) :=
          fun result => inTime_of_sure (sends_ofExcept result)
        refine InTime.map (getSession_inTime _ ?_) _
        cases cursor
        case' none => refine LockedRead.live_bind (fun _ => trivial) fun after => ?_
        case' some => refine LockedRead.live_bind (read _) fun after => ?_
        all_goals
          refine LockedRead.live_bind (page after) fun found => ?_
          split
          · exact LockedRead.live_bind (read _) fun _ _ => trivial
          · exact fun _ => trivial
    | register payload => exact absurd routed (other route payload)
    | _ => exact lingers.elim
  · exact inTime_of_sure (endpoint_writesOnce a.app principal lingers).sends

theorem core_insertless {a : Application} {request : HttpRequest}
    (other : ∀ route payload, request.routed ≠ .endpoint route (.register payload)) :
    (a.core request).Sends fun op => ¬op.insertsUser := by
  rcases a.core_cases request with nothing | ⟨principal, route, endpoint, -, routed, core, -⟩
  · rw [nothing]
    trivial
  rw [core]
  by_cases lingers : endpoint.lingers
  · cases endpoint with
    | getArticle articleId =>
        refine Sends.bind ((serve_statements a.app (.get articleId)).mono fun op asks => ?_)
          fun _ => trivial
        cases op with
        | mysql statement =>
            rw [show statement = .selectArticle articleId from asks statement rfl]
            exact id
        | _ => exact id
    | listArticles limit cursor author =>
        refine Sends.bind ((listRoute_pages a.app limit cursor author).mono fun op pages => ?_)
          fun _ => trivial
        cases op with
        | mysql statement => cases statement <;> first | exact id | exact fun _ => pages.elim
        | _ => exact id
    | register payload => exact absurd routed (other route payload)
    | _ => exact lingers.elim
  · refine (endpoint_writesOnce a.app principal lingers).sends.mono fun op sure inserts => sure ?_
    cases op with
    | mysql statement => cases statement <;> exact inserts
    | _ => exact inserts.elim

/-! ## The layers -/

def FrontOp.takesLock : FrontOp → Prop
  | .endpoint op => op.takesLock
  | _ => False

def FrontOp.hangs : FrontOp → Prop
  | .endpoint op => op.hangs
  | _ => False

def FrontOp.wantsLock : FrontOp → Option ℤ
  | .endpoint op => op.wantsLock
  | _ => none

def FrontOp.insertsUser : FrontOp → Prop
  | .endpoint op => op.insertsUser
  | _ => False

def FrontOp.Elapses : (op : FrontOp) → ℚ → op.Reply → ℚ → Prop
  | .endpoint op, t, reply, t' => ContentPlatform.Elapses op t reply t'
  | _, t, _, t' => t' = t

theorem FrontOp.answered {op : FrontOp} (other : ∀ inner, op ≠ .endpoint inner) (s : Site)
    (i : Pid) : ∃ reply s', Site.answer i {} op s = some (reply, s') := by
  cases op with
  | endpoint inner => exact absurd rfl (other inner)
  | _ => exact ⟨_, _, rfl⟩

theorem FrontOp.elapses_iff {op : FrontOp} (other : ∀ inner, op ≠ .endpoint inner) {t t' : ℚ}
    {reply : op.Reply} : op.Elapses t reply t' ↔ t' = t := by
  cases op with
  | endpoint inner => exact absurd rfl (other inner)
  | _ => exact Iff.rfl

/-- A site, and for each request the time that it has seen. -/
structure TimedSite where
  site : Site
  seen : Pid → ℚ

namespace TimedSite

variable (σ : Setting)

structure Exec (i : Pid) (op : FrontOp) (s : TimedSite) (reply : op.Reply) (s' : TimedSite) :
    Prop where
  site : Site.exec σ i op s.site reply s'.site
  mine : op.Elapses (s.seen i) reply (s'.seen i)
  others : ∀ j, j ≠ i → s'.seen j = s.seen j

def Event (s s' : TimedSite) : Prop := Site.env σ s.site s'.site ∧ s'.seen = s.seen

def holder (s : TimedSite) : ℤ → Option Pid := s.site.world.db.rowLocks

end TimedSite

abbrev TimedHttpSystem := Config FrontOp FrontOp.Reply Empty Ending TimedSite

def Setting.HandlesInTime (σ : Setting) : TimedHttpSystem → TimedHttpSystem → Prop :=
  Steps (TimedSite.Exec σ) (TimedSite.Event σ)

def Application.startAt (a : Application) (http : Pid → HttpRequest) (s : TimedSite) :
    TimedHttpSystem :=
  Config.initial s fun i => a.handle (http i)

theorem Setting.HandlesInTime.untimed {σ : Setting} {c c' : TimedHttpSystem}
    (run : σ.HandlesInTime c c') : σ.Handles (c.map TimedSite.site) (c'.map TimedSite.site) :=
  Steps.map (fun _ _ _ _ _ step => step.site) (fun _ _ moved => Or.inr moved.1) run

/-- What comes to its end behind the layers does so within them. -/
theorem handle_inTime {a : Application} {request : HttpRequest} (inTime : InTime (a.core request))
    (t : ℚ) : Live FrontOp.Elapses (a.handle request) t := by
  refine Carries.live (behind_handle a request) (inTime t) (fun _ _ reply t' step => ⟨reply, t', step⟩)
    (fun _ _ _ _ step => step) fun op t other => ⟨?_, fun reply t' step => ?_⟩
  · obtain ⟨reply, -, -⟩ := FrontOp.answered other oneArticleSite 0
    exact ⟨reply, t, (FrontOp.elapses_iff other).mpr rfl⟩
  · exact (FrontOp.elapses_iff other).mp step

/-- While the clock runs, a program that comes to its end in time goes on doing so. -/
theorem Setting.HandlesInTime.live {σ : Setting} {c c' : TimedHttpSystem} {i : Pid}
    (run : σ.HandlesInTime c c') (live : Live FrontOp.Elapses (c.code i) (c.state.seen i)) :
    Live FrontOp.Elapses (c'.code i) (c'.state.seen i) := by
  induction run with
  | refl => exact live
  | tail _ step ih =>
      cases step with
      | @run j op next reply s' code done =>
          by_cases same : i = j
          · subst same
            rw [code] at ih
            simpa using ih.2 reply _ done.mine
          · simpa [Function.update_of_ne same, done.others i same] using ih
      | env moved =>
          rw [moved.2]
          exact ih

/-! ## The system of locks -/

/-- Whatever is asked, the environment has a decision to take, in which the clock goes on and an id
is new. -/
def Setting.Willing (σ : Setting) : Prop :=
  ∀ w i op (now : ℚ), ∃ c, σ.allow w i op c ∧ now ≤ c.number ∧ w.db.nextId ≤ c.newId ∧ 0 < c.newId

theorem Setting.Willing.locks {σ : Setting} (willing : σ.Willing) :
    LockSystem (TimedSite.Exec σ) (TimedSite.Event σ) TimedSite.holder FrontOp.takesLock
      FrontOp.hangs FrontOp.wantsLock := by
  refine ⟨?_, ?_, ?_, ?_⟩
  · rintro i op s reply s' ⟨⟨-, done⟩, -, -⟩ id j held
    cases op with
    | endpoint op =>
        obtain ⟨c, -, step⟩ := done
        have locks := World.exec_locks step
        by_cases same : j = i
        · subst same
          rcases locks.own id held with ⟨before, -⟩ | ⟨takes, -⟩
          · exact Or.inl before
          · exact Or.inr ⟨rfl, takes⟩
        · exact Or.inl (locks.others id j same held)
    | _ =>
        rw [TimedSite.holder, show s'.site.world = s.site.world from done] at held
        exact Or.inl held
  · rintro s s' ⟨⟨moved, -⟩, -⟩ id j held
    obtain ⟨-, users, same⟩ := σ.outside _ _ moved
    rw [TimedSite.holder, same] at held
    exact held
  · intro op id wants
    cases op with
    | endpoint op => exact Op.takesLock_of_wants wants
    | _ => cases wants
  · intro i op s sure free
    by_cases inner : ∃ asked, op = .endpoint asked
    · obtain ⟨asked, rfl⟩ := inner
      obtain ⟨c, allowed, late, issued⟩ := willing s.site.world i asked (s.seen i)
      obtain ⟨reply, w', step⟩ := s.site.world.exec_answers (c := c) sure issued free
      obtain ⟨t, elapsed⟩ : ∃ t, Elapses asked (s.seen i) reply t := by
        by_cases clock : asked = .loopTime
        · subst clock
          obtain ⟨rfl, -⟩ := Prod.mk.inj (Option.some.inj step)
          exact ⟨c.number, late, le_rfl⟩
        · exact Elapses.exists reply clock
      refine ⟨reply, ⟨{ s.site with world := w' }, Function.update s.seen i t⟩,
        ⟨rfl, c, allowed, step⟩, ?_, fun j other => Function.update_of_ne other _ _⟩
      show Elapses asked (s.seen i) reply (Function.update s.seen i t i)
      rw [Function.update_self]
      exact elapsed
    · have other : ∀ asked, op ≠ .endpoint asked := fun asked same => inner ⟨asked, same⟩
      obtain ⟨reply, site, answered⟩ := FrontOp.answered other s.site i
      have apart : ∀ asked, op = .endpoint asked → (Setting.allow σ) s.site.world i asked {} :=
        fun asked same => absurd same (other asked)
      exact ⟨reply, ⟨site, s.seen⟩, Site.answer_exec answered apart,
        (FrontOp.elapses_iff other).mpr rfl, fun _ _ => rfl⟩

/-! ## Locks and transactions -/

def HeldOpen (db : Database) : Prop :=
  ∀ id i, db.rowLocks id = some i → (db.sessions i).transaction.isSome

section
variable {σ : Setting} {a : Application} {http : Pid → HttpRequest} {s : Site} {c : HttpSystem}

theorem HeldOpen.exec {i : Pid} {choice : Choice} {op : Op} {w w' : World} {reply : op.Reply}
    (kept : HeldOpen w.db) (step : w.exec i choice op = some (reply, w')) : HeldOpen w'.db := by
  have locks := World.exec_locks step
  intro id j held
  by_cases same : j = i
  · subst same
    rcases locks.own id held with ⟨before, still⟩ | ⟨-, opened⟩
    · exact still (kept id j before)
    · exact opened
  · rw [(World.exec_undisturbed step same).session]
    exact kept id j (locks.others id j same held)

theorem HeldOpen.steps {d d' : CoreSystem} (kept : HeldOpen d.state.db)
    (run : Steps (Exec σ.allow) σ.env d d') : HeldOpen d'.state.db := by
  induction run with
  | refl => exact kept
  | tail _ step ih =>
      cases step with
      | run i code done =>
          obtain ⟨choice, -, done⟩ := done
          exact ih.exec done
      | env moved =>
          obtain ⟨-, users, same⟩ := σ.outside _ _ moved
          intro id i held
          rw [same] at held ⊢
          exact ih id i held

/-- A request that has ended has let go of every row. -/
theorem Setting.Handles.released (start : Initial s.world) (run : σ.Handles (a.start http s) c)
    {i : Pid} (ended : (c.outcome i).isSome) : NoTransaction i c.state.world ∧
      ∀ id, c.state.world.db.rowLocks id ≠ some i := by
  obtain ⟨d, inner, same, behind⟩ := run.behind
  have fresh : ∀ j, NoTransaction j s.world := by
    intro j
    rw [NoTransaction, start.sessions j]
    rfl
  have all : σ.plain.AllSafe (fun j _ w => NoTransaction j w)
      (Config.initial s.world fun j => a.core (http j)) :=
    ⟨trivial, fun j => core_ends_transaction a (http j) s.world trivial (fresh j)⟩
  have closed : NoTransaction i d.state := by
    obtain ⟨outcome, last⟩ := Option.isSome_iff_exists.mp ended
    obtain ⟨ending, -, mirrors⟩ := (behind i).concluded last
    generalize left : d.code i = code at mirrors
    cases mirrors with
    | aside other =>
        -- no endpoint was run, so the session is as it was
        have moved := (all.unstarted inner (inner.unbegun left)).2
        rw [NoTransaction, moved.session]
        exact fresh i
    | @answered _ _ _ outcome _ _ _ concluded =>
        refine (all.steps inner).ended i outcome ?_
        rw [Config.outcome, left]
        cases outcome <;> rfl
  rw [same] at closed
  refine ⟨closed, fun id held => ?_⟩
  have opened : HeldOpen d.state.db := HeldOpen.steps (fun id j held => by
    rw [show (Config.initial s.world fun j => a.core (http j)).state.db.rowLocks id = none from
      start.unlocked id] at held
    cases held) inner
  have still := opened id i (by rw [same]; exact held)
  rw [same, closed] at still
  cases still

theorem Application.tidy (a : Application) (http : Pid → HttpRequest) {s : TimedSite}
    (start : Initial s.site.world) :
    Tidy TimedSite.holder FrontOp.takesLock FrontOp.hangs (a.startAt http s) := by
  refine ⟨fun i => ?_, fun id i held => ?_⟩
  · have behind := behind_handle a (http i)
    rcases core_writesOnce a (http i) with once | lockless
    · refine Or.inl (behind.takesOnce once (fun _ => id) (fun _ => id) fun op other => ?_)
      cases op with
      | endpoint op => exact absurd rfl (other op)
      | _ => exact ⟨id, id⟩
    · refine Or.inr (behind.sends lockless (fun _ => id) fun op other => ?_)
      cases op with
      | endpoint op => exact absurd rfl (other op)
      | _ => exact id
  · rw [show TimedSite.holder (a.startAt http s).state id = none from start.unlocked id] at held
    cases held

/-- What a request that is no registration asks is not left without an answer. -/
theorem Setting.HandlesInTime.sure {σ : Setting} {a : Application} {http : Pid → HttpRequest}
    {s : TimedSite} {c : TimedHttpSystem} (run : σ.HandlesInTime (a.startAt http s) c)
    (enough : ⌈a.app.rt.lockTimeoutSeconds / pollIntervalSeconds⌉₊ ≤ a.app.rt.polls) {i : Pid}
    (other : ∀ route payload, (http i).routed ≠ .endpoint route (.register payload)) {op : FrontOp}
    {next : op.Reply → Asgi Ending} (code : c.code i = .call op next) : ¬op.hangs := by
  have live := run.live (i := i) (handle_inTime (core_inTime enough other) (s.seen i))
  have inserts : ((a.startAt http s).code i).Sends fun op => ¬op.insertsUser := by
    refine (behind_handle a (http i)).sends (core_insertless other) (fun _ => id) fun op aside => ?_
    cases op with
    | endpoint op => exact absurd rfl (aside op)
    | _ => exact id
  replace inserts := Steps.sends run inserts
  rw [code] at live inserts
  cases op with
  | endpoint op =>
      intro hangs
      cases op with
      | outOfFuel =>
          obtain ⟨⟨reply, -⟩, -⟩ := live
          exact reply.elim
      | mysql statement =>
          cases statement with
          | insertUser email hash role => exact inserts.1 trivial
          | _ => exact hangs
      | _ => exact hangs
  | _ => exact id

end

/-- Who holds the row of an article has not ended and waits for nobody; and from wherever a run has
come, every request that is no registration can be brought to its end. -/
theorem no_deadlock (σ : Setting) (willing : σ.Willing) (a : Application)
    (enough : ⌈a.app.rt.lockTimeoutSeconds / pollIntervalSeconds⌉₊ ≤ a.app.rt.polls)
    (http : Pid → HttpRequest) {s : TimedSite} {c : TimedHttpSystem} (start : Initial s.site.world)
    (run : σ.HandlesInTime (a.startAt http s) c) :
    (∀ id i, c.state.site.world.db.rowLocks id = some i → c.outcome i = none ∧
      ∀ op next, c.code i = .call op next → op.wantsLock = none ∧ ¬op.hangs) ∧
    ∀ i, (∀ route payload, (http i).routed ≠ .endpoint route (.register payload)) →
      ∃ c', σ.HandlesInTime c c' ∧ (c'.outcome i).isSome := by
  have tidy := (a.tidy http start).steps willing.locks run
  have released : ∀ d, σ.HandlesInTime c d → ∀ id j, (d.outcome j).isSome →
      TimedSite.holder d.state id ≠ some j := fun d after id j ended =>
    (Setting.Handles.released start (Setting.HandlesInTime.untimed (run.trans after)) ended).2 id
  refine ⟨fun id i held => ⟨?_, fun op next code => ?_⟩, fun i other => ?_⟩
  · by_contra ended
    exact released c .refl id i (Option.isSome_iff_ne_none.mpr ended) held
  · have sends := tidy.unhindered id i held
    rw [code] at sends
    refine ⟨Option.eq_none_iff_forall_ne_some.mpr fun row wants => ?_, sends.1.2⟩
    exact sends.1.1 (willing.locks.wanted wants)
  · exact willing.locks.progress tidy released fun d after op next code =>
      Setting.HandlesInTime.sure (run.trans after) enough other code

/-- Its losers may poll for as long as the two seconds of the lock last. -/
def patientApplication : Application :=
  { guardedApplication with app := ⟨patientRuntime, true⟩ }

def TimedSite.answer (i : Pid) (c : Choice) (op : FrontOp) (s : TimedSite) :
    Option (op.Reply × TimedSite) :=
  match op with
  | .endpoint .loopTime | .endpoint (.sleep _) => none
  | op => (Site.answer i c op s.site).map fun answered => (answered.1, ⟨answered.2, s.seen⟩)

theorem TimedSite.answer_exec {σ : Setting} {i : Pid} {c : Choice} {op : FrontOp}
    {s s' : TimedSite} {reply : op.Reply} (answered : TimedSite.answer i c op s = some (reply, s'))
    (allowed : ∀ inner, op = .endpoint inner → σ.allow s.site.world i inner c) :
    TimedSite.Exec σ i op s reply s' := by
  have atOnce : op.Elapses (s.seen i) reply (s.seen i) := by
    cases op with
    | endpoint op =>
        cases op with
        | loopTime => cases answered
        | sleep seconds => cases answered
        | _ => exact le_rfl
    | _ => rfl
  have still : ((Site.answer i c op s.site).map fun answered =>
      (answered.1, (⟨answered.2, s.seen⟩ : TimedSite))) = some (reply, s') := by
    unfold TimedSite.answer at answered
    split at answered
    · cases answered
    · cases answered
    · exact answered
  obtain ⟨⟨_, site⟩, step, same⟩ := Option.map_eq_some_iff.mp still
  obtain ⟨rfl, rfl⟩ := Prod.mk.inj same
  exact ⟨Site.answer_exec step allowed, atOnce, fun _ _ => rfl⟩

/-- The first of two deletions holds the row; the second can come to its end. -/
theorem no_deadlock_of_two_deletions : ∃ c c', (Setting.free (requestsOf [])).HandlesInTime
      (patientApplication.startAt (fun _ => authorsDelete) ⟨oneArticleSite, fun _ => 0⟩) c ∧
    c.state.site.world.db.rowLocks 1 = some 0 ∧ c.outcome 0 = none ∧ c.code 1 =
      patientApplication.handle authorsDelete ∧
    (Setting.free (requestsOf [])).HandlesInTime c c' ∧ (c'.outcome 1).isSome := by
  have sound : ∀ (op : FrontOp) (s : TimedSite) (reply : op.Reply) (s' : TimedSite),
      TimedSite.answer 0 { time := instant 2 } op s = some (reply, s') →
      TimedSite.Exec (Setting.free (requestsOf [])) 0 op s reply s' :=
    fun _ _ _ _ answered => TimedSite.answer_exec answered fun _ _ => trivial
  obtain ⟨s, reached, held⟩ := (Option.any_eq_true _ _).mp (show (executeFor
    (TimedSite.answer 0 { time := instant 2 }) 14 (patientApplication.handle authorsDelete)
    ⟨oneArticleSite, fun _ => 0⟩).any (fun s => s.site.world.db.rowLocks 1 == some 0) = true by
      decide +kernel)
  obtain ⟨c, run, last, others⟩ : ∃ c, (Setting.free (requestsOf [])).HandlesInTime
      (patientApplication.startAt (fun _ => authorsDelete) ⟨oneArticleSite, fun _ => 0⟩) c ∧
      c.state = s ∧ ∀ j, j ≠ 0 → c.code j = patientApplication.handle authorsDelete :=
    (executeFor_cutOff sound reached).steps rfl rfl
  have willing : (Setting.free (requestsOf [])).Willing := fun w _ _ now =>
    ⟨{ newId := max 1 w.db.nextId, number := now }, trivial, le_rfl, le_max_right _ _,
      lt_max_of_lt_left one_pos⟩
  have start : Initial oneArticleSite.world := World.fresh_initial [ann] (by decide)
  have enough : ⌈patientApplication.app.rt.lockTimeoutSeconds / pollIntervalSeconds⌉₊ ≤
      patientApplication.app.rt.polls := by
    rw [Nat.ceil_le]
    norm_num [patientApplication, patientRuntime, defaultRuntime, pollIntervalSeconds]
  have other : ∀ route payload, authorsDelete.routed ≠ .endpoint route (.register payload) := by
    rintro _ _ ⟨⟩
  obtain ⟨holders, ends⟩ := no_deadlock (Setting.free (requestsOf [])) willing patientApplication
    enough (fun _ => authorsDelete) (s := ⟨oneArticleSite, fun _ => 0⟩) start run
  have row : c.state.site.world.db.rowLocks 1 = some 0 := by
    rw [last]
    exact eq_of_beq held
  obtain ⟨c', later, ended⟩ := ends 1 other
  exact ⟨c, c', run, row, (holders 1 0 row).1, others 1 (by decide), later, ended⟩

end ContentPlatform
