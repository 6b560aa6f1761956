import ContentPlatform.Program.Concurrent
import ContentPlatform.Session

/-!
# The transaction of one request, whatever its handler does

`get_session` and `app/db/after_commit.py` for any handler and any callbacks.  A
session is asked to commit, to roll back and for its queue; what a callback does
is one request to it.
-/

set_option autoImplicit false

namespace ContentPlatform

open Program Prog Protocol

/-! ## The two functions, for any session -/

section
variable {Op : Type} {Res : Op → Type} {C α : Type} (commit rollback : Prog Op Res Exc Unit)
  (pop : Prog Op Res Exc (List C)) (run : C → Prog Op Res Exc Unit)

/-- The loop of `drain_after_commit`. -/
def runEach : List C → Prog Op Res Exc Unit
  | [] => return ()
  | callback :: rest => do
      match ← (run callback).attempt with
      | .ok _ => runEach rest
      | .error error =>
          if error.isException then runEach rest
          else .raise error

def drainAfterCommitWith : Prog Op Res Exc Unit := do
  let callbacks ← pop
  runEach run callbacks

def getSessionWith (handler : Prog Op Res Exc α) : Prog Op Res Exc α := do
  match ← (do let value ← handler; commit; return value : Prog Op Res Exc α).attempt with
  | .ok value =>
      drainAfterCommitWith pop run
      return value
  | .error error =>
      rollback
      let _ ← pop
      .raise error

end

theorem runCallbacks_eq (cache : ArticleCache) (callbacks : List Invalidation) :
    runCallbacks cache callbacks = runEach (runInvalidation cache) callbacks := by
  induction callbacks with
  | nil => rfl
  | cons callback rest ih =>
      simp only [runCallbacks, ih]
      rfl

/-- The session of a request is the one whose callbacks are invalidations. -/
theorem getSession_eq {α : Type} (cache : ArticleCache) (handler : Py α) :
    getSession cache handler =
      getSessionWith Py.commit Py.rollback Py.popAfterCommit (runInvalidation cache) handler := by
  have drain : drainAfterCommit cache =
      drainAfterCommitWith Py.popAfterCommit (runInvalidation cache) := by
    unfold drainAfterCommit drainAfterCommitWith
    simp only [runCallbacks_eq]
  unfold getSession getSessionWith
  rw [drain]
  rfl

/-! ## Sessions side by side -/

/-- What a handler may do to its session, among everything else that it does. -/
inductive HandlerOp (C Op : Type) where
  | afterCommit (callback : C)
  | other (op : Op)

inductive SessionOp (C Op : Type) where
  | handler (op : HandlerOp C Op)
  | commit
  | rollback
  | popAfterCommit
  | call (callback : C)

section
variable {C Op : Type} (Res : Op → Type)

@[reducible] def HandlerOp.Reply : HandlerOp C Op → Type
  | .afterCommit _ => Unit
  | .other op => Res op

@[reducible] def SessionOp.Reply : SessionOp C Op → Type
  | .handler op => op.Reply Res
  | .commit => Except Exc Unit
  | .rollback => Except Exc Unit
  | .popAfterCommit => List C
  | .call _ => Except Exc Unit

/-- A coroutine that is given a session. -/
abbrev Handler (C : Type) {Op : Type} (Res : Op → Type) (α : Type) : Type :=
  Prog (HandlerOp C Op) (HandlerOp.Reply Res) Exc α

abbrev SessionProg (C : Type) {Op : Type} (Res : Op → Type) (α : Type) : Type :=
  Prog (SessionOp C Op) (SessionOp.Reply Res) Exc α

variable {Res} {α : Type}

def Handler.inSession : Handler C Res α → SessionProg C Res α
  | .ret value => .ret value
  | .raise error => .raise error
  | .call op next => .call (.handler op) fun reply => Handler.inSession (next reply)

def commitOp : SessionProg C Res Unit := .call .commit .ofExcept
def rollbackOp : SessionProg C Res Unit := .call .rollback .ofExcept
def popOp : SessionProg C Res (List C) := .call .popAfterCommit .ret
def callOp (callback : C) : SessionProg C Res Unit := .call (.call callback) .ofExcept

/-- `get_session` around a handler. -/
def sessionOf (handler : Handler C Res α) : SessionProg C Res α :=
  getSessionWith commitOp rollbackOp popOp callOp handler.inSession

/-- A handler can register these callbacks, in this order, and end so. -/
inductive Behaves : Handler C Res α → List C → Except Exc α → Prop where
  | ret (value : α) : Behaves (.ret value) [] (.ok value)
  | raise (error : Exc) : Behaves (.raise error) [] (.error error)
  | afterCommit {callback : C} {next : Unit → Handler C Res α} {registered : List C}
      {ended : Except Exc α} :
      Behaves (next ()) registered ended →
      Behaves (.call (.afterCommit callback) next) (callback :: registered) ended
  | other (op : Op) {next : Res op → Handler C Res α} (reply : Res op) {registered : List C}
      {ended : Except Exc α} :
      Behaves (next reply) registered ended → Behaves (.call (.other op) next) registered ended

end

inductive SessionEvent (C : Type) where
  | registered (callback : C)
  | committed
  | commitFailed (error : Exc)
  | rolledBack
  | called (callback : C)

/-- `session.info` holds the queue; the events are observed. -/
structure SessionInfo (C : Type) where
  queue : List C
  events : List (SessionEvent C)

namespace SessionInfo

variable {C : Type} (s : SessionInfo C)

def observe (event : SessionEvent C) : SessionInfo C := { s with events := s.events ++ [event] }

end SessionInfo

section
variable {C Op : Type} {Res : Op → Type}

/-- What a session answers and becomes.  A commit ends in any way, a rollback does not fail, and
a callback returns or raises an `Exception`. -/
def SessionInfo.Answers (s : SessionInfo C) :
    (op : SessionOp C Op) → op.Reply Res → SessionInfo C → Prop
  | .handler (.afterCommit callback), _, s' =>
      s' = { s with queue := s.queue ++ [callback] }.observe (.registered callback)
  | .handler (.other _), _, s' => s' = s
  | .commit, reply, s' =>
      match reply with
      | .ok _ => s' = s.observe .committed
      | .error error => s' = s.observe (.commitFailed error)
  | .rollback, reply, s' => reply = .ok () ∧ s' = s.observe .rolledBack
  | .popAfterCommit, reply, s' => reply = s.queue ∧ s' = { s with queue := [] }
  | .call callback, reply, s' =>
      (∀ error, reply = .error error → error.isException = true) ∧ s' = s.observe (.called callback)

/-- No callback was called before the commit returned. -/
def Orderly (events : List (SessionEvent C)) : Prop :=
  ∀ before callback after, events = before ++ .called callback :: after → .committed ∈ before

theorem Orderly.append {events : List (SessionEvent C)} {event : SessionEvent C}
    (orderly : Orderly events) (late : ∀ callback, event = .called callback → .committed ∈ events) :
    Orderly (events ++ [event]) := by
  intro before callback after same
  rcases List.eq_nil_or_concat after with rfl | ⟨init, last, rfl⟩
  · obtain ⟨rfl, single⟩ := List.append_inj' same rfl
    exact late callback (List.cons.inj single).1
  · rw [List.concat_eq_append, ← List.cons_append, ← List.append_assoc] at same
    exact orderly before callback init (List.append_inj' same rfl).1

def sessionExec (i : Pid) (op : SessionOp C Op) (s : Pid → SessionInfo C) (reply : op.Reply Res)
    (s' : Pid → SessionInfo C) : Prop :=
  ∃ info, (s i).Answers op reply info ∧ s' = Function.update s i info

/-- The callbacks are called once the commit has returned. -/
def sessionPre (i : Pid) (op : SessionOp C Op) (s : Pid → SessionInfo C) : Prop :=
  ∀ callback, op = .call callback → .committed ∈ (s i).events

theorem SessionInfo.Answers.orderly {s s' : SessionInfo C} {op : SessionOp C Op}
    {reply : op.Reply Res} (answers : s.Answers op reply s') (orderly : Orderly s.events)
    (owed : ∀ callback, op = .call callback → .committed ∈ s.events) : Orderly s'.events := by
  have observed : ∀ event, (∀ callback, event ≠ .called callback) →
      Orderly (s.observe event).events := by
    intro event other
    exact orderly.append fun callback same => absurd same (other callback)
  cases op with
  | handler op =>
      cases op with
      | afterCommit callback =>
          obtain rfl := answers
          exact orderly.append fun callback same => by cases same
      | other op =>
          obtain rfl := answers
          exact orderly
  | commit =>
      cases reply with
      | ok _ =>
          obtain rfl := answers
          exact observed _ fun callback same => by cases same
      | error error =>
          obtain rfl := answers
          exact observed _ fun callback same => by cases same
  | rollback =>
      obtain ⟨_, rfl⟩ := answers
      exact observed _ fun callback same => by cases same
  | popAfterCommit =>
      obtain ⟨_, rfl⟩ := answers
      exact orderly
  | call callback =>
      obtain ⟨_, rfl⟩ := answers
      exact orderly.append fun _ _ => owed callback rfl

variable (C Res) in
def sessions : Protocol (SessionOp C Op) (SessionOp.Reply Res) (Pid → SessionInfo C) where
  exec := sessionExec
  env := fun _ _ => False
  inv := fun s => ∀ i, Orderly (s i).events
  rely := fun i s s' => s' i = s i
  pre := sessionPre
  rely_refl := fun _ _ => rfl
  rely_trans := fun first second => second.trans first
  step_inv := by
    rintro i op s reply s' kept owed ⟨info, answers, rfl⟩ j
    by_cases same : j = i
    · subst same
      rw [Function.update_self]
      exact answers.orderly (kept j) owed
    · rw [Function.update_of_ne same]
      exact kept j
  step_rely := by
    rintro i j op s reply s' _ _ ⟨info, _, rfl⟩ other
    exact Function.update_of_ne other _ _
  env_inv := fun _ impossible => impossible.elim
  env_rely := fun _ impossible => impossible.elim

/-! ## One session -/

variable {i : Pid} {α β : Type}

theorem stable_session (A : SessionInfo C → Prop) :
    (sessions C Res).Stable i fun s => A (s i) := by
  intro s s' _ holds moved _
  have same : s' i = s i := moved
  rw [same]
  exact holds

theorem session_triple {op : SessionOp C Op} {next : op.Reply Res → SessionProg C Res α}
    {info : SessionInfo C} {M : op.Reply Res → SessionInfo C → Prop}
    {B : Except Exc α → (Pid → SessionInfo C) → Prop}
    (owed : ∀ callback, op = .call callback → .committed ∈ info.events)
    (step : ∀ reply info', info.Answers op reply info' → M reply info')
    (rest : ∀ reply, (sessions C Res).Triple i (fun s => M reply (s i)) (next reply) B) :
    (sessions C Res).Triple i (fun s => s i = info) (.call op next) B := by
  apply Triple.call (fun reply s => M reply (s i)) (stable_session fun s => s = info)
  · intro s _ same callback calls
    rw [same]
    exact owed callback calls
  · rintro s reply s' _ same ⟨info', answers, rfl⟩ _
    rw [same] at answers
    rw [Function.update_self]
    exact step reply info' answers
  · exact rest

/-- A handler registers what it registers and ends as it ends. -/
theorem inSession_triple (handler : Handler C Res α) (queue : List C)
    (events : List (SessionEvent C)) :
    (sessions C Res).Triple i (fun s => s i = ⟨queue, events⟩) handler.inSession fun outcome s =>
      ∃ registered, Behaves handler registered outcome ∧
        s i = ⟨queue ++ registered, events ++ registered.map .registered⟩ := by
  induction handler generalizing queue events with
  | ret value =>
      refine Triple.ret (stable_session fun s => s = ⟨queue, events⟩) ?_
      intro s _ same
      refine ⟨[], .ret value, ?_⟩
      rw [same, List.append_nil, List.map_nil, List.append_nil]
  | raise error =>
      refine Triple.raise (stable_session fun s => s = ⟨queue, events⟩) ?_
      intro s _ same
      refine ⟨[], .raise error, ?_⟩
      rw [same, List.append_nil, List.map_nil, List.append_nil]
  | call op next ih =>
      cases op with
      | afterCommit callback =>
          apply session_triple
            (M := fun _ info => info = ⟨queue ++ [callback], events ++ [.registered callback]⟩)
          · intro called same
            cases same
          · intro reply info' answers
            exact answers
          · intro reply
            refine (ih () (queue ++ [callback]) (events ++ [.registered callback])).mono
              (fun _ _ same => same) ?_
            rintro outcome s _ ⟨registered, behaves, same⟩
            refine ⟨callback :: registered, .afterCommit behaves, ?_⟩
            rw [same, List.append_assoc, List.append_assoc]
            rfl
      | other op =>
          apply session_triple (M := fun _ info => info = ⟨queue, events⟩)
          · intro called same
            cases same
          · intro reply info' answers
            exact answers
          · intro reply
            refine (ih reply queue events).mono (fun _ _ same => same) ?_
            rintro outcome s _ ⟨registered, behaves, same⟩
            exact ⟨registered, .other op reply behaves, same⟩

/-- Every callback is called once, in order, and none of their exceptions comes out. -/
theorem runEach_triple (callbacks : List C) {events : List (SessionEvent C)}
    (committed : .committed ∈ events) :
    (sessions C Res).Triple i
      (fun s => s i = ⟨[], events⟩) (runEach callOp callbacks) fun outcome s =>
        outcome = .ok () ∧ s i = ⟨[], events ++ callbacks.map .called⟩ := by
  induction callbacks generalizing events with
  | nil =>
      refine Triple.ret (stable_session fun s => s = ⟨[], events⟩) ?_
      intro s _ same
      refine ⟨rfl, ?_⟩
      rw [same, List.map_nil, List.append_nil]
  | cons callback rest ih =>
      have later : SessionEvent.committed ∈ events ++ [.called callback] :=
        List.mem_append_left _ committed
      have go : (sessions C Res).Triple i
          (fun s => s i = ⟨[], events ++ [.called callback]⟩) (runEach callOp rest)
          fun outcome s => outcome = .ok () ∧
            s i = ⟨[], events ++ (callback :: rest).map .called⟩ := by
        refine (ih later).mono (fun _ _ same => same) ?_
        rintro outcome s _ ⟨ended, same⟩
        refine ⟨ended, ?_⟩
        rw [same, List.append_assoc]
        rfl
      rw [runEach]
      apply Triple.attempt_bind (C := fun outcome s =>
        (∀ error, outcome = .error error → error.isException = true) ∧
          s i = ⟨[], events ++ [.called callback]⟩)
      · apply session_triple (M := fun (reply : Except Exc Unit) info =>
          (∀ error, reply = .error error → error.isException = true) ∧
            info = ⟨[], events ++ [.called callback]⟩)
        · intro _ _
          exact committed
        · intro reply info' answers
          exact answers
        · intro reply
          cases reply with
          | ok _ =>
              refine Triple.ret (stable_session fun info =>
                _ ∧ info = ⟨[], events ++ [.called callback]⟩) ?_
              intro s _ holds
              exact ⟨fun error same => (by cases same), holds.2⟩
          | error error =>
              refine Triple.raise (stable_session fun info =>
                _ ∧ info = ⟨[], events ++ [.called callback]⟩) ?_
              intro s _ holds
              exact ⟨fun _ same => holds.1 _ (by cases same; rfl), holds.2⟩
      · intro outcome
        cases outcome with
        | ok _ => exact go.mono (fun _ _ holds => holds.2) fun _ _ _ ended => ended
        | error error =>
            intro s kept holds
            have caught : error.isException = true := holds.1 error rfl
            simp only [caught, if_true]
            exact go s kept holds.2

/-- How a session ends, by what its handler did: it committed and then called what was
registered, or the commit failed and was rolled back, or the handler failed and was rolled back. -/
inductive SessionEnded (handler : Handler C Res α) : Except Exc α → SessionInfo C → Prop where
  | committed {registered : List C} {value : α} :
      Behaves handler registered (.ok value) →
      SessionEnded handler (.ok value)
        ⟨[], registered.map .registered ++ [.committed] ++ registered.map .called⟩
  | commitFailed {registered : List C} {value : α} {error : Exc} :
      Behaves handler registered (.ok value) →
      SessionEnded handler (.error error)
        ⟨[], registered.map .registered ++ [.commitFailed error] ++ [.rolledBack]⟩
  | failed {registered : List C} {error : Exc} :
      Behaves handler registered (.error error) →
      SessionEnded handler (.error error) ⟨[], registered.map .registered ++ [.rolledBack]⟩

theorem abandon_triple (handler : Handler C Res α) {queue : List C}
    {events : List (SessionEvent C)} {error : Exc}
    (ends : SessionEnded handler (.error error) ⟨[], events ++ [.rolledBack]⟩) :
    (sessions C Res).Triple i (fun s => s i = ⟨queue, events⟩)
      (rollbackOp.bind fun _ => popOp.bind fun _ => .raise error)
      fun outcome s => SessionEnded handler outcome (s i) := by
  apply session_triple (M := fun (reply : Except Exc Unit) info =>
    reply = .ok () ∧ info = ⟨queue, events ++ [.rolledBack]⟩)
  · intro callback same
    cases same
  · intro reply info' answers
    exact answers
  · intro reply
    cases reply with
    | error failure =>
        intro s _ impossible
        cases impossible.1
    | ok _ =>
        refine Triple.mono (A := fun s => s i = ⟨queue, events ++ [.rolledBack]⟩) ?_
          (fun _ _ holds => holds.2) fun _ _ _ ended => ended
        apply session_triple (M := fun _ info => info = ⟨[], events ++ [.rolledBack]⟩)
        · intro callback same
          cases same
        · intro reply info' answers
          exact answers.2
        · intro reply
          refine Triple.raise (stable_session fun s => s = ⟨[], events ++ [.rolledBack]⟩) ?_
          intro s _ same
          rw [same]
          exact ends

theorem sessionOf_triple (handler : Handler C Res α) :
    (sessions C Res).Triple i (fun s => s i = ⟨[], []⟩) (sessionOf handler)
      fun outcome s => SessionEnded handler outcome (s i) := by
  apply Triple.attempt_bind (C := fun outcome s =>
    match outcome with
    | .ok value => ∃ registered, Behaves handler registered (.ok value) ∧
        s i = ⟨registered, registered.map .registered ++ [.committed]⟩
    | .error error => ∃ queue events, SessionEnded handler (.error error) ⟨[], events ++ [.rolledBack]⟩ ∧
        s i = ⟨queue, events⟩)
  · apply Triple.bind (inSession_triple handler [] [])
    · intro value s kept holds
      obtain ⟨registered, behaves, same⟩ := holds
      rw [List.nil_append, List.nil_append] at same
      refine (session_triple
        (M := fun (reply : Except Exc Unit) info =>
          match reply with
          | .ok _ => info = ⟨registered, registered.map .registered ++ [.committed]⟩
          | .error error =>
              info = ⟨registered, registered.map .registered ++ [.commitFailed error]⟩)
        ?_ ?_ ?_) s kept same
      · intro callback calls
        cases calls
      · intro reply info' answers
        cases reply <;> exact answers
      · intro reply
        cases reply with
        | ok _ =>
            refine Triple.ret (stable_session fun s =>
              s = ⟨registered, registered.map .registered ++ [.committed]⟩) ?_
            intro s _ same
            exact ⟨registered, behaves, same⟩
        | error error =>
            refine Triple.raise (stable_session fun s =>
              s = ⟨registered, registered.map .registered ++ [.commitFailed error]⟩) ?_
            intro s _ same
            exact ⟨_, _, .commitFailed behaves, same⟩
    · rintro error s _ ⟨registered, behaves, same⟩
      rw [List.nil_append, List.nil_append] at same
      exact ⟨_, _, .failed behaves, same⟩
  · intro outcome
    cases outcome with
    | ok value =>
        rintro s kept ⟨registered, behaves, same⟩
        refine (session_triple (M := fun (reply : List C) info => reply = registered ∧
          info = ⟨[], registered.map .registered ++ [.committed]⟩) ?_ ?_ ?_) s kept same
        · intro callback calls
          cases calls
        · rintro reply info' ⟨rfl, rfl⟩
          exact ⟨rfl, rfl⟩
        · intro reply s kept holds
          obtain ⟨rfl, same⟩ := holds
          have committed : SessionEvent.committed ∈
              reply.map SessionEvent.registered ++ [.committed] :=
            List.mem_append_right _ (List.mem_singleton_self _)
          refine Safe.bind ((runEach_triple reply committed s kept same).mono ?_) kept
          rintro outcome s' kept' ⟨rfl, same'⟩ s'' moved _
          have last : s'' i = s' i := moved
          rw [last, same']
          exact .committed behaves
    | error error =>
        rintro s kept ⟨queue, events, ends, same⟩
        exact abandon_triple handler ends s kept same

/-- Whatever the handlers of any number of requests do, however their commits end, and whichever
callbacks raise. -/
theorem session_drives_queue (handlers : Pid → Handler C Res α)
    {c : Config (SessionOp C Op) (SessionOp.Reply Res) Exc α (Pid → SessionInfo C)}
    (run : Steps sessionExec (fun _ _ => False)
      (Config.initial (fun _ => ⟨[], []⟩) fun i => sessionOf (handlers i)) c) (i : Pid) :
    Orderly (c.state i).events ∧
      ∀ outcome, c.outcome i = some outcome → SessionEnded (handlers i) outcome (c.state i) := by
  have start : (sessions C Res).AllSafe
      (fun i outcome s => SessionEnded (handlers i) outcome (s i))
      (Config.initial (fun _ => ⟨[], []⟩) fun i => sessionOf (handlers i)) := by
    have orderly : ∀ j : Pid, Orderly ((fun _ => ⟨[], []⟩ : Pid → SessionInfo C) j).events := by
      intro j before callback after same
      have : before ++ SessionEvent.called callback :: after = [] := same.symm
      simp at this
    exact ⟨orderly, fun j => sessionOf_triple (handlers j) _ orderly rfl⟩
  have safe := start.steps run
  exact ⟨safe.inv i, fun outcome last => safe.ended i outcome last⟩

theorem session_step {start c : Config (SessionOp C Op) (SessionOp.Reply Res) Exc α
      (Pid → SessionInfo C)} (run : Steps sessionExec (fun _ _ => False) start c)
    {op : SessionOp C Op} {next : op.Reply Res → SessionProg C Res α} {info : SessionInfo C}
    (code : c.code i = .call op next) (own : c.state i = info) (reply : op.Reply Res)
    {info' : SessionInfo C} (answers : info.Answers op reply info') :
    ∃ c', Steps sessionExec (fun _ _ => False) start c' ∧ c'.code i = next reply ∧
      c'.state i = info' := by
  subst own
  refine ⟨_, run.tail (.run i code ⟨info', answers, rfl⟩), ?_, ?_⟩
  · exact Function.update_self ..
  · exact Function.update_self ..

end

def twoCallbacks : Handler ℕ (fun never : Empty => nomatch never) Unit :=
  .call (.afterCommit 1) fun _ => .call (.afterCommit 2) fun _ => .ret ()

/-- The first of two callbacks raises, and the second is called. -/
theorem session_drives_queue_twice :
    ∃ c : Config (SessionOp ℕ Empty) (SessionOp.Reply _) Exc Unit (Pid → SessionInfo ℕ),
      Steps sessionExec (fun _ _ => False)
        (Config.initial (fun _ => ⟨[], []⟩) fun _ => sessionOf twoCallbacks) c ∧
      c.outcome 0 = some (.ok ()) ∧
      (c.state 0).events = [.registered 1, .registered 2, .committed, .called 1, .called 2] ∧
      SessionEnded twoCallbacks (.ok ()) (c.state 0) := by
  obtain ⟨c₁, run, code, own⟩ := session_step (i := 0) (.refl (c :=
    Config.initial (fun _ => ⟨[], []⟩) fun _ => sessionOf twoCallbacks)) rfl rfl () rfl
  obtain ⟨c₂, run, code, own⟩ := session_step run code own () rfl
  obtain ⟨c₃, run, code, own⟩ := session_step run code own (.ok ()) rfl
  obtain ⟨c₄, run, code, own⟩ := session_step run code own [1, 2] ⟨rfl, rfl⟩
  obtain ⟨c₅, run, code, own⟩ := session_step run code own (.error .runtimeError)
    ⟨fun error same => by cases same; rfl, rfl⟩
  obtain ⟨c₆, run, code, own⟩ := session_step run code own (.ok ())
    ⟨fun error same => (by cases same), rfl⟩
  have last : c₆.outcome 0 = some (.ok ()) := by
    rw [Config.outcome, code]
    rfl
  refine ⟨c₆, run, last, ?_, (session_drives_queue _ run 0).2 _ last⟩
  rw [own]
  rfl

end ContentPlatform
