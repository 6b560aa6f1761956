import ContentPlatform.Program.Sequential

/-!
# Programs run together

Any number of programs share one state and are interleaved request by request;
between two steps the environment may change the state on its own.  A
`Protocol` packages what every participant may rely on: an invariant of the
shared state, and for each participant a relation that bounds what everybody
else does to it.  `Safe` is the proof obligation of one participant, and
`Protocol.steps` turns the obligations of all of them into a fact about every
run.
-/

set_option autoImplicit false

namespace ContentPlatform.Program

open Prog

abbrev Pid := Nat

section System
variable {Op : Type} {Res : Op → Type} {ε α S : Type}

/-- What a participant still has to run, and whether it has run at all. -/
structure Config (Op : Type) (Res : Op → Type) (ε α S : Type) where
  state : S
  code : Pid → Prog Op Res ε α
  started : Pid → Bool

def Config.initial (s : S) (code : Pid → Prog Op Res ε α) : Config Op Res ε α S :=
  ⟨s, code, fun _ => false⟩

def Config.outcome (c : Config Op Res ε α S) (i : Pid) : Option (Except ε α) :=
  match c.code i with
  | .ret value => some (.ok value)
  | .raise error => some (.error error)
  | .call _ _ => none

inductive Step (exec : Pid → (op : Op) → S → Res op → S → Prop) (env : S → S → Prop) :
    Config Op Res ε α S → Config Op Res ε α S → Prop where
  | run {c : Config Op Res ε α S} (i : Pid) {op : Op} {next : Res op → Prog Op Res ε α}
      {reply : Res op} {s' : S} :
      c.code i = .call op next → exec i op c.state reply s' →
      Step exec env c
        ⟨s', Function.update c.code i (next reply), Function.update c.started i true⟩
  | env {c : Config Op Res ε α S} {s' : S} :
      env c.state s' → Step exec env c ⟨s', c.code, c.started⟩

inductive Steps (exec : Pid → (op : Op) → S → Res op → S → Prop) (env : S → S → Prop)
    (c : Config Op Res ε α S) : Config Op Res ε α S → Prop where
  | refl : Steps exec env c c
  | tail {c' c'' : Config Op Res ε α S} :
      Steps exec env c c' → Step exec env c' c'' → Steps exec env c c''

variable {exec : Pid → (op : Op) → S → Res op → S → Prop} {env : S → S → Prop}

theorem Steps.trans {c c' c'' : Config Op Res ε α S} (first : Steps exec env c c')
    (second : Steps exec env c' c'') : Steps exec env c c'' := by
  induction second with
  | refl => exact first
  | tail _ step ih => exact ih.tail step

theorem Step.steps {c c' : Config Op Res ε α S} (step : Step exec env c c') :
    Steps exec env c c' := .tail .refl step

theorem Steps.sends {c c' : Config Op Res ε α S} {allowed : Op → Prop} {i : Pid}
    (run : Steps exec env c c') (whole : (c.code i).Sends allowed) :
    (c'.code i).Sends allowed := by
  induction run with
  | refl => exact whole
  | tail _ step ih =>
      cases step with
      | @run j op next reply s' code _ =>
          by_cases same : i = j
          · subst same
            rw [code] at ih
            simpa using ih.2 reply
          · simpa [Function.update_of_ne same] using ih
      | env _ => exact ih

/-! ### Coarser states -/

def Config.map {T : Type} (f : T → S) (c : Config Op Res ε α T) : Config Op Res ε α S :=
  ⟨f c.state, c.code, c.started⟩

/-- A run of a finer system is one of the coarser, where an event may be nothing. -/
theorem Steps.map {T : Type} {f : T → S} {exec' : Pid → (op : Op) → T → Res op → T → Prop}
    {env' : T → T → Prop}
    (step : ∀ i op t reply t', exec' i op t reply t' → exec i op (f t) reply (f t'))
    (event : ∀ t t', env' t t' → f t' = f t ∨ env (f t) (f t')) {c c' : Config Op Res ε α T}
    (run : Steps exec' env' c c') : Steps exec env (c.map f) (c'.map f) := by
  induction run with
  | refl => exact .refl
  | tail _ next ih =>
      cases next with
      | run i code done => exact ih.tail (.run i code (step _ _ _ _ _ done))
      | env moved =>
          rcases event _ _ moved with same | moved
          · simp only [Config.map, same] at ih ⊢
            exact ih
          · exact ih.tail (.env moved)

/-- A run of a coarser system is seen of one of the finer, if each of its steps is. -/
theorem Steps.lift {T : Type} {f : T → S} {exec' : Pid → (op : Op) → T → Res op → T → Prop}
    {env' : T → T → Prop}
    (step : ∀ i op t reply s', exec i op (f t) reply s' → ∃ t', f t' = s' ∧ exec' i op t reply t')
    (event : ∀ t s', env (f t) s' → ∃ t', f t' = s' ∧ env' t t') {c : Config Op Res ε α T}
    {d : Config Op Res ε α S} (run : Steps exec env (c.map f) d) :
    ∃ c', Steps exec' env' c c' ∧ c'.map f = d := by
  induction run with
  | refl => exact ⟨c, .refl, rfl⟩
  | tail _ next ih =>
      obtain ⟨c', before, rfl⟩ := ih
      cases next with
      | run i code done =>
          obtain ⟨t', rfl, done'⟩ := step _ _ _ _ _ done
          exact ⟨_, before.tail (.run i code done'), rfl⟩
      | env moved =>
          obtain ⟨t', rfl, moved'⟩ := event _ _ moved
          exact ⟨_, before.tail (.env moved'), rfl⟩

end System

/-- The rules the participants of one system keep. -/
structure Protocol (Op : Type) (Res : Op → Type) (S : Type) where
  exec : Pid → (op : Op) → S → Res op → S → Prop
  env : S → S → Prop
  inv : S → Prop
  /-- What participant `i` may see change between two of its own steps. -/
  rely : Pid → S → S → Prop
  /-- What participant `i` owes before it sends a request. -/
  pre : Pid → Op → S → Prop
  rely_refl : ∀ i s, rely i s s
  rely_trans : ∀ {i s s' s''}, rely i s s' → rely i s' s'' → rely i s s''
  step_inv : ∀ {i op s reply s'}, inv s → pre i op s → exec i op s reply s' → inv s'
  step_rely : ∀ {i j op s reply s'}, inv s → pre i op s → exec i op s reply s' → j ≠ i →
    rely j s s'
  env_inv : ∀ {s s'}, inv s → env s s' → inv s'
  env_rely : ∀ {i s s'}, inv s → env s s' → rely i s s'

namespace Protocol

section
variable {Op : Type} {Res : Op → Type} {ε α β S : Type} (P : Protocol Op Res S)

/-- Participant `i` may run `p` from `s`: whatever the others do in between, every
request meets its obligation and the end satisfies `post`. -/
def Safe (i : Pid) : Prog Op Res ε α → (Except ε α → S → Prop) → S → Prop
  | .ret value, post, s => ∀ s', P.rely i s s' → P.inv s' → post (.ok value) s'
  | .raise error, post, s => ∀ s', P.rely i s s' → P.inv s' → post (.error error) s'
  | .call op next, post, s => ∀ s', P.rely i s s' → P.inv s' →
      P.pre i op s' ∧ ∀ reply s'', P.exec i op s' reply s'' → Safe i (next reply) post s''

variable {P} {i : Pid} {p : Prog Op Res ε α} {post post' : Except ε α → S → Prop} {s s' : S}

theorem Safe.rely (safe : P.Safe i p post s) (moved : P.rely i s s') : P.Safe i p post s' := by
  cases p with
  | ret value => exact fun s'' later => safe s'' (P.rely_trans moved later)
  | raise error => exact fun s'' later => safe s'' (P.rely_trans moved later)
  | call op next => exact fun s'' later => safe s'' (P.rely_trans moved later)

theorem Safe.mono (safe : P.Safe i p post s) (weaken : ∀ o s', P.inv s' → post o s' → post' o s') :
    P.Safe i p post' s := by
  induction p generalizing s with
  | ret value => exact fun s' moved kept => weaken _ s' kept (safe s' moved kept)
  | raise error => exact fun s' moved kept => weaken _ s' kept (safe s' moved kept)
  | call op next ih =>
      intro s' moved kept
      obtain ⟨owed, rest⟩ := safe s' moved kept
      exact ⟨owed, fun reply s'' step => ih reply (rest reply s'' step)⟩

/-- Sequencing: `f` and `g` may start from whatever state the end of `p` allows. -/
theorem Safe.cont {f : α → Prog Op Res ε β} {g : ε → Prog Op Res ε β}
    {post : Except ε β → S → Prop}
    (safe : P.Safe i p (fun outcome s' =>
      match outcome with
      | .ok value => P.Safe i (f value) post s'
      | .error error => P.Safe i (g error) post s') s)
    (start : P.inv s) : P.Safe i (p.cont f g) post s := by
  induction p generalizing s with
  | ret value => exact safe s (P.rely_refl i s) start
  | raise error => exact safe s (P.rely_refl i s) start
  | call op next ih =>
      intro s' moved kept
      obtain ⟨owed, rest⟩ := safe s' moved kept
      exact ⟨owed, fun reply s'' step =>
        ih reply (rest reply s'' step) (P.step_inv kept owed step)⟩

/-- Sequencing where an exception of `p` ends the whole. -/
theorem Safe.bind {f : α → Prog Op Res ε β} {post : Except ε β → S → Prop}
    (safe : P.Safe i p (fun outcome s' =>
      match outcome with
      | .ok value => P.Safe i (f value) post s'
      | .error error => post (.error error) s') s)
    (start : P.inv s) : P.Safe i (p.bind f) post s := by
  induction p generalizing s with
  | ret value => exact safe s (P.rely_refl i s) start
  | raise error => exact safe
  | call op next ih =>
      intro s' moved kept
      obtain ⟨owed, rest⟩ := safe s' moved kept
      exact ⟨owed, fun reply s'' step =>
        ih reply (rest reply s'' step) (P.step_inv kept owed step)⟩

theorem Safe.attempt {post : Except ε (Except ε α) → S → Prop}
    (safe : P.Safe i p (fun outcome s' => post (.ok outcome) s') s) :
    P.Safe i p.attempt post s := by
  induction p generalizing s with
  | ret value => exact safe
  | raise error => exact safe
  | call op next ih =>
      intro s' moved kept
      obtain ⟨owed, rest⟩ := safe s' moved kept
      exact ⟨owed, fun reply s'' step => ih reply (rest reply s'' step)⟩

/-- What the other participants cannot make false. -/
def Stable (P : Protocol Op Res S) (i : Pid) (A : S → Prop) : Prop :=
  ∀ s s', P.inv s → A s → P.rely i s s' → P.inv s' → A s'

/-- Started where `A` holds, `p` is safe and ends where `B` holds. -/
def Triple (P : Protocol Op Res S) (i : Pid) (A : S → Prop) (p : Prog Op Res ε α)
    (B : Except ε α → S → Prop) : Prop :=
  ∀ s, P.inv s → A s → P.Safe i p B s

variable {A A' : S → Prop} {B B' C : Except ε α → S → Prop}

theorem Triple.ret {value : α} (stable : P.Stable i A)
    (post : ∀ s, P.inv s → A s → B (.ok value) s) : P.Triple i A (.ret value) B :=
  fun s kept holds s' moved kept' => post s' kept' (stable s s' kept holds moved kept')

theorem Triple.raise {error : ε} (stable : P.Stable i A)
    (post : ∀ s, P.inv s → A s → B (.error error) s) : P.Triple i A (.raise error) B :=
  fun s kept holds s' moved kept' => post s' kept' (stable s s' kept holds moved kept')

theorem Triple.call {op : Op} {next : Res op → Prog Op Res ε α} (M : Res op → S → Prop)
    (stable : P.Stable i A) (owed : ∀ s, P.inv s → A s → P.pre i op s)
    (step : ∀ s reply s', P.inv s → A s → P.exec i op s reply s' → P.inv s' → M reply s')
    (rest : ∀ reply, P.Triple i (M reply) (next reply) B) : P.Triple i A (.call op next) B := by
  intro s kept holds s' moved kept'
  have holds' := stable s s' kept holds moved kept'
  have owed' := owed s' kept' holds'
  refine ⟨owed', fun reply s'' exec => ?_⟩
  have kept'' := P.step_inv kept' owed' exec
  exact rest reply s'' kept'' (step s' reply s'' kept' holds' exec kept'')

theorem Triple.cont {f : α → Prog Op Res ε β} {g : ε → Prog Op Res ε β}
    {B : Except ε β → S → Prop} (first : P.Triple i A p C)
    (onValue : ∀ value, P.Triple i (C (.ok value)) (f value) B)
    (onError : ∀ error, P.Triple i (C (.error error)) (g error) B) :
    P.Triple i A (p.cont f g) B := by
  intro s kept holds
  refine Safe.cont ((first s kept holds).mono fun outcome s' kept' ended => ?_) kept
  cases outcome with
  | ok value => exact onValue value s' kept' ended
  | error error => exact onError error s' kept' ended

theorem Triple.bind {f : α → Prog Op Res ε β} {B : Except ε β → S → Prop}
    (first : P.Triple i A p C) (next : ∀ value, P.Triple i (C (.ok value)) (f value) B)
    (failed : ∀ error s, P.inv s → C (.error error) s → B (.error error) s) :
    P.Triple i A (p.bind f) B := by
  intro s kept holds
  refine Safe.bind ((first s kept holds).mono fun outcome s' kept' ended => ?_) kept
  cases outcome with
  | ok value => exact next value s' kept' ended
  | error error => exact failed error s' kept' ended

theorem Triple.attempt {B : Except ε (Except ε α) → S → Prop}
    (first : P.Triple i A p fun outcome s => B (.ok outcome) s) : P.Triple i A p.attempt B :=
  fun s kept holds => (first s kept holds).attempt

theorem Triple.mono (triple : P.Triple i A p B) (stronger : ∀ s, P.inv s → A' s → A s)
    (weaker : ∀ outcome s, P.inv s → B outcome s → B' outcome s) : P.Triple i A' p B' :=
  fun s kept holds => (triple s kept (stronger s kept holds)).mono weaker

/-- `try: ... except` with a continuation for each way it ended. -/
theorem Triple.attempt_bind {next : Except ε α → Prog Op Res ε β} {B : Except ε β → S → Prop}
    (first : P.Triple i A p C) (rest : ∀ outcome, P.Triple i (C outcome) (next outcome) B) :
    P.Triple i A (p.attempt.bind next) B := by
  refine Triple.bind
    (C := fun result s => ∃ outcome, result = .ok outcome ∧ C outcome s)
    (Triple.attempt (first.mono (fun _ _ holds => holds)
      fun outcome _ _ ended => ⟨outcome, rfl, ended⟩))
    (fun outcome s kept ⟨_, same, ended⟩ => ?_) fun _ _ _ ⟨_, impossible, _⟩ => by cases impossible
  obtain rfl := Except.ok.inj same
  exact rest outcome s kept ended

theorem Triple.tryFinally {last : Prog Op Res ε Unit} (first : P.Triple i A p C)
    (second : ∀ outcome, P.Triple i (C outcome) last fun ended s =>
      match ended with
      | .ok _ => P.Stable i (B outcome) ∧ B outcome s
      | .error error => P.Stable i (B (.error error)) ∧ B (.error error) s) :
    P.Triple i A (p.tryFinally last) B := by
  refine Triple.cont first (fun value => ?_) fun error => ?_
  · refine Triple.cont (second (.ok value)) (fun _ => ?_) fun failure => ?_
    · exact fun s kept ⟨stable, holds⟩ => Triple.ret stable (fun _ _ h => h) s kept holds
    · exact fun s kept ⟨stable, holds⟩ => Triple.raise stable (fun _ _ h => h) s kept holds
  · refine Triple.cont (second (.error error)) (fun _ => ?_) fun failure => ?_
    · exact fun s kept ⟨stable, holds⟩ => Triple.raise stable (fun _ _ h => h) s kept holds
    · exact fun s kept ⟨stable, holds⟩ => Triple.raise stable (fun _ _ h => h) s kept holds

theorem Safe.frame {F : S → Prop} {allowed : Op → Prop} (sends : p.Sends allowed)
    (stable : P.Stable i F)
    (step : ∀ op s reply s', allowed op → P.inv s → F s → P.exec i op s reply s' → F s')
    (safe : P.Safe i p post s) (start : P.inv s) (holds : F s) :
    P.Safe i p (fun outcome s' => post outcome s' ∧ F s') s := by
  induction p generalizing s with
  | ret value =>
      exact fun s' moved kept => ⟨safe s' moved kept, stable s s' start holds moved kept⟩
  | raise error =>
      exact fun s' moved kept => ⟨safe s' moved kept, stable s s' start holds moved kept⟩
  | call op next ih =>
      intro s' moved kept
      obtain ⟨owed, rest⟩ := safe s' moved kept
      have holds' := stable s s' start holds moved kept
      refine ⟨owed, fun reply s'' exec => ?_⟩
      exact ih reply (sends.2 reply) (rest reply s'' exec) (P.step_inv kept owed exec)
        (step op s' reply s'' sends.1 kept holds' exec)

/-- What no request of `p` makes false may be carried along. -/
theorem Triple.frame {F : S → Prop} {allowed : Op → Prop} (sends : p.Sends allowed)
    (stable : P.Stable i F)
    (step : ∀ op s reply s', allowed op → P.inv s → F s → P.exec i op s reply s' → F s')
    (triple : P.Triple i A p B) :
    P.Triple i (fun s => A s ∧ F s) p fun outcome s => B outcome s ∧ F s :=
  fun s kept holds => (triple s kept holds.1).frame sends stable step kept holds.2

/-- A program all of whose requests keep `A` keeps `A`. -/
theorem Triple.of_sends {allowed : Op → Prop} (sends : p.Sends allowed) (stable : P.Stable i A)
    (owed : ∀ op s, allowed op → P.inv s → A s → P.pre i op s)
    (step : ∀ op s reply s', allowed op → P.inv s → A s → P.exec i op s reply s' → P.inv s' →
      A s') : P.Triple i A p fun _ s => A s := by
  induction p with
  | ret value => exact Triple.ret stable fun _ _ holds => holds
  | raise error => exact Triple.raise stable fun _ _ holds => holds
  | call op next ih =>
      refine Triple.call (fun _ => A) stable (fun s => owed op s sends.1)
        (fun s reply s' => step op s reply s' sends.1) fun reply => ?_
      exact ih reply (sends.2 reply)

/-- A participant that owes nothing may run anything. -/
theorem Triple.anything (free : ∀ op s, P.pre i op s) (p : Prog Op Res ε α) :
    P.Triple i (fun _ => True) p fun _ _ => True := by
  have stable : P.Stable i fun _ => True := fun _ _ _ _ _ _ => trivial
  induction p with
  | ret value => exact Triple.ret stable fun _ _ _ => trivial
  | raise error => exact Triple.raise stable fun _ _ _ => trivial
  | call op next ih =>
      apply Triple.call (fun _ _ => True) stable
      · exact fun s _ _ => free op s
      · exact fun _ _ _ _ _ _ _ => trivial
      · exact ih

/-- Every participant of the configuration meets its obligation. -/
structure AllSafe (P : Protocol Op Res S) (post : Pid → Except ε α → S → Prop)
    (c : Config Op Res ε α S) : Prop where
  inv : P.inv c.state
  safe : ∀ i, P.Safe i (c.code i) (post i) c.state

variable {posts : Pid → Except ε α → S → Prop} {c c' : Config Op Res ε α S}

theorem AllSafe.step (all : P.AllSafe posts c) (step : Step P.exec P.env c c') :
    P.AllSafe posts c' := by
  cases step with
  | @run i op next reply s' code exec =>
      have mine := all.safe i
      rw [code] at mine
      obtain ⟨owed, rest⟩ := mine c.state (P.rely_refl i c.state) all.inv
      refine ⟨P.step_inv all.inv owed exec, fun j => ?_⟩
      by_cases same : j = i
      · subst same
        simpa using rest reply s' exec
      · simpa [Function.update_of_ne same] using
          (all.safe j).rely (P.step_rely all.inv owed exec same)
  | env moved =>
      exact ⟨P.env_inv all.inv moved, fun j => (all.safe j).rely (P.env_rely all.inv moved)⟩

theorem AllSafe.steps (all : P.AllSafe posts c) (run : Steps P.exec P.env c c') :
    P.AllSafe posts c' := by
  induction run with
  | refl => exact all
  | tail _ step ih => exact ih.step step

/-- What a participant is about to send, it owes nothing for. -/
theorem AllSafe.owed (all : P.AllSafe posts c) {i : Pid} {op : Op}
    {next : Res op → Prog Op Res ε α} (code : c.code i = .call op next) : P.pre i op c.state := by
  have mine := all.safe i
  rw [code] at mine
  exact (mine c.state (P.rely_refl i c.state) all.inv).1

/-- A participant that has ended is in a state its postcondition allows. -/
theorem AllSafe.ended (all : P.AllSafe posts c) (i : Pid) (outcome : Except ε α)
    (last : c.outcome i = some outcome) : posts i outcome c.state := by
  have mine := all.safe i
  unfold Config.outcome at last
  cases code : c.code i with
  | ret value =>
      rw [code] at mine last
      cases last
      exact mine c.state (P.rely_refl i c.state) all.inv
  | raise error =>
      rw [code] at mine last
      cases last
      exact mine c.state (P.rely_refl i c.state) all.inv
  | call op next =>
      rw [code] at last
      cases last

/-- A participant that has not begun still has its whole program, and knows what it may rely on. -/
theorem AllSafe.unstarted (all : P.AllSafe posts c) (run : Steps P.exec P.env c c') {i : Pid}
    (still : c'.started i = false) : c'.code i = c.code i ∧ P.rely i c.state c'.state := by
  induction run with
  | refl => exact ⟨rfl, P.rely_refl i c.state⟩
  | tail before step ih =>
      have kept := all.steps before
      cases step with
      | @run j op next reply s' code exec =>
          by_cases same : i = j
          · subst same
            simp at still
          · obtain ⟨whole, moved⟩ := ih (by simpa [Function.update_of_ne same] using still)
            refine ⟨by simpa [Function.update_of_ne same] using whole, ?_⟩
            exact P.rely_trans moved (P.step_rely kept.inv (kept.owed code) exec same)
      | env event =>
          obtain ⟨whole, moved⟩ := ih still
          exact ⟨whole, P.rely_trans moved (P.env_rely kept.inv event)⟩

/-- Participant `j` may be given a new obligation at any point of a run, such as one that
speaks about the state it starts from. -/
theorem AllSafe.replace (all : P.AllSafe posts c) (j : Pid) (post : Except ε α → S → Prop)
    (safe : P.Safe j (c.code j) post c.state) :
    P.AllSafe (Function.update posts j post) c := by
  refine ⟨all.inv, fun i => ?_⟩
  by_cases same : i = j
  · subst same
    simpa using safe
  · simpa [Function.update_of_ne same] using all.safe i

/-! ### Protocols over one another -/

/-- `Q` takes only steps of `P` and promises no less. -/
structure Refines (Q P : Protocol Op Res S) : Prop where
  exec : ∀ {i op s reply s'}, Q.exec i op s reply s' → P.exec i op s reply s'
  inv : ∀ {s}, Q.inv s → P.inv s
  rely : ∀ {i s s'}, Q.rely i s s' → P.rely i s s'

variable {Q : Protocol Op Res S} {allowed : Op → Prop}

theorem Safe.refine (refines : Refines Q P) (sends : p.Sends allowed)
    (owed : ∀ op s, allowed op → Q.inv s → P.pre i op s → Q.pre i op s)
    (safe : P.Safe i p post s) : Q.Safe i p post s := by
  induction p generalizing s with
  | ret value => exact fun s' moved kept => safe s' (refines.rely moved) (refines.inv kept)
  | raise error => exact fun s' moved kept => safe s' (refines.rely moved) (refines.inv kept)
  | call op next ih =>
      intro s' moved kept
      obtain ⟨pre, rest⟩ := safe s' (refines.rely moved) (refines.inv kept)
      exact ⟨owed op s' sends.1 kept pre, fun reply s'' step =>
        ih reply (sends.2 reply) (rest reply s'' (refines.exec step))⟩

theorem Triple.refine (refines : Refines Q P) (sends : p.Sends allowed)
    (owed : ∀ op s, allowed op → Q.inv s → P.pre i op s → Q.pre i op s)
    (triple : P.Triple i A p B) : Q.Triple i A p B :=
  fun s kept holds => (triple s (refines.inv kept) holds).refine refines sends owed

/-- `Q` takes every step of `P` that meets its obligation, and knows no more. -/
structure Covers (Q P : Protocol Op Res S) : Prop where
  exec : ∀ {i op s reply s'}, P.inv s → P.pre i op s → P.exec i op s reply s' →
    Q.exec i op s reply s'
  inv : ∀ {s}, P.inv s → Q.inv s
  rely : ∀ {i s s'}, P.rely i s s' → Q.rely i s s'

/-- Obligations that are met once need not be met again for a further fact about the end. -/
theorem Safe.and_covered (covers : Covers Q P) (safe : P.Safe i p post s)
    (more : Q.Safe i p post' s) :
    P.Safe i p (fun outcome s' => post outcome s' ∧ post' outcome s') s := by
  induction p generalizing s with
  | ret value =>
      exact fun s' moved kept =>
        ⟨safe s' moved kept, more s' (covers.rely moved) (covers.inv kept)⟩
  | raise error =>
      exact fun s' moved kept =>
        ⟨safe s' moved kept, more s' (covers.rely moved) (covers.inv kept)⟩
  | call op next ih =>
      intro s' moved kept
      obtain ⟨owed, rest⟩ := safe s' moved kept
      obtain ⟨-, others⟩ := more s' (covers.rely moved) (covers.inv kept)
      refine ⟨owed, fun reply s'' step => ?_⟩
      exact ih reply (rest reply s'' step) (others reply s'' (covers.exec kept owed step))

theorem AllSafe.and_covered {posts posts' : Pid → Except ε α → S → Prop}
    {c : Config Op Res ε α S} (covers : Covers Q P) (all : P.AllSafe posts c)
    (more : ∀ i, Q.Safe i (c.code i) (posts' i) c.state) :
    P.AllSafe (fun i outcome s => posts i outcome s ∧ posts' i outcome s) c :=
  ⟨all.inv, fun i => (all.safe i).and_covered covers (more i)⟩

/-- What is known of the outcome from the kind of the replies alone. -/
theorem Safe.outcome {answers : (op : Op) → Res op → Prop} {ends : Except ε α → Prop}
    (sound : ∀ op s reply s', P.exec i op s reply s' → answers op reply)
    (ended : wp (fun op (_ : Unit) reply _ => answers op reply) p (fun outcome _ => ends outcome) ())
    (safe : P.Safe i p post s) :
    P.Safe i p (fun outcome s' => post outcome s' ∧ ends outcome) s := by
  induction p generalizing s with
  | ret value => exact fun s' moved kept => ⟨safe s' moved kept, ended⟩
  | raise error => exact fun s' moved kept => ⟨safe s' moved kept, ended⟩
  | call op next ih =>
      intro s' moved kept
      obtain ⟨owed, rest⟩ := safe s' moved kept
      refine ⟨owed, fun reply s'' step => ?_⟩
      exact ih reply (ended reply () (sound op s' reply s'' step)) (rest reply s'' step)

theorem Triple.outcome {answers : (op : Op) → Res op → Prop} {ends : Except ε α → Prop}
    (sound : ∀ op s reply s', P.exec i op s reply s' → answers op reply)
    (ended : wp (fun op (_ : Unit) reply _ => answers op reply) p (fun outcome _ => ends outcome) ())
    (triple : P.Triple i A p B) :
    P.Triple i A p fun outcome s => B outcome s ∧ ends outcome :=
  fun s kept holds => (triple s kept holds).outcome sound ended

end

/-- The same protocol with a further invariant, which its steps keep. -/
def strengthen {Op : Type} {Res : Op → Type} {S : Type} (P : Protocol Op Res S) (J : S → Prop)
    (step : ∀ {i op s reply s'}, P.inv s → J s → P.pre i op s → P.exec i op s reply s' → J s')
    (event : ∀ {s s'}, P.inv s → J s → P.env s s' → J s') : Protocol Op Res S :=
  { P with
    inv := fun s => P.inv s ∧ J s
    step_inv := fun kept owed exec => ⟨P.step_inv kept.1 owed exec, step kept.1 kept.2 owed exec⟩
    step_rely := fun kept owed exec other => P.step_rely kept.1 owed exec other
    env_inv := fun kept moved => ⟨P.env_inv kept.1 moved, event kept.1 kept.2 moved⟩
    env_rely := fun kept moved => P.env_rely kept.1 moved }

/-- What is safe stays safe under a further invariant. -/
theorem Safe.strengthen {Op : Type} {Res : Op → Type} {ε α S : Type} {P : Protocol Op Res S}
    {J : S → Prop}
    (step : ∀ {i op s reply s'}, P.inv s → J s → P.pre i op s → P.exec i op s reply s' → J s')
    (event : ∀ {s s'}, P.inv s → J s → P.env s s' → J s') {i : Pid} {p : Prog Op Res ε α}
    {post : Except ε α → S → Prop} {s : S} (safe : P.Safe i p post s) :
    (P.strengthen J step event).Safe i p post s := by
  induction p generalizing s with
  | ret value => exact fun s' moved kept => safe s' moved kept.1
  | raise error => exact fun s' moved kept => safe s' moved kept.1
  | call op next ih =>
      intro s' moved kept
      obtain ⟨owed, rest⟩ := safe s' moved kept.1
      exact ⟨owed, fun reply s'' exec => ih reply (rest reply s'' exec)⟩

theorem AllSafe.strengthen {Op : Type} {Res : Op → Type} {ε α S : Type} {P : Protocol Op Res S}
    {J : S → Prop}
    (step : ∀ {i op s reply s'}, P.inv s → J s → P.pre i op s → P.exec i op s reply s' → J s')
    (event : ∀ {s s'}, P.inv s → J s → P.env s s' → J s') {posts : Pid → Except ε α → S → Prop}
    {c : Config Op Res ε α S} (all : P.AllSafe posts c) (holds : J c.state) :
    (P.strengthen J step event).AllSafe posts c :=
  ⟨⟨all.inv, holds⟩, fun i => (all.safe i).strengthen step event⟩

/-- A further invariant of every run. -/
theorem AllSafe.invariant {Op : Type} {Res : Op → Type} {ε α S : Type} {P : Protocol Op Res S}
    {J : S → Prop}
    (step : ∀ {i op s reply s'}, P.inv s → J s → P.pre i op s → P.exec i op s reply s' → J s')
    (event : ∀ {s s'}, P.inv s → J s → P.env s s' → J s') {posts : Pid → Except ε α → S → Prop}
    {c c' : Config Op Res ε α S} (all : P.AllSafe posts c) (holds : J c.state)
    (run : Steps P.exec P.env c c') : J c'.state :=
  ((all.strengthen step event holds).steps run).inv.2

end Protocol

end ContentPlatform.Program
