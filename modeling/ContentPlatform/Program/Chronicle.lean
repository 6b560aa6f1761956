import ContentPlatform.Program.Embedding

/-!
# Runs written down

A run of many programs as the list of their interactions, with who sent them and what was answered.
What one participant has exchanged depends on nobody else, so that its part of the list can be
described by looking at its program alone; what the shared state has counted is a fold of the whole.
-/

set_option autoImplicit false

namespace ContentPlatform.Program

open Prog Protocol

abbrev Interaction {Op : Type} (Res : Op → Type) : Type := (op : Op) × Res op

section
variable {Op : Type} {Res : Op → Type} {ε α S T : Type}

def part (i : Pid) (chronicle : List (Pid × Interaction Res)) : List (Interaction Res) :=
  chronicle.filterMap fun entry => if entry.1 = i then some entry.2 else none

theorem part_snoc_self (i : Pid) (chronicle : List (Pid × Interaction Res))
    (exchange : Interaction Res) :
    part i (chronicle ++ [(i, exchange)]) = part i chronicle ++ [exchange] := by
  simp [part, List.filterMap_append]

theorem part_snoc_ne {i j : Pid} (other : i ≠ j) (chronicle : List (Pid × Interaction Res))
    (exchange : Interaction Res) : part i (chronicle ++ [(j, exchange)]) = part i chronicle := by
  simp [part, List.filterMap_append, Ne.symm other]

/-! ## What everybody writes down alone -/

/-- Each interaction was allowed after those before it. -/
def Disciplined (allowed : List (Interaction Res) → Op → Prop)
    (exchanges : List (Interaction Res)) : Prop :=
  ∀ before op reply after, exchanges = before ++ ⟨op, reply⟩ :: after → allowed before op

theorem Disciplined.nil {allowed : List (Interaction Res) → Op → Prop} :
    Disciplined allowed [] := by
  intro before op reply after whole
  cases before <;> cases whole

theorem Disciplined.snoc {allowed : List (Interaction Res) → Op → Prop}
    {exchanges : List (Interaction Res)} {op : Op} {reply : Res op}
    (orderly : Disciplined allowed exchanges) (now : allowed exchanges op) :
    Disciplined allowed (exchanges ++ [⟨op, reply⟩]) := by
  intro before op' reply' after whole
  rcases List.eq_nil_or_concat after with rfl | ⟨rest, last, rfl⟩
  · obtain ⟨rfl, same⟩ := List.append_inj' whole rfl
    cases same
    exact now
  · rw [List.concat_eq_append, ← List.cons_append, ← List.append_assoc] at whole
    obtain ⟨same, -⟩ := List.append_inj' whole rfl
    exact orderly before op' reply' rest same

/-- The state is what each participant has exchanged. -/
def diaries (allowed : Pid → List (Interaction Res) → Op → Prop)
    (answers : (op : Op) → Res op → Prop) : Protocol Op Res (Pid → List (Interaction Res)) where
  exec i op d reply d' := answers op reply ∧ d' = Function.update d i (d i ++ [⟨op, reply⟩])
  env _ _ := False
  inv d := ∀ i, Disciplined (allowed i) (d i)
  rely i d d' := d' i = d i
  pre i op d := allowed i (d i) op
  rely_refl _ _ := rfl
  rely_trans first second := second.trans first
  step_inv := by
    rintro i op d reply _ orderly now ⟨-, rfl⟩ j
    by_cases same : j = i
    · subst same
      rw [Function.update_self]
      exact (orderly j).snoc now
    · rw [Function.update_of_ne same]
      exact orderly j
  step_rely := by
    rintro i j op d reply _ - - ⟨-, rfl⟩ other
    exact Function.update_of_ne other _ _
  env_inv _ impossible := impossible.elim
  env_rely _ impossible := impossible.elim

/-! ## Together -/

/-- The system, with its chronicle beside its state. -/
def chronicling (exec : Pid → (op : Op) → S → Res op → S → Prop) (i : Pid) (op : Op)
    (s : S × List (Pid × Interaction Res)) (reply : Res op)
    (s' : S × List (Pid × Interaction Res)) :
    Prop :=
  exec i op s.1 reply s'.1 ∧ s'.2 = s.2 ++ [(i, ⟨op, reply⟩)]

def unchronicled (env : S → S → Prop) (s s' : S × List (Pid × Interaction Res)) : Prop :=
  env s.1 s'.1 ∧ s'.2 = s.2

/-- A run of `c` that comes to `c'`, with everything that was exchanged. -/
def Chronicle (exec : Pid → (op : Op) → S → Res op → S → Prop) (env : S → S → Prop)
    (c : Config Op Res ε α S) (chronicle : List (Pid × Interaction Res))
    (c' : Config Op Res ε α S) :
    Prop :=
  Steps (chronicling exec) (unchronicled env) ⟨(c.state, []), c.code, c.started⟩
    ⟨(c'.state, chronicle), c'.code, c'.started⟩

variable {exec : Pid → (op : Op) → S → Res op → S → Prop} {env : S → S → Prop}
  {c c' : Config Op Res ε α S} {chronicle : List (Pid × Interaction Res)}

/-- A participant may run to its end before anybody else does anything. -/
theorem Runs.steps {i : Pid} {p : Prog Op Res ε α} {s s' : S} {outcome : Except ε α}
    (run : Runs (exec i) p s outcome s') (same : c.state = s) (code : c.code i = p) :
    ∃ c', Steps exec env c c' ∧ c'.state = s' ∧ c'.outcome i = some outcome ∧
      ∀ j, j ≠ i → c'.code j = c.code j := by
  induction run generalizing c with
  | ret value s => exact ⟨c, .refl, same, by rw [Config.outcome, code], fun _ _ => rfl⟩
  | raise error s => exact ⟨c, .refl, same, by rw [Config.outcome, code], fun _ _ => rfl⟩
  | @call op next s₀ s₁ s₂ reply outcome step _ ih =>
      have first : Step exec env c
          ⟨s₁, Function.update c.code i (next reply), Function.update c.started i true⟩ :=
        .run i code (same ▸ step)
      obtain ⟨c', rest, last, ended, others⟩ := ih (c := ⟨s₁, Function.update c.code i (next reply),
        Function.update c.started i true⟩) rfl (Function.update_self ..)
      refine ⟨c', first.steps.trans rest, last, ended, fun j other => (others j other).trans ?_⟩
      exact Function.update_of_ne other _ _

theorem Steps.chronicled (run : Steps exec env c c') :
    ∃ chronicle, Chronicle exec env c chronicle c' := by
  induction run with
  | refl => exact ⟨[], .refl⟩
  | tail _ step ih =>
      obtain ⟨chronicle, before⟩ := ih
      cases step with
      | @run i op next reply s' code done =>
          exact ⟨chronicle ++ [(i, ⟨op, reply⟩)], before.tail (.run i code ⟨done, rfl⟩)⟩
      | env moved => exact ⟨chronicle, before.tail (.env ⟨moved, rfl⟩)⟩

/-- A run, without its chronicle. -/
theorem Chronicle.steps (run : Chronicle exec env c chronicle c') : Steps exec env c c' :=
  Steps.map (f := fun s : S × List (Pid × Interaction Res) => s.1) (fun _ _ _ _ _ done => done.1)
    (fun _ _ moved => Or.inr moved.1) run

/-- A run of the chronicle, where each participant is seen through what it has exchanged. -/
theorem Chronicle.seen {exec' : Pid → (op : Op) → (Pid → T) → Res op → (Pid → T) → Prop}
    {env' : (Pid → T) → (Pid → T) → Prop} (view : List (Interaction Res) → T)
    (step : ∀ i op s reply s' (d : Pid → List (Interaction Res)), exec i op s reply s' →
      exec' i op (fun j => view (d j)) reply
        (Function.update (fun j => view (d j)) i (view (d i ++ [⟨op, reply⟩]))))
    (run : Chronicle exec env c chronicle c') :
    Steps exec' env' ⟨fun _ => view [], c.code, c.started⟩
      ⟨fun i => view (part i chronicle), c'.code, c'.started⟩ := by
  refine Steps.map (f := fun s : S × List (Pid × Interaction Res) => fun i => view (part i s.2))
    ?_ ?_ run
  · rintro i op s reply s' ⟨done, written⟩
    have parts : (fun j => view (part j s'.2)) =
        Function.update (fun j => view (part j s.2)) i (view (part i s.2 ++ [⟨op, reply⟩])) := by
      funext j
      by_cases same : j = i
      · subst same
        rw [Function.update_self, written, part_snoc_self]
      · rw [Function.update_of_ne same, written, part_snoc_ne same]
    rw [parts]
    exact step i op s.1 reply s'.1 (fun j => part j s.2) done
  · rintro s s' ⟨-, written⟩
    exact Or.inl (by rw [written])

/-- What each participant may exchange, and how it may end, is seen from its own program. -/
theorem Chronicle.diaries {allowed : Pid → List (Interaction Res) → Op → Prop}
    {answers : (op : Op) → Res op → Prop}
    (sound : ∀ i op s reply s', exec i op s reply s' → answers op reply)
    (posts : Pid → Except ε α → List (Interaction Res) → Prop)
    (alone : ∀ i, (diaries allowed answers).Safe i (c.code i) (fun outcome d => posts i outcome (d i))
      fun _ => [])
    (run : Chronicle exec env c chronicle c') :
    (∀ i, Disciplined (allowed i) (part i chronicle)) ∧
      ∀ i outcome, c'.outcome i = some outcome → posts i outcome (part i chronicle) := by
  have all : (Program.diaries allowed answers).AllSafe (fun i outcome d => posts i outcome (d i))
      ⟨fun _ => [], c.code, c.started⟩ := ⟨fun _ => Disciplined.nil, alone⟩
  have steps : Steps (Program.diaries allowed answers).exec (Program.diaries allowed answers).env
      ⟨fun _ => [], c.code, c.started⟩ ⟨fun i => part i chronicle, c'.code, c'.started⟩ :=
    run.seen id fun i op s reply s' d done => ⟨sound i op s reply s' done, rfl⟩
  have reached := all.steps steps
  exact ⟨reached.inv, fun i outcome ended => reached.ended i outcome ended⟩

/-- What every interaction keeps of the state and the chronicle, and every event. -/
theorem Chronicle.invariant {I : S → List (Pid × Interaction Res) → Prop} (start : I c.state [])
    (step : ∀ i op s reply s' chronicle, I s chronicle → exec i op s reply s' →
      I s' (chronicle ++ [(i, ⟨op, reply⟩)]))
    (event : ∀ s s' chronicle, I s chronicle → env s s' → I s' chronicle)
    (run : Chronicle exec env c chronicle c') : I c'.state chronicle := by
  have all : ∀ d : Config Op Res ε α (S × List (Pid × Interaction Res)),
      Steps (chronicling exec) (unchronicled env) ⟨(c.state, []), c.code, c.started⟩ d →
      I d.state.1 d.state.2 := by
    intro d run
    induction run with
    | refl => exact start
    | tail _ next ih =>
        cases next with
        | run i code done =>
            obtain ⟨done, written⟩ := done
            rw [written]
            exact step _ _ _ _ _ _ ih done
        | env moved =>
            obtain ⟨moved, written⟩ := moved
            rw [written]
            exact event _ _ _ ih moved
  exact all _ run

/-- The same, where the interactions meet what they owe. -/
theorem Chronicle.guided {P : Protocol Op Res S} {posts : Pid → Except ε α → S → Prop}
    {I : S → List (Pid × Interaction Res) → Prop} (all : P.AllSafe posts c) (start : I c.state [])
    (step : ∀ i op s reply s' chronicle, P.inv s → I s chronicle → P.pre i op s →
      P.exec i op s reply s' → I s' (chronicle ++ [(i, ⟨op, reply⟩)]))
    (event : ∀ s s' chronicle, I s chronicle → P.env s s' → I s' chronicle)
    (run : Chronicle P.exec P.env c chronicle c') : I c'.state chronicle := by
  have each : ∀ d : Config Op Res ε α (S × List (Pid × Interaction Res)),
      Steps (chronicling P.exec) (unchronicled P.env) ⟨(c.state, []), c.code, c.started⟩ d →
      P.AllSafe posts ⟨d.state.1, d.code, d.started⟩ ∧ I d.state.1 d.state.2 := by
    intro d run
    induction run with
    | refl => exact ⟨all, start⟩
    | tail _ next ih =>
        obtain ⟨safe, before⟩ := ih
        cases next with
        | @run i op next reply s' code done =>
            obtain ⟨done, written⟩ := done
            refine ⟨safe.step (.run i code done), ?_⟩
            rw [written]
            exact step _ _ _ _ _ _ safe.inv before (safe.owed code) done
        | env moved =>
            obtain ⟨moved, written⟩ := moved
            refine ⟨safe.step (.env moved), ?_⟩
            rw [written]
            exact event _ _ _ before moved
  exact (each _ run).2

/-! ## Programs that come to a value -/

section
variable {β : Type} {allowed : Pid → List (Interaction Res) → Op → Prop}
  {answers : (op : Op) → Res op → Prop} {i : Pid} {before : List (Interaction Res)}
  {p : Prog Op Res ε α} {post post' : α → List (Interaction Res) → Prop}

/-- After these exchanges participant `i` may run `p`, and comes to a value and further exchanges
that satisfy `post`. -/
def Writes (allowed : Pid → List (Interaction Res) → Op → Prop)
    (answers : (op : Op) → Res op → Prop)
    (i : Pid) (before : List (Interaction Res)) (p : Prog Op Res ε α)
    (post : α → List (Interaction Res) → Prop) : Prop :=
  (diaries allowed answers).Triple i (fun d => d i = before) p fun outcome d =>
    ∃ value added, outcome = .ok value ∧ d i = before ++ added ∧ post value added

theorem diaries_stable (Q : List (Interaction Res) → Prop) :
    (diaries allowed answers).Stable i fun d => Q (d i) := by
  intro d d' _ holds moved _
  rw [show d' i = d i from moved]
  exact holds

namespace Writes

theorem ret {value : α} (holds : post value []) :
    Writes allowed answers i before (.ret value : Prog Op Res ε α) post :=
  Triple.ret (diaries_stable (· = before)) fun _ _ same =>
    ⟨value, [], rfl, by rw [same, List.append_nil], holds⟩

theorem mono (writes : Writes allowed answers i before p post)
    (weaken : ∀ value added, post value added → post' value added) :
    Writes allowed answers i before p post' :=
  Triple.mono writes (fun _ _ same => same) fun _ _ _ ⟨value, added, ended, same, holds⟩ =>
    ⟨value, added, ended, same, weaken value added holds⟩

theorem call {op : Op} {next : Res op → Prog Op Res ε α} (now : allowed i before op)
    (rest : ∀ reply, answers op reply → Writes allowed answers i (before ++ [⟨op, reply⟩])
      (next reply) fun value added => post value (⟨op, reply⟩ :: added)) :
    Writes allowed answers i before (.call op next) post := by
  apply Triple.call (fun reply d => answers op reply ∧ d i = before ++ [⟨op, reply⟩])
    (diaries_stable (· = before))
  · intro d _ same
    show allowed i (d i) op
    rw [same]
    exact now
  · rintro d reply _ _ same ⟨answered, rfl⟩ _
    exact ⟨answered, by rw [Function.update_self, same]⟩
  · rintro reply d kept ⟨answered, same⟩
    refine (rest reply answered d kept same).mono fun outcome d' _ ended => ?_
    obtain ⟨value, added, ended, same, holds⟩ := ended
    exact ⟨value, ⟨op, reply⟩ :: added, ended, by rw [same, List.append_assoc]; rfl, holds⟩

theorem bind {k : α → Prog Op Res ε β} {after : β → List (Interaction Res) → Prop}
    (first : Writes allowed answers i before p post)
    (rest : ∀ value added, post value added → Writes allowed answers i (before ++ added) (k value)
      fun value' added' => after value' (added ++ added')) :
    Writes allowed answers i before (p.bind k) after := by
  refine Triple.bind first (fun value d kept ended => ?_) fun error d _ ended => ?_
  · obtain ⟨value', added, same, written, holds⟩ := ended
    obtain rfl := Except.ok.inj same
    refine (rest value added holds d kept written).mono fun outcome d' _ ended' => ?_
    obtain ⟨value', added', ended', written', holds'⟩ := ended'
    exact ⟨value', added ++ added', ended', by rw [written', List.append_assoc], holds'⟩
  · obtain ⟨_, _, impossible, -⟩ := ended
    cases impossible

/-- An embedded program may send all that it sends. -/
theorem embed {Op' : Type} {Res' : Op' → Type} {ε' : Type} {inject : Op → Op'}
    {read : ∀ op, Res' (inject op) → Res op}
    {allowed : Pid → List (Interaction Res') → Op' → Prop} {answers : (op : Op') → Res' op → Prop}
    {before : List (Interaction Res')} (q : Prog Op Res ε α)
    (free : ∀ added, (∀ exchange ∈ added, ∃ op, exchange.1 = inject op) →
      ∀ op, allowed i (before ++ added) (inject op)) :
    Writes allowed answers i before (q.embed inject read : Prog Op' Res' ε' (Except ε α))
      fun _ added => ∀ exchange ∈ added, ∃ op, exchange.1 = inject op := by
  induction q generalizing before with
  | ret value => exact ret fun _ impossible => nomatch impossible
  | raise error => exact ret fun _ impossible => nomatch impossible
  | call op next ih =>
      have now := free [] (fun _ impossible => nomatch impossible) op
      rw [List.append_nil] at now
      refine call now fun reply _ => (ih (read op reply) fun added inner op' => ?_).mono
        fun _ added inner => ?_
      · rw [List.append_assoc]
        refine free _ (fun exchange member => ?_) op'
        rcases List.mem_append.mp member with first | later
        · exact ⟨op, by rw [List.mem_singleton.mp first]⟩
        · exact inner exchange later
      · intro exchange member
        rcases List.mem_cons.mp member with rfl | later
        · exact ⟨op, rfl⟩
        · exact inner exchange later

end Writes

/-- What each participant writes, its program tells alone. -/
theorem Chronicle.writes {S : Type} {exec : Pid → (op : Op) → S → Res op → S → Prop}
    {env : S → S → Prop} {c c' : Config Op Res ε α S} {chronicle : List (Pid × Interaction Res)}
    {posts : Pid → α → List (Interaction Res) → Prop}
    (sound : ∀ i op s reply s', exec i op s reply s' → answers op reply)
    (alone : ∀ i, Writes allowed answers i [] (c.code i) (posts i))
    (run : Chronicle exec env c chronicle c') :
    (∀ i, Disciplined (allowed i) (part i chronicle)) ∧
      ∀ i outcome, c'.outcome i = some outcome →
        ∃ value, outcome = .ok value ∧ posts i value (part i chronicle) := by
  refine Chronicle.diaries sound (fun i outcome exchanges =>
    ∃ value, outcome = .ok value ∧ posts i value exchanges) (fun i => ?_) run
  refine (alone i (fun _ => []) (fun _ => Disciplined.nil) rfl).mono fun outcome d _ ended => ?_
  obtain ⟨value, added, ended, written, holds⟩ := ended
  rw [List.nil_append] at written
  exact ⟨value, ended, by rw [written]; exact holds⟩

end

end

end ContentPlatform.Program
