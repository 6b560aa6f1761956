import ContentPlatform.Program.Chronicle
import ContentPlatform.Program.Waiting

/-!
# A chronicle read back

What one participant has exchanged takes its program from where it began to where it is.  So it is a
run of that program by itself, over any states that the exchanges are steps of.
-/

set_option autoImplicit false

namespace ContentPlatform.Program

open Prog

section
variable {Op Op' : Type} {Res : Op → Type} {Res' : Op' → Type} {ε ε' α β S T : Type}

/-- After these exchanges this is left of the program. -/
inductive Prog.Replays : Prog Op Res ε α → List (Interaction Res) → Prog Op Res ε α → Prop
  | nil (p : Prog Op Res ε α) : Replays p [] p
  | cons {op : Op} {next : Res op → Prog Op Res ε α} {reply : Res op}
      {rest : List (Interaction Res)} {q : Prog Op Res ε α} :
      Replays (next reply) rest q → Replays (.call op next) (⟨op, reply⟩ :: rest) q

namespace Prog.Replays

variable {p q : Prog Op Res ε α} {exchanges : List (Interaction Res)}

theorem snoc {op : Op} {next : Res op → Prog Op Res ε α} (replays : p.Replays exchanges q)
    (left : q = .call op next) (reply : Res op) :
    p.Replays (exchanges ++ [⟨op, reply⟩]) (next reply) := by
  induction replays with
  | nil p =>
      subst left
      exact .cons (.nil _)
  | cons _ ih => exact .cons (ih left)

theorem remains (replays : p.Replays exchanges q) : Relation.ReflTransGen Remains p q := by
  induction replays with
  | nil p => exact .refl
  | cons _ ih => exact .head ⟨_, _, _, rfl, rfl⟩ ih

/-- Whoever has exchanged something has begun. -/
theorem eq_nil (replays : p.Replays exchanges p) : exchanges = [] := by
  generalize whole : p = q at replays
  cases replays with
  | nil _ => rfl
  | cons rest =>
      have begun : Relation.TransGen Remains _ _ :=
        Relation.TransGen.head' (b := _) ⟨_, _, _, rfl, rfl⟩ rest.remains
      rw [← whole] at begun
      exact absurd begun (not_remains_self _)

/-- The exchanges of a program that has ended are a run of it. -/
theorem runs {outcome : Except ε α} {exec : (op : Op) → S → Res op → S → Prop}
    (replays : p.Replays exchanges (.ofExcept outcome)) (step : S → Interaction Res → S)
    (may : ∀ exchange ∈ exchanges, ∀ s, exec exchange.1 s exchange.2 (step s exchange)) (s : S) :
    Runs exec p s outcome (exchanges.foldl step s) := by
  generalize ended : (.ofExcept outcome : Prog Op Res ε α) = q at replays
  induction replays generalizing s with
  | nil p =>
      subst ended
      cases outcome with
      | ok value => exact .ret value s
      | error error => exact .raise error s
  | @cons op next reply rest q _ ih =>
      have now := may ⟨op, reply⟩ (List.mem_cons_self ..) s
      have rest : ∀ exchange ∈ _, ∀ s, exec exchange.1 s exchange.2 (step s exchange) :=
        fun exchange later => may exchange (List.mem_cons_of_mem _ later)
      exact .call now (ih rest _ ended)

end Prog.Replays

/-! ## Chronicles -/

variable {exec : Pid → (op : Op) → S → Res op → S → Prop} {env : S → S → Prop}
  {exec' : Pid → (op : Op') → T → Res' op → T → Prop} {env' : T → T → Prop}

theorem Chronicle.replays {c c' : Config Op Res ε α S} {chronicle : List (Pid × Interaction Res)}
    (run : Chronicle exec env c chronicle c') (i : Pid) :
    (c.code i).Replays (part i chronicle) (c'.code i) := by
  have all : ∀ d : Config Op Res ε α (S × List (Pid × Interaction Res)),
      Steps (chronicling exec) (unchronicled env) ⟨(c.state, []), c.code, c.started⟩ d →
      (c.code i).Replays (part i d.state.2) (d.code i) := by
    intro d run
    induction run with
    | refl => exact .nil _
    | tail _ step ih =>
        cases step with
        | @run j op next reply s' code done =>
            by_cases same : j = i
            · subst same
              simpa only [done.2, part_snoc_self, Function.update_self] using ih.snoc code reply
            · simpa only [done.2, part_snoc_ne (Ne.symm same),
                Function.update_of_ne (Ne.symm same)] using ih
        | env moved => simpa only [moved.2] using ih
  exact all _ run

/-- The exchanges that are the embedded programs'. -/
def selected (select : Interaction Res' → Option (Interaction Res))
    (chronicle : List (Pid × Interaction Res')) : List (Pid × Interaction Res) :=
  chronicle.filterMap fun entry => (select entry.2).map fun exchange => (entry.1, exchange)

theorem part_selected (select : Interaction Res' → Option (Interaction Res)) (i : Pid)
    (chronicle : List (Pid × Interaction Res')) :
    part i (selected select chronicle) = (part i chronicle).filterMap select := by
  induction chronicle with
  | nil => rfl
  | cons entry rest ih =>
      obtain ⟨j, exchange⟩ := entry
      unfold part selected at *
      by_cases mine : j = i <;> cases kept : select exchange <;> simp [mine, kept, ih]

/-- What is embedded in a run, with everything it exchanged, is a run. -/
theorem Chronicle.carried (inject : Op → Op') (read : ∀ op, Res' (inject op) → Res op) {f : T → S}
    {R : Pid → Except ε' β → Prog Op Res ε α → Prop}
    {select : Interaction Res' → Option (Interaction Res)}
    (inner : ∀ i op t reply t', exec' i (inject op) t reply t' →
      exec i op (f t) (read op reply) (f t'))
    (outer : ∀ i op' t reply t', Outer inject op' → exec' i op' t reply t' → f t' = f t)
    (event : ∀ t t', env' t t' → env (f t) (f t'))
    (kept : ∀ op reply, select ⟨inject op, reply⟩ = some ⟨op, read op reply⟩)
    (dropped : ∀ op' reply, Outer inject op' → select ⟨op', reply⟩ = none)
    {c c' : Config Op' Res' ε' β T} {chronicle : List (Pid × Interaction Res')}
    {d : Config Op Res ε α S} (same : d.state = f c.state)
    (carries : ∀ i, Carries inject read (R i) (c.code i) (d.code i))
    (run : Chronicle exec' env' c chronicle c') :
    ∃ d', Chronicle exec env d (selected select chronicle) d' ∧ d'.state = f c'.state ∧
      ∀ i, Carries inject read (R i) (c'.code i) (d'.code i) := by
  obtain ⟨d', steps, state, behind⟩ : ∃ d', Steps (chronicling exec) (unchronicled env)
      ⟨(d.state, []), d.code, d.started⟩ d' ∧ d'.state = (f c'.state, selected select chronicle) ∧
      ∀ i, Carries inject read (R i) (c'.code i) (d'.code i) := by
    have begun : (d.state, ([] : List (Pid × Interaction Res))) =
        (f c.state, selected select []) := by rw [same]; rfl
    refine Steps.carried (c := ⟨(c.state, []), c.code, c.started⟩)
      (d := ⟨(d.state, []), d.code, d.started⟩)
      (f := fun t : T × List (Pid × Interaction Res') => (f t.1, selected select t.2)) ?_ ?_ ?_
      begun carries run
    · rintro i op t reply t' ⟨done, written⟩
      refine ⟨inner i op _ _ _ done, ?_⟩
      simp [selected, written, List.filterMap_append, kept]
    · rintro i op' t reply t' other ⟨done, written⟩
      simp [selected, written, List.filterMap_append, dropped op' reply other,
        outer i op' _ _ _ other done]
    · rintro t t' ⟨moved, written⟩
      exact ⟨event _ _ moved, by rw [written]⟩
  refine ⟨⟨d'.state.1, d'.code, d'.started⟩, ?_, by rw [state], behind⟩
  obtain ⟨⟨s, written⟩, code, started⟩ := d'
  obtain ⟨rfl, rfl⟩ := Prod.mk.inj state
  exact steps

end

end ContentPlatform.Program
