import ContentPlatform.Program.Concurrent

/-!
# One participant among the others

What the values of one program are, when everybody keeps to a protocol: each of its interactions
comes after whatever the others did, and has met its obligation.
-/

set_option autoImplicit false

namespace ContentPlatform.Program

open Prog

section
variable {Op : Type} {Res : Op → Type} {ε α S : Type}
  {exec : Pid → (op : Op) → S → Res op → S → Prop} {env : S → S → Prop}
  {c c' : Config Op Res ε α S}

/-- What no interaction of any participant makes false. -/
theorem Steps.keeps {I : S → Prop} {allowed : Pid → Op → Prop}
    (all : ∀ i, (c.code i).Sends (allowed i)) (start : I c.state)
    (step : ∀ i op s reply s', allowed i op → I s → exec i op s reply s' → I s')
    (event : ∀ s s', I s → env s s' → I s') (run : Steps exec env c c') : I c'.state := by
  induction run with
  | refl => exact start
  | tail before next ih =>
      cases next with
      | run i code done =>
          have mine := before.sends (all i)
          rw [code] at mine
          exact step i _ _ _ _ mine.1 ih done
      | env moved => exact event _ _ ih moved

end

namespace Protocol

section
variable {Op : Type} {Res : Op → Type} {ε α S : Type} (P : Protocol Op Res S)

/-- An interaction of participant `i`, after whatever the others did. -/
def Among (i : Pid) (op : Op) (s : S) (reply : Res op) (s' : S) : Prop :=
  ∃ s₁, P.rely i s s₁ ∧ P.inv s₁ ∧ P.pre i op s₁ ∧ P.exec i op s₁ reply s'

/-- The protocol with the obligations of its interactions met. -/
def met : Protocol Op Res S where
  exec i op s reply s' := P.pre i op s ∧ P.exec i op s reply s'
  env := P.env
  inv := P.inv
  rely := P.rely
  pre _ _ _ := True
  rely_refl := P.rely_refl
  rely_trans := P.rely_trans
  step_inv kept _ step := P.step_inv kept step.1 step.2
  step_rely kept _ step other := P.step_rely kept step.1 step.2 other
  env_inv := P.env_inv
  env_rely := P.env_rely

theorem met_covers : Covers P.met P :=
  ⟨fun _ owed step => ⟨owed, step⟩, id, id⟩

variable {P} {i : Pid} {p : Prog Op Res ε α} {post : Except ε α → S → Prop} {s : S}

/-- What holds at the end of a participant holds there among the others too, if they keep it. -/
theorem Safe.of_wp (ends : wp (P.Among i) p post s)
    (stable : ∀ outcome s s', post outcome s → P.rely i s s' → post outcome s') :
    P.met.Safe i p post s := by
  induction p generalizing s with
  | ret value => exact fun s' moved _ => stable _ s s' ends moved
  | raise error => exact fun s' moved _ => stable _ s s' ends moved
  | call op next ih =>
      intro s' moved kept
      refine ⟨trivial, fun reply s'' step => ?_⟩
      exact ih reply (ends reply s'' ⟨s', moved, kept, step.1, step.2⟩)

/-- A further fact about the end of every participant. -/
theorem AllSafe.of_wp {posts ends : Pid → Except ε α → S → Prop} {c : Config Op Res ε α S}
    (all : P.AllSafe posts c) (each : ∀ i, wp (P.Among i) (c.code i) (ends i) c.state)
    (stable : ∀ i outcome s s', ends i outcome s → P.rely i s s' → ends i outcome s') :
    P.AllSafe (fun i outcome s => posts i outcome s ∧ ends i outcome s) c :=
  all.and_covered P.met_covers fun i => Safe.of_wp (each i) (stable i)

end

end Protocol

end ContentPlatform.Program
