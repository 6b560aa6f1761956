import Mathlib.Logic.Relation
import ContentPlatform.Program.Embedding
import ContentPlatform.Program.Interrupted
import ContentPlatform.Program.Sequential

/-!
# Participants that wait for one another

An interaction may have to wait until somebody else lets go of a lock.  Where every program takes
its locks in one interaction and waits for nothing after it, whoever holds a lock can go on to its
end, and so can everybody who waits for it.
-/

set_option autoImplicit false

namespace ContentPlatform.Program

open Prog

section
variable {Op Op' : Type} {Res : Op → Type} {Res' : Op' → Type} {ε ε' α β S : Type}
  {takes hangs : Op → Prop} {takes' hangs' : Op' → Prop}

/-! ## Taking locks -/

/-- Neither takes a lock, nor may be left without an answer. -/
def Unhindered (takes hangs : Op → Prop) (op : Op) : Prop := ¬takes op ∧ ¬hangs op

/-- After the first interaction that takes locks, all that follow are unhindered. -/
def Prog.TakesOnce (takes hangs : Op → Prop) : Prog Op Res ε α → Prop
  | .ret _ => True
  | .raise _ => True
  | .call op next => ¬hangs op ∧
      (takes op → ∀ reply, (next reply).Sends (Unhindered takes hangs)) ∧
      ∀ reply, (next reply).TakesOnce takes hangs

namespace Prog.TakesOnce

variable {p : Prog Op Res ε α} {f : α → Prog Op Res ε β} {g : ε → Prog Op Res ε β}

theorem of_unhindered (unhindered : p.Sends (Unhindered takes hangs)) :
    p.TakesOnce takes hangs := by
  induction p with
  | ret value => trivial
  | raise error => trivial
  | call op next ih =>
      exact ⟨unhindered.1.2, fun taken => absurd taken unhindered.1.1,
        fun reply => ih reply (unhindered.2 reply)⟩

theorem sends (once : p.TakesOnce takes hangs) : p.Sends fun op => ¬hangs op := by
  induction p with
  | ret value => trivial
  | raise error => trivial
  | call op next ih => exact ⟨once.1, fun reply => ih reply (once.2.2 reply)⟩

/-- What comes before the locks are taken. -/
theorem bind (first : p.Sends (Unhindered takes hangs))
    (rest : ∀ value, (f value).TakesOnce takes hangs) : (p.bind f).TakesOnce takes hangs := by
  induction p with
  | ret value => exact rest value
  | raise error => trivial
  | call op next ih =>
      exact ⟨first.1.2, fun taken => absurd taken first.1.1, fun reply => ih reply (first.2 reply)⟩

/-- What comes after they are taken. -/
theorem cont_after (first : p.TakesOnce takes hangs)
    (onValue : ∀ value, (f value).Sends (Unhindered takes hangs))
    (onError : ∀ error, (g error).Sends (Unhindered takes hangs)) :
    (p.cont f g).TakesOnce takes hangs := by
  induction p with
  | ret value => exact of_unhindered (onValue value)
  | raise error => exact of_unhindered (onError error)
  | call op next ih =>
      exact ⟨first.1, fun taken reply => (first.2.1 taken reply).cont onValue onError,
        fun reply => ih reply (first.2.2 reply)⟩

theorem bind_after (first : p.TakesOnce takes hangs)
    (rest : ∀ value, (f value).Sends (Unhindered takes hangs)) : (p.bind f).TakesOnce takes hangs :=
  cont_after first rest fun _ => trivial

theorem attempt_bind_after {next : Except ε α → Prog Op Res ε β} (first : p.TakesOnce takes hangs)
    (rest : ∀ outcome, (next outcome).Sends (Unhindered takes hangs)) :
    (p.attempt.bind next).TakesOnce takes hangs :=
  bind_after (cont_after first (fun _ => trivial) fun _ => trivial) rest

end Prog.TakesOnce

/-! ## What an embedded program does to the one around it -/

section
variable {inject : Op → Op'} {read : ∀ op, Res' (inject op) → Res op}
  {R : Except ε' β → Prog Op Res ε α → Prop} {p : Prog Op' Res' ε' β} {q : Prog Op Res ε α}
  {exec : (op : Op) → S → Res op → S → Prop} {exec' : (op' : Op') → S → Res' op' → S → Prop}

theorem Carries.sends {allowed : Op → Prop} {allowed' : Op' → Prop}
    (carries : Carries inject read R p q) (sends : q.Sends allowed)
    (inner : ∀ op, allowed op → allowed' (inject op))
    (outer : ∀ op', Outer inject op' → allowed' op') : p.Sends allowed' := by
  induction carries with
  | ret _ => trivial
  | raise _ => trivial
  | inner _ ih => exact ⟨inner _ sends.1, fun reply => ih reply (sends.2 _)⟩
  | outer other _ ih => exact ⟨outer _ other, fun reply => ih reply sends⟩

theorem Carries.takesOnce (carries : Carries inject read R p q) (once : q.TakesOnce takes hangs)
    (taking : ∀ op, takes' (inject op) → takes op) (hanging : ∀ op, hangs' (inject op) → hangs op)
    (outer : ∀ op', Outer inject op' → Unhindered takes' hangs' op') :
    p.TakesOnce takes' hangs' := by
  induction carries with
  | ret _ => trivial
  | raise _ => trivial
  | inner rest ih =>
      refine ⟨fun used => once.1 (hanging _ used), fun taken reply => ?_,
        fun reply => ih reply (once.2.2 _)⟩
      refine (rest reply).sends (once.2.1 (taking _ taken) _) (fun op unhindered => ?_) outer
      exact ⟨fun taken => unhindered.1 (taking op taken),
        fun used => unhindered.2 (hanging op used)⟩
  | outer other _ ih =>
      exact ⟨(outer _ other).2, fun taken => absurd taken (outer _ other).1,
        fun reply => ih reply once⟩

/-- What comes to its end alone does so within a program whose own interactions change nothing. -/
theorem Carries.live (carries : Carries inject read R p q) {s : S} (live : Live exec q s)
    (answered : ∀ op s reply s', exec op s reply s' → ∃ reply' s', exec' (inject op) s reply' s')
    (told : ∀ op s reply s', exec' (inject op) s reply s' → exec op s (read op reply) s')
    (outer : ∀ op' s, Outer inject op' →
      (∃ reply s', exec' op' s reply s') ∧ ∀ reply s', exec' op' s reply s' → s' = s) :
    Live exec' p s := by
  induction carries generalizing s with
  | ret _ => trivial
  | raise _ => trivial
  | @inner op _ _ _ ih =>
      obtain ⟨⟨reply, s', step⟩, rest⟩ := live
      exact ⟨answered op s reply s' step, fun reply s' step =>
        ih reply (rest _ _ (told op s reply s' step))⟩
  | @outer op' _ _ other _ ih =>
      refine ⟨(outer op' s other).1, fun reply s' step => ?_⟩
      rw [(outer op' s other).2 reply s' step]
      exact ih reply live

end

/-! ## Nothing is left of a program but parts of it -/

def Prog.Remains (p q : Prog Op Res ε α) : Prop :=
  ∃ op next reply, p = .call op next ∧ q = next reply

/-- A program that has begun is never whole again. -/
theorem Prog.not_remains_self (p : Prog Op Res ε α) : ¬Relation.TransGen Remains p p := by
  induction p with
  | ret value =>
      intro later
      obtain ⟨_, ⟨_, _, _, impossible, -⟩, -⟩ := Relation.TransGen.head'_iff.mp later
      cases impossible
  | raise error =>
      intro later
      obtain ⟨_, ⟨_, _, _, impossible, -⟩, -⟩ := Relation.TransGen.head'_iff.mp later
      cases impossible
  | call op next ih =>
      intro later
      obtain ⟨_, ⟨_, _, reply, same, rfl⟩, rest⟩ := Relation.TransGen.head'_iff.mp later
      cases same
      exact ih reply (Relation.TransGen.tail' rest ⟨op, next, reply, rfl, rfl⟩)

variable {exec : Pid → (op : Op) → S → Res op → S → Prop} {env : S → S → Prop}
  {c c' : Config Op Res ε α S}

/-- A participant whose program is whole has not begun. -/
theorem Steps.unbegun (run : Steps exec env c c') {i : Pid} (whole : c'.code i = c.code i) :
    c'.started i = c.started i := by
  have progress : (c'.code i = c.code i ∧ c'.started i = c.started i) ∨
      Relation.TransGen Remains (c.code i) (c'.code i) := by
    clear whole
    induction run with
    | refl => exact Or.inl ⟨rfl, rfl⟩
    | tail _ step ih =>
        cases step with
        | @run j op next reply s' code _ =>
            by_cases same : i = j
            · subst same
              have now : Remains (Prog.call op next) (next reply) := ⟨op, next, reply, rfl, rfl⟩
              rw [← code] at now
              simp only [Function.update_self]
              rcases ih with ⟨still, -⟩ | later
              · rw [still] at now
                exact Or.inr (.single now)
              · exact Or.inr (later.tail now)
            · simpa only [Function.update_of_ne same] using ih
        | env _ => exact ih
  rcases progress with ⟨-, same⟩ | later
  · exact same
  · rw [whole] at later
    exact absurd later (not_remains_self _)

/-! ## Locks -/

/-- A system with locks: who holds a lock has taken it, and what is asked is answered once nobody
else holds the lock that is wanted. -/
structure LockSystem {Lock : Type} (exec : Pid → (op : Op) → S → Res op → S → Prop)
    (env : S → S → Prop) (holder : S → Lock → Option Pid) (takes hangs : Op → Prop)
    (wants : Op → Option Lock) : Prop where
  taken : ∀ {i op s reply s'}, exec i op s reply s' → ∀ {l j}, holder s' l = some j →
    holder s l = some j ∨ (j = i ∧ takes op)
  event : ∀ {s s'}, env s s' → ∀ {l j}, holder s' l = some j → holder s l = some j
  wanted : ∀ {op l}, wants op = some l → takes op
  answered : ∀ i op s, ¬hangs op → (∀ l j, wants op = some l → holder s l = some j → j = i) →
    ∃ reply s', exec i op s reply s'

/-- Whoever holds a lock has only unhindered interactions before it. -/
structure Tidy {Lock : Type} (holder : S → Lock → Option Pid) (takes hangs : Op → Prop)
    (c : Config Op Res ε α S) : Prop where
  once : ∀ i, (c.code i).TakesOnce takes hangs ∨ (c.code i).Sends fun op => ¬takes op
  unhindered : ∀ l i, holder c.state l = some i → (c.code i).Sends (Unhindered takes hangs)

section
variable {Lock : Type} {holder : S → Lock → Option Pid} {wants : Op → Option Lock}

theorem Tidy.step (locks : LockSystem exec env holder takes hangs wants)
    (tidy : Tidy holder takes hangs c) (step : Step exec env c c') :
    Tidy holder takes hangs c' := by
  cases step with
  | @run i op next reply s' code done =>
      have mine := tidy.once i
      rw [code] at mine
      refine ⟨fun j => ?_, fun l j held => ?_⟩
      · by_cases same : j = i
        · subst same
          simp only [Function.update_self]
          exact mine.imp (fun once => once.2.2 reply) fun sends => sends.2 reply
        · simpa [Function.update_of_ne same] using tidy.once j
      · have before := locks.taken done held
        by_cases same : j = i
        · subst same
          simp only [Function.update_self]
          rcases before with still | ⟨-, taken⟩
          · have sends := tidy.unhindered l j still
            rw [code] at sends
            exact sends.2 reply
          · rcases mine with once | sends
            · exact once.2.1 taken reply
            · exact absurd taken sends.1
        · simp only [Function.update_of_ne same]
          exact tidy.unhindered l j (before.resolve_right fun other => same other.1)
  | env moved => exact ⟨tidy.once, fun l j held => tidy.unhindered l j (locks.event moved held)⟩

theorem Tidy.steps (locks : LockSystem exec env holder takes hangs wants)
    (tidy : Tidy holder takes hangs c) (run : Steps exec env c c') :
    Tidy holder takes hangs c' := by
  induction run with
  | refl => exact tidy
  | tail _ step ih => exact ih.step locks step

variable (locks : LockSystem exec env holder takes hangs wants)
include locks

/-- A program of unhindered interactions can be run to its end while everybody else stands still. -/
theorem LockSystem.finishes {j : Pid} (unhindered : (c.code j).Sends (Unhindered takes hangs)) :
    ∃ c', Steps exec env c c' ∧ (c'.outcome j).isSome ∧ (∀ k, k ≠ j → c'.code k = c.code k) ∧
      ∀ l k, holder c'.state l = some k → holder c.state l = some k := by
  generalize whole : c.code j = p at unhindered
  induction p generalizing c with
  | ret value =>
      exact ⟨c, .refl, by rw [Config.outcome, whole]; rfl, fun _ _ => rfl, fun _ _ => id⟩
  | raise error =>
      exact ⟨c, .refl, by rw [Config.outcome, whole]; rfl, fun _ _ => rfl, fun _ _ => id⟩
  | call op next ih =>
      obtain ⟨⟨untaken, answerable⟩, rest⟩ := unhindered
      obtain ⟨reply, s', done⟩ := locks.answered j op c.state answerable
        fun l k wanted => absurd (locks.wanted wanted) untaken
      obtain ⟨c', later, ended, others, kept⟩ := ih reply
        (c := ⟨s', Function.update c.code j (next reply), Function.update c.started j true⟩)
        (Function.update_self ..) (rest reply)
      refine ⟨c', (Step.run j whole done).steps.trans later, ended, fun k other => ?_,
        fun l k held => ?_⟩
      · exact (others k other).trans (Function.update_of_ne other _ _)
      · exact (locks.taken done (kept l k held)).resolve_right fun mine => untaken mine.2

/-- However far a run has come, a participant that never hangs can come to its end: who waits for
a lock waits for somebody who can let go of it. -/
theorem LockSystem.progress (tidy : Tidy holder takes hangs c)
    (released : ∀ d, Steps exec env c d → ∀ l j, (d.outcome j).isSome → holder d.state l ≠ some j)
    {i : Pid}
    (answerable : ∀ d, Steps exec env c d → ∀ op next, d.code i = .call op next → ¬hangs op) :
    ∃ c', Steps exec env c c' ∧ (c'.outcome i).isSome := by
  generalize whole : c.code i = p
  induction p generalizing c with
  | ret value => exact ⟨c, .refl, by rw [Config.outcome, whole]; rfl⟩
  | raise error => exact ⟨c, .refl, by rw [Config.outcome, whole]; rfl⟩
  | call op next ih =>
      -- somebody else is run to its end first, where it holds the lock that is wanted
      have cleared : ∃ d, Steps exec env c d ∧ d.code i = .call op next ∧
          ∀ l j, wants op = some l → holder d.state l = some j → j = i := by
        by_cases blocked : ∃ l j, wants op = some l ∧ holder c.state l = some j ∧ j ≠ i
        · obtain ⟨l, j, wanted, held, other⟩ := blocked
          obtain ⟨d, run, ended, others, kept⟩ := locks.finishes (tidy.unhindered l j held)
          refine ⟨d, run, (others i (Ne.symm other)).trans whole, fun l' k wanted' held' => ?_⟩
          obtain rfl := Option.some.inj (wanted.symm.trans wanted')
          obtain rfl := Option.some.inj (held.symm.trans (kept l k held'))
          exact absurd held' (released d run l j ended)
        · refine ⟨c, .refl, whole, fun l j wanted held => ?_⟩
          by_contra other
          exact blocked ⟨l, j, wanted, held, other⟩
      obtain ⟨d, run, code, free⟩ := cleared
      obtain ⟨reply, s', done⟩ := locks.answered i op d.state (answerable d run op next code) free
      have moved := run.tail (Step.run i code done)
      obtain ⟨c', later, ended⟩ := ih reply (tidy.steps locks moved)
        (fun d' after => released d' (moved.trans after))
        (fun d' after => answerable d' (moved.trans after)) (Function.update_self ..)
      exact ⟨c', moved.trans later, ended⟩

end

/-! ## Part of a run -/

/-- Whoever is interrupted leaves the others where they are. -/
theorem CutOff.steps {i : Pid} {p : Prog Op Res ε α} {s s' : S} (cut : CutOff (exec i) p s s')
    (same : c.state = s) (code : c.code i = p) :
    ∃ c', Steps exec env c c' ∧ c'.state = s' ∧ ∀ j, j ≠ i → c'.code j = c.code j := by
  induction cut generalizing c with
  | here p s => exact ⟨c, .refl, same, fun _ _ => rfl⟩
  | @later op next s s₁ s' reply step _ ih =>
      have first : Step exec env c
          ⟨s₁, Function.update c.code i (next reply), Function.update c.started i true⟩ :=
        .run i code (same ▸ step)
      obtain ⟨c', rest, last, others⟩ := ih (c := ⟨s₁, Function.update c.code i (next reply),
        Function.update c.started i true⟩) rfl (Function.update_self ..)
      exact ⟨c', first.steps.trans rest, last,
        fun j other => (others j other).trans (Function.update_of_ne other _ _)⟩

end

end ContentPlatform.Program
