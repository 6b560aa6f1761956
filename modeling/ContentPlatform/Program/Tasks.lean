import Mathlib.Data.Nat.Notation
import Mathlib.Logic.Function.Basic
import Mathlib.Logic.Relation

/-!
# Tasks of one event loop

A coroutine that is cut at its awaits.  A segment between two of them runs on the
shared state without interruption; what an await delivers is whatever ends it.
A pool starts its tasks and resumes them in any order.
-/

set_option autoImplicit false

namespace ContentPlatform.Program

inductive Task (S A R : Type) : Type where
  | done (result : R)
  | waits (resume : A → S → S × Task S A R)

structure Pool (S A R : Type) where
  shared : S
  /-- `none` where the task has not started. -/
  tasks : ℕ → Option (Task S A R)

namespace Pool

variable {S A R : Type}

def initial (s : S) : Pool S A R := ⟨s, fun _ => none⟩

/-- Task `i` has run a segment that left this state and still has `task` to do. -/
def advance (pool : Pool S A R) (i : ℕ) (ended : S × Task S A R) : Pool S A R :=
  ⟨ended.1, Function.update pool.tasks i (some ended.2)⟩

inductive Step (start : ℕ → S → S × Task S A R) (pool : Pool S A R) : Pool S A R → Prop where
  | start (i : ℕ) : pool.tasks i = none → Step start pool (pool.advance i (start i pool.shared))
  | resume (i : ℕ) (delivered : A) {resume : A → S → S × Task S A R} :
      pool.tasks i = some (.waits resume) →
      Step start pool (pool.advance i (resume delivered pool.shared))

def Reaches (start : ℕ → S → S × Task S A R) : Pool S A R → Pool S A R → Prop :=
  Relation.ReflTransGen (Step start)

@[simp] theorem advance_shared (pool : Pool S A R) (i : ℕ) (ended : S × Task S A R) :
    (pool.advance i ended).shared = ended.1 := rfl

@[simp] theorem advance_self (pool : Pool S A R) (i : ℕ) (ended : S × Task S A R) :
    (pool.advance i ended).tasks i = some ended.2 := Function.update_self ..

theorem advance_ne {pool : Pool S A R} {i j : ℕ} {ended : S × Task S A R} (ne : j ≠ i) :
    (pool.advance i ended).tasks j = pool.tasks j := Function.update_of_ne ne _ _

theorem Reaches.invariant {start : ℕ → S → S × Task S A R} {I : Pool S A R → Prop}
    {pool pool' : Pool S A R} (run : Reaches start pool pool') (holds : I pool)
    (starts : ∀ pool i, I pool → pool.tasks i = none →
      I (pool.advance i (start i pool.shared)))
    (resumes : ∀ pool i delivered resume, I pool → pool.tasks i = some (.waits resume) →
      I (pool.advance i (resume delivered pool.shared))) : I pool' := by
  induction run with
  | refl => exact holds
  | tail _ step ih =>
      cases step with
      | start i idle => exact starts _ i ih idle
      | resume i delivered waiting => exact resumes _ i delivered _ ih waiting

end Pool

end ContentPlatform.Program
