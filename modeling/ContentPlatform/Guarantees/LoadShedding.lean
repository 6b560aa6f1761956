import Mathlib.Data.Set.Card
import ContentPlatform.Api.LoadShed

/-!
# The ceiling on requests in flight

Over every order in which requests arrive and end, however each of them ends.
-/

set_option autoImplicit false

namespace ContentPlatform

open Program

namespace LoadShedMiddleware

variable {R : Type}

abbrev Instance (R : Type) : Type :=
  Pool LoadShedMiddleware (Except Exc R) (Dispatched R)

def Serves (requests : ℕ → Arrival) : Instance R → Instance R → Prop :=
  Pool.Reaches fun i => dispatch (requests i)

/-- The requests that were admitted under the ceiling and are still being handled. -/
def handled (requests : ℕ → Arrival) (pool : Instance R) : Set ℕ :=
  {i | (requests i).exempt = false ∧ ∃ resume, pool.tasks i = some (.waits resume)}

structure Counted (requests : ℕ → Arrival) (maxInflight : ℤ) (retryAfter : ℚ)
    (pool : Instance R) : Prop where
  ceiling : pool.shared.maxInflight = maxInflight
  wait : pool.shared.retryAfter = retryAfter
  finite : (handled requests pool).Finite
  inflight : pool.shared.inflight = (handled requests pool).ncard
  gauge : pool.shared.inflightRequests = (handled requests pool).ncard
  bounded : ((handled requests pool).ncard : ℤ) ≤ maxInflight
  /-- What an exempt request still has to do. -/
  passing : ∀ i resume, (requests i).exempt = true → pool.tasks i = some (.waits resume) →
    resume = fun result m => (m, .done (.passedOn result))
  /-- What an admitted request still has to do. -/
  leaving : ∀ i resume, (requests i).exempt = false → pool.tasks i = some (.waits resume) →
    resume = fun result m => (m.leave, .done (.passedOn result))

section
variable {requests : ℕ → Arrival} {maxInflight : ℤ} {retryAfter : ℚ} {pool : Instance R}

/-- A request that is not one of those under the ceiling, before or after, does not matter. -/
theorem handled_advance_of_not {i : ℕ} {ended : LoadShedMiddleware × Task _ _ _}
    (notBefore : i ∉ handled requests pool)
    (notAfter : (requests i).exempt = true ∨ ∃ result, ended.2 = .done result) :
    handled requests (pool.advance i ended) = handled requests pool := by
  ext j
  by_cases same : j = i
  · subst same
    constructor
    · rintro ⟨counted, resume, waits⟩
      rw [Pool.advance_self] at waits
      rcases notAfter with exempt | ⟨result, done⟩
      · rw [exempt] at counted
        cases counted
      · rw [done] at waits
        cases waits
    · intro member
      exact absurd member notBefore
  · show _ ∧ _ ↔ _ ∧ _
    rw [Pool.advance_ne same]

theorem handled_advance_waits {i : ℕ} {m : LoadShedMiddleware}
    {resume : Except Exc R → LoadShedMiddleware →
      LoadShedMiddleware × Task LoadShedMiddleware (Except Exc R) (Dispatched R)}
    (counted : (requests i).exempt = false) :
    handled requests (pool.advance i (m, .waits resume)) = insert i (handled requests pool) := by
  ext j
  rw [Set.mem_insert_iff]
  by_cases same : j = i
  · subst same
    constructor
    · intro _
      exact Or.inl rfl
    · intro _
      exact ⟨counted, resume, Pool.advance_self ..⟩
  · show _ ∧ _ ↔ j = i ∨ _ ∧ _
    rw [Pool.advance_ne same]
    simp only [same, false_or]

theorem handled_advance_done {i : ℕ} {m : LoadShedMiddleware} {result : Dispatched R} :
    handled requests (pool.advance i (m, .done result)) = handled requests pool \ {i} := by
  ext j
  rw [Set.mem_sdiff, Set.mem_singleton_iff]
  by_cases same : j = i
  · subst same
    constructor
    · rintro ⟨_, resume, waits⟩
      rw [Pool.advance_self] at waits
      cases waits
    · intro member
      exact absurd rfl member.2
  · show _ ∧ _ ↔ (_ ∧ _) ∧ ¬j = i
    rw [Pool.advance_ne same]
    simp only [same, not_false_eq_true, and_true]

theorem waits_advance {i j : ℕ} {ended : LoadShedMiddleware × Task _ _ _}
    {resume : Except Exc R → LoadShedMiddleware →
      LoadShedMiddleware × Task LoadShedMiddleware (Except Exc R) (Dispatched R)}
    (waits : (pool.advance i ended).tasks j = some (.waits resume)) :
    (j = i ∧ ended.2 = .waits resume) ∨ pool.tasks j = some (.waits resume) := by
  by_cases same : j = i
  · subst same
    rw [Pool.advance_self] at waits
    exact Or.inl ⟨rfl, Option.some.inj waits⟩
  · rw [Pool.advance_ne same] at waits
    exact Or.inr waits

theorem Counted.start (kept : Counted requests maxInflight retryAfter pool) {i : ℕ}
    (idle : pool.tasks i = none) :
    Counted requests maxInflight retryAfter
      (pool.advance i (dispatch (requests i) pool.shared)) := by
  have notBefore : i ∉ handled requests pool := by
    rintro ⟨_, resume, waits⟩
    rw [idle] at waits
    cases waits
  by_cases exempt : (requests i).exempt = true
  · rw [dispatch_exempt _ exempt]
    have same : handled requests (pool.advance i (pool.shared,
        .waits fun result m => (m, .done (.passedOn result)))) = handled requests pool :=
      handled_advance_of_not notBefore (Or.inl exempt)
    refine ⟨kept.ceiling, kept.wait, ?_, ?_, ?_, ?_, ?_, ?_⟩
    · rw [same]; exact kept.finite
    · rw [same]; exact kept.inflight
    · rw [same]; exact kept.gauge
    · rw [same]; exact kept.bounded
    · intro j resume exempt' waits
      rcases waits_advance waits with ⟨_, new⟩ | old
      · exact (Task.waits.inj new).symm
      · exact kept.passing j resume exempt' old
    · intro j resume counted waits
      rcases waits_advance waits with ⟨rfl, _⟩ | old
      · rw [exempt] at counted
        cases counted
      · exact kept.leaving j resume counted old
  · have counted : (requests i).exempt = false := Bool.not_eq_true _ ▸ exempt
    by_cases full : pool.shared.maxInflight ≤ pool.shared.inflight
    · rw [dispatch_full counted full]
      have same : handled requests (pool.advance i
          (pool.shared.observeShed (requests i).routeLabel,
            .done (.shed pool.shared.shedResponse))) = handled requests pool :=
        handled_advance_of_not notBefore (Or.inr ⟨_, rfl⟩)
      refine ⟨kept.ceiling, kept.wait, ?_, ?_, ?_, ?_, ?_, ?_⟩
      · rw [same]; exact kept.finite
      · rw [same]; exact kept.inflight
      · rw [same]; exact kept.gauge
      · rw [same]; exact kept.bounded
      · intro j resume exempt' waits
        rcases waits_advance waits with ⟨_, new⟩ | old
        · cases new
        · exact kept.passing j resume exempt' old
      · intro j resume counted' waits
        rcases waits_advance waits with ⟨_, new⟩ | old
        · cases new
        · exact kept.leaving j resume counted' old
    · rw [not_le] at full
      rw [dispatch_admitted counted full]
      have more : (handled requests (pool.advance i (pool.shared.enter,
          .waits fun result m => (m.leave, .done (.passedOn result))))).ncard =
          (handled requests pool).ncard + 1 := by
        rw [handled_advance_waits counted, Set.ncard_insert_of_notMem notBefore kept.finite]
      refine ⟨kept.ceiling, kept.wait, ?_, ?_, ?_, ?_, ?_, ?_⟩
      · rw [handled_advance_waits counted]
        exact kept.finite.insert i
      · rw [more, Nat.cast_add, Nat.cast_one, ← kept.inflight]
        rfl
      · rw [more, Nat.cast_add, Nat.cast_one, ← kept.gauge]
        rfl
      · rw [kept.inflight, kept.ceiling] at full
        rw [more, Nat.cast_add, Nat.cast_one]
        omega
      · intro j resume exempt' waits
        rcases waits_advance waits with ⟨rfl, _⟩ | old
        · exact absurd exempt' exempt
        · exact kept.passing j resume exempt' old
      · intro j resume counted' waits
        rcases waits_advance waits with ⟨_, new⟩ | old
        · exact (Task.waits.inj new).symm
        · exact kept.leaving j resume counted' old

theorem Counted.resume (kept : Counted requests maxInflight retryAfter pool) {i : ℕ}
    (result : Except Exc R)
    {resume : Except Exc R → LoadShedMiddleware →
      LoadShedMiddleware × Task LoadShedMiddleware (Except Exc R) (Dispatched R)}
    (waits : pool.tasks i = some (.waits resume)) :
    Counted requests maxInflight retryAfter (pool.advance i (resume result pool.shared)) := by
  have old : ∀ (m : LoadShedMiddleware) (j : ℕ) resume',
      (pool.advance i (m, .done (.passedOn result))).tasks j = some (.waits resume') →
      pool.tasks j = some (.waits resume') := by
    intro m j resume' waits'
    rcases waits_advance waits' with ⟨_, new⟩ | old
    · cases new
    · exact old
  cases exempt : (requests i).exempt with
  | true =>
      obtain rfl := kept.passing i resume exempt waits
      have notBefore : i ∉ handled requests pool := by
        rintro ⟨counted, _⟩
        rw [exempt] at counted
        cases counted
      have same : handled requests (pool.advance i
          (pool.shared, .done (.passedOn result))) = handled requests pool :=
        handled_advance_of_not notBefore (Or.inl exempt)
      refine ⟨kept.ceiling, kept.wait, ?_, ?_, ?_, ?_, ?_, ?_⟩
      · rw [same]; exact kept.finite
      · rw [same]; exact kept.inflight
      · rw [same]; exact kept.gauge
      · rw [same]; exact kept.bounded
      · exact fun j resume' exempt' waits' => kept.passing j resume' exempt' (old _ j _ waits')
      · exact fun j resume' counted waits' => kept.leaving j resume' counted (old _ j _ waits')
  | false =>
      obtain rfl := kept.leaving i resume exempt waits
      have member : i ∈ handled requests pool := ⟨exempt, _, waits⟩
      have fewer : (handled requests (pool.advance i
          (pool.shared.leave, .done (.passedOn result)))).ncard + 1 =
          (handled requests pool).ncard := by
        rw [handled_advance_done]
        exact Set.ncard_sdiff_singleton_add_one member kept.finite
      have inflight := kept.inflight
      have gauge := kept.gauge
      have bounded := kept.bounded
      rw [← fewer] at inflight gauge bounded
      push_cast at inflight gauge bounded
      show Counted requests maxInflight retryAfter
        (pool.advance i (pool.shared.leave, .done (.passedOn result)))
      refine ⟨kept.ceiling, kept.wait, ?_, ?_, ?_, ?_, ?_, ?_⟩
      · rw [handled_advance_done]
        exact kept.finite.sdiff
      · show pool.shared.inflight - 1 = _
        omega
      · show pool.shared.inflightRequests + -1 = _
        omega
      · omega
      · exact fun j resume' exempt' waits' => kept.passing j resume' exempt' (old _ j _ waits')
      · exact fun j resume' counted waits' => kept.leaving j resume' counted (old _ j _ waits')

end

/-- Whatever arrives and however it ends, the counter and the gauge are the number of requests
that are being handled under the ceiling; exactly who comes when all places are taken is
refused; and the exempt paths are passed on and not counted. -/
theorem load_shed_exact (maxInflight : ℤ) (retryAfter : ℚ) {m : LoadShedMiddleware}
    (created : create maxInflight retryAfter = .ok m) (requests : ℕ → Arrival)
    {pool : Instance R} (run : Serves requests (Pool.initial m) pool) :
    pool.shared.inflight = (handled requests pool).ncard ∧
      pool.shared.inflightRequests = (handled requests pool).ncard ∧
      (handled requests pool).Finite ∧
      ((handled requests pool).ncard : ℤ) ≤ maxInflight ∧
      ∀ request : Arrival,
        (request.exempt = true → (dispatch request pool.shared : _ × Task _ (Except Exc R) _) =
          (pool.shared, .waits fun result m => (m, .done (.passedOn result)))) ∧
        (request.exempt = false →
          ((dispatch request pool.shared : _ × Task _ (Except Exc R) _).2 =
              .done (.shed pool.shared.shedResponse) ↔
            ((handled requests pool).ncard : ℤ) = maxInflight) ∧
          (((handled requests pool).ncard : ℤ) < maxInflight →
            (dispatch request pool.shared : _ × Task _ (Except Exc R) _) =
              (pool.shared.enter, .waits fun result m => (m.leave, .done (.passedOn result))))) := by
  have kept : Counted requests maxInflight retryAfter pool := by
    apply run.invariant (I := Counted requests maxInflight retryAfter)
    · rw [create] at created
      split at created
      · cases created
      · split at created
        · cases created
        · rename_i enough _
          obtain rfl := Except.ok.inj created
          have nobody : handled requests
              (Pool.initial ⟨maxInflight, retryAfter, 0, 0, fun _ => 0⟩ : Instance R) = ∅ := by
            ext j
            constructor
            · rintro ⟨_, resume, waits⟩
              cases waits
            · intro impossible
              exact absurd impossible (Set.notMem_empty j)
          refine ⟨rfl, rfl, ?_, ?_, ?_, ?_, ?_, ?_⟩
          · rw [nobody]; exact Set.finite_empty
          · rw [nobody, Set.ncard_empty]; rfl
          · rw [nobody, Set.ncard_empty]; rfl
          · rw [nobody, Set.ncard_empty]
            omega
          · intro j resume _ waits
            cases waits
          · intro j resume _ waits
            cases waits
    · intro pool i kept idle
      exact kept.start idle
    · intro pool i result resume kept waits
      exact kept.resume result waits
  refine ⟨kept.inflight, kept.gauge, kept.finite, kept.bounded, ?_⟩
  intro request
  refine ⟨dispatch_exempt _, ?_⟩
  intro counted
  have bounded := kept.bounded
  have inflight := kept.inflight
  have ceiling := kept.ceiling
  refine ⟨⟨?_, ?_⟩, ?_⟩
  · intro refused
    by_contra room
    rw [dispatch_admitted counted (by omega)] at refused
    cases refused
  · intro full
    rw [dispatch_full counted (by omega)]
  · intro room
    exact dispatch_admitted counted (by omega)

/-- With one place, the second of two requests is refused. -/
theorem load_shed_exact_one_place :
    ∃ pool : Instance Unit,
      Serves (fun _ => ⟨"/v1/articles", "/v1/articles"⟩) (Pool.initial ⟨1, 1, 0, 0, fun _ => 0⟩)
        pool ∧
      pool.shared.inflight = 1 ∧
      (dispatch ⟨"/v1/articles", "/v1/articles"⟩ pool.shared :
          _ × Task _ (Except Exc Unit) _).2 = .done (.shed pool.shared.shedResponse) := by
  have run : Serves (R := Unit) (fun _ => ⟨"/v1/articles", "/v1/articles"⟩)
      (Pool.initial ⟨1, 1, 0, 0, fun _ => 0⟩) _ := Relation.ReflTransGen.single (.start 0 rfl)
  have counted := load_shed_exact 1 1 rfl _ run
  refine ⟨_, run, rfl, ?_⟩
  obtain ⟨inflight, _, _, _, decides⟩ := counted
  have one : (dispatch (R := Unit) ⟨"/v1/articles", "/v1/articles"⟩
      ⟨1, 1, 0, 0, fun _ => 0⟩).1.inflight = 1 := rfl
  exact ((decides _).2 rfl).1.mpr (inflight.symm.trans one)

end LoadShedMiddleware

end ContentPlatform
