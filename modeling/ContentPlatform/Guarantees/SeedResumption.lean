import ContentPlatform.Scripts.SeedRuns

/-!
# Seeding in several runs

A run continues the authors and the titles of the runs before it, and starts the bodies over.
-/

set_option autoImplicit false

namespace ContentPlatform

open Program Prog

/-! ## Runs that are interrupted -/

/-- Runs that were interrupted one after the other, with the number of articles that each of them
left. -/
inductive Interrupted (plan : SeedPlan) (rng : PseudoRandom) :
    List ℕ → Tables → Tables → Prop where
  | none (tables : Tables) : Interrupted plan rng [] tables tables
  | run {tables tables' : Tables} {s : SeedStore} {stops : List ℕ} :
      CutOff SeedOp.exec (seed plan rng) tables.opened s →
      Interrupted plan rng stops s.committed tables' →
      Interrupted plan rng ((dataset plan s.committed).length :: stops) tables tables'

/-- What the runs add that start with `existing` articles and leave so many. -/
def segments (plan : SeedPlan) (rng : PseudoRandom) (existing : ℕ) :
    List ℕ → List (ℕ × String × String)
  | [] => []
  | stop :: rest => segment plan rng existing (stop - existing) ++ segments plan rng stop rest

/-- Every run draws the sizes that one run would draw at its place in the dataset. -/
def Continues (sizes : ℕ → ℕ) : ℕ → List ℕ → Prop
  | _, [] => True
  | existing, stop :: rest =>
      (∀ place, existing + place < stop → sizes place = sizes (existing + place)) ∧
        Continues sizes stop rest

/-- The stops lie between `existing` and the planned number, in order. -/
def Ascends (articles : ℕ) : ℕ → List ℕ → Prop
  | existing, [] => existing ≤ articles
  | existing, stop :: rest => existing ≤ stop ∧ Ascends articles stop rest

def unbroken (plan : SeedPlan) (rng : PseudoRandom) (place count : ℕ) :
    List (ℕ × String × String) :=
  (List.range' place count).map (placed plan rng (plan.plannedSlots rng) 0)

section
variable {plan : SeedPlan} {rng : PseudoRandom} {tables tables' : Tables} {existing : ℕ}
  {stops : List ℕ} {s : SeedStore}

theorem Ascends.le (ascends : Ascends plan.articles existing stops) : existing ≤ plan.articles := by
  induction stops generalizing existing with
  | nil => exact ascends
  | cons stop rest ih => exact ascends.1.trans (ih ascends.2)

theorem Ascends.last_le (ascends : Ascends plan.articles existing stops) :
    stops.getLast?.getD existing ≤ plan.articles := by
  induction stops generalizing existing with
  | nil => exact ascends
  | cons stop rest ih =>
      rw [List.getLast?_cons]
      exact ih ascends.2

/-- A part of the dataset is what one run inserts there if and only if the sizes are. -/
theorem segment_eq_iff (count : ℕ) :
    segment plan rng existing count = unbroken plan rng existing count ↔
    ∀ place < count, plan.bodySize rng place = plan.bodySize rng (existing + place) := by
  have shifted : unbroken plan rng existing count = (List.range count).map fun place =>
      placed plan rng (plan.plannedSlots rng) 0 (existing + place) := by
    rw [unbroken, List.range'_eq_map_range, List.map_map]
    rfl
  have entry : ∀ place, placed plan rng (plan.plannedSlots rng) existing place =
      placed plan rng (plan.plannedSlots rng) 0 (existing + place) ↔
        plan.bodySize rng place = plan.bodySize rng (existing + place) := by
    intro place
    rw [placed, placed, Nat.zero_add]
    simp only [Prod.mk.injEq, true_and]
    exact fillerBody_injective.eq_iff
  rw [shifted, segment, List.map_inj_left]
  exact forall_congr' fun place => by rw [List.mem_range, entry]

theorem unbroken_append (place count count' : ℕ) : unbroken plan rng place (count + count') =
    unbroken plan rng place count ++ unbroken plan rng (place + count) count' := by
  rw [unbroken, unbroken, unbroken, ← List.map_append, List.range'_append_1]

theorem unbroken_length (place count : ℕ) : (unbroken plan rng place count).length = count := by
  rw [unbroken, List.length_map, List.length_range']

/-- The parts that several runs add are what one run inserts if and only if each continues. -/
theorem segments_eq_iff (ascends : Ascends plan.articles existing stops) :
    segments plan rng existing (stops ++ [plan.articles]) =
        unbroken plan rng existing (plan.articles - existing) ↔
      Continues (plan.bodySize rng) existing (stops ++ [plan.articles]) := by
  induction stops generalizing existing with
  | nil =>
      show segment plan rng existing (plan.articles - existing) ++ [] = _ ↔ _ ∧ True
      rw [List.append_nil, segment_eq_iff, and_true]
      exact forall_congr' fun place => imp_congr_left (by omega)
  | cons stop rest ih =>
      obtain ⟨order, later⟩ := ascends
      have split : plan.articles - existing = (stop - existing) + (plan.articles - stop) := by
        have := later.le
        omega
      have lengths : (segment plan rng existing (stop - existing)).length =
          (unbroken plan rng existing (stop - existing)).length := by
        rw [segment_length, unbroken_length]
      have parts : segments plan rng existing (stop :: rest ++ [plan.articles]) =
          unbroken plan rng existing (plan.articles - existing) ↔
            segment plan rng existing (stop - existing) =
                unbroken plan rng existing (stop - existing) ∧
              segments plan rng stop (rest ++ [plan.articles]) =
                unbroken plan rng stop (plan.articles - stop) := by
        rw [List.cons_append, segments, split, unbroken_append, Nat.add_sub_cancel' order]
        exact ⟨fun same => List.append_inj same lengths, fun ⟨first, second⟩ => by rw [first, second]⟩
      rw [parts, segment_eq_iff, ih later]
      exact and_congr (forall_congr' fun place => imp_congr_left (by omega)) Iff.rfl

theorem segments_concat (existing stop : ℕ) (stops : List ℕ) :
    segments plan rng existing (stops ++ [stop]) = segments plan rng existing stops ++
      segment plan rng (stops.getLast?.getD existing) (stop - stops.getLast?.getD existing) := by
  induction stops generalizing existing with
  | nil =>
      show segment plan rng existing (stop - existing) ++ [] = [] ++ _
      rw [List.append_nil, List.nil_append]
      rfl
  | cons first rest ih =>
      rw [List.cons_append, segments, ih, segments, List.append_assoc, List.getLast?_cons]
      rfl

/-- Every run takes up the slots where the one before it stopped. -/
theorem segments_slots (ascends : Ascends plan.articles existing stops) :
    (segments plan rng existing (stops ++ [plan.articles])).map Prod.fst =
      (unbroken plan rng existing (plan.articles - existing)).map Prod.fst := by
  have part : ∀ existing count, (segment plan rng existing count).map Prod.fst =
      (unbroken plan rng existing count).map Prod.fst := by
    intro existing count
    rw [segment, unbroken, List.range'_eq_map_range, List.map_map, List.map_map, List.map_map]
    apply List.map_congr_left
    intro place _
    show (plan.plannedSlots rng).getD (existing + place) 0 =
      (plan.plannedSlots rng).getD (0 + (existing + place)) 0
    rw [Nat.zero_add]
  induction stops generalizing existing with
  | nil =>
      show (segment plan rng existing (plan.articles - existing) ++ []).map _ = _
      rw [List.append_nil, part]
  | cons stop rest ih =>
      obtain ⟨order, later⟩ := ascends
      have split : plan.articles - existing = (stop - existing) + (plan.articles - stop) := by
        have := later.le
        omega
      rw [List.cons_append, segments, List.map_append, part, ih later, split, unbroken_append,
        List.map_append, Nat.add_sub_cancel' order]

theorem unbroken_slots (planned : plan.authorSlots rng = .ok (plan.plannedSlots rng)) :
    (unbroken plan rng 0 plan.articles).map Prod.fst = plan.plannedSlots rng := by
  have length := (authorSlots_spec planned).1
  rw [unbroken, ← List.range_eq_range', List.map_map]
  apply List.ext_getElem
  · rw [List.length_map, List.length_range, length]
  · intro place _ inside
    rw [List.getElem_map, List.getElem_range]
    show (plan.plannedSlots rng).getD (0 + place) 0 = _
    rw [Nat.zero_add, List.getD_eq_getElem _ _ inside]

/-- What is stored after some interrupted runs. -/
theorem Interrupted.dataset (interrupted : Interrupted plan rng stops tables tables')
    (sound : tables.Sound) (few : (dataset plan tables).length ≤ plan.articles) :
    tables'.Sound ∧ Ascends plan.articles (dataset plan tables).length stops ∧
      (dataset plan tables').length = (stops.getLast?.getD (dataset plan tables).length) ∧
      dataset plan tables' =
        dataset plan tables ++ segments plan rng (dataset plan tables).length stops := by
  induction interrupted with
  | none tables => exact ⟨sound, few, rfl, (List.append_nil _).symm⟩
  | @run tables tables' s stops cut _ ih =>
      obtain ⟨sound', count, fewer, part⟩ := seed_cut sound few cut
      have length : (ContentPlatform.dataset plan s.committed).length =
          (ContentPlatform.dataset plan tables).length + count := by
        rw [part, List.length_append, segment_length]
      obtain ⟨last, ascends, reached, whole⟩ := ih sound' (by omega)
      refine ⟨last, ⟨by omega, ascends⟩, ?_, ?_⟩
      · rw [reached, List.getLast?_cons]
        rfl
      · rw [whole, segments, length, part, Nat.add_sub_cancel_left, List.append_assoc]

end

/-! ## The dataset of several runs -/

/-- The dataset is the one of a single run, complete and with authors in range, and one more run
adds nothing. -/
structure Resumes (plan : SeedPlan) (rng : PseudoRandom) (final single : Tables) : Prop where
  same : dataset plan final = dataset plan single
  length : (dataset plan final).length = plan.articles
  inRange : plan.authorSlots rng = .ok ((dataset plan final).map Prod.fst) ∧
    ∀ slot ∈ (dataset plan final).map Prod.fst, slot < plan.authors
  idle : ∀ result s, Runs SeedOp.exec (seed plan rng) final.opened (.ok result) s →
    result.articlesCreated = 0 ∧ s.committed.articles = final.articles

section
variable {plan : SeedPlan} {rng : PseudoRandom} {start last : Tables} {stops : List ℕ}

/-- Runs that start from an empty dataset and are interrupted wherever they are make, once one of
them completes, the dataset of a single run if and only if each of them starts its bodies where the
stream of the single run does not differ. -/
theorem seeding_resumes_iff {result single : SeedResult} {s alone : SeedStore}
    (sound : start.Sound) (empty : dataset plan start = [])
    (interrupted : Interrupted plan rng stops start last)
    (completed : Runs SeedOp.exec (seed plan rng) last.opened (.ok result) s)
    (uninterrupted : Runs SeedOp.exec (seed plan rng) start.opened (.ok single) alone) :
    Resumes plan rng s.committed alone.committed ↔
      Continues (plan.bodySize rng) 0 (stops ++ [plan.articles]) := by
  have none : (dataset plan start).length = 0 := by rw [empty, List.length_nil]
  obtain ⟨sound', ascends, reached, stored⟩ := interrupted.dataset sound (none.trans_le (Nat.zero_le _))
  rw [none] at ascends reached stored
  rw [empty, List.nil_append] at stored
  have few : (dataset plan last).length ≤ plan.articles := reached.trans_le (ascends.last_le)
  obtain ⟨sound'', planned, final, -, -⟩ := seed_runs sound' few completed
  have whole : dataset plan s.committed = segments plan rng 0 (stops ++ [plan.articles]) := by
    rw [final, reached, stored, segments_concat]
  obtain ⟨-, -, single, -, -⟩ := seed_runs sound (none.trans_le (Nat.zero_le _)) uninterrupted
  have single : dataset plan alone.committed = unbroken plan rng 0 plan.articles := by
    rw [single, empty, List.length_nil, List.nil_append, Nat.sub_zero, segment_eq_iff]
    exact fun place _ => by rw [Nat.zero_add]
  have slots := @segments_slots plan rng 0 stops ascends
  rw [Nat.sub_zero, unbroken_slots planned, ← whole] at slots
  have length : (dataset plan s.committed).length = plan.articles := by
    rw [← List.length_map (f := Prod.fst), slots]
    exact (authorSlots_spec planned).1
  have same := @segments_eq_iff plan rng 0 stops ascends
  rw [Nat.sub_zero, ← whole, ← single] at same
  rw [← same]
  refine ⟨Resumes.same, fun equal => ⟨equal, length, ?_, ?_⟩⟩
  · rw [slots]
    exact ⟨planned, (authorSlots_spec planned).2⟩
  · intro result' s' again
    obtain ⟨-, -, -, created, added, grown, count⟩ := seed_runs sound'' length.le again
    rw [length, Nat.sub_self] at created
    rw [created] at count
    rw [List.length_eq_zero_iff.mp count, List.append_nil] at grown
    exact ⟨created, grown⟩

end

/-! ## An interrupted run -/

def countFrom {Row : Type} (stored : List (ℤ × Row)) (count : ℕ) : List ℤ :=
  (List.range count).map fun index => (stored.length + 1 + index : ℕ)

def SeedOp.answer : (op : SeedOp) → SeedStore → Option (op.Reply × SeedStore)
  | .selectUsers emails, s => some (s.current.matching emails, s)
  | .selectRoleIds name, s => some (s.current.roleIds name, s)
  | .insertUsers rows, s =>
      let ids := countFrom s.current.users rows.length
      if FreshIds s.current.users ids ∧ UniqueEmails s.current.users rows then
        some ((), { s with current := s.current.insertUsers ids rows })
      else none
  | .countArticles authorIds, s => some ((s.current.articlesOf authorIds).length, s)
  | .insertArticles rows, s =>
      let ids := countFrom s.current.articles rows.length
      if FreshIds s.current.articles ids then
        some ((), { s with current := s.current.insertArticles ids rows })
      else none
  | .articleBounds authorIds, s => some (s.current.bounds authorIds, s)
  | .commit, s => some ((), s.current.opened)

theorem SeedOp.exec_of_answer (op : SeedOp) (s : SeedStore) (reply : op.Reply) (s' : SeedStore)
    (answered : op.answer s = some (reply, s')) : op.exec s reply s' := by
  have lengths : ∀ {Row : Type} (stored : List (ℤ × Row)) (count : ℕ),
      (countFrom stored count).length = count := by
    intro Row stored count
    rw [countFrom, List.length_map, List.length_range]
  cases op with
  | insertUsers rows =>
      simp only [answer] at answered
      split at answered
      · rename_i allowed
        obtain ⟨-, rfl⟩ := Prod.mk.inj (Option.some.inj answered)
        exact ⟨_, lengths _ _, allowed.1, allowed.2, rfl⟩
      · cases answered
  | insertArticles rows =>
      simp only [answer] at answered
      split at answered
      · rename_i allowed
        obtain ⟨-, rfl⟩ := Prod.mk.inj (Option.some.inj answered)
        exact ⟨_, lengths _ _, allowed, rfl⟩
      · cases answered
  | commit =>
      obtain ⟨-, rfl⟩ := Prod.mk.inj (Option.some.inj answered)
      rfl
  | selectUsers emails =>
      obtain ⟨rfl, rfl⟩ := Prod.mk.inj (Option.some.inj answered)
      exact ⟨List.Perm.refl _, rfl⟩
  | selectRoleIds name =>
      obtain ⟨rfl, rfl⟩ := Prod.mk.inj (Option.some.inj answered)
      exact ⟨List.Perm.refl _, rfl⟩
  | _ =>
      obtain ⟨rfl, rfl⟩ := Prod.mk.inj (Option.some.inj answered)
      exact ⟨rfl, rfl⟩

/-- The first integer below `n` that the high bits of a word of 32 make, and the words after it. -/
def firstBelow (n : ℕ) : List ℕ → ℕ × List ℕ
  | [] => (0, [])
  | word :: rest =>
      let value := word / 2 ^ (32 - (Nat.log2 n + 1))
      if value < n then (value, rest) else firstBelow n rest

def firstShare : List ℕ → ℚ × List ℕ
  | high :: low :: rest => (mkRat (high / 2 ^ 5 * 2 ^ 26 + low / 2 ^ 6 : ℕ) (2 ^ 53), rest)
  | _ => (0, [])

theorem firstBelow_lt (n : ℕ) (words : List ℕ) (some : 0 < n) : (firstBelow n words).1 < n := by
  induction words with
  | nil => exact some
  | cons word rest ih =>
      rw [firstBelow]
      split
      · assumption
      · exact ih

/-- The first words of `random.Random(1337)`. -/
def words1337 : List ℕ :=
  [2653228291, 3975144315, 2290358181, 3048911309, 1571306751, 2452336048, 2515937522, 3143464376,
    711621471]

def tableRandom : PseudoRandom where
  State := List ℕ
  seeded seed := if seed = 1337 then words1337 else []
  random := firstShare
  below := firstBelow
  below_lt := firstBelow_lt

def twoArticles (maxBodyBytes : ℕ) (some : 1 ≤ maxBodyBytes) : SeedPlan where
  articles := 2
  authors := 1
  hotShare := 0
  minBodyBytes := 1
  maxBodyBytes := maxBodyBytes
  batchSize := 1
  seed := 1337
  authors_pos := le_rfl
  hotShare_double := double_zero
  hotShare_nonneg := le_rfl
  hotShare_lt := one_pos
  minBodyBytes_pos := le_rfl
  bodyBytes_le := some
  batchSize_pos := le_rfl

def migrated : Tables := ⟨[(1, "user"), (2, "admin")], [], []⟩

def withBodies (bodies : List String) : Tables where
  roles := migrated.roles
  users := [(1, ⟨authorEmail 0, unusablePasswordHash, 1⟩)]
  articles := bodies.mapIdx fun index body =>
    ((index + 1 : ℕ), ⟨1, "Load test article " ++ toString (index + 1), body⟩)

theorem migrated_sound : migrated.Sound :=
  ⟨List.nodup_nil, List.nodup_nil, fun _ impossible => by cases impossible⟩

/-- A run that is interrupted after its first batch. -/
theorem interrupted_once {plan : SeedPlan} {rng : PseudoRandom} {tables : Tables}
    (reached : executeFor SeedOp.answer 8 (seed plan rng) migrated.opened = some tables.opened) :
    Interrupted plan rng [(dataset plan tables).length] migrated tables :=
  .run (executeFor_cutOff SeedOp.exec_of_answer reached) (.none tables)

/-- With bodies of one or two bytes, the run that takes over writes two bytes where one run
writes one. -/
theorem resumed_bodies_start_over : migrated.Sound ∧
    dataset (twoArticles 2 (by decide)) migrated = [] ∧ ∃ last result s single alone,
      Interrupted (twoArticles 2 (by decide)) tableRandom [1] migrated last ∧
      Runs SeedOp.exec (seed (twoArticles 2 (by decide)) tableRandom) last.opened (.ok result) s ∧
      Runs SeedOp.exec (seed (twoArticles 2 (by decide)) tableRandom) migrated.opened (.ok single)
        alone ∧
      ¬Resumes (twoArticles 2 (by decide)) tableRandom s.committed alone.committed := by
  have cut : executeFor SeedOp.answer 8 (seed (twoArticles 2 (by decide)) tableRandom)
      migrated.opened = some (withBodies ["th"]).opened := by decide +kernel
  have resumed : execute SeedOp.answer (seed (twoArticles 2 (by decide)) tableRandom)
      (withBodies ["th"]).opened =
        some (.ok ⟨0, 1, 1, some 1, some 2⟩, (withBodies ["th", "th"]).opened) := by
    decide +kernel
  have alone : execute SeedOp.answer (seed (twoArticles 2 (by decide)) tableRandom)
      migrated.opened = some (.ok ⟨1, 0, 2, some 1, some 2⟩, (withBodies ["th", "t"]).opened) := by
    decide +kernel
  refine ⟨migrated_sound, rfl, withBodies ["th"], _, _, _, _, interrupted_once cut,
    execute_runs SeedOp.exec_of_answer resumed, execute_runs SeedOp.exec_of_answer alone, ?_⟩
  intro resumes
  have differ : dataset (twoArticles 2 (by decide)) (withBodies ["th", "th"]) ≠
      dataset (twoArticles 2 (by decide)) (withBodies ["th", "t"]) := by decide +kernel
  exact differ resumes.same

/-- With bodies of one byte, the run that takes over makes the dataset of one run. -/
theorem seeding_resumes_of_equal_sizes :
    Resumes (twoArticles 1 le_rfl) tableRandom (withBodies ["t", "t"]) (withBodies ["t", "t"]) := by
  have cut : executeFor SeedOp.answer 8 (seed (twoArticles 1 le_rfl) tableRandom) migrated.opened =
      some (withBodies ["t"]).opened := by decide +kernel
  have resumed : execute SeedOp.answer (seed (twoArticles 1 le_rfl) tableRandom)
      (withBodies ["t"]).opened =
        some (.ok ⟨0, 1, 1, some 1, some 2⟩, (withBodies ["t", "t"]).opened) := by decide +kernel
  have alone : execute SeedOp.answer (seed (twoArticles 1 le_rfl) tableRandom) migrated.opened =
      some (.ok ⟨1, 0, 2, some 1, some 2⟩, (withBodies ["t", "t"]).opened) := by decide +kernel
  refine (seeding_resumes_iff migrated_sound rfl (interrupted_once cut)
    (execute_runs SeedOp.exec_of_answer resumed) (execute_runs SeedOp.exec_of_answer alone)).mpr ?_
  have one : ∀ place, (twoArticles 1 le_rfl).bodySize tableRandom place = 1 := by
    intro place
    have below := firstBelow_lt 1 ((twoArticles 1 le_rfl).bodyState tableRandom place) one_pos
    exact congrArg (1 + ·) (Nat.lt_one_iff.mp below)
  exact ⟨fun place _ => (one place).trans (one _).symm,
    fun place _ => (one place).trans (one _).symm, trivial⟩

end ContentPlatform
