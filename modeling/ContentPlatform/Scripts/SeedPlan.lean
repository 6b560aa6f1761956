import ContentPlatform.Binary64
import ContentPlatform.Text.Decimal

/-!
# What the seeder plans

The pure functions of `scripts/seed_load_dataset.py`.
-/

set_option autoImplicit false

namespace ContentPlatform

open Text

/-- `random.Random`, as the deterministic streams that it makes of a seed. -/
structure PseudoRandom where
  State : Type
  seeded : ℤ → State
  random : State → ℚ × State
  /-- An integer below `n`, which is positive. -/
  below : (n : ℕ) → State → ℕ × State
  below_lt : ∀ n state, 0 < n → (below n state).1 < n

inductive SeedError where
  | valueError (message : String)
  | keyError
  | indexError
  | overflowError
  | noResultFound
  | multipleResultsFound
  deriving DecidableEq

/-- `f"{n:04d}"`. -/
def fourDigits (n : ℕ) : List Char :=
  List.replicate (4 - (Nat.toDigits 10 n).length) '0' ++ Nat.toDigits 10 n

def authorEmail (index : ℕ) : String :=
  "loadtest-author-" ++ String.ofList (fourDigits index) ++ "@loadtest.example"

def unusablePasswordHash : String := "!load-test-account-no-password"

def filler : String := "the quick brown fox jumps over the lazy dog and files a report about it "

/-- A validated request for a dataset. -/
structure SeedPlan where
  articles : ℕ
  authors : ℕ
  hotShare : ℚ
  minBodyBytes : ℕ
  maxBodyBytes : ℕ
  batchSize : ℕ
  seed : ℤ
  authors_pos : 1 ≤ authors
  hotShare_double : double hotShare = hotShare
  hotShare_nonneg : 0 ≤ hotShare
  hotShare_lt : hotShare < 1
  minBodyBytes_pos : 1 ≤ minBodyBytes
  bodyBytes_le : minBodyBytes ≤ maxBodyBytes
  batchSize_pos : 1 ≤ batchSize

/-- `SeedPlan(...)`, with the checks of `__post_init__`.  A float that is not negative is its own
nearest one; `repr` writes it. -/
def SeedPlan.create (repr : ℚ → String) (articles authors : ℤ) (hotShare : ℚ)
    (whole : 0 ≤ hotShare → double hotShare = hotShare)
    (minBodyBytes maxBodyBytes batchSize seed : ℤ) : Except SeedError SeedPlan :=
  if articles < 0 then
    .error (.valueError ("articles must be zero or more, got " ++ toString articles))
  else if few : authors < 1 then
    .error (.valueError ("authors must be one or more, got " ++ toString authors))
  else if out : ¬(0 ≤ hotShare ∧ hotShare < 1) then
    .error (.valueError ("hot share must be in [0, 1), got " ++ repr hotShare))
  else if inverted : minBodyBytes < 1 ∨ maxBodyBytes < minBodyBytes then
    .error (.valueError ("body bounds must satisfy 1 <= min <= max, got " ++
      toString minBodyBytes ++ "-" ++ toString maxBodyBytes))
  else if small : batchSize < 1 then
    .error (.valueError ("batch size must be one or more, got " ++ toString batchSize))
  else
    .ok {
      articles := articles.toNat
      authors := authors.toNat
      hotShare := hotShare
      minBodyBytes := minBodyBytes.toNat
      maxBodyBytes := maxBodyBytes.toNat
      batchSize := batchSize.toNat
      seed := seed
      authors_pos := by omega
      hotShare_double := whole (not_not.mp out).1
      hotShare_nonneg := (not_not.mp out).1
      hotShare_lt := (not_not.mp out).2
      minBodyBytes_pos := by omega
      bodyBytes_le := by omega
      batchSize_pos := by omega }

/-- `plan_batches`. -/
def planBatches (missing batchSize : ℤ) : Except SeedError (List ℕ) :=
  if batchSize < 1 then
    .error (.valueError ("batch size must be one or more, got " ++ toString batchSize))
  else if missing < 0 then
    .error (.valueError ("missing must be zero or more, got " ++ toString missing ++
      "; the table already holds more articles than requested"))
  else
    let full := (missing / batchSize).toNat
    let remainder := (missing % batchSize).toNat
    .ok (List.replicate full batchSize.toNat ++ if remainder = 0 then [] else [remainder])

/-- The first `size` characters of the filler text, repeated. -/
def fillerBody (size : ℕ) : String :=
  let repeats := size / filler.length + 1
  String.ofList ((List.replicate repeats filler.toList).flatten.take size)

abbrev Draw (rng : PseudoRandom) (α : Type) := StateT rng.State (Except SeedError) α

section
variable (rng : PseudoRandom)

/-- `randrange(start, stop)`; `randrange(stop)` starts at zero. -/
def randrange (start stop : ℕ) : Draw rng ℕ := fun state =>
  if start < stop then
    let (offset, state) := rng.below (stop - start) state
    .ok (start + offset, state)
  else
    .error (.valueError ("empty range in randrange(" ++ toString start ++ ", " ++ toString stop ++ ")"))

def randint (low high : ℕ) : Draw rng ℕ := randrange rng low (high + 1)

def buildBody (minBytes maxBytes : ℕ) : Draw rng String := do
  let size ← randint rng minBytes maxBytes
  return fillerBody size

end

namespace SeedPlan

section
variable (plan : SeedPlan)

/-- `int(plan.authors * plan.hot_share)`. -/
def hotCount : Except SeedError ℕ :=
  if 2 ^ 1024 ≤ double plan.authors then .error .overflowError
  else .ok (double (double plan.authors * plan.hotShare)).floor.toNat

def hotTraffic : ℚ := double (1 - plan.hotShare)

def emails : List String := (List.range plan.authors).map authorEmail

variable (rng : PseudoRandom)

/-- One turn of the loop of `author_slots`. -/
def slot (hotCount : ℕ) : Draw rng ℕ :=
  if hotCount = 0 then randrange rng hotCount plan.authors
  else fun state =>
    let (share, state) := rng.random state
    if share < plan.hotTraffic then randrange rng 0 hotCount state
    else randrange rng hotCount plan.authors state

def slots (hotCount : ℕ) : (articles : ℕ) → Draw rng (List ℕ)
  | 0 => return []
  | articles + 1 => do
      let slot ← plan.slot rng hotCount
      let rest ← slots hotCount articles
      return slot :: rest

def authorSlots : Except SeedError (List ℕ) := do
  let hotCount ← plan.hotCount
  let (slots, _) ← plan.slots rng hotCount plan.articles (rng.seeded plan.seed)
  return slots

end

end SeedPlan

/-! ## Plans -/

/-- A plan is made of what no check refuses. -/
theorem SeedPlan.create_ok_iff {repr : ℚ → String} {articles authors : ℤ} {hotShare : ℚ}
    {whole : 0 ≤ hotShare → double hotShare = hotShare}
    {minBodyBytes maxBodyBytes batchSize seed : ℤ} :
    (∃ plan, create repr articles authors hotShare whole minBodyBytes maxBodyBytes batchSize seed =
        .ok plan) ↔
      0 ≤ articles ∧ 1 ≤ authors ∧ (0 ≤ hotShare ∧ hotShare < 1) ∧
        (1 ≤ minBodyBytes ∧ minBodyBytes ≤ maxBodyBytes) ∧ 1 ≤ batchSize := by
  unfold create
  constructor
  · rintro ⟨plan, created⟩
    split at created
    · cases created
    split at created
    · cases created
    split at created
    · cases created
    split at created
    · cases created
    split at created
    · cases created
    rename_i out inverted _
    exact ⟨by omega, by omega, not_not.mp out, by omega, by omega⟩
  · rintro ⟨articles, authors, share, body, batch⟩
    rw [if_neg (by omega), dif_neg (by omega), dif_neg (not_not.mpr share), dif_neg (by omega),
      dif_neg (by omega)]
    exact ⟨_, rfl⟩

/-! ## Batches and bodies -/

/-- The batches are as many rows as are missing, and none of them is empty. -/
theorem planBatches_ok {missing batchSize : ℕ} (some : 1 ≤ batchSize) : ∃ batches,
    planBatches missing batchSize = .ok batches ∧ batches.sum = missing ∧
      ∀ size ∈ batches, 1 ≤ size ∧ size ≤ batchSize := by
  have full : ((missing : ℤ) / batchSize).toNat = missing / batchSize := by
    rw [← Int.natCast_div, Int.toNat_natCast]
  have rest : ((missing : ℤ) % batchSize).toNat = missing % batchSize := by
    rw [← Int.natCast_mod, Int.toNat_natCast]
  have parts := Nat.div_add_mod missing batchSize
  have less := Nat.mod_lt missing some
  rw [planBatches, if_neg (by omega), if_neg (by omega), full, rest, Int.toNat_natCast]
  refine ⟨_, rfl, ?_, ?_⟩
  · rw [List.sum_append, List.sum_replicate_nat, mul_comm]
    split
    · rw [List.sum_nil]
      omega
    · rw [List.sum_singleton]
      omega
  · intro size member
    rcases List.mem_append.mp member with whole | last
    · obtain rfl := List.eq_of_mem_replicate whole
      exact ⟨some, le_rfl⟩
    · split at last
      · cases last
      · obtain rfl := List.mem_singleton.mp last
        omega

theorem planBatches_sum {articles existing batchSize : ℕ} {batches : List ℕ} (some : 1 ≤ batchSize)
    (few : existing ≤ articles)
    (batched : planBatches (max ((articles : ℤ) - existing) 0) batchSize = .ok batches) :
    batches.sum = articles - existing := by
  have missing : max ((articles : ℤ) - existing) 0 = (articles - existing : ℕ) := by omega
  rw [missing] at batched
  obtain ⟨batches', batched', sum, -⟩ := @planBatches_ok (articles - existing) batchSize some
  obtain rfl := Except.ok.inj (batched.symm.trans batched')
  exact sum

theorem fillerBody_length (size : ℕ) : (fillerBody size).length = size := by
  have some : 0 < filler.length := by decide
  have enough : size < filler.length * (size / filler.length + 1) := by
    rw [mul_add, mul_one]
    have parts := Nat.div_add_mod size filler.length
    have less := Nat.mod_lt size some
    omega
  rw [fillerBody, String.length_ofList, List.length_take, List.length_flatten, List.map_replicate,
    List.sum_replicate_nat, String.length_toList, mul_comm]
  exact min_eq_left enough.le

theorem fillerBody_injective : Function.Injective fillerBody := by
  intro size size' same
  rw [← fillerBody_length size, same, fillerBody_length]

/-! ## Authors -/

theorem fourDigits_injective : Function.Injective fourDigits := by
  have read : ∀ n : ℕ, Nat.ofDigitChars 10 (fourDigits n) 0 = n := by
    intro n
    rw [fourDigits, Nat.ofDigitChars_append, Nat.ofDigitChars_replicate_zero, mul_zero,
      Nat.ofDigitChars_ten_toDigits]
  intro n n' same
  rw [← read n, same, read]

theorem toList_between (before after : String) (middle : List Char) :
    (before ++ String.ofList middle ++ after).toList = before.toList ++ middle ++ after.toList := by
  rw [String.toList_append, String.toList_append, String.toList_ofList]

theorem authorEmail_injective : Function.Injective authorEmail := by
  intro index index' same
  have lists := congrArg String.toList same
  have digits : fourDigits index = fourDigits index' := List.append_cancel_left
    (List.append_cancel_right (((toList_between _ _ _).symm.trans lists).trans (toList_between _ _ _)))
  exact fourDigits_injective digits

section
variable {rng : PseudoRandom} {plan : SeedPlan}

theorem hotCount_lt {hotCount : ℕ} (counted : plan.hotCount = .ok hotCount) :
    hotCount < plan.authors := by
  unfold SeedPlan.hotCount at counted
  split at counted
  · cases counted
  · obtain rfl := Except.ok.inj counted
    have share := double_share_lt plan.authors_pos plan.hotShare_nonneg plan.hotShare_lt
      plan.hotShare_double
    have floor := Rat.floor_le (double (double plan.authors * plan.hotShare))
    have below : ((double (double plan.authors * plan.hotShare)).floor : ℚ) <
        (plan.authors : ℤ) := by
      push_cast
      linarith
    have below : (double (double plan.authors * plan.hotShare)).floor < (plan.authors : ℤ) := by
      exact_mod_cast below
    have some := plan.authors_pos
    omega

theorem randrange_ok {start stop : ℕ} (order : start < stop) (state : rng.State) :
    ∃ value state', randrange rng start stop state = .ok (value, state') ∧ start ≤ value ∧
      value < stop := by
  have below := rng.below_lt (stop - start) state (by omega)
  rw [randrange, if_pos order]
  refine ⟨start + (rng.below (stop - start) state).1, _, rfl, Nat.le_add_right _ _, ?_⟩
  omega

theorem slot_ok {hotCount : ℕ} (fewer : hotCount < plan.authors) (state : rng.State) :
    ∃ slot state', plan.slot rng hotCount state = .ok (slot, state') ∧ slot < plan.authors := by
  have cold : ∀ state, ∃ slot state', randrange rng hotCount plan.authors state =
      .ok (slot, state') ∧ slot < plan.authors := by
    intro state
    obtain ⟨slot, state', drawn, -, less⟩ := randrange_ok fewer state
    exact ⟨slot, state', drawn, less⟩
  unfold SeedPlan.slot
  split
  · exact cold state
  · rename_i some
    dsimp only
    split
    · obtain ⟨slot, state', drawn, -, less⟩ :=
        randrange_ok (Nat.pos_of_ne_zero some) (rng.random state).2
      exact ⟨slot, state', drawn, less.trans fewer⟩
    · exact cold _

theorem slots_ok {hotCount : ℕ} (fewer : hotCount < plan.authors) (articles : ℕ)
    (state : rng.State) :
    ∃ slots state', plan.slots rng hotCount articles state = .ok (slots, state') ∧
      slots.length = articles ∧ ∀ slot ∈ slots, slot < plan.authors := by
  induction articles generalizing state with
  | zero => exact ⟨[], state, rfl, rfl, fun _ impossible => by cases impossible⟩
  | succ articles ih =>
      obtain ⟨slot, state₁, first, less⟩ := slot_ok fewer state
      obtain ⟨rest, state₂, others, length, range⟩ := ih state₁
      refine ⟨slot :: rest, state₂, ?_, ?_, ?_⟩
      · show (plan.slot rng hotCount state).bind _ = _
        rw [first]
        show (plan.slots rng hotCount articles state₁).bind _ = _
        rw [others]
        rfl
      · rw [List.length_cons, length]
      · intro other member
        rcases List.mem_cons.mp member with rfl | later
        · exact less
        · exact range other later

/-- There is one author in range for every article, unless their number is no float. -/
theorem authorSlots_ok (finite : double plan.authors < 2 ^ 1024) : ∃ slots,
    plan.authorSlots rng = .ok slots ∧ slots.length = plan.articles ∧
      ∀ slot ∈ slots, slot < plan.authors := by
  have counted : ∃ hotCount, plan.hotCount = .ok hotCount := by
    rw [SeedPlan.hotCount, if_neg finite.not_ge]
    exact ⟨_, rfl⟩
  obtain ⟨hotCount, counted⟩ := counted
  obtain ⟨slots, state, drawn, length, range⟩ :=
    slots_ok (hotCount_lt counted) plan.articles (rng.seeded plan.seed)
  refine ⟨slots, ?_, length, range⟩
  rw [SeedPlan.authorSlots, counted]
  show (plan.slots rng hotCount plan.articles (rng.seeded plan.seed)).bind _ = _
  rw [drawn]
  rfl

theorem authorSlots_spec {slots : List ℕ} (planned : plan.authorSlots rng = .ok slots) :
    slots.length = plan.articles ∧ ∀ slot ∈ slots, slot < plan.authors := by
  by_cases finite : double plan.authors < 2 ^ 1024
  · obtain ⟨slots', planned', spec⟩ := @authorSlots_ok rng plan finite
    obtain rfl := Except.ok.inj (planned.symm.trans planned')
    exact spec
  · rw [SeedPlan.authorSlots, SeedPlan.hotCount, if_pos (not_lt.mp finite)] at planned
    cases planned

end

/-! ## The stream of body sizes -/

namespace SeedPlan

section
variable (plan : SeedPlan) (rng : PseudoRandom)

def bodyDraw (state : rng.State) : ℕ × rng.State :=
  let draw := rng.below (plan.maxBodyBytes + 1 - plan.minBodyBytes) state
  (plan.minBodyBytes + draw.1, draw.2)

def bodyState : ℕ → rng.State
  | 0 => rng.seeded plan.seed
  | bodies + 1 => (plan.bodyDraw rng (bodyState bodies)).2

def bodySize (place : ℕ) : ℕ := (plan.bodyDraw rng (plan.bodyState rng place)).1

theorem buildBody_eq (state : rng.State) :
    buildBody rng plan.minBodyBytes plan.maxBodyBytes state =
      .ok (fillerBody (plan.bodyDraw rng state).1, (plan.bodyDraw rng state).2) := by
  have order : plan.minBodyBytes < plan.maxBodyBytes + 1 := by
    have := plan.bodyBytes_le
    omega
  show (randrange rng plan.minBodyBytes (plan.maxBodyBytes + 1) state).bind _ = _
  rw [randrange, if_pos order]
  rfl

end

end SeedPlan

end ContentPlatform
