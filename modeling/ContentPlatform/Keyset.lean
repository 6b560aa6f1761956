import Mathlib.Data.List.Pairwise
import Mathlib.Order.OrderIsoNat

/-!
# Keyset pagination

A set of keys in a linear order is read page by page, largest first, each page below the last key
of the page before.  The set may change between the pages.
-/

set_option autoImplicit false

namespace ContentPlatform.Keyset

variable {K : Type} [LinearOrder K]

/-- Where a page starts: below the last key of the page before, or at the top. -/
def Below (after : Option K) (k : K) : Prop := ∀ a, after = some a → k < a

/-- How far a page has come: down to its last key, or to the bottom. -/
def DownTo (next : Option K) (k : K) : Prop := ∀ a, next = some a → a ≤ k

theorem below_none (k : K) : Below none k := by
  rintro a ⟨⟩

theorem below_some {a k : K} : Below (some a) k ↔ k < a :=
  ⟨fun below => below a rfl, fun lt _ same => Option.some.inj same ▸ lt⟩

theorem downTo_none (k : K) : DownTo none k := by
  rintro a ⟨⟩

theorem below_of_not_downTo {next : Option K} {k : K} (past : ¬DownTo next k) : Below next k := by
  intro a same
  by_contra other
  exact past fun b same' => by
    obtain rfl := Option.some.inj (same.symm.trans same')
    exact not_lt.mp other

/-- A page over one state of the set. -/
structure IsPage (keys : Set K) (after : Option K) (page : List K) (next : Option K) : Prop where
  descends : page.Pairwise fun k l => l < k
  sound : ∀ k ∈ page, k ∈ keys ∧ Below after k ∧ DownTo next k
  complete : ∀ k ∈ keys, Below after k → DownTo next k → k ∈ page
  last : ∀ k, next = some k → k ∈ page

namespace IsPage

variable {keys : Set K} {after next : Option K} {page : List K}

/-- The key that the next page starts below is one of this page. -/
theorem next_below (is_page : IsPage keys after page next) {k : K} (same : next = some k) :
    Below after k :=
  (is_page.sound k (is_page.last k same)).2.1

end IsPage

/-- All keys below `after`, largest first, are a page that comes to the bottom, -/
theorem IsPage.of_all {keys : Set K} {after : Option K} {all : List K}
    (descends : all.Pairwise fun k l => l < k)
    (exact_ : ∀ k, k ∈ all ↔ k ∈ keys ∧ Below after k) : IsPage keys after all none where
  descends := descends
  sound k member := ⟨((exact_ k).mp member).1, ((exact_ k).mp member).2, downTo_none k⟩
  complete k inside below _ := (exact_ k).mpr ⟨inside, below⟩
  last := by rintro k ⟨⟩

/-- and so is a first part of them, down to its last key. -/
theorem IsPage.of_take {keys : Set K} {after : Option K} {all : List K}
    (descends : all.Pairwise fun k l => l < k)
    (exact_ : ∀ k, k ∈ all ↔ k ∈ keys ∧ Below after k) {n : ℕ} {last : K}
    (ends : (all.take n).getLast? = some last) : IsPage keys after (all.take n) (some last) := by
  obtain ⟨front, taken⟩ := List.getLast?_eq_some_iff.mp ends
  have whole : all = front ++ [last] ++ all.drop n := by
    rw [← taken, List.take_append_drop]
  have parts := descends
  rw [whole, List.pairwise_append, List.pairwise_append] at parts
  obtain ⟨⟨-, -, above⟩, -, under⟩ := parts
  have member : last ∈ all.take n := by
    rw [taken]
    exact List.mem_append_right _ (List.mem_singleton_self last)
  refine ⟨descends.sublist (List.take_sublist n all), fun k here => ?_, fun k inside below within => ?_,
    fun k same => ?_⟩
  · obtain ⟨inside, below⟩ := (exact_ k).mp (List.mem_of_mem_take here)
    refine ⟨inside, below, fun a same => ?_⟩
    obtain rfl := Option.some.inj same
    rw [taken, List.mem_append, List.mem_singleton] at here
    rcases here with earlier | rfl
    · exact (above k earlier last (List.mem_singleton_self last)).le
    · exact le_rfl
  · have there := (exact_ k).mpr ⟨inside, below⟩
    rw [whole, List.mem_append, ← taken] at there
    rcases there with here | later
    · exact here
    · have lt := under last (List.mem_append_right _ (List.mem_singleton_self last)) k later
      exact absurd (within last rfl) (not_le.mpr lt)
  · exact Option.some.inj same ▸ member

structure Fetched (K : Type) where
  keys : Set K
  page : List K
  next : Option K

/-- Each page is read below the last key of the page before it, as long as there is one. -/
def Walk : Option K → List (Fetched K) → Prop
  | _, [] => True
  | after, step :: rest => IsPage step.keys after step.page step.next ∧
      (rest = [] ∨ ∃ k, step.next = some k ∧ Walk (some k) rest)

def ending (after : Option K) (steps : List (Fetched K)) : Option K :=
  (steps.getLast?.map Fetched.next).getD after

def keysRead (steps : List (Fetched K)) : List K := steps.flatMap Fetched.page

namespace Walk

variable {after : Option K} {steps : List (Fetched K)}

theorem below (walk : Walk after steps) : ∀ k ∈ keysRead steps, Below after k := by
  induction steps generalizing after with
  | nil => rintro k ⟨⟩
  | cons step rest ih =>
      intro k member
      rw [keysRead, List.flatMap_cons, List.mem_append] at member
      obtain ⟨is_page, onward⟩ := walk
      rcases member with here | later
      · exact (is_page.sound k here).2.1
      · rcases onward with rfl | ⟨last, same, walk⟩
        · cases later
        · have under := below_some.mp (ih walk k later)
          exact fun a bound => under.trans (is_page.next_below same a bound)

/-- The keys of a walk descend, across its pages too. -/
theorem descends (walk : Walk after steps) : (keysRead steps).Pairwise fun k l => l < k := by
  induction steps generalizing after with
  | nil => exact List.Pairwise.nil
  | cons step rest ih =>
      obtain ⟨is_page, onward⟩ := walk
      rw [keysRead, List.flatMap_cons, List.pairwise_append]
      rcases onward with rfl | ⟨last, same, walk⟩
      · refine ⟨is_page.descends, List.Pairwise.nil, fun k _ l impossible => ?_⟩
        cases impossible
      · refine ⟨is_page.descends, ih walk, fun k here l later => ?_⟩
        have under := below_some.mp (walk.below l later)
        exact under.trans_le ((is_page.sound k here).2.2 last same)

/-- A key that is in every state that was read, and that the walk has come past, was read. -/
theorem complete (walk : Walk after steps) {k : K} (stays : ∀ step ∈ steps, k ∈ step.keys)
    (below : Below after k) (within : DownTo (ending after steps) k) (some_ : steps ≠ []) :
    k ∈ keysRead steps := by
  induction steps generalizing after with
  | nil => exact absurd rfl some_
  | cons step rest ih =>
      obtain ⟨is_page, onward⟩ := walk
      rw [keysRead, List.flatMap_cons, List.mem_append]
      by_cases here : DownTo step.next k
      · exact Or.inl (is_page.complete k (stays step (List.mem_cons_self ..)) below here)
      · right
        rcases onward with rfl | ⟨last, same, walk⟩
        · exact absurd within here
        · have later : rest ≠ [] := by
            rintro rfl
            exact here within
          refine ih walk (fun other member => stays other (List.mem_cons_of_mem _ member))
            (same ▸ below_of_not_downTo here) ?_ later
          obtain ⟨first, others, rfl⟩ := List.exists_cons_of_ne_nil later
          rw [ending, List.getLast?_cons_cons] at within
          have ends := List.getLast?_isSome.mpr (List.cons_ne_nil first others)
          obtain ⟨end_, found⟩ := Option.isSome_iff_exists.mp ends
          rw [found] at within
          rw [ending, found]
          exact within

/-- A walk that has come to the bottom leaves nothing below it in the state it came there in. -/
theorem bottom (walk : Walk after steps) {k : K} (below : Below after k) {last : Fetched K}
    (ends : steps.getLast? = some last) (none_ : last.next = none) (inside : k ∈ last.keys) :
    ∃ l ∈ keysRead steps, l ≤ k := by
  induction steps generalizing after with
  | nil => cases ends
  | cons step rest ih =>
      obtain ⟨is_page, onward⟩ := walk
      rcases onward with rfl | ⟨end_, same, walk⟩
      · obtain rfl : step = last := Option.some.inj ends
        rw [none_] at is_page
        refine ⟨k, ?_, le_rfl⟩
        rw [keysRead, List.flatMap_singleton]
        exact is_page.complete k inside below (downTo_none k)
      · by_cases under : k < end_
        · have later : rest.getLast? = some last := by
            cases rest with
            | nil =>
                obtain rfl : step = last := Option.some.inj ends
                rw [none_] at same
                cases same
            | cons first others =>
                rw [List.getLast?_cons_cons] at ends
                exact ends
          obtain ⟨l, member, least⟩ := ih walk (below_some.mpr under) later
          refine ⟨l, ?_, least⟩
          rw [keysRead, List.flatMap_cons]
          exact List.mem_append_right _ member
        · refine ⟨end_, ?_, not_lt.mp under⟩
          rw [keysRead, List.flatMap_cons]
          exact List.mem_append_left _ (is_page.last end_ same)

end Walk

/-- The last keys of the pages of a walk descend, however long it goes on. -/
theorem strictAnti_last {keys : ℕ → Set K} {after : ℕ → Option K} {page : ℕ → List K} {last : ℕ → K}
    (pages : ∀ n, IsPage (keys n) (after n) (page n) (some (last n)))
    (follows : ∀ n, after (n + 1) = some (last n)) : StrictAnti last := by
  apply strictAnti_nat_of_succ_lt
  intro n
  apply below_some.mp
  rw [← follows n]
  exact (pages (n + 1)).next_below rfl

/-- Where there is no infinite descent, no walk goes on for ever. -/
theorem no_endless_walk {W : Type} [Preorder W] [WellFoundedLT W] (rank : K → W)
    {keys : ℕ → Set K} {after : ℕ → Option K} {page : ℕ → List K} {last : ℕ → K}
    (pages : ∀ n, IsPage (keys n) (after n) (page n) (some (last n)))
    (follows : ∀ n, after (n + 1) = some (last n))
    (ranked : ∀ m n, last m < last n → rank (last m) < rank (last n)) : False := by
  apply not_strictAnti_of_wellFoundedLT fun n => rank (last n)
  intro m n order
  exact ranked n m (strictAnti_last pages follows order)

end ContentPlatform.Keyset
