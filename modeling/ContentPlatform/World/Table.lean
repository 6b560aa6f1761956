import Mathlib.Data.List.Nodup
import Mathlib.Data.List.Sort
import ContentPlatform.Values

/-!
# The articles table

A finite set of rows with distinct positive ids, and the list query over it.
-/

set_option autoImplicit false

namespace ContentPlatform

structure Table where
  rows : List ArticleRow
  distinct : (rows.map ArticleRow.id).Nodup
  positive : ∀ row ∈ rows, 0 < row.id

/-- `row` comes no later than `other` in the order of a page: newest first, ties by larger id. -/
def Newer (row other : ArticleRow) : Prop :=
  other.createdAt.val < row.createdAt.val ∨ (other.createdAt = row.createdAt ∧ other.id ≤ row.id)

instance : DecidableRel Newer := fun row other =>
  inferInstanceAs (Decidable (other.createdAt.val < row.createdAt.val ∨ _))

/-- The `WHERE` clause of the list query. -/
def Window.selects (window : Window) (row : ArticleRow) : Bool :=
  row.live &&
    (match window.author with
      | none => true
      | some authorId => row.authorId == authorId) &&
    match window.after with
    | none => true
    | some (createdAt, articleId) =>
        decide (row.createdAt.val < createdAt.val) ||
          (row.createdAt == createdAt && decide (row.id < articleId))

namespace Table

def empty : Table := ⟨[], List.nodup_nil, fun _ member => nomatch member⟩

def find (table : Table) (id : ℤ) : Option ArticleRow :=
  table.rows.find? fun row => row.id == id

/-- Write a row under its id, over the row that has this id if there is one. -/
def put (table : Table) (row : ArticleRow) : Table :=
  if present : row.id ∈ table.rows.map ArticleRow.id then
    { rows := table.rows.map fun other => if other.id = row.id then row else other
      distinct := by
        have same : (table.rows.map fun other => if other.id = row.id then row else other).map
            ArticleRow.id = table.rows.map ArticleRow.id := by
          rw [List.map_map]
          refine List.map_congr_left fun other _ => ?_
          by_cases equal : other.id = row.id <;> simp [equal]
        rw [same]
        exact table.distinct
      positive := by
        intro written member
        obtain ⟨other, inside, rfl⟩ := List.mem_map.mp member
        by_cases equal : other.id = row.id
        · simpa [equal] using equal ▸ table.positive other inside
        · simpa [equal] using table.positive other inside }
  else if positive : 0 < row.id then
    { rows := table.rows ++ [row]
      distinct := by
        rw [List.map_append, List.nodup_append]
        refine ⟨table.distinct, List.nodup_singleton _, ?_⟩
        intro id inside other single
        rw [List.map_singleton, List.mem_singleton] at single
        rintro rfl
        exact present (single ▸ inside)
      positive := by
        intro written member
        rcases List.mem_append.mp member with inside | single
        · exact table.positive written inside
        · rw [List.mem_singleton.mp single]
          exact positive }
  else table

def overlay (table : Table) (writes : List ArticleRow) : Table := writes.foldl put table

@[simp] theorem overlay_nil (table : Table) : table.overlay [] = table := rfl

@[simp] theorem overlay_singleton (table : Table) (row : ArticleRow) :
    table.overlay [row] = table.put row := rfl

/-- The rows a list query of the window answers with, at most `count` of them. -/
def select (table : Table) (window : Window) (count : ℕ) : List ArticleRow :=
  ((table.rows.filter window.selects).insertionSort Newer).take count

theorem find_some {table : Table} {id : ℤ} {row : ArticleRow} :
    table.find id = some row ↔ row ∈ table.rows ∧ row.id = id := by
  constructor
  · intro found
    exact ⟨List.mem_of_find?_eq_some found, by simpa using List.find?_some found⟩
  · rintro ⟨member, rfl⟩
    have some_found : (table.find row.id).isSome := by
      rw [find, List.find?_isSome]
      exact ⟨row, member, by simp⟩
    obtain ⟨other, found⟩ := Option.isSome_iff_exists.mp some_found
    have inside := List.mem_of_find?_eq_some found
    have same : other.id = row.id := by simpa using List.find?_some found
    rw [found, List.inj_on_of_nodup_map table.distinct inside member same]

theorem find_id {table : Table} {id : ℤ} {row : ArticleRow} (found : table.find id = some row) :
    row.id = id := (find_some.mp found).2

theorem find_none {table : Table} {id : ℤ} :
    table.find id = none ↔ id ∉ table.rows.map ArticleRow.id := by
  simp [find, List.find?_eq_none]

theorem find_put (table : Table) (row : ArticleRow) (positive : 0 < row.id) (id : ℤ) :
    (table.put row).find id = if id = row.id then some row else table.find id := by
  by_cases present : row.id ∈ table.rows.map ArticleRow.id
  · have rows : (table.put row).rows =
        table.rows.map fun other => if other.id = row.id then row else other := by
      rw [put, dif_pos present]
    by_cases same : id = row.id
    · subst same
      rw [if_pos rfl, find_some, rows]
      obtain ⟨other, inside, equal⟩ := List.mem_map.mp present
      exact ⟨List.mem_map.mpr ⟨other, inside, if_pos equal⟩, rfl⟩
    · rw [if_neg same]
      cases found : table.find id with
      | none =>
          rw [find_none] at found ⊢
          rw [rows, List.map_map]
          intro member
          obtain ⟨other, inside, equal⟩ := List.mem_map.mp member
          by_cases hit : other.id = row.id
          · simp only [Function.comp_apply, if_pos hit] at equal
            exact same equal.symm
          · simp only [Function.comp_apply, if_neg hit] at equal
            exact found (List.mem_map.mpr ⟨other, inside, equal⟩)
      | some other =>
          obtain ⟨inside, equal⟩ := find_some.mp found
          rw [find_some, rows]
          exact ⟨List.mem_map.mpr ⟨other, inside, if_neg (equal ▸ same)⟩, equal⟩
  · have rows : (table.put row).rows = table.rows ++ [row] := by
      rw [put, dif_neg present, dif_pos positive]
    simp only [find, rows, List.find?_append]
    by_cases same : id = row.id
    · subst same
      have missing : table.find row.id = none := find_none.mpr present
      simp only [find] at missing
      simp [missing]
    · cases found : table.rows.find? fun other => other.id == id with
      | none => simp [same, Ne.symm same]
      | some other => simp [same]

/-- Writing a row that is there as it is changes nothing. -/
theorem put_self {table : Table} {row : ArticleRow} (found : table.find row.id = some row) :
    table.put row = table := by
  obtain ⟨member, -⟩ := find_some.mp found
  have same : (table.rows.map fun other => if other.id = row.id then row else other) =
      table.rows := by
    refine (List.map_congr_left fun other inside => ?_).trans (List.map_id _)
    by_cases equal : other.id = row.id
    · rw [if_pos equal]
      exact List.inj_on_of_nodup_map table.distinct member inside equal.symm
    · rw [if_neg equal]
      rfl
  have present : row.id ∈ table.rows.map ArticleRow.id := List.mem_map_of_mem member
  rw [put, dif_pos present]
  cases table
  simp only [same]

theorem find_positive {table : Table} {id : ℤ} {row : ArticleRow}
    (found : table.find id = some row) : 0 < id :=
  (find_some.mp found).2 ▸ table.positive row (find_some.mp found).1

end Table

end ContentPlatform
