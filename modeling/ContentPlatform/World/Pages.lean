import Mathlib.Data.Prod.Lex
import ContentPlatform.Keyset
import ContentPlatform.World.Lists

/-!
# The pages of the list query

What `_load_page` makes of a committed state is a page over the keys `(created_at, id)` of its rows.
-/

set_option autoImplicit false

namespace ContentPlatform

open Keyset

/-! ## Keys -/

/-- `(created_at, id)`, in the order of the list query. -/
abbrev PageKey : Type := ℤ ×ₗ ℤ

def Position.key (position : Position) : PageKey := toLex (position.1.val, position.2)

def ArticleRow.key (row : ArticleRow) : PageKey := toLex (row.createdAt.val, row.id)

def ArticleSummaryOut.key (item : ArticleSummaryOut) : PageKey := toLex (item.createdAt.val, item.id)

def nextKey (next : Option Position) : Option PageKey := next.map Position.key

def ArticleRow.Listed (author : Option ℤ) (row : ArticleRow) : Prop :=
  row.live = true ∧ ∀ authorId, author = some authorId → row.authorId = authorId

def Table.pageKeys (table : Table) (author : Option ℤ) : Set PageKey :=
  { k | ∃ row ∈ table.rows, row.Listed author ∧ row.key = k }

theorem key_lt {row other : ArticleRow} : row.key < other.key ↔
    row.createdAt.val < other.createdAt.val ∨ (row.createdAt = other.createdAt ∧ row.id < other.id) := by
  rw [ArticleRow.key, ArticleRow.key, Prod.Lex.toLex_lt_toLex]
  simp only [Subtype.ext_iff]

theorem window_selects {limit : ℤ} {after : Option Position} {author : Option ℤ}
    {row : ArticleRow} :
    (⟨limit, after, author⟩ : Window).selects row = true ↔
      row.Listed author ∧ Below (nextKey after) row.key := by
  have under : ∀ position : Position, Below (nextKey (some position)) row.key ↔
      row.createdAt.val < position.1.val ∨ (row.createdAt = position.1 ∧ row.id < position.2) := by
    intro position
    rw [nextKey, Option.map_some, below_some, ArticleRow.key, Position.key,
      Prod.Lex.toLex_lt_toLex]
    simp only [Subtype.ext_iff]
  cases author with
  | none =>
      cases after with
      | none => simp [Window.selects, ArticleRow.Listed, nextKey, below_none]
      | some position => simp [Window.selects, ArticleRow.Listed, under, Subtype.ext_iff]
  | some authorId =>
      cases after with
      | none => simp [Window.selects, ArticleRow.Listed, nextKey, below_none]
      | some position => simp [Window.selects, ArticleRow.Listed, under, Subtype.ext_iff]

theorem newer_key {row other : ArticleRow} (newer : Newer row other)
    (distinct : row.id ≠ other.id) :
    other.key < row.key := by
  rw [key_lt]
  rcases newer with older | ⟨same, least⟩
  · exact Or.inl older
  · exact Or.inr ⟨same, lt_of_le_of_ne least distinct.symm⟩

/-! ## Pages -/

def Table.selected (table : Table) (window : Window) : List ArticleRow :=
  (table.rows.filter window.selects).insertionSort Newer

theorem newer_total (row other : ArticleRow) : Newer row other ∨ Newer other row := by
  by_cases older : other.createdAt.val < row.createdAt.val
  · exact Or.inl (Or.inl older)
  · by_cases newer : row.createdAt.val < other.createdAt.val
    · exact Or.inr (Or.inl newer)
    · have same : row.createdAt = other.createdAt := Subtype.ext (by omega)
      rcases le_total other.id row.id with least | least
      · exact Or.inl (Or.inr ⟨same.symm, least⟩)
      · exact Or.inr (Or.inr ⟨same, least⟩)

theorem newer_trans {a b c : ArticleRow} (first : Newer a b) (second : Newer b c) : Newer a c := by
  rcases first with older | ⟨same, least⟩
  · rcases second with older' | ⟨same', -⟩
    · exact Or.inl (older'.trans older)
    · exact Or.inl (by rw [same']; exact older)
  · rcases second with older' | ⟨same', least'⟩
    · exact Or.inl (by rw [← same]; exact older')
    · exact Or.inr ⟨same'.trans same, least'.trans least⟩

theorem selected_descends (table : Table) (window : Window) :
    ((table.selected window).map ArticleRow.key).Pairwise fun k l => l < k := by
  have : IsTrans ArticleRow Newer := ⟨fun _ _ _ => newer_trans⟩
  have : Std.Total Newer := ⟨newer_total⟩
  have sorted : (table.selected window).Pairwise Newer := List.pairwise_insertionSort Newer _
  have ids : ((table.selected window).map ArticleRow.id).Nodup := by
    have permuted := (List.perm_insertionSort Newer (table.rows.filter window.selects)).map
      ArticleRow.id
    rw [Table.selected, permuted.nodup_iff]
    exact table.distinct.sublist (List.filter_sublist.map _)
  rw [List.Nodup, List.pairwise_map] at ids
  rw [List.pairwise_map]
  exact sorted.imp₂ (fun row other newer distinct => newer_key newer distinct) ids

theorem mem_selected_keys (table : Table) (limit : ℤ) (after : Option Position) (author : Option ℤ)
    (k : PageKey) : k ∈ (table.selected ⟨limit, after, author⟩).map ArticleRow.key ↔
      k ∈ table.pageKeys author ∧ Below (nextKey after) k := by
  rw [List.mem_map]
  constructor
  · rintro ⟨row, member, rfl⟩
    rw [Table.selected, List.mem_insertionSort, List.mem_filter, window_selects] at member
    exact ⟨⟨row, member.1, member.2.1, rfl⟩, member.2.2⟩
  · rintro ⟨⟨row, member, listed, rfl⟩, below⟩
    refine ⟨row, ?_, rfl⟩
    rw [Table.selected, List.mem_insertionSort, List.mem_filter, window_selects]
    exact ⟨member, listed, below⟩

/-- What the service answers with on a committed state is a page over its keys. -/
theorem Table.Shows.is_page {table : Table} {limit : ℤ} {after : Option Position}
    {author : Option ℤ} {page : Page} (shows_ : table.Shows limit after author page)
    (positive : 1 ≤ limit) :
    IsPage (table.pageKeys author) (nextKey after) (page.1.map ArticleSummaryOut.key)
      (nextKey page.2) := by
  obtain ⟨size, rfl⟩ : ∃ size : ℕ, limit = size := ⟨limit.toNat, by omega⟩
  have exact_ := mem_selected_keys table ((size : ℤ) + 1) after author
  have descends := selected_descends table ⟨(size : ℤ) + 1, after, author⟩
  have fetched : table.fetch ((size : ℤ) + 1) after author =
      ((table.selected ⟨(size : ℤ) + 1, after, author⟩).take (size + 1)).map ArticleRow.summary := by
    rw [Table.fetch, Table.select, show ((size : ℤ) + 1).toNat = size + 1 by omega]
    rfl
  rw [Table.Shows, fetched, splitPage] at shows_
  generalize table.selected ⟨(size : ℤ) + 1, after, author⟩ = all at exact_ descends shows_
  have keys : ∀ rows : List ArticleRow,
      (rows.map ArticleRow.summary).map ArticleSummaryOut.key = rows.map ArticleRow.key := by
    intro rows
    rw [List.map_map]
    rfl
  split at shows_
  · -- everything that is selected
    rename_i short
    obtain rfl := Except.ok.inj shows_
    have whole : all.take (size + 1) = all := by
      apply List.take_of_length_le
      rw [List.length_map, List.length_take] at short
      omega
    rw [whole, keys]
    exact IsPage.of_all descends exact_
  · have first : sliceTo ((all.take (size + 1)).map ArticleRow.summary) (size : ℤ) =
        (all.take size).map ArticleRow.summary := by
      rw [sliceTo, if_pos (by omega), Int.toNat_natCast, ← List.map_take, List.take_take,
        min_eq_left (Nat.le_succ size)]
    rw [first] at shows_
    split at shows_
    · rename_i last ends
      obtain rfl := Except.ok.inj shows_
      rw [keys]
      rw [List.getLast?_map] at ends
      obtain ⟨row, end_, rfl⟩ := Option.map_eq_some_iff.mp ends
      rw [List.map_take]
      apply IsPage.of_take descends exact_
      rw [← List.map_take, List.getLast?_map, end_]
      rfl
    · cases shows_

end ContentPlatform
