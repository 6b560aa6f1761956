import ContentPlatform.Rounding
import ContentPlatform.Runtime

/-!
# Cache keys

`app/cache/keys.py`.  The namespaces of the keys are disjoint, and a page key
determines the counter value and the window digest it was built from.
-/

set_option autoImplicit false

namespace ContentPlatform

open Program Py Text

def articleKey (articleId : ℤ) : String := "article:" ++ toString articleId

def generationKey : String := "articles:list:gen"

def authorGenerationKey (authorId : ℤ) : String := "articles:list:gen:author:" ++ toString authorId

def lockKey (key : String) : String := "lock:" ++ key

def filterMaterial (limit : ℤ) : Option (ℤ × ℤ) → String
  | none => "l" ++ toString limit ++ ":none"
  | some (micros, articleId) =>
      "l" ++ toString limit ++ ":" ++ toString micros ++ ":" ++ toString articleId

def filterHash (rt : Runtime) (limit : ℤ) (after : Option (ℤ × ℤ)) : String :=
  String.ofList ((rt.sha256Hex (filterMaterial limit after)).toList.take 16)

def listKey (rt : Runtime) (generation : ℤ) (authorId : Option ℤ) (limit : ℤ)
    (after : Option (ℤ × ℤ)) : String :=
  match authorId with
  | none => "articles:list:g" ++ toString generation ++ ":all:" ++ filterHash rt limit after
  | some authorId =>
      "articles:list:a" ++ toString authorId ++ ":g" ++ toString generation ++ ":" ++
        filterHash rt limit after

def cursorParts (after : Option Position) : Option (ℤ × ℤ) :=
  after.map fun (createdAt, articleId) => (createdAt.epochMicros, articleId)

def jitteredTtl (baseSeconds : ℤ) (jitter : ℚ) : Py ℤ :=
  if jitter ≤ 0 then return baseSeconds
  else do
    let spread := baseSeconds * jitter
    let drawn ← uniform (baseSeconds - spread) (baseSeconds + spread)
    return max 1 (roundHalfEven drawn)

def counterKey : Option ℤ → String
  | none => generationKey
  | some authorId => authorGenerationKey authorId

/-! ## Namespaces -/

theorem intChars_append_colon (m n : ℤ) (xs ys : List Char)
    (same : intChars m ++ ':' :: xs = intChars n ++ ':' :: ys) : m = n ∧ xs = ys := by
  have plain : ∀ k : ℤ, ∀ c ∈ intChars k, decide (c ≠ ':') = true := by
    intro k c member
    rw [decide_eq_true_eq]
    rintro rfl
    rcases intChars_isDigit_or_sign k _ member with h | h <;> exact absurd h (by decide)
  have front : ∀ (k : ℤ) (zs : List Char),
      (intChars k ++ ':' :: zs).takeWhile (· ≠ ':') = intChars k := by
    intro k zs
    rw [List.takeWhile_append_of_pos (plain k)]
    simp
  have numbers : intChars m = intChars n := by rw [← front m xs, same, front]
  rw [numbers, List.append_cancel_left_eq] at same
  exact ⟨intChars_injective m n numbers, (List.cons.inj same).2⟩

theorem toList_filterMaterial_none (limit : ℤ) :
    (filterMaterial limit none).toList = 'l' :: (intChars limit ++ ':' :: "none".toList) := by
  have front : "l".toList = ['l'] := by decide
  have back : ":none".toList = ':' :: "none".toList := by decide
  rw [filterMaterial, String.toList_append, String.toList_append, front, back, intChars,
    List.append_assoc, List.singleton_append]

theorem toList_filterMaterial_some (limit micros articleId : ℤ) :
    (filterMaterial limit (some (micros, articleId))).toList =
      'l' :: (intChars limit ++ ':' :: (intChars micros ++ ':' :: intChars articleId)) := by
  have front : "l".toList = ['l'] := by decide
  have colon : ":".toList = [':'] := by decide
  rw [filterMaterial, String.toList_append, String.toList_append, String.toList_append,
    String.toList_append, String.toList_append, front, colon]
  rw [List.append_assoc, List.append_assoc, List.append_assoc, List.append_assoc, intChars,
    intChars, intChars]
  rw [List.singleton_append, List.singleton_append, List.singleton_append]

/-- A page window is told by the text that is digested. -/
theorem filterMaterial_injective {limit limit' : ℤ} {after after' : Option (ℤ × ℤ)}
    (same : filterMaterial limit after = filterMaterial limit' after') :
    limit = limit' ∧ after = after' := by
  have chars := congrArg String.toList same
  -- `none` is not the text of a number
  have word : ∀ (micros : ℤ) (xs : List Char), "none".toList ≠ intChars micros ++ ':' :: xs := by
    intro micros xs clash
    have member : ':' ∈ "none".toList := by
      rw [clash]
      simp
    exact absurd member (by decide)
  cases after with
  | none =>
      rw [toList_filterMaterial_none] at chars
      cases after' with
      | none =>
          rw [toList_filterMaterial_none] at chars
          exact ⟨(intChars_append_colon _ _ _ _ (List.cons.inj chars).2).1, rfl⟩
      | some position =>
          rw [toList_filterMaterial_some] at chars
          exact absurd (intChars_append_colon _ _ _ _ (List.cons.inj chars).2).2 (word _ _)
  | some position =>
      rw [toList_filterMaterial_some] at chars
      cases after' with
      | none =>
          rw [toList_filterMaterial_none] at chars
          exact absurd (intChars_append_colon _ _ _ _ (List.cons.inj chars).2).2.symm (word _ _)
      | some position' =>
          rw [toList_filterMaterial_some] at chars
          obtain ⟨limits, rest⟩ := intChars_append_colon _ _ _ _ (List.cons.inj chars).2
          obtain ⟨micros, ids⟩ := intChars_append_colon _ _ _ _ rest
          exact ⟨limits, congrArg some (Prod.ext micros (intChars_injective _ _ ids))⟩

theorem cursorParts_injective : Function.Injective cursorParts := by
  intro after after' same
  cases after with
  | none =>
      cases after' with
      | none => rfl
      | some position => cases same
  | some position =>
      cases after' with
      | none => cases same
      | some position' =>
          obtain ⟨createdAt, articleId⟩ := position
          obtain ⟨createdAt', articleId'⟩ := position'
          obtain ⟨micros, rfl⟩ := Prod.mk.inj (Option.some.inj same)
          rw [DateTime.epochMicros_eq, DateTime.epochMicros_eq] at micros
          rw [Subtype.ext micros]

theorem toList_articleKey (articleId : ℤ) :
    (articleKey articleId).toList = "article:".toList ++ intChars articleId :=
  String.toList_append

theorem articleKey_injective : Function.Injective articleKey := by
  intro a b same
  have chars := congrArg String.toList same
  rw [toList_articleKey, toList_articleKey, List.append_cancel_left_eq] at chars
  exact intChars_injective a b chars

theorem toList_lockKey (key : String) : (lockKey key).toList = "lock:".toList ++ key.toList :=
  String.toList_append

theorem lockKey_injective : Function.Injective lockKey := by
  intro a b same
  have chars := congrArg String.toList same
  rw [toList_lockKey, toList_lockKey, List.append_cancel_left_eq] at chars
  exact String.toList_inj.mp chars

theorem toList_authorGenerationKey (authorId : ℤ) :
    (authorGenerationKey authorId).toList =
      "articles:list:gen:author:".toList ++ intChars authorId :=
  String.toList_append

theorem toList_listKey_all (rt : Runtime) (generation limit : ℤ) (after : Option (ℤ × ℤ)) :
    (listKey rt generation none limit after).toList =
      "articles:list:g".toList ++ (intChars generation ++ ':' ::
        ("all:".toList ++ (filterHash rt limit after).toList)) := by
  have allPart : ":all:".toList = ':' :: "all:".toList := by decide
  have key : listKey rt generation none limit after =
      "articles:list:g" ++ toString generation ++ ":all:" ++ filterHash rt limit after := rfl
  generalize filterHash rt limit after = digest at key ⊢
  rw [key, String.toList_append, String.toList_append, String.toList_append, allPart,
    List.append_assoc, List.append_assoc, intChars, List.cons_append]

theorem toList_listKey_author (rt : Runtime) (generation authorId limit : ℤ)
    (after : Option (ℤ × ℤ)) :
    (listKey rt generation (some authorId) limit after).toList =
      "articles:list:a".toList ++ (intChars authorId ++ ':' :: 'g' :: (intChars generation ++ ':' ::
        (filterHash rt limit after).toList)) := by
  have genPart : ":g".toList = [':', 'g'] := by decide
  have colon : ":".toList = [':'] := by decide
  have key : listKey rt generation (some authorId) limit after =
      "articles:list:a" ++ toString authorId ++ ":g" ++ toString generation ++ ":" ++
        filterHash rt limit after := rfl
  generalize filterHash rt limit after = digest at key ⊢
  rw [key, String.toList_append, String.toList_append, String.toList_append,
    String.toList_append, String.toList_append, genPart, colon]
  rw [List.append_assoc, List.append_assoc, List.append_assoc, List.append_assoc, intChars,
    intChars]
  rw [List.cons_append, List.cons_append, List.nil_append, List.cons_append, List.nil_append]

theorem counterKey_injective : Function.Injective counterKey := by
  intro a b same
  have chars := congrArg String.toList same
  cases a with
  | none =>
      cases b with
      | none => rfl
      | some b =>
          rw [counterKey, counterKey, toList_authorGenerationKey] at chars
          have := congrArg List.length chars
          simp [generationKey] at this
  | some a =>
      cases b with
      | none =>
          rw [counterKey, counterKey, toList_authorGenerationKey] at chars
          have := congrArg List.length chars
          simp [generationKey] at this
      | some b =>
          rw [counterKey, counterKey, toList_authorGenerationKey, toList_authorGenerationKey,
            List.append_cancel_left_eq] at chars
          rw [intChars_injective a b chars]

theorem listKey_injective (rt : Runtime) {g g' limit limit' : ℤ} {author author' : Option ℤ}
    {after after' : Option (ℤ × ℤ)}
    (same : listKey rt g author limit after = listKey rt g' author' limit' after') :
    g = g' ∧ author = author' ∧ filterHash rt limit after = filterHash rt limit' after' := by
  have chars := congrArg String.toList same
  cases author with
  | none =>
      cases author' with
      | none =>
          rw [toList_listKey_all, toList_listKey_all, List.append_cancel_left_eq] at chars
          obtain ⟨rfl, rest⟩ := intChars_append_colon _ _ _ _ chars
          rw [List.append_cancel_left_eq] at rest
          exact ⟨rfl, rfl, String.toList_inj.mp rest⟩
      | some author' =>
          rw [toList_listKey_all, toList_listKey_author] at chars
          simp at chars
  | some author =>
      cases author' with
      | none =>
          rw [toList_listKey_all, toList_listKey_author] at chars
          simp at chars
      | some author' =>
          rw [toList_listKey_author, toList_listKey_author, List.append_cancel_left_eq] at chars
          obtain ⟨rfl, rest⟩ := intChars_append_colon _ _ _ _ chars
          obtain ⟨rfl, digest⟩ := intChars_append_colon _ _ _ _ (List.cons.inj rest).2
          exact ⟨rfl, rfl, String.toList_inj.mp digest⟩

theorem lockKey_ne_articleKey (key : String) (articleId : ℤ) :
    lockKey key ≠ articleKey articleId := by
  intro same
  have chars := congrArg String.toList same
  rw [toList_lockKey, toList_articleKey] at chars
  simp at chars

theorem lockKey_ne_counterKey (key : String) (author : Option ℤ) :
    lockKey key ≠ counterKey author := by
  intro same
  have chars := congrArg String.toList same
  cases author with
  | none => rw [toList_lockKey] at chars; simp [counterKey, generationKey] at chars
  | some a => rw [toList_lockKey, counterKey, toList_authorGenerationKey] at chars; simp at chars

theorem lockKey_ne_listKey (key : String) (rt : Runtime) (g limit : ℤ) (author : Option ℤ)
    (after : Option (ℤ × ℤ)) : lockKey key ≠ listKey rt g author limit after := by
  intro same
  have chars := congrArg String.toList same
  cases author with
  | none => rw [toList_lockKey, toList_listKey_all] at chars; simp at chars
  | some a => rw [toList_lockKey, toList_listKey_author] at chars; simp at chars

theorem articleKey_ne_counterKey (articleId : ℤ) (author : Option ℤ) :
    articleKey articleId ≠ counterKey author := by
  intro same
  have chars := congrArg String.toList same
  cases author with
  | none => rw [toList_articleKey] at chars; simp [counterKey, generationKey] at chars
  | some a => rw [toList_articleKey, counterKey, toList_authorGenerationKey] at chars; simp at chars

theorem articleKey_ne_listKey (articleId : ℤ) (rt : Runtime) (g limit : ℤ) (author : Option ℤ)
    (after : Option (ℤ × ℤ)) : articleKey articleId ≠ listKey rt g author limit after := by
  intro same
  have chars := congrArg String.toList same
  cases author with
  | none => rw [toList_articleKey, toList_listKey_all] at chars; simp at chars
  | some a => rw [toList_articleKey, toList_listKey_author] at chars; simp at chars

theorem listKey_ne_counterKey (rt : Runtime) (g limit : ℤ) (author author' : Option ℤ)
    (after : Option (ℤ × ℤ)) : listKey rt g author limit after ≠ counterKey author' := by
  intro same
  have chars := congrArg String.toList same
  -- the character after `articles:list:g` is `e` in a counter key and part of a number here
  have numeral : ∀ (xs ys : List Char), intChars g ++ ':' :: xs ≠ 'e' :: ys := by
    intro xs ys clash
    cases shape : intChars g with
    | nil => exact intChars_ne_nil g shape
    | cons c cs =>
        rw [shape, List.cons_append] at clash
        obtain ⟨rfl, _⟩ := List.cons.inj clash
        have member : 'e' ∈ intChars g := by rw [shape]; exact List.mem_cons_self ..
        rcases intChars_isDigit_or_sign g _ member with h | h <;> exact absurd h (by decide)
  cases author with
  | none =>
      rw [toList_listKey_all] at chars
      cases author' with
      | none =>
          simp [counterKey, generationKey] at chars
          exact numeral _ _ chars
      | some a =>
          rw [counterKey, toList_authorGenerationKey] at chars
          simp at chars
          exact numeral _ _ chars
  | some author =>
      rw [toList_listKey_author] at chars
      cases author' with
      | none => simp [counterKey, generationKey] at chars
      | some a =>
          rw [counterKey, toList_authorGenerationKey] at chars
          simp at chars

end ContentPlatform
