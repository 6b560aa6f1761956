import ContentPlatform.Schemas

/-!
# The namespaces of the cache

The key of a call names the builder that was called and its arguments, as long as the digest of the
page windows keeps them apart.
-/

set_option autoImplicit false

namespace ContentPlatform

open Text

/-- The calls of the key builders.  `str` refuses an integer of more than 4300 digits; such a call
has no key. -/
inductive KeyCall where
  | article (articleId : ℤ)
  | generation
  | authorGeneration (authorId : ℤ)
  | list (generation : ℤ) (authorId : Option ℤ) (limit : ℤ) (after : Option Position)
  | lock (guarded : KeyCall)

def KeyCall.key (rt : Runtime) : KeyCall → String
  | .article articleId => articleKey articleId
  | .generation => generationKey
  | .authorGeneration authorId => authorGenerationKey authorId
  | .list value authorId limit after => listKey rt value authorId limit (cursorParts after)
  | .lock guarded => lockKey (guarded.key rt)

/-- The page window of the call, if it has one, is digested from one of the texts. -/
def KeyCall.Within (texts : Set String) : KeyCall → Prop
  | .list _ _ limit after => filterMaterial limit (cursorParts after) ∈ texts
  | .lock guarded => guarded.Within texts
  | _ => True

def digest (rt : Runtime) (text : String) : String :=
  String.ofList ((rt.sha256Hex text).toList.take 16)

theorem filterHash_eq (rt : Runtime) (limit : ℤ) (after : Option (ℤ × ℤ)) :
    filterHash rt limit after = digest rt (filterMaterial limit after) :=
  rfl

/-- Pages of one key are of one counter value, one author and one window. -/
theorem pages_never_collide {rt : Runtime} {texts : Set String}
    (injective : Set.InjOn (digest rt) texts) {value value' : ℤ} {authorId authorId' : Option ℤ}
    {limit limit' : ℤ} {after after' : Option Position}
    (inside : filterMaterial limit (cursorParts after) ∈ texts)
    (inside' : filterMaterial limit' (cursorParts after') ∈ texts)
    (same : listKey rt value authorId limit (cursorParts after) =
      listKey rt value' authorId' limit' (cursorParts after')) :
    value = value' ∧ authorId = authorId' ∧ limit = limit' ∧ after = after' := by
  obtain ⟨values, authors, digests⟩ := listKey_injective rt same
  rw [filterHash_eq, filterHash_eq] at digests
  obtain ⟨limits, parts⟩ := filterMaterial_injective (injective inside inside' digests)
  exact ⟨values, authors, limits, cursorParts_injective parts⟩

/-- Calls of the key builders with one key are one call, where the digests of their page windows
tell the windows apart. -/
theorem keys_never_collide (rt : Runtime) (texts : Set String)
    (injective : Set.InjOn (digest rt) texts) :
    Set.InjOn (KeyCall.key rt) {call | call.Within texts} := by
  intro call inside call' inside' same
  induction call generalizing call' with
  | article articleId =>
      cases call' with
      | article articleId' => rw [articleKey_injective same]
      | generation => exact absurd same (articleKey_ne_counterKey articleId none)
      | authorGeneration authorId' =>
          exact absurd same (articleKey_ne_counterKey articleId (some authorId'))
      | list value' authorId' limit' after' =>
          exact absurd same (articleKey_ne_listKey articleId rt value' limit' authorId' _)
      | lock guarded' => exact absurd same.symm (lockKey_ne_articleKey _ articleId)
  | generation =>
      cases call' with
      | article articleId' => exact absurd same.symm (articleKey_ne_counterKey articleId' none)
      | generation => rfl
      | authorGeneration authorId' =>
          have author : none = some authorId' := counterKey_injective same
          cases author
      | list value' authorId' limit' after' =>
          exact absurd same.symm (listKey_ne_counterKey rt value' limit' authorId' none _)
      | lock guarded' => exact absurd same.symm (lockKey_ne_counterKey _ none)
  | authorGeneration authorId =>
      cases call' with
      | article articleId' =>
          exact absurd same.symm (articleKey_ne_counterKey articleId' (some authorId))
      | generation =>
          have author : some authorId = none := counterKey_injective same
          cases author
      | authorGeneration authorId' =>
          have author : some authorId = some authorId' := counterKey_injective same
          rw [Option.some.inj author]
      | list value' authorId' limit' after' =>
          exact absurd same.symm (listKey_ne_counterKey rt value' limit' authorId' (some authorId) _)
      | lock guarded' => exact absurd same.symm (lockKey_ne_counterKey _ (some authorId))
  | list value authorId limit after =>
      cases call' with
      | article articleId' =>
          exact absurd same.symm (articleKey_ne_listKey articleId' rt value limit authorId _)
      | generation => exact absurd same (listKey_ne_counterKey rt value limit authorId none _)
      | authorGeneration authorId' =>
          exact absurd same (listKey_ne_counterKey rt value limit authorId (some authorId') _)
      | list value' authorId' limit' after' =>
          obtain ⟨rfl, rfl, rfl, rfl⟩ := pages_never_collide injective inside inside' same
          rfl
      | lock guarded' => exact absurd same.symm (lockKey_ne_listKey _ rt value limit authorId _)
  | lock guarded ih =>
      cases call' with
      | article articleId' => exact absurd same (lockKey_ne_articleKey _ articleId')
      | generation => exact absurd same (lockKey_ne_counterKey _ none)
      | authorGeneration authorId' => exact absurd same (lockKey_ne_counterKey _ (some authorId'))
      | list value' authorId' limit' after' =>
          exact absurd same (lockKey_ne_listKey _ rt value' limit' authorId' _)
      | lock guarded' =>
          have guards : guarded = guarded' := ih inside inside' (lockKey_injective same)
          rw [guards]

/-- Two digests of SHA-256. -/
def firstPages (text : String) : String :=
  if text = "l20:none" then "6d82137a037a633e3e5f6b48b686edb8619cae91b140c9243d221d8b6fca6cf4"
  else "74c7ff3c3f996b561f79c389cc3348c865516e1f5cc980f73328a2eb750762dc"

theorem first_pages_differ :
    (KeyCall.list 3 none 20 none).key (defaultRuntime firstPages) ≠
      (KeyCall.list 3 none 20 (some (epoch, 1))).key (defaultRuntime firstPages) := by
  have apart : Set.InjOn (digest (defaultRuntime firstPages)) {"l20:none", "l20:0:1"} := by
    have digests : digest (defaultRuntime firstPages) "l20:none" ≠
        digest (defaultRuntime firstPages) "l20:0:1" := by decide
    intro text inside text' inside' same
    rcases inside with rfl | rfl
    · rcases inside' with rfl | rfl
      · rfl
      · exact absurd same digests
    · rcases inside' with rfl | rfl
      · exact absurd same.symm digests
      · rfl
  intro same
  have calls := keys_never_collide (defaultRuntime firstPages) {"l20:none", "l20:0:1"} apart
    (Or.inl (by decide)) (Or.inr (by decide)) same
  cases calls

end ContentPlatform
