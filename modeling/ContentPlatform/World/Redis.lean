import ContentPlatform.Cache.ArticleCache

/-!
# Redis

Entries are strings.  `INCR` accepts canonical decimals of 64 bits only, and any
entry with an expiry may go at any time.
-/

set_option autoImplicit false

namespace ContentPlatform

open Text

/-- Observations of the request that stores an entry: the committed state its last read of
articles saw, and the generation counter that names its pages with the value it read. -/
structure Provenance where
  loadedFrom : Option ℕ
  generation : Option (String × ℤ)
  /-- The committed state its commit left. -/
  committed : Option ℕ

structure Entry where
  value : String
  expires : Bool
  provenance : Provenance

structure Redis where
  entries : String → Option Entry
  /-- Observation: the newest commit of those whose `DEL` of a key has run. -/
  purged : String → ℕ

/-- The integers that `INCR` accepts. -/
def redisInteger? (text : String) : Option ℤ :=
  match parseInt text.toList with
  | some n => if toString n = text ∧ -2 ^ 63 ≤ n ∧ n < 2 ^ 63 then some n else none
  | none => none

namespace Redis

variable (store : Redis)

def value (key : String) : Option String := (store.entries key).map Entry.value

def setEntry (key : String) (entry : Option Entry) : Redis :=
  { store with entries := Function.update store.entries key entry }

/-- `INCR`: the number it leaves, or `none` where the content is not a number it can increase. -/
def incremented (key : String) : Option ℤ :=
  match store.entries key with
  | none => some 1
  | some entry =>
      match redisInteger? entry.value with
      | some n => if n + 1 < 2 ^ 63 then some (n + 1) else none
      | none => none

def purge (by_ : Provenance) (key : String) : String → ℕ :=
  Function.update store.purged key (max (store.purged key) (by_.committed.getD 0))

def step (by_ : Provenance) : (command : RedisCommand) → Except Exc command.Reply × Redis
  | .get key => (.ok (store.value key), store)
  | .mget keys => (.ok (keys.map store.value), store)
  | .set key value _ nx =>
      if nx && (store.entries key).isSome then (.ok false, store)
      else (.ok true, store.setEntry key (some ⟨value, true, by_⟩))
  | .delete key => (.ok (), { store.setEntry key none with purged := store.purge by_ key })
  | .incr key =>
      match store.incremented key with
      | some n =>
          (.ok n,
            store.setEntry key (some ⟨toString n, (store.entries key).any Entry.expires, by_⟩))
      | none => (.error .redisError, store)

/-- The one error of its own: `INCR` of what is not a number. -/
theorem step_error {by_ : Provenance} {command : RedisCommand} {error : Exc}
    (failed : (store.step by_ command).1 = .error error) : error = .redisError := by
  cases command with
  | set key value ex nx =>
      simp only [step] at failed
      split at failed <;> cases failed
  | incr key =>
      simp only [step] at failed
      split at failed <;> cases failed
      rfl
  | _ => cases failed

@[simp] theorem setEntry_self (key : String) (entry : Option Entry) :
    (store.setEntry key entry).entries key = entry := by
  simp [setEntry]

theorem setEntry_ne {key other : String} (entry : Option Entry) (ne : other ≠ key) :
    (store.setEntry key entry).entries other = store.entries other := by
  simp [setEntry, Function.update_of_ne ne]

/-! ## What a command leaves -/

variable {store} {by_ : Provenance}

/-- A key that a command does not write keeps its entry. -/
def writes : RedisCommand → String → Prop
  | .set key _ _ _, key' | .delete key, key' | .incr key, key' => key' = key
  | _, _ => False

theorem step_entries {command : RedisCommand} {key : String} (aside : ¬writes command key) :
    (store.step by_ command).2.entries key = store.entries key := by
  cases command with
  | get key' => rfl
  | mget keys => rfl
  | set key' value ex nx =>
      simp only [step]
      split
      · rfl
      · exact setEntry_ne store _ aside
  | delete key' => exact Function.update_of_ne aside _ _
  | incr key' =>
      simp only [step]
      split
      · exact setEntry_ne store _ aside
      · rfl

theorem step_incr_ne {key other : String} (ne : other ≠ key) :
    (store.step by_ (.incr key)).2.entries other = store.entries other := step_entries ne

/-! ### What was purged -/

theorem le_purge (by_ : Provenance) (key key' : String) :
    store.purged key' ≤ store.purge by_ key key' := by
  unfold purge
  by_cases same : key' = key
  · subst same
    rw [Function.update_self]
    exact le_max_left ..
  · rw [Function.update_of_ne same]

/-- What is purged stays purged. -/
theorem purged_le (by_ : Provenance) (command : RedisCommand) (key : String) :
    store.purged key ≤ (store.step by_ command).2.purged key := by
  cases command with
  | delete key' => exact le_purge by_ key' key
  | set key' value ex nx =>
      simp only [step]
      split <;> exact le_rfl
  | incr key' =>
      simp only [step]
      split <;> exact le_rfl
  | _ => exact le_rfl

/-- A `DEL` by a request that has committed purges the key of what came before. -/
theorem delete_purges {n : ℕ} (key : String) (committed : by_.committed = some n) :
    n ≤ (store.step by_ (.delete key)).2.purged key := by
  show n ≤ store.purge by_ key key
  rw [purge, Function.update_self, committed]
  exact le_max_right ..

theorem step_purged {command : RedisCommand} {key : String} (aside : ¬writes command key) :
    (store.step by_ command).2.purged key = store.purged key := by
  cases command with
  | delete key' => exact Function.update_of_ne aside _ _
  | set key' value ex nx =>
      simp only [step]
      split <;> rfl
  | incr key' =>
      simp only [step]
      split <;> rfl
  | _ => rfl

end Redis

def Redis.reading (store : Redis) (key : String) : ℤ := asInt (store.value key)

namespace Redis

variable {store store' : Redis} {key : String}

theorem reading_congr (same : store'.entries key = store.entries key) :
    store'.reading key = store.reading key := by
  simp only [reading, value, same]

theorem asInt_toString {n : ℤ} (least : -2 ^ 63 ≤ n) (most : n < 2 ^ 63) :
    asInt (some (toString n)) = n := by
  have digits : 10 ^ 20 ≤ 10 ^ maxStrDigits := Nat.pow_le_pow_right (by decide) (by decide)
  have short : n.natAbs < 10 ^ maxStrDigits := by
    norm_num only at digits
    omega
  rw [asInt, show (toString n).toList = intChars n from rfl, parseInt_intChars short]
  rfl

/-- What a number is that `INCR` leaves. -/
theorem incremented_range {n : ℤ} (counts : store.incremented key = some n) :
    -2 ^ 63 ≤ n ∧ n < 2 ^ 63 := by
  unfold incremented at counts
  split at counts
  · obtain rfl := Option.some.inj counts
    norm_num
  · rename_i entry stored
    split at counts
    · rename_i m number
      split at counts
      · rename_i most
        obtain rfl := Option.some.inj counts
        unfold redisInteger? at number
        split at number
        · split at number
          · rename_i range
            obtain rfl := Option.some.inj number
            exact ⟨by omega, most⟩
          · cases number
        · cases number
      · cases counts
    · cases counts

theorem incremented_reading {n : ℤ} (counts : store.incremented key = some n) :
    n = store.reading key + 1 := by
  unfold incremented at counts
  unfold reading value
  cases stored : store.entries key with
  | none =>
      rw [stored] at counts
      cases counts
      rfl
  | some entry =>
      rw [stored] at counts
      dsimp only at counts
      cases number : redisInteger? entry.value with
      | none =>
          rw [number] at counts
          cases counts
      | some m =>
          rw [number] at counts
          dsimp only at counts
          split at counts
          · obtain rfl := Option.some.inj counts
            unfold redisInteger? at number
            split at number
            · rename_i parsed read
              split at number
              · obtain rfl := Option.some.inj number
                simp [asInt, read]
              · cases number
            · cases number
          · cases counts

/-- What `INCR` does where it answers: one more. -/
theorem step_incr_ok {by_ : Provenance} {n : ℤ} (counted : (store.step by_ (.incr key)).1 = .ok n) :
    (store.step by_ (.incr key)).2.reading key = store.reading key + 1 := by
  simp only [step] at counted ⊢
  cases counts : store.incremented key with
  | none =>
      rw [counts] at counted
      cases counted
  | some m =>
      rw [← incremented_reading counts]
      simp only [reading, value, setEntry_self, Option.map_some]
      exact asInt_toString (incremented_range counts).1 (incremented_range counts).2

/-- What `INCR` does: one more, or nothing. -/
theorem step_incr (by_ : Provenance) (key : String) :
    (store.step by_ (.incr key)).2.reading key = store.reading key + 1 ∨
      (store.step by_ (.incr key)).2 = store := by
  cases counts : store.incremented key with
  | none =>
      apply Or.inr
      simp only [step, counts]
  | some n =>
      apply Or.inl
      apply step_incr_ok (n := n)
      simp only [step, counts]

end Redis

end ContentPlatform
