import Mathlib.Data.Rat.Floor
import Mathlib.Tactic.Linarith

/-!
# Rounding to the nearest

Ties go to the even integer, as in Python's `round`.
-/

set_option autoImplicit false

namespace ContentPlatform

/-- Python's `round` to an integer: the nearest one, ties to even. -/
def roundHalfEven (x : ℚ) : ℤ :=
  let below := x.floor
  if x - below < 1 / 2 then below
  else if 1 / 2 < x - below then below + 1
  else if below % 2 = 0 then below else below + 1

theorem roundHalfEven_le_succ (x : ℚ) : roundHalfEven x ≤ x.floor + 1 := by
  unfold roundHalfEven
  dsimp only
  split
  · omega
  · split
    · omega
    · split <;> omega

theorem floor_le_roundHalfEven (x : ℚ) : x.floor ≤ roundHalfEven x := by
  unfold roundHalfEven
  dsimp only
  split
  · omega
  · split
    · omega
    · split <;> omega

theorem roundHalfEven_mono {x y : ℚ} (order : x ≤ y) : roundHalfEven x ≤ roundHalfEven y := by
  have floors : x.floor ≤ y.floor := Rat.floor_monotone order
  by_cases same : x.floor = y.floor
  · unfold roundHalfEven
    rw [same]
    dsimp only
    by_cases half : y - y.floor < 1 / 2
    · rw [if_pos half, if_pos (by linarith)]
    · rw [if_neg half]
      by_cases more : 1 / 2 < y - y.floor
      · rw [if_pos more]
        split
        · omega
        · split
          · omega
          · split <;> omega
      · rw [if_neg more]
        by_cases less : x - y.floor < 1 / 2
        · rw [if_pos less]
          split <;> omega
        · have tie : ¬1 / 2 < x - y.floor := by linarith
          rw [if_neg less, if_neg tie]
  · calc roundHalfEven x ≤ x.floor + 1 := roundHalfEven_le_succ x
      _ ≤ y.floor := by omega
      _ ≤ roundHalfEven y := floor_le_roundHalfEven y

theorem roundHalfEven_intCast (n : ℤ) : roundHalfEven (n : ℚ) = n := by
  unfold roundHalfEven
  rw [Rat.floor_intCast]
  norm_num

end ContentPlatform
