import ContentPlatform.Rounding
import Mathlib.Data.Int.Log
import Mathlib.Tactic.FieldSimp
import Mathlib.Tactic.Positivity
import Mathlib.Tactic.Ring

/-!
# Binary floating point

Numbers of the format binary64, as the rational numbers that they are.
-/

set_option autoImplicit false

namespace ContentPlatform

/-- The distance between neighbouring binary64 numbers at `x`. -/
def doubleUnit (x : ℚ) : ℚ := 2 ^ max (Int.log 2 x - 52) (-1074)

/-- The binary64 number nearest to a number that is not negative, the even one of two.  What is too
large for one keeps its magnitude. -/
def double (x : ℚ) : ℚ := roundHalfEven (x / doubleUnit x) * doubleUnit x

theorem roundHalfEven_le (x : ℚ) : (roundHalfEven x : ℚ) ≤ x + 1 / 2 := by
  have below : (x.floor : ℚ) ≤ x := Rat.floor_le x
  unfold roundHalfEven
  dsimp only
  split
  · linarith
  · split
    · push_cast
      linarith
    · split
      · linarith
      · push_cast
        linarith

theorem roundHalfEven_le_of_lt {x : ℚ} {n : ℤ} (near : x < n + 1 / 2) : roundHalfEven x ≤ n := by
  have close := roundHalfEven_le x
  have order : (roundHalfEven x : ℚ) < n + 1 := by linarith
  exact_mod_cast Int.lt_add_one_iff.mp (by exact_mod_cast order)

theorem doubleUnit_pos (x : ℚ) : 0 < doubleUnit x := zpow_pos (by norm_num) _

theorem double_zero : double 0 = 0 := by
  have rounded : roundHalfEven 0 = 0 := roundHalfEven_intCast 0
  rw [double, zero_div, rounded, Int.cast_zero, zero_mul]

/-- A number is not rounded beyond a multiple of its unit. -/
theorem double_le {x bound : ℚ} {n : ℤ} (multiple : bound = n * doubleUnit x) (order : x ≤ bound) :
    double x ≤ bound := by
  have units : x / doubleUnit x ≤ n := by
    rw [div_le_iff₀ (doubleUnit_pos x), ← multiple]
    exact order
  have rounded : roundHalfEven (x / doubleUnit x) ≤ n :=
    (roundHalfEven_mono units).trans_eq (roundHalfEven_intCast n)
  rw [double, multiple]
  exact mul_le_mul_of_nonneg_right (by exact_mod_cast rounded) (doubleUnit_pos x).le

theorem double_le_add_half (x : ℚ) : double x ≤ x + doubleUnit x / 2 := by
  have rounded := roundHalfEven_le (x / doubleUnit x)
  have positive := doubleUnit_pos x
  calc double x ≤ (x / doubleUnit x + 1 / 2) * doubleUnit x :=
        mul_le_mul_of_nonneg_right rounded positive.le
    _ = x + doubleUnit x / 2 := by field_simp

theorem doubleUnit_eq {x : ℚ} {e : ℤ} (least : (2 : ℚ) ^ e ≤ x) (most : x < 2 ^ (e + 1))
    (normal : -1022 ≤ e) : doubleUnit x = 2 ^ (e - 52) := by
  have positive : 0 < x := lt_of_lt_of_le (zpow_pos (by norm_num) e) least
  have log : Int.log 2 x = e := by
    apply le_antisymm
    · have below : Int.log 2 x < e + 1 := (Int.lt_zpow_iff_log_lt (by decide) positive).mp most
      omega
    · exact (Int.zpow_le_iff_le_log (by decide) positive).mp least
  rw [doubleUnit, log, max_eq_left (by omega)]

/-- A power of two that is not below a unit is a multiple of it. -/
theorem zpow_multiple {x : ℚ} {e : ℤ} (order : max (Int.log 2 x - 52) (-1074) ≤ e) (n : ℤ) :
    ∃ m : ℤ, (n : ℚ) * 2 ^ e = m * doubleUnit x := by
  refine ⟨n * 2 ^ (e - max (Int.log 2 x - 52) (-1074)).toNat, ?_⟩
  have exponent : e = ((e - max (Int.log 2 x - 52) (-1074)).toNat : ℤ) +
      max (Int.log 2 x - 52) (-1074) := by omega
  rw [doubleUnit]
  conv_lhs => rw [exponent]
  rw [zpow_add₀ (by norm_num), zpow_natCast]
  push_cast
  ring

theorem double_le_zpow {x : ℚ} {e : ℤ} (order : x ≤ 2 ^ e)
    (unit : max (Int.log 2 x - 52) (-1074) ≤ e) : double x ≤ 2 ^ e := by
  obtain ⟨m, multiple⟩ := zpow_multiple unit 1
  rw [Int.cast_one, one_mul] at multiple
  exact double_le multiple order

theorem double_nonneg {x : ℚ} (nonneg : 0 ≤ x) : 0 ≤ double x := by
  have units : ((0 : ℤ) : ℚ) ≤ x / doubleUnit x := by
    rw [Int.cast_zero]
    exact div_nonneg nonneg (doubleUnit_pos x).le
  have rounded : 0 ≤ roundHalfEven (x / doubleUnit x) :=
    (roundHalfEven_intCast 0).ge.trans (roundHalfEven_mono units)
  exact mul_nonneg (by exact_mod_cast rounded) (doubleUnit_pos x).le

/-- A number from a power of two on is not rounded below it. -/
theorem zpow_le_double {x : ℚ} {e : ℤ} (normal : -1022 ≤ e) (least : (2 : ℚ) ^ e ≤ x)
    (most : x < 2 ^ (e + 1)) : 2 ^ e ≤ double x := by
  have unit : doubleUnit x = 2 ^ (e - 52) := doubleUnit_eq least most normal
  have positive : (0 : ℚ) < 2 ^ (e - 52) := zpow_pos (by norm_num) _
  have size : (2 : ℚ) ^ e = ((2 ^ 52 : ℤ) : ℚ) * 2 ^ (e - 52) := by
    rw [Int.cast_pow, Int.cast_ofNat, ← zpow_natCast, ← zpow_add₀ (by norm_num)]
    norm_num
  have units : ((2 ^ 52 : ℤ) : ℚ) ≤ x / 2 ^ (e - 52) := by
    rw [le_div_iff₀ positive, ← size]
    exact least
  have rounded : 2 ^ 52 ≤ roundHalfEven (x / 2 ^ (e - 52)) :=
    (roundHalfEven_intCast _).ge.trans (roundHalfEven_mono units)
  rw [double, unit, size]
  exact mul_le_mul_of_nonneg_right (by exact_mod_cast rounded) positive.le

theorem double_mono {x y : ℚ} (nonneg : 0 ≤ x) (order : x ≤ y) : double x ≤ double y := by
  rcases nonneg.eq_or_lt with rfl | positive
  · rw [double_zero]
    exact double_nonneg order
  by_cases same : doubleUnit x = doubleUnit y
  · rw [double, double, same]
    have unit := doubleUnit_pos y
    have rounded : roundHalfEven (x / doubleUnit y) ≤ roundHalfEven (y / doubleUnit y) :=
      roundHalfEven_mono (div_le_div_of_nonneg_right order unit.le)
    exact mul_le_mul_of_nonneg_right (by exact_mod_cast rounded) unit.le
  · -- a power of two lies between them
    have logs : Int.log 2 x ≤ Int.log 2 y := Int.log_mono_right positive order
    have apart : max (Int.log 2 x - 52) (-1074) ≠ max (Int.log 2 y - 52) (-1074) :=
      fun equal => same (by rw [doubleUnit, doubleUnit, equal])
    have less : Int.log 2 x < Int.log 2 y := by omega
    have below : x < 2 ^ Int.log 2 y := (Int.lt_zpow_iff_log_lt (by decide) positive).mpr less
    calc double x ≤ 2 ^ Int.log 2 y := double_le_zpow below.le (by omega)
      _ ≤ double y := zpow_le_double (by omega)
          (Int.zpow_log_le_self (by decide) (positive.trans_le order))
          (Int.lt_zpow_succ_log_self (by decide) y)

def binary64 (x : ℚ) : ℚ := if x < 0 then -double (-x) else double x

theorem binary64_of_nonneg {x : ℚ} (nonneg : 0 ≤ x) : binary64 x = double x :=
  if_neg (not_lt.mpr nonneg)

theorem binary64_zero : binary64 0 = 0 := (binary64_of_nonneg le_rfl).trans double_zero

theorem binary64_mono {x y : ℚ} (order : x ≤ y) : binary64 x ≤ binary64 y := by
  unfold binary64
  split
  · rename_i negative
    split
    · rename_i negative'
      exact neg_le_neg (double_mono (by linarith) (neg_le_neg order))
    · rename_i nonneg
      have left := double_nonneg (x := -x) (by linarith)
      have right := double_nonneg (not_lt.mp nonneg)
      linarith
  · rename_i nonneg
    rw [if_neg (by linarith)]
    exact double_mono (not_lt.mp nonneg) order

/-- A binary64 number below one is below it by half its precision. -/
theorem le_of_double_lt_one {h : ℚ} (whole : double h = h) (below : h < 1) :
    h ≤ 1 - 2 ^ (-53 : ℤ) := by
  by_cases small : h < 2 ^ (-1 : ℤ)
  · norm_num at small ⊢
    linarith
  · have unit : doubleUnit h = 2 ^ (-1 - 52 : ℤ) :=
      doubleUnit_eq (not_lt.mp small) (by norm_num; exact below) (by omega)
    rw [double, unit] at whole
    have most : roundHalfEven (h / 2 ^ (-1 - 52 : ℤ)) ≤ 2 ^ 53 - 1 := by
      have scaled : (roundHalfEven (h / 2 ^ (-1 - 52 : ℤ)) : ℚ) < 2 ^ 53 := by
        have positive : (0 : ℚ) < 2 ^ (-1 - 52 : ℤ) := zpow_pos (by norm_num) _
        by_contra large
        have : (2 : ℚ) ^ 53 * 2 ^ (-1 - 52 : ℤ) ≤ h := by
          rw [← whole]
          exact mul_le_mul_of_nonneg_right (not_lt.mp large) positive.le
        norm_num at this
        linarith
      have : roundHalfEven (h / 2 ^ (-1 - 52 : ℤ)) < 2 ^ 53 := by exact_mod_cast scaled
      omega
    have scaled : (roundHalfEven (h / 2 ^ (-1 - 52 : ℤ)) : ℚ) ≤ 2 ^ 53 - 1 := by exact_mod_cast most
    have positive : (0 : ℚ) < 2 ^ (-1 - 52 : ℤ) := zpow_pos (by norm_num) _
    calc h = roundHalfEven (h / 2 ^ (-1 - 52 : ℤ)) * 2 ^ (-1 - 52 : ℤ) := whole.symm
      _ ≤ (2 ^ 53 - 1) * 2 ^ (-1 - 52 : ℤ) := mul_le_mul_of_nonneg_right scaled positive.le
      _ = 1 - 2 ^ (-53 : ℤ) := by norm_num

/-- The part of a count that a share below one makes is smaller than the count, in floating-point
arithmetic as well. -/
theorem double_share_lt {n : ℕ} {share : ℚ} (some : 1 ≤ n) (nonneg : 0 ≤ share)
    (below : share < 1) (whole : double share = share) : double (double n * share) < n := by
  obtain ⟨e, normal, least, most⟩ : ∃ e : ℤ, 0 ≤ e ∧ (2 : ℚ) ^ e ≤ n ∧ (n : ℚ) < 2 ^ (e + 1) := by
    refine ⟨Nat.log 2 n, Int.natCast_nonneg _, ?_, ?_⟩
    · rw [zpow_natCast]
      exact_mod_cast Nat.pow_log_le_self 2 (by omega)
    · have bound : n < 2 ^ (Nat.log 2 n + 1) := Nat.lt_pow_succ_log_self (by decide) n
      exact_mod_cast bound
  have unit : doubleUnit (n : ℚ) = 2 ^ (e - 52) := doubleUnit_eq least most (by omega)
  obtain ⟨u, u_eq⟩ : ∃ u : ℚ, u = 2 ^ (e - 52) := ⟨_, rfl⟩
  have u_pos : 0 < u := u_eq ▸ zpow_pos (by norm_num) _
  have size : (2 : ℚ) ^ e = 2 ^ 52 * u := by
    rw [u_eq, ← zpow_natCast, ← zpow_add₀ (by norm_num)]
    norm_num
  have half : (2 : ℚ) ^ (e - 53) = u / 2 := by
    rw [u_eq, show e - 53 = e - 52 - 1 by ring, zpow_sub_one₀ (by norm_num)]
    ring
  -- the count as a floating-point number
  obtain ⟨m, m_eq⟩ : ∃ m : ℤ, m = roundHalfEven (n / u) := ⟨_, rfl⟩
  have count : double n = m * u := by rw [double, unit, ← u_eq, m_eq]
  have count_le : double n ≤ n + u / 2 := (double_le_add_half n).trans_eq (by rw [unit, u_eq])
  have large : 2 ^ 52 ≤ m := by
    have units : ((2 ^ 52 : ℤ) : ℚ) ≤ n / u := by
      rw [le_div_iff₀ u_pos]
      push_cast
      linarith
    exact m_eq ▸ (roundHalfEven_intCast _).ge.trans (roundHalfEven_mono units)
  have product : double n * share ≤ m * u - m * u * 2 ^ (-53 : ℤ) := by
    have m_pos : (0 : ℚ) ≤ m := by exact_mod_cast (by omega : (0 : ℤ) ≤ m)
    calc double n * share ≤ m * u * (1 - 2 ^ (-53 : ℤ)) := by
          rw [count]
          exact mul_le_mul_of_nonneg_left (le_of_double_lt_one whole below) (by positivity)
      _ = m * u - m * u * 2 ^ (-53 : ℤ) := by ring
  have product_nonneg : 0 ≤ double n * share := by
    have m_pos : (0 : ℚ) ≤ m := by exact_mod_cast (by omega : (0 : ℤ) ≤ m)
    rw [count]
    positivity
  generalize double n * share = y at product product_nonneg ⊢
  rcases product_nonneg.eq_or_lt with zero | positive
  · rw [← zero, double_zero]
    exact_mod_cast some
  rcases large.eq_or_lt with smallest | larger
  · -- the count lies at a power of two, and the product below its neighbour
    have bound : y ≤ ((2 ^ 53 - 1 : ℤ) : ℚ) * 2 ^ (e - 53) := by
      rw [half]
      rw [← smallest] at product
      push_cast at product ⊢
      norm_num at product ⊢
      linarith
    have bound_lt : ((2 ^ 53 - 1 : ℤ) : ℚ) * 2 ^ (e - 53) < n := by
      rw [half]
      push_cast
      linarith
    have small : y < 2 ^ e := by
      rw [size]
      rw [half] at bound
      push_cast at bound
      linarith
    have log : Int.log 2 y < e := (Int.lt_zpow_iff_log_lt (by decide) positive).mp small
    obtain ⟨k, multiple⟩ := zpow_multiple (x := y) (e := e - 53) (by omega) (2 ^ 53 - 1)
    exact (double_le multiple bound).trans_lt bound_lt
  · have step : (2 : ℚ) ^ 52 + 1 ≤ m := by exact_mod_cast Int.add_one_le_of_lt larger
    have gap : y ≤ m * u - u / 2 - u * 2 ^ (-53 : ℤ) := by
      have scaled : (2 ^ 52 + 1) * (u * 2 ^ (-53 : ℤ)) ≤ m * (u * 2 ^ (-53 : ℤ)) :=
        mul_le_mul_of_nonneg_right step (by positivity)
      norm_num at scaled product ⊢
      linarith
    by_cases small : y < 2 ^ e
    · have log : Int.log 2 y < e := (Int.lt_zpow_iff_log_lt (by decide) positive).mp small
      have least' : (2 : ℚ) ^ e < n := by
        have units : ((2 : ℚ) ^ 52 + 1) * u ≤ m * u := mul_le_mul_of_nonneg_right step u_pos.le
        linarith
      exact (double_le_zpow small.le (by omega)).trans_lt least'
    · have bound : y < 2 ^ (e + 1) := by
        have tiny : (0 : ℚ) < u * 2 ^ (-53 : ℤ) := by positivity
        linarith
      have unit' : doubleUnit y = u := (doubleUnit_eq (not_lt.mp small) bound (by omega)).trans u_eq.symm
      have rounded : roundHalfEven (y / u) ≤ m - 1 := by
        apply roundHalfEven_le_of_lt
        rw [div_lt_iff₀ u_pos]
        have tiny : (0 : ℚ) < u * 2 ^ (-53 : ℤ) := by positivity
        push_cast
        linarith
      have rounded' : (roundHalfEven (y / u) : ℚ) ≤ m - 1 := by exact_mod_cast rounded
      calc double y = roundHalfEven (y / u) * u := by rw [double, unit']
        _ ≤ (m - 1) * u := mul_le_mul_of_nonneg_right rounded' u_pos.le
        _ < n := by linarith

end ContentPlatform
