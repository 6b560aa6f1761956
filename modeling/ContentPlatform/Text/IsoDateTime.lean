import Mathlib.Tactic.IntervalCases
import ContentPlatform.Values

/-!
# Calendar dates and ISO texts

The proleptic Gregorian calendar as `datetime` computes it, `isoformat`, and
`fromisoformat` on the spellings `isoformat` writes.  Ordinals count days from
0001-01-01.
-/

set_option autoImplicit false

namespace ContentPlatform.Text

/-! ## The calendar -/

def isLeap (year : ℕ) : Bool := year % 4 == 0 && (year % 100 != 0 || year % 400 == 0)

def daysBeforeYear (year : ℕ) : ℕ :=
  (year - 1) * 365 + (year - 1) / 4 - (year - 1) / 100 + (year - 1) / 400

def daysInMonth (leap : Bool) : ℕ → ℕ
  | 2 => if leap then 29 else 28
  | 4 | 6 | 9 | 11 => 30
  | _ => 31

def daysBeforeMonth (leap : Bool) (month : ℕ) : ℕ :=
  ((List.range (month - 1)).map fun m => daysInMonth leap (m + 1)).sum

/-- `_ymd2ord`, from 0. -/
def ymdToOrdinal (year month day : ℕ) : ℕ :=
  daysBeforeYear year + daysBeforeMonth (isLeap year) month + (day - 1)

/-- The month and the day of the month of day `n` of a year.  The first guess of the month is
exact or one too large. -/
def monthDay (leap : Bool) (n : ℕ) : ℕ × ℕ :=
  let month := (n + 50) / 32
  if daysBeforeMonth leap month > n then (month - 1, n - daysBeforeMonth leap (month - 1) + 1)
  else (month, n - daysBeforeMonth leap month + 1)

/-- `_ord2ymd`, from 0. -/
def ordinalToYmd (ordinal : ℕ) : ℕ × ℕ × ℕ :=
  let n400 := ordinal / 146097
  let n := ordinal % 146097
  let n100 := n / 36524
  let n := n % 36524
  let n4 := n / 1461
  let n := n % 1461
  let n1 := n / 365
  let n := n % 365
  let year := n400 * 400 + n100 * 100 + n4 * 4 + n1 + 1
  if n1 = 4 ∨ n100 = 4 then (year - 1, 12, 31)
  else (year, monthDay (n1 == 3 && (n4 != 24 || n100 == 3)) n)

/-- The leap days before a year, from its place in the cycles of 400, 100 and 4 years. -/
theorem daysBeforeYear_cycles (n400 n100 n4 n1 : ℕ) (centuries : n100 ≤ 3) (cycles : n4 ≤ 24)
    (years : n1 ≤ 3) :
    daysBeforeYear (n400 * 400 + n100 * 100 + n4 * 4 + n1 + 1) =
      n400 * 146097 + n100 * 36524 + n4 * 1461 + n1 * 365 := by
  have four : (n400 * 400 + n100 * 100 + n4 * 4 + n1) / 4 = n400 * 100 + n100 * 25 + n4 := by omega
  have hundred : (n400 * 400 + n100 * 100 + n4 * 4 + n1) / 100 = n400 * 4 + n100 := by omega
  have fourHundred : (n400 * 400 + n100 * 100 + n4 * 4 + n1) / 400 = n400 := by omega
  simp only [daysBeforeYear, Nat.add_sub_cancel, four, hundred, fourHundred]
  omega

theorem isLeap_cycles (n400 n100 n4 n1 : ℕ) (centuries : n100 ≤ 3) (cycles : n4 ≤ 24)
    (years : n1 ≤ 3) :
    isLeap (n400 * 400 + n100 * 100 + n4 * 4 + n1 + 1) =
      (n1 == 3 && (n4 != 24 || n100 == 3)) := by
  rw [Bool.eq_iff_iff]
  simp only [isLeap, Bool.and_eq_true, Bool.or_eq_true, beq_iff_eq, bne_iff_ne]
  omega

theorem monthDay_spec : ∀ leap : Bool, ∀ n < 365,
    let date := monthDay leap n
    1 ≤ date.1 ∧ date.1 ≤ 12 ∧ 1 ≤ date.2 ∧ date.2 ≤ daysInMonth leap date.1 ∧ date.2 ≤ 31 ∧
      daysBeforeMonth leap date.1 + (date.2 - 1) = n := by
  decide +kernel

theorem ordinalToYmd_spec (ordinal : ℕ) (range : ordinal ≤ 3652058) :
    let date := ordinalToYmd ordinal
    ymdToOrdinal date.1 date.2.1 date.2.2 = ordinal ∧ 1 ≤ date.1 ∧ date.1 ≤ 9999 ∧
      1 ≤ date.2.1 ∧ date.2.1 ≤ 12 ∧ 1 ≤ date.2.2 ∧
      date.2.2 ≤ daysInMonth (isLeap date.1) date.2.1 ∧ date.2.2 ≤ 31 := by
  generalize h400 : ordinal / 146097 = n400
  generalize hn : ordinal % 146097 = n
  generalize h100 : n / 36524 = n100
  generalize hm : n % 36524 = m
  generalize h4 : m / 1461 = n4
  generalize hk : m % 1461 = k
  generalize h1 : k / 365 = n1
  generalize hd : k % 365 = d
  simp only [ordinalToYmd, h400, hn, h100, hm, h4, hk, h1, hd]
  have before : daysBeforeMonth true 12 = 335 := by decide
  by_cases century : n100 = 4
  · -- the last day of a cycle of 400 years
    have zero4 : n4 = 0 := by omega
    have zero1 : n1 = 0 := by omega
    subst century zero4 zero1
    have year := daysBeforeYear_cycles n400 3 24 3 (by omega) (by omega) (by omega)
    have leap := isLeap_cycles n400 3 24 3 (by omega) (by omega) (by omega)
    have same : n400 * 400 + 4 * 100 + 0 * 4 + 0 + 1 - 1 = n400 * 400 + 3 * 100 + 24 * 4 + 3 + 1 := by
      omega
    simp only [or_true, if_true, same, ymdToOrdinal, year, leap]
    simp only [beq_self_eq_true, bne_self_eq_false, Bool.false_or, Bool.and_true, before,
      daysInMonth]
    omega
  · by_cases fourth : n1 = 4
    · -- the last day of a leap year
      subst fourth
      have year := daysBeforeYear_cycles n400 n100 n4 3 (by omega) (by omega) (by omega)
      have leap := isLeap_cycles n400 n100 n4 3 (by omega) (by omega) (by omega)
      have cycle : (n4 != 24 || n100 == 3) = true := by
        simp only [Bool.or_eq_true, beq_iff_eq, bne_iff_ne]
        omega
      have same : n400 * 400 + n100 * 100 + n4 * 4 + 4 + 1 - 1 =
          n400 * 400 + n100 * 100 + n4 * 4 + 3 + 1 := by omega
      simp only [true_or, if_true, same, ymdToOrdinal, year, leap, cycle]
      simp only [beq_self_eq_true, Bool.and_true, before, daysInMonth]
      omega
    · have year := daysBeforeYear_cycles n400 n100 n4 n1 (by omega) (by omega) (by omega)
      have leap := isLeap_cycles n400 n100 n4 n1 (by omega) (by omega) (by omega)
      obtain ⟨month1, month12, day1, dayMonth, day31, exact⟩ :=
        monthDay_spec (n1 == 3 && (n4 != 24 || n100 == 3)) d (by omega)
      simp only [fourth, century, or_self, if_false, ymdToOrdinal, leap, year]
      refine ⟨?_, by omega, by omega, month1, month12, day1, dayMonth, day31⟩
      omega

/-! ## Fields of fixed width -/

def fixedDigits : ℕ → ℕ → List Char
  | 0, _ => []
  | width + 1, n => fixedDigits width (n / 10) ++ [Nat.digitChar (n % 10)]

def digitValue? (c : Char) : Option ℕ := if c.isDigit then some (c.toNat - 48) else none

def readDigits : ℕ → ℕ → List Char → Option (ℕ × List Char)
  | 0, value, cs => some (value, cs)
  | _ + 1, _, [] => none
  | width + 1, value, c :: cs =>
      match digitValue? c with
      | some digit => readDigits width (value * 10 + digit) cs
      | none => none

def readChar (c : Char) : List Char → Option (List Char)
  | [] => none
  | d :: cs => if d = c then some cs else none

theorem digitValue?_digitChar : ∀ n, n < 10 → digitValue? (Nat.digitChar n) = some n := by
  decide

theorem readDigits_append (width value extra : ℕ) (ds cs rest : List Char)
    (front : readDigits width value ds = some (extra, [])) :
    readDigits width value (ds ++ cs ++ rest) = some (extra, cs ++ rest) := by
  induction width generalizing value ds with
  | zero =>
      simp only [readDigits, Option.some.injEq, Prod.mk.injEq] at front
      obtain ⟨rfl, rfl⟩ := front
      rfl
  | succ width ih =>
      cases ds with
      | nil => simp [readDigits] at front
      | cons d ds =>
          simp only [readDigits, List.cons_append] at front ⊢
          cases digit : digitValue? d with
          | none => simp [digit] at front
          | some n =>
              simp only [digit] at front ⊢
              exact ih _ ds front

theorem readDigits_snoc (width value total : ℕ) (ds : List Char) (d n : ℕ) (digit : d < 10)
    (front : readDigits width value ds = some (n, [])) (joined : total = n * 10 + d) :
    readDigits (width + 1) value (ds ++ [Nat.digitChar d]) = some (total, []) := by
  induction width generalizing value ds with
  | zero =>
      simp only [readDigits, Option.some.injEq, Prod.mk.injEq] at front
      obtain ⟨rfl, rfl⟩ := front
      simp [readDigits, digitValue?_digitChar d digit, joined]
  | succ width ih =>
      cases ds with
      | nil => simp [readDigits] at front
      | cons c ds =>
          rw [readDigits] at front
          rw [List.cons_append, readDigits]
          cases value' : digitValue? c with
          | none => simp [value'] at front
          | some k =>
              simp only [value'] at front ⊢
              exact ih _ ds front

theorem readDigits_fixedDigits_nil (width n : ℕ) (fits : n < 10 ^ width) :
    readDigits width 0 (fixedDigits width n) = some (n, []) := by
  induction width generalizing n with
  | zero =>
      have : n = 0 := by simpa using fits
      simp [readDigits, fixedDigits, this]
  | succ width ih =>
      rw [fixedDigits]
      have smaller : n / 10 < 10 ^ width := by
        rw [Nat.pow_succ] at fits
        omega
      exact readDigits_snoc width 0 n _ (n % 10) (n / 10) (Nat.mod_lt n (by decide))
        (ih (n / 10) smaller) (by omega)

theorem readDigits_fixedDigits (width n : ℕ) (rest : List Char) (fits : n < 10 ^ width) :
    readDigits width 0 (fixedDigits width n ++ rest) = some (n, rest) := by
  have read := readDigits_append width 0 n (fixedDigits width n) [] rest
    (readDigits_fixedDigits_nil width n fits)
  simpa using read

/-! ## Texts -/

def microsPerDay : ℕ := 86400000000

def DateTime.sinceMin (t : DateTime) : ℕ := (t.val - minMicros).toNat

def isoChars (t : DateTime) : List Char :=
  let date := ordinalToYmd (DateTime.sinceMin t / microsPerDay)
  let micros := DateTime.sinceMin t % microsPerDay
  let seconds := micros / 1000000
  let fraction := micros % 1000000
  fixedDigits 4 date.1 ++ '-' :: (fixedDigits 2 date.2.1 ++ '-' :: (fixedDigits 2 date.2.2 ++
    'T' :: (fixedDigits 2 (seconds / 3600) ++ ':' :: (fixedDigits 2 (seconds / 60 % 60) ++
      ':' :: (fixedDigits 2 (seconds % 60) ++
        if fraction = 0 then [] else '.' :: fixedDigits 6 fraction)))))

def isoformat (t : DateTime) : String := String.ofList (isoChars t)

/-- Nothing, or a point and three or six digits. -/
def readFraction : List Char → Option ℕ
  | [] => some 0
  | c :: cs =>
      if c = '.' then
        match readDigits 6 0 cs with
        | some (fraction, []) => some fraction
        | _ =>
            match readDigits 3 0 cs with
            | some (millis, []) => some (millis * 1000)
            | _ => none
      else none

/-- `datetime(...)` checks its fields. -/
def mkDateTime? (year month day hour minute second micros : ℕ) : Option DateTime :=
  if 1 ≤ year ∧ 1 ≤ month ∧ month ≤ 12 ∧ 1 ≤ day ∧ day ≤ daysInMonth (isLeap year) month ∧
      hour < 24 ∧ minute < 60 ∧ second < 60 then
    DateTime.ofMicros? (minMicros + ((ymdToOrdinal year month day * 86400 + hour * 3600 +
      minute * 60 + second) * 1000000 + micros : ℕ))
  else none

def fromIsoChars (cs : List Char) : Option DateTime := do
  let (year, cs) ← readDigits 4 0 cs
  let cs ← readChar '-' cs
  let (month, cs) ← readDigits 2 0 cs
  let cs ← readChar '-' cs
  let (day, cs) ← readDigits 2 0 cs
  match cs with
  | [] => mkDateTime? year month day 0 0 0 0
  | _separator :: cs =>
      let (hour, cs) ← readDigits 2 0 cs
      let cs ← readChar ':' cs
      let (minute, cs) ← readDigits 2 0 cs
      let cs ← readChar ':' cs
      let (second, cs) ← readDigits 2 0 cs
      let fraction ← readFraction cs
      mkDateTime? year month day hour minute second fraction

/-- `datetime.fromisoformat`, with `none` for `ValueError`. -/
def fromIsoformat (text : String) : Option DateTime := fromIsoChars text.toList

theorem readFraction_spec (fraction : ℕ) (fits : fraction < 1000000) :
    readFraction (if fraction = 0 then [] else '.' :: fixedDigits 6 fraction) = some fraction := by
  by_cases zero : fraction = 0
  · simp [zero, readFraction]
  · simp [zero, readFraction, readDigits_fixedDigits_nil 6 fraction (by omega)]

theorem fromIsoChars_isoChars (t : DateTime) : fromIsoChars (isoChars t) = some t := by
  have low := t.property.1
  have high := t.property.2
  simp only [minMicros, maxMicros] at low high
  have since : ((DateTime.sinceMin t : ℕ) : ℤ) = t.val - minMicros :=
    Int.toNat_of_nonneg (by simp only [minMicros]; omega)
  simp only [minMicros] at since
  generalize base : DateTime.sinceMin t = n at since
  obtain ⟨back, year1, year9999, month1, month12, day1, dayMonth, day31⟩ :=
    ordinalToYmd_spec (n / microsPerDay) (by simp only [microsPerDay]; omega)
  simp only [microsPerDay] at back
  simp only [isoChars, base, microsPerDay] at year1 year9999 month1 month12 day1 dayMonth day31 ⊢
  generalize ordinalToYmd (n / 86400000000) = date at *
  have hour : n % 86400000000 / 1000000 / 3600 < 24 := by omega
  simp only [fromIsoChars, readDigits_fixedDigits 4 date.1 _ (by omega),
    readDigits_fixedDigits 2 date.2.1 _ (by omega), readDigits_fixedDigits 2 date.2.2 _ (by omega),
    readDigits_fixedDigits 2 (n % 86400000000 / 1000000 / 3600) _ (by omega),
    readDigits_fixedDigits 2 (n % 86400000000 / 1000000 / 60 % 60) _ (by omega),
    readDigits_fixedDigits 2 (n % 86400000000 / 1000000 % 60) _ (by omega),
    readFraction_spec (n % 86400000000 % 1000000) (by omega), readChar, if_true,
    Option.bind_eq_bind, Option.bind_some]
  rw [mkDateTime?, if_pos (by refine ⟨year1, month1, month12, day1, dayMonth, hour, ?_, ?_⟩ <;> omega),
    back]
  have whole : minMicros + (((n / 86400000000 * 86400 + n % 86400000000 / 1000000 / 3600 * 3600 +
      n % 86400000000 / 1000000 / 60 % 60 * 60 + n % 86400000000 / 1000000 % 60) * 1000000 +
      n % 86400000000 % 1000000 : ℕ) : ℤ) = t.val := by
    simp only [minMicros]
    omega
  rw [whole, DateTime.ofMicros?_val]

theorem fromIsoformat_isoformat (t : DateTime) : fromIsoformat (isoformat t) = some t := by
  rw [fromIsoformat, isoformat, String.toList_ofList, fromIsoChars_isoChars]

example : isoformat ⟨1704164645000120, by decide⟩ = "2024-01-02T03:04:05.000120" := by
  decide +kernel

end ContentPlatform.Text
