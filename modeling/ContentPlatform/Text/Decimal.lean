import Mathlib.Data.Int.Order.Basic
import Mathlib.Data.List.TakeWhile
import Mathlib.Tactic.Ring

/-!
# Decimal numerals

The text of an integer and the two ways of reading one back: a run of digits at
the front of a text, and a whole text as `int(...)` reads it.
-/

set_option autoImplicit false

namespace ContentPlatform.Text

def intChars (n : ℤ) : List Char := (toString n).toList

theorem intChars_of_nonneg (n : ℕ) : intChars (n : ℤ) = Nat.toDigits 10 n := by
  show (Nat.repr n).toList = _
  exact Nat.toList_repr

theorem intChars_of_neg (n : ℕ) : intChars (Int.negSucc n) = '-' :: Nat.toDigits 10 (n + 1) := by
  show ("-" ++ Nat.repr (n + 1)).toList = _
  rw [String.toList_append, Nat.toList_repr]
  rfl

/-- Split the leading run of ASCII digits from a text. -/
def spanDigits : List Char → List Char × List Char
  | [] => ([], [])
  | c :: cs => if c.isDigit then ((c :: (spanDigits cs).1), (spanDigits cs).2) else ([], c :: cs)

theorem spanDigits_append (ds rest : List Char) (digits : ∀ c ∈ ds, c.isDigit = true)
    (stop : ∀ c, rest.head? = some c → c.isDigit = false) :
    spanDigits (ds ++ rest) = (ds, rest) := by
  induction ds with
  | nil =>
      cases rest with
      | nil => rfl
      | cons c cs => simp [spanDigits, stop c rfl]
  | cons d ds ih =>
      have head : d.isDigit = true := digits d (List.mem_cons_self ..)
      have tail := ih fun c member => digits c (List.mem_cons_of_mem _ member)
      simp [spanDigits, head, tail]

theorem toDigits_isDigit (n : ℕ) : ∀ c ∈ Nat.toDigits 10 n, c.isDigit = true :=
  fun _ member => Nat.isDigit_of_mem_toDigits (by decide) (by decide) member

theorem toDigits_head (n : ℕ) : ∃ d ds, Nat.toDigits 10 n = d :: ds ∧ d.isDigit = true := by
  cases shape : Nat.toDigits 10 n with
  | nil => exact absurd shape Nat.toDigits_ne_nil
  | cons d ds =>
      exact ⟨d, ds, rfl, toDigits_isDigit n d (by rw [shape]; exact List.mem_cons_self ..)⟩

theorem toDigits_injective (m n : ℕ) (same : Nat.toDigits 10 m = Nat.toDigits 10 n) : m = n := by
  rw [← Nat.ofDigitChars_ten_toDigits (n := m), same, Nat.ofDigitChars_ten_toDigits]

theorem intChars_injective (m n : ℤ) (same : intChars m = intChars n) : m = n := by
  have sign : ∀ a b : ℕ, Nat.toDigits 10 a ≠ '-' :: Nat.toDigits 10 b := by
    intro a b clash
    have digit := toDigits_isDigit a '-' (by rw [clash]; exact List.mem_cons_self ..)
    exact absurd digit (by decide)
  cases m with
  | ofNat m =>
      cases n with
      | ofNat n =>
          have := toDigits_injective m n (by
            rw [← intChars_of_nonneg, ← intChars_of_nonneg]; exact same)
          rw [this]
      | negSucc n => exact absurd (intChars_of_neg n ▸ intChars_of_nonneg m ▸ same) (sign _ _)
  | negSucc m =>
      cases n with
      | ofNat n => exact absurd (intChars_of_neg m ▸ intChars_of_nonneg n ▸ same.symm) (sign _ _)
      | negSucc n =>
          rw [intChars_of_neg, intChars_of_neg] at same
          have := toDigits_injective _ _ (List.cons.inj same).2
          have : m = n := by omega
          rw [this]

/-- Which characters the text of an integer is made of. -/
theorem intChars_isDigit_or_sign (n : ℤ) : ∀ c ∈ intChars n, c.isDigit = true ∨ c = '-' := by
  cases n with
  | ofNat n =>
      intro c member
      exact Or.inl (toDigits_isDigit n c (intChars_of_nonneg n ▸ member))
  | negSucc n =>
      intro c member
      rw [intChars_of_neg] at member
      rcases List.mem_cons.mp member with rfl | member
      · exact Or.inr rfl
      · exact Or.inl (toDigits_isDigit _ c member)

theorem intChars_ne_nil (n : ℤ) : intChars n ≠ [] := by
  cases n with
  | ofNat n => exact fun h => Nat.toDigits_ne_nil (intChars_of_nonneg n ▸ h)
  | negSucc n =>
      rw [intChars_of_neg]
      exact List.cons_ne_nil _ _

/-! ## `int(text)` -/

/-- The zeros of the decimal digit blocks of Unicode. -/
def decimalZeros : List ℕ :=
  [0x30, 0x660, 0x6f0, 0x7c0, 0x966, 0x9e6, 0xa66, 0xae6, 0xb66, 0xbe6, 0xc66, 0xce6, 0xd66,
    0xde6, 0xe50, 0xed0, 0xf20, 0x1040, 0x1090, 0x17e0, 0x1810, 0x1946, 0x19d0, 0x1a80, 0x1a90,
    0x1b50, 0x1bb0, 0x1c40, 0x1c50, 0xa620, 0xa8d0, 0xa900, 0xa9d0, 0xa9f0, 0xaa50, 0xabf0,
    0xff10, 0x104a0, 0x10d30, 0x11066, 0x110f0, 0x11136, 0x111d0, 0x112f0, 0x11450, 0x114d0,
    0x11650, 0x116c0, 0x11730, 0x118e0, 0x11950, 0x11c50, 0x11d50, 0x11da0, 0x16a60, 0x16ac0,
    0x16b50, 0x1d7ce, 0x1d7d8, 0x1d7e2, 0x1d7ec, 0x1d7f6, 0x1e140, 0x1e2f0, 0x1e950, 0x1fbf0]

def decimalValue? (c : Char) : Option ℕ :=
  (decimalZeros.find? fun first => first ≤ c.toNat && c.toNat < first + 10).map (c.toNat - ·)

/-- Digits with at most one underscore between two of them.  `after` says whether the
character before was a digit. -/
def underscoredDigits (after : Bool) (value : ℕ) : List Char → Option ℕ
  | [] => if after then some value else none
  | c :: cs =>
      if c = '_' then
        if after then underscoredDigits false value cs else none
      else
        match decimalValue? c with
        | some digit => underscoredDigits true (10 * value + digit) cs
        | none => none

/-- The characters `str.strip` takes off. -/
def isSpace (c : Char) : Bool :=
  [0x9, 0xa, 0xb, 0xc, 0xd, 0x1c, 0x1d, 0x1e, 0x1f, 0x20, 0x85, 0xa0, 0x1680, 0x2000, 0x2001,
    0x2002, 0x2003, 0x2004, 0x2005, 0x2006, 0x2007, 0x2008, 0x2009, 0x200a, 0x2028, 0x2029,
    0x202f, 0x205f, 0x3000].contains c.toNat

/-- The characters `int` takes off: of those below 128 only what C calls white space, not the
separators that `str.strip` takes off as well. -/
def isIntSpace (c : Char) : Bool := isSpace c && !(0x1c ≤ c.toNat && c.toNat < 0x20)

/-- `text.strip(chars)`. -/
def stripOf (taken : Char → Bool) (cs : List Char) : List Char :=
  ((cs.dropWhile taken).reverse.dropWhile taken).reverse

/-- More digits than this neither `int` nor `str` converts: both raise `ValueError`. -/
def maxStrDigits : ℕ := 4300

/-- A numeral without its sign; underscores are not counted as digits. -/
def readNumeral (cs : List Char) : Option ℕ :=
  if cs.countP (· ≠ '_') ≤ maxStrDigits then underscoredDigits false 0 cs else none

/-- `int(text)`, with `none` for `ValueError`. -/
def parseInt (cs : List Char) : Option ℤ :=
  match stripOf isIntSpace cs with
  | '-' :: digits => (readNumeral digits).map fun n => -(n : ℤ)
  | '+' :: digits => (readNumeral digits).map Int.ofNat
  | digits => (readNumeral digits).map Int.ofNat

theorem decimalValue?_of_isDigit (c : Char) (digit : c.isDigit = true) :
    decimalValue? c = some (c.toNat - 48) := by
  have range : 48 ≤ c.toNat ∧ c.toNat ≤ 57 := Char.isDigit_iff_toNat.mp digit
  simp [decimalValue?, decimalZeros, show 48 ≤ c.toNat from range.1,
    show c.toNat < 58 by omega]

theorem underscoredDigits_of_digits (ds : List Char) (digits : ∀ c ∈ ds, c.isDigit = true)
    (after : Bool) (value : ℕ) (some_digit : ds ≠ [] ∨ after = true) :
    underscoredDigits after value ds = some (Nat.ofDigitChars 10 ds value) := by
  induction ds generalizing after value with
  | nil =>
      have : after = true := some_digit.resolve_left (fun h => h rfl)
      simp [underscoredDigits, this]
  | cons d ds ih =>
      have head : d.isDigit = true := digits d (List.mem_cons_self ..)
      have plain : d ≠ '_' := by rintro rfl; exact absurd head (by decide)
      have tail := ih (fun c member => digits c (List.mem_cons_of_mem _ member)) true
        (10 * value + (d.toNat - 48)) (Or.inr rfl)
      rw [Nat.ofDigitChars_cons]
      simp only [underscoredDigits, if_neg plain, decimalValue?_of_isDigit d head]
      exact tail

/-- What is taken off stands around what is kept. -/
theorem stripOf_surrounded {taken : Char → Bool} {before core after : List Char}
    (front : ∀ c ∈ before, taken c = true) (kept : ∀ c ∈ core, taken c = false)
    (back : ∀ c ∈ after, taken c = true) : stripOf taken (before ++ core ++ after) = core := by
  have whole : ∀ xs : List Char, (∀ c ∈ xs, taken c = false) → xs.dropWhile taken = xs := by
    intro xs clean
    cases xs with
    | nil => rfl
    | cons x xs => simp [List.dropWhile, clean x (List.mem_cons_self ..)]
  have backwards : ∀ c ∈ after.reverse, taken c = true := by
    intro c member
    exact back c (List.mem_reverse.mp member)
  have reversed : ∀ c ∈ core.reverse, taken c = false := by
    intro c member
    exact kept c (List.mem_reverse.mp member)
  cases core with
  | nil =>
      have all : ∀ c ∈ before ++ after, taken c = true := by
        intro c member
        exact (List.mem_append.mp member).elim (front c) (back c)
      simp [stripOf, List.dropWhile_eq_nil_iff.mpr all]
  | cons c core =>
      have first : taken c = false := kept c (List.mem_cons_self ..)
      have opened : (before ++ (c :: core) ++ after).dropWhile taken = c :: core ++ after := by
        rw [List.append_assoc, List.dropWhile_append_of_pos front]
        simp [first]
      calc stripOf taken (before ++ (c :: core) ++ after)
          = ((c :: core ++ after).reverse.dropWhile taken).reverse := by rw [stripOf, opened]
        _ = ((c :: core).reverse.dropWhile taken).reverse := by
          rw [List.reverse_append, List.dropWhile_append_of_pos backwards]
        _ = c :: core := by rw [whole _ reversed, List.reverse_reverse]

theorem stripOf_of_none {taken : Char → Bool} {cs : List Char} (kept : ∀ c ∈ cs, taken c = false) :
    stripOf taken cs = cs := by
  have none_ : ∀ c ∈ ([] : List Char), taken c = true := fun _ member => by cases member
  have bare := stripOf_surrounded none_ kept none_
  rwa [List.nil_append, List.append_nil] at bare

theorem isSpace_of_isDigit (c : Char) (digit : c.isDigit = true) : isSpace c = false := by
  have range : 48 ≤ c.toNat ∧ c.toNat ≤ 57 := Char.isDigit_iff_toNat.mp digit
  simp only [isSpace, List.contains_eq_mem, List.mem_cons, List.not_mem_nil, or_false,
    decide_eq_false_iff_not]
  omega

theorem intChars_no_space (n : ℤ) : ∀ c ∈ intChars n, isIntSpace c = false := by
  intro c member
  rcases intChars_isDigit_or_sign n c member with digit | rfl
  · rw [isIntSpace, isSpace_of_isDigit c digit, Bool.false_and]
  · decide

theorem readNumeral_toDigits {n : ℕ} (short : n < 10 ^ maxStrDigits) :
    readNumeral (Nat.toDigits 10 n) = some n := by
  have digits : (Nat.toDigits 10 n).length ≤ maxStrDigits :=
    (Nat.length_toDigits_le_iff (by decide) (by decide)).mpr short
  have read := underscoredDigits_of_digits (Nat.toDigits 10 n) (toDigits_isDigit n) false 0
    (Or.inl Nat.toDigits_ne_nil)
  rw [readNumeral, if_pos (List.countP_le_length.trans digits), read,
    Nat.ofDigitChars_ten_toDigits]

/-- `int(str(n)) == n`. -/
theorem parseInt_intChars {n : ℤ} (short : n.natAbs < 10 ^ maxStrDigits) :
    parseInt (intChars n) = some n := by
  unfold parseInt
  rw [stripOf_of_none (intChars_no_space n)]
  cases n with
  | ofNat n =>
      have read := readNumeral_toDigits (n := n) short
      obtain ⟨d, ds, shape, digit⟩ := toDigits_head n
      have minus : d ≠ '-' := by rintro rfl; exact absurd digit (by decide)
      have plus : d ≠ '+' := by rintro rfl; exact absurd digit (by decide)
      rw [show intChars (Int.ofNat n) = d :: ds from (intChars_of_nonneg n).trans shape]
      rw [shape] at read
      split
      · rename_i h; exact absurd (List.cons.inj h).1 minus
      · rename_i h; exact absurd (List.cons.inj h).1 plus
      · rw [read]; rfl
  | negSucc n =>
      have read := readNumeral_toDigits (n := n + 1) short
      rw [intChars_of_neg]
      simp only [read]
      rfl

/-- A separator that `str.strip` takes off. -/
example : parseInt ['\x1c', '5'] = none ∧ parseInt [' ', '5', '\u00a0'] = some 5 := by
  decide +kernel

end ContentPlatform.Text
