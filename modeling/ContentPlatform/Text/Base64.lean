import Mathlib.Data.List.DropRight
import Mathlib.Tactic.IntervalCases

/-!
# URL-safe Base64

`urlsafe_b64encode`, and `urlsafe_b64decode` with the lenient scanner behind
it: characters outside the alphabet are skipped, and a complete padding ends
the text.
-/

set_option autoImplicit false

namespace ContentPlatform.Text

def sextetChar (n : ℕ) : Char :=
  if n < 26 then Char.ofNat (65 + n)
  else if n < 52 then Char.ofNat (97 + (n - 26))
  else if n < 62 then Char.ofNat (48 + (n - 52))
  else if n = 62 then '-'
  else '_'

/-- Both alphabets: the URL-safe one is translated to the standard one before the scan. -/
def sextetValue? (c : Char) : Option ℕ :=
  let n := c.toNat
  if 65 ≤ n ∧ n ≤ 90 then some (n - 65)
  else if 97 ≤ n ∧ n ≤ 122 then some (n - 97 + 26)
  else if 48 ≤ n ∧ n ≤ 57 then some (n - 48 + 52)
  else if c = '-' ∨ c = '+' then some 62
  else if c = '_' ∨ c = '/' then some 63
  else none

def sextets : List ℕ → List ℕ
  | [] => []
  | [a] => [a / 4, a % 4 * 16]
  | [a, b] => [a / 4, a % 4 * 16 + b / 16, b % 16 * 4]
  | a :: b :: c :: rest =>
      a / 4 :: (a % 4 * 16 + b / 16) :: (b % 16 * 4 + c / 64) :: c % 64 :: sextets rest

/-- `b"=" * (-n % 4)`. -/
def padding (n : ℕ) : List Char := List.replicate ((4 - n % 4) % 4) '='

def base64Encode (bytes : List ℕ) : List Char :=
  let body := (sextets bytes).map sextetChar
  body ++ padding body.length

/-- The scanner with `quad` characters of a group behind it, the bits of the last of them in
`left`, and `pads` padding characters seen. -/
def base64Scan : (quad left pads : ℕ) → List Char → Option (List ℕ)
  | quad, _, _, [] => if quad = 0 then some [] else none
  | quad, left, pads, c :: cs =>
      if c = '=' then
        if 2 ≤ quad then
          if 4 ≤ quad + (pads + 1) then some [] else base64Scan quad left (pads + 1) cs
        else base64Scan quad left pads cs
      else
        match sextetValue? c with
        | none => base64Scan quad left pads cs
        | some n =>
            match quad with
            | 0 => base64Scan 1 n 0 cs
            | 1 => (base64Scan 2 (n % 16) 0 cs).map ((left * 4 + n / 16) :: ·)
            | 2 => (base64Scan 3 (n % 4) 0 cs).map ((left * 16 + n / 4) :: ·)
            | _ => (base64Scan 0 0 0 cs).map ((left * 64 + n) :: ·)

/-- `none` for `binascii.Error`. -/
def base64Decode (cs : List Char) : Option (List ℕ) := base64Scan 0 0 0 cs

set_option maxRecDepth 4000 in
theorem sextetValue?_sextetChar : ∀ n < 64, sextetValue? (sextetChar n) = some n := by
  decide

set_option maxRecDepth 4000 in
theorem sextetChar_ne_pad : ∀ n < 64, sextetChar n ≠ '=' := by
  decide

section
variable (left pads n : ℕ) (cs : List Char) (small : n < 64)
include small

theorem base64Scan_first : base64Scan 0 left pads (sextetChar n :: cs) = base64Scan 1 n 0 cs := by
  rw [base64Scan, if_neg (sextetChar_ne_pad n small)]
  simp only [sextetValue?_sextetChar n small]

theorem base64Scan_second : base64Scan 1 left pads (sextetChar n :: cs) =
    (base64Scan 2 (n % 16) 0 cs).map ((left * 4 + n / 16) :: ·) := by
  rw [base64Scan, if_neg (sextetChar_ne_pad n small)]
  simp only [sextetValue?_sextetChar n small]

theorem base64Scan_third : base64Scan 2 left pads (sextetChar n :: cs) =
    (base64Scan 3 (n % 4) 0 cs).map ((left * 16 + n / 4) :: ·) := by
  rw [base64Scan, if_neg (sextetChar_ne_pad n small)]
  simp only [sextetValue?_sextetChar n small]

theorem base64Scan_fourth : base64Scan 3 left pads (sextetChar n :: cs) =
    (base64Scan 0 0 0 cs).map ((left * 64 + n) :: ·) := by
  rw [base64Scan, if_neg (sextetChar_ne_pad n small)]
  simp only [sextetValue?_sextetChar n small]

end

theorem sextets_lt (bytes : List ℕ) (octets : ∀ b ∈ bytes, b < 256) :
    ∀ n ∈ sextets bytes, n < 64 := by
  induction bytes using sextets.induct with
  | case1 => intro n member; cases member
  | case2 a =>
      have := octets a (by simp)
      simp only [sextets, List.mem_cons, List.not_mem_nil, or_false, forall_eq_or_imp, forall_eq]
      omega
  | case3 a b =>
      have := octets a (by simp)
      have := octets b (by simp)
      simp only [sextets, List.mem_cons, List.not_mem_nil, or_false, forall_eq_or_imp, forall_eq]
      omega
  | case4 a b c rest ih =>
      have := octets a (by simp)
      have := octets b (by simp)
      have := octets c (by simp)
      have others := ih fun d member => octets d (by simp [member])
      simp only [sextets, List.mem_cons, forall_eq_or_imp]
      exact ⟨by omega, by omega, by omega, by omega, others⟩

theorem base64Scan_encode (bytes : List ℕ) (octets : ∀ b ∈ bytes, b < 256) :
    base64Scan 0 0 0 ((sextets bytes).map sextetChar ++ padding (sextets bytes).length) =
      some bytes := by
  induction bytes using sextets.induct with
  | case1 => rfl
  | case2 a =>
      have := octets a (by simp)
      simp only [sextets, List.map_cons, List.map_nil, List.cons_append, List.nil_append,
        List.length_cons, List.length_nil]
      rw [base64Scan_first 0 0 _ _ (by omega), base64Scan_second _ 0 _ _ (by omega)]
      have end_ : base64Scan 2 (a % 4 * 16 % 16) 0 (padding (0 + 1 + 1)) = some [] := rfl
      rw [end_, Option.map_some]
      exact congrArg some (congrArg (· :: []) (by omega))
  | case3 a b =>
      have := octets a (by simp)
      have := octets b (by simp)
      simp only [sextets, List.map_cons, List.map_nil, List.cons_append, List.nil_append,
        List.length_cons, List.length_nil]
      rw [base64Scan_first 0 0 _ _ (by omega), base64Scan_second _ 0 _ _ (by omega),
        base64Scan_third _ 0 _ _ (by omega)]
      have end_ : base64Scan 3 (b % 16 * 4 % 4) 0 (padding (0 + 1 + 1 + 1)) = some [] := rfl
      rw [end_, Option.map_some, Option.map_some]
      exact congrArg some (by congr 1 <;> [omega; (congr 1; omega)])
  | case4 a b c rest ih =>
      have := octets a (by simp)
      have := octets b (by simp)
      have := octets c (by simp)
      have others := ih fun d member => octets d (by simp [member])
      have pads : padding ((sextets rest).length + 1 + 1 + 1 + 1) =
          padding (sextets rest).length := by
        simp only [padding]
        congr 2
        omega
      simp only [sextets, List.map_cons, List.cons_append, List.length_cons, pads]
      rw [base64Scan_first 0 0 _ _ (by omega), base64Scan_second _ 0 _ _ (by omega),
        base64Scan_third _ 0 _ _ (by omega), base64Scan_fourth _ 0 _ _ (by omega), others]
      simp only [Option.map_some]
      refine congrArg some ?_
      congr 1
      · omega
      · congr 1
        · omega
        · congr 1
          omega

theorem base64Decode_encode (bytes : List ℕ) (octets : ∀ b ∈ bytes, b < 256) :
    base64Decode (base64Encode bytes) = some bytes := by
  simp only [base64Decode, base64Encode, List.length_map]
  exact base64Scan_encode bytes octets

/-- `rstrip("=")` takes off what the encoder padded with. -/
theorem rdropWhile_base64Encode (bytes : List ℕ) (octets : ∀ b ∈ bytes, b < 256) :
    (base64Encode bytes).rdropWhile (· = '=') = (sextets bytes).map sextetChar := by
  simp only [base64Encode]
  generalize ((sextets bytes).map sextetChar).length = n
  simp only [padding]
  generalize (4 - n % 4) % 4 = k
  induction k with
  | zero =>
      rw [List.replicate_zero, List.append_nil, List.rdropWhile_eq_self_iff]
      intro filled last
      obtain ⟨m, member, char⟩ := List.mem_map.mp (List.getLast_mem filled)
      rw [decide_eq_true_eq, ← char] at last
      exact sextetChar_ne_pad m (sextets_lt bytes octets m member) last
  | succ k ih =>
      rw [List.replicate_succ', ← List.append_assoc, List.rdropWhile_concat_pos _ _ _ (by simp)]
      exact ih

/-- `rstrip("=")` and padding again give back the encoded text. -/
theorem padding_rdropWhile (bytes : List ℕ) (octets : ∀ b ∈ bytes, b < 256) :
    (base64Encode bytes).rdropWhile (· = '=') ++
      padding ((base64Encode bytes).rdropWhile (· = '=')).length = base64Encode bytes := by
  rw [rdropWhile_base64Encode bytes octets]
  rfl

/-! ## Canonical texts -/

def UrlSafe (c : Char) : Prop := c.isAlphanum = true ∨ c = '-' ∨ c = '_'

instance (c : Char) : Decidable (UrlSafe c) :=
  inferInstanceAs (Decidable (c.isAlphanum = true ∨ c = '-' ∨ c = '_'))

set_option maxRecDepth 4000 in
theorem urlSafe_sextetChar : ∀ n < 64, UrlSafe (sextetChar n) := by
  decide

theorem toNat_of_isUpper {c : Char} (upper : c.isUpper = true) : 65 ≤ c.toNat ∧ c.toNat ≤ 90 := by
  have range : 65 ≤ c.val ∧ c.val ≤ 90 := of_decide_eq_true upper
  exact ⟨UInt32.le_iff_toNat_le.mp range.1, UInt32.le_iff_toNat_le.mp range.2⟩

theorem toNat_of_isLower {c : Char} (lower : c.isLower = true) : 97 ≤ c.toNat ∧ c.toNat ≤ 122 := by
  have range : (decide (97 ≤ c.val) && decide (c.val ≤ 122)) = true := lower
  rw [Bool.and_eq_true, decide_eq_true_eq, decide_eq_true_eq] at range
  exact ⟨UInt32.le_iff_toNat_le.mp range.1, UInt32.le_iff_toNat_le.mp range.2⟩

theorem exists_sextetChar (c : Char) (safe : UrlSafe c) : ∃ n < 64, sextetChar n = c := by
  rcases safe with alphanumeric | rfl | rfl
  · have kinds : (c.isUpper || c.isLower || c.isDigit) = true := alphanumeric
    rw [Bool.or_eq_true, Bool.or_eq_true] at kinds
    rcases kinds with (upper | lower) | digit
    · have range : 65 ≤ c.toNat ∧ c.toNat ≤ 90 := toNat_of_isUpper upper
      refine ⟨c.toNat - 65, by omega, ?_⟩
      rw [sextetChar, if_pos (by omega), show 65 + (c.toNat - 65) = c.toNat by omega,
        Char.ofNat_toNat]
    · have range : 97 ≤ c.toNat ∧ c.toNat ≤ 122 := toNat_of_isLower lower
      refine ⟨c.toNat - 97 + 26, by omega, ?_⟩
      rw [sextetChar, if_neg (by omega), if_pos (by omega),
        show 97 + (c.toNat - 97 + 26 - 26) = c.toNat by omega, Char.ofNat_toNat]
    · have range : 48 ≤ c.toNat ∧ c.toNat ≤ 57 := Char.isDigit_iff_toNat.mp digit
      refine ⟨c.toNat - 48 + 52, by omega, ?_⟩
      rw [sextetChar, if_neg (by omega), if_neg (by omega), if_pos (by omega),
        show 48 + (c.toNat - 48 + 52 - 52) = c.toNat by omega, Char.ofNat_toNat]
  · exact ⟨62, by decide, by decide⟩
  · exact ⟨63, by decide, by decide⟩

theorem exists_sextets (cs : List Char) (safe : ∀ c ∈ cs, UrlSafe c) :
    ∃ ns : List ℕ, (∀ n ∈ ns, n < 64) ∧ ns.map sextetChar = cs := by
  induction cs with
  | nil => exact ⟨[], by simp, rfl⟩
  | cons c cs ih =>
      obtain ⟨n, small, head⟩ := exists_sextetChar c (safe c (List.mem_cons_self ..))
      obtain ⟨ns, smalls, tail⟩ := ih fun c member => safe c (List.mem_cons_of_mem _ member)
      refine ⟨n :: ns, ?_, by rw [List.map_cons, head, tail]⟩
      intro m member
      rcases List.mem_cons.mp member with rfl | member
      · exact small
      · exact smalls m member

/-- The bits of the last character of a text that belong to no byte. -/
def spareBits : List ℕ → ℕ
  | [] => 0
  | [_] => 0
  | [_, b] => b % 16
  | [_, _, c] => c % 4
  | _ :: _ :: _ :: _ :: rest => spareBits rest

theorem spareBits_sextets (bytes : List ℕ) : spareBits (sextets bytes) = 0 := by
  induction bytes using sextets.induct with
  | case1 => rfl
  | case2 a => simp [sextets, spareBits]
  | case3 a b =>
      simp only [sextets, spareBits]
      omega
  | case4 a b c rest ih => simpa [sextets, spareBits] using ih

/-- Of the texts without spare bits, each that decodes is the encoding of its bytes. -/
theorem sextets_base64Scan (ns : List ℕ) (small : ∀ n ∈ ns, n < 64) (exact_ : spareBits ns = 0)
    {bytes : List ℕ}
    (decoded : base64Scan 0 0 0 (ns.map sextetChar ++ padding ns.length) = some bytes) :
    sextets bytes = ns := by
  induction ns using spareBits.induct generalizing bytes with
  | case1 =>
      obtain rfl := Option.some.inj decoded
      rfl
  | case2 a =>
      rw [List.map_cons, List.cons_append, base64Scan_first 0 0 a _ (small a (by simp))] at decoded
      cases decoded
  | case3 a b =>
      have first := small a (by simp)
      have second := small b (by simp)
      rw [List.map_cons, List.map_cons, List.cons_append, List.cons_append,
        base64Scan_first 0 0 a _ first, base64Scan_second a 0 b _ second] at decoded
      have end_ : base64Scan 2 (b % 16) 0 (padding ([a, b] : List ℕ).length) = some [] := rfl
      rw [List.map_nil, List.nil_append, end_] at decoded
      obtain rfl := Option.some.inj decoded
      rw [spareBits] at exact_
      simp only [sextets, List.cons.injEq, and_true]
      omega
  | case4 a b c =>
      have first := small a (by simp)
      have second := small b (by simp)
      have third := small c (by simp)
      rw [List.map_cons, List.map_cons, List.map_cons, List.cons_append, List.cons_append,
        List.cons_append, base64Scan_first 0 0 a _ first, base64Scan_second a 0 b _ second,
        base64Scan_third _ 0 c _ third] at decoded
      have end_ : base64Scan 3 (c % 4) 0 (padding ([a, b, c] : List ℕ).length) = some [] := rfl
      rw [List.map_nil, List.nil_append, end_] at decoded
      obtain rfl := Option.some.inj decoded
      rw [spareBits] at exact_
      simp only [sextets, List.cons.injEq, and_true]
      omega
  | case5 a b c d rest ih =>
      have first := small a (by simp)
      have second := small b (by simp)
      have third := small c (by simp)
      have fourth := small d (by simp)
      have pads : padding (a :: b :: c :: d :: rest).length = padding rest.length := by
        simp only [padding, List.length_cons]
        congr 2
        omega
      rw [pads, List.map_cons, List.map_cons, List.map_cons, List.map_cons, List.cons_append,
        List.cons_append, List.cons_append, List.cons_append, base64Scan_first 0 0 a _ first,
        base64Scan_second a 0 b _ second, base64Scan_third _ 0 c _ third,
        base64Scan_fourth _ 0 d _ fourth] at decoded
      simp only [Option.map_eq_some_iff] at decoded
      obtain ⟨_, ⟨_, ⟨others, scanned, rfl⟩, rfl⟩, rfl⟩ := decoded
      have tail := ih (fun n member => small n (by simp [member])) exact_ scanned
      simp only [sextets, tail, List.cons.injEq, and_true]
      omega

end ContentPlatform.Text
