import ContentPlatform.Text.Json
import Mathlib.Data.List.SplitBy

/-!
# Percent encoding

`quote_plus` and `unquote` of `urllib.parse`.  The first is for forms, where a space is a plus sign;
the second leaves plus signs alone.
-/

set_option autoImplicit false

namespace ContentPlatform.Text

/-- `text.encode("utf-8")`. -/
def utf8 (cs : List Char) : List UInt8 := cs.flatMap String.utf8EncodeChar

/-! ## Writing -/

/-- `_ALWAYS_SAFE`. -/
def isAlwaysSafe (b : UInt8) : Bool :=
  let n := b.toNat
  (65 ≤ n && n ≤ 90) || (97 ≤ n && n ≤ 122) || (48 ≤ n && n ≤ 57) ||
    n == 95 || n == 46 || n == 45 || n == 126

def hexDigitUpper (n : ℕ) : Char := if n < 10 then Char.ofNat (48 + n) else Char.ofNat (55 + n)

/-- One byte, with one more byte that is safe. -/
def quoteByte (safe : Option UInt8) (b : UInt8) : List Char :=
  if isAlwaysSafe b || safe == some b then [Char.ofNat b.toNat]
  else ['%', hexDigitUpper (b.toNat / 16), hexDigitUpper (b.toNat % 16)]

def quoteSafe (safe : Option UInt8) (cs : List Char) : List Char :=
  (utf8 cs).flatMap (quoteByte safe)

def quotePlus (text : String) : String :=
  if ' ' ∈ text.toList then
    String.ofList ((quoteSafe (some 32) text.toList).map fun c => if c = ' ' then '+' else c)
  else String.ofList (quoteSafe none text.toList)

/-! ## Reading -/

/-- `unquote_to_bytes` of a text within ASCII. -/
def unquoteToBytes : List Char → List UInt8
  | [] => []
  | [c] => [UInt8.ofNat c.toNat]
  | [c, d] => [UInt8.ofNat c.toNat, UInt8.ofNat d.toNat]
  | c :: a :: b :: rest =>
      if c = '%' then
        match hexValue? a, hexValue? b with
        | some high, some low => UInt8.ofNat (16 * high + low) :: unquoteToBytes rest
        | _, _ => UInt8.ofNat c.toNat :: unquoteToBytes (a :: b :: rest)
      else UInt8.ofNat c.toNat :: unquoteToBytes (a :: b :: rest)

/-- `bytes.decode("utf-8", "replace")`, where `replace` is what it makes of bytes that are no
UTF-8. -/
def decodeReplace (replace : List UInt8 → List Char) (bytes : List UInt8) : List Char :=
  match bytes.toByteArray.utf8Decode? with
  | some cs => cs.toList
  | none => replace bytes

def isAscii (c : Char) : Bool := c.toNat < 128

/-- The stretches within ASCII are decoded one by one. -/
def unquote (replace : List UInt8 → List Char) (cs : List Char) : List Char :=
  if '%' ∈ cs then
    (cs.splitBy fun c d => isAscii c == isAscii d).flatMap fun stretch =>
      if stretch.all isAscii then decodeReplace replace (unquoteToBytes stretch) else stretch
  else cs

/-! ## Bytes of ASCII -/

theorem utf8EncodeChar_ascii {c : Char} (ascii : c.toNat < 128) :
    String.utf8EncodeChar c = [UInt8.ofNat c.toNat] := by
  have small : c.val.toNat ≤ 0x7f := by
    have := show c.val.toNat < 128 from ascii
    omega
  simp only [String.utf8EncodeChar]
  rw [if_pos small]
  rfl

/-- Only a character of ASCII is written with a byte below 128. -/
theorem toNat_of_utf8EncodeChar {c : Char} {b : UInt8} (member : b ∈ String.utf8EncodeChar c)
    (low : b.toNat < 128) : c.toNat = b.toNat := by
  have bound : c.val.toNat < 0x110000 := by
    have := c.valid
    rcases this with small | ⟨_, small⟩
    · have := show c.val.toNat < 0xd800 from small
      omega
    · exact small
  show c.val.toNat = b.toNat
  simp only [String.utf8EncodeChar] at member
  split at member
  · rename_i small
    obtain rfl := List.mem_singleton.mp member
    rw [UInt8.toNat_ofNat']
    omega
  · split at member
    · rcases List.mem_cons.mp member with rfl | member
      · rw [UInt8.toNat_ofNat'] at low
        omega
      · obtain rfl := List.mem_singleton.mp member
        rw [UInt8.toNat_ofNat'] at low
        omega
    · split at member
      · simp only [List.mem_cons, List.not_mem_nil, or_false] at member
        rcases member with rfl | rfl | rfl <;> rw [UInt8.toNat_ofNat'] at low <;> omega
      · simp only [List.mem_cons, List.not_mem_nil, or_false] at member
        rcases member with rfl | rfl | rfl | rfl <;> rw [UInt8.toNat_ofNat'] at low <;> omega

theorem space_mem_utf8 {cs : List Char} {b : UInt8} (member : b ∈ utf8 cs) (space : b.toNat = 32) :
    ' ' ∈ cs := by
  obtain ⟨c, inside, byte⟩ := List.mem_flatMap.mp member
  have value : c.toNat = 32 := (toNat_of_utf8EncodeChar byte (by omega)).trans space
  have same : c = ' ' := by rw [← Char.ofNat_toNat c, value]
  rw [← same]
  exact inside

/-! ## The form -/

def formByte (b : UInt8) : List Char := if b.toNat = 32 then ['+'] else quoteByte none b

/-- The character of a form for a character that is no space. -/
def plusForSpace (c : Char) : Char := if c = ' ' then '+' else c

theorem hexDigitUpper_spec : ∀ n, n < 16 → hexValue? (hexDigitUpper n) = some n ∧
    (48 ≤ (hexDigitUpper n).toNat ∧ (hexDigitUpper n).toNat ≤ 57 ∨
      65 ≤ (hexDigitUpper n).toNat ∧ (hexDigitUpper n).toNat ≤ 70) := by decide

theorem toNat_ofNat_byte (b : UInt8) (low : b.toNat < 128) :
    (Char.ofNat b.toNat).toNat = b.toNat := by
  have valid : b.toNat.isValidChar := Or.inl (by omega)
  rw [Char.ofNat, dif_pos valid]
  rfl

/-- What a safe byte may be. -/
theorem isAlwaysSafe_range {b : UInt8} (safe : isAlwaysSafe b = true) :
    65 ≤ b.toNat ∧ b.toNat ≤ 90 ∨ 97 ≤ b.toNat ∧ b.toNat ≤ 122 ∨ 48 ≤ b.toNat ∧ b.toNat ≤ 57 ∨
      b.toNat = 95 ∨ b.toNat = 46 ∨ b.toNat = 45 ∨ b.toNat = 126 := by
  simp only [isAlwaysSafe, Bool.or_eq_true, Bool.and_eq_true, decide_eq_true_eq, beq_iff_eq] at safe
  omega

def FormChar (c : Char) : Prop :=
  c = '%' ∨ c = '+' ∨ 65 ≤ c.toNat ∧ c.toNat ≤ 90 ∨ 97 ≤ c.toNat ∧ c.toNat ≤ 122 ∨
    48 ≤ c.toNat ∧ c.toNat ≤ 57 ∨ c.toNat = 95 ∨ c.toNat = 46 ∨ c.toNat = 45 ∨ c.toNat = 126

instance (c : Char) : Decidable (FormChar c) := inferInstanceAs (Decidable (_ ∨ _))

theorem formByte_chars {b : UInt8} {c : Char} (member : c ∈ formByte b) : FormChar c := by
  rw [formByte] at member
  split at member
  · exact Or.inr (Or.inl (List.mem_singleton.mp member))
  · rw [quoteByte] at member
    split at member
    · rename_i safe
      rw [Bool.or_eq_true] at safe
      have range := isAlwaysSafe_range (safe.resolve_right (by simp))
      obtain rfl := List.mem_singleton.mp member
      have value := toNat_ofNat_byte b (by omega)
      right; right
      omega
    · have high := (hexDigitUpper_spec (b.toNat / 16) (by have := b.toNat_lt; omega)).2
      have low := (hexDigitUpper_spec (b.toNat % 16) (by omega)).2
      simp only [List.mem_cons, List.not_mem_nil, or_false] at member
      rcases member with rfl | rfl | rfl
      · exact Or.inl rfl
      · right; right
        omega
      · right; right
        omega

theorem FormChar.no_separator {c : Char} (form : FormChar c) :
    c ≠ ':' ∧ c ≠ '/' ∧ c ≠ '@' ∧ isAscii c = true := by
  rcases form with rfl | rfl | range
  · decide
  · decide
  · have colon : (':' : Char).toNat = 58 := rfl
    have slash : ('/' : Char).toNat = 47 := rfl
    have atSign : ('@' : Char).toNat = 64 := rfl
    have ascii : c.toNat < 128 := by omega
    exact ⟨by rintro rfl; omega, by rintro rfl; omega, by rintro rfl; omega, by simpa [isAscii]⟩

theorem quoteByte_space {b : UInt8} (other : b.toNat ≠ 32) :
    quoteByte (some 32) b = quoteByte none b := by
  have apart : ((some 32 : Option UInt8) == some b) = false := by
    rw [beq_eq_false_iff_ne]
    intro same
    rw [← Option.some.inj same] at other
    exact other rfl
  rw [quoteByte, quoteByte, apart]
  rfl

theorem map_formByte (b : UInt8) :
    (quoteByte (some 32) b).map (fun c => if c = ' ' then '+' else c) = formByte b := by
  by_cases space : b.toNat = 32
  · rw [show b = 32 from UInt8.toNat_inj.mp space]
    rfl
  · rw [quoteByte_space space, formByte, if_neg space]
    have unchanged : ∀ c ∈ quoteByte none b, (if c = ' ' then '+' else c) = c := by
      intro c member
      rw [if_neg]
      rintro rfl
      have form : FormChar ' ' := formByte_chars (by rw [formByte, if_neg space]; exact member)
      exact absurd form (by decide)
    rw [List.map_congr_left unchanged, List.map_id']

/-- A text in a form, byte by byte. -/
theorem toList_quotePlus (text : String) :
    (quotePlus text).toList = (utf8 text.toList).flatMap formByte := by
  rw [quotePlus]
  split
  · rw [String.toList_ofList, quoteSafe, List.map_flatMap]
    congr 1
    funext b
    exact map_formByte b
  · rename_i none
    rw [String.toList_ofList, quoteSafe]
    apply List.flatMap_congr
    intro b member
    rw [formByte, if_neg fun space => none (space_mem_utf8 member space)]

theorem quotePlus_chars {text : String} {c : Char} (member : c ∈ (quotePlus text).toList) :
    FormChar c := by
  rw [toList_quotePlus] at member
  obtain ⟨b, _, inside⟩ := List.mem_flatMap.mp member
  exact formByte_chars inside

/-! ## Reading a form -/

theorem unquoteToBytes_cons {c : Char} (plain : c ≠ '%') (rest : List Char) :
    unquoteToBytes (c :: rest) = UInt8.ofNat c.toNat :: unquoteToBytes rest := by
  match rest with
  | [] => rfl
  | [d] => rfl
  | a :: b :: rest => rw [unquoteToBytes, if_neg plain]

/-- What a byte is read back as: a space in a form is read as a plus sign. -/
def plusByte (b : UInt8) : UInt8 := if b.toNat = 32 then 43 else b

theorem unquoteToBytes_formByte (b : UInt8) (rest : List Char) :
    unquoteToBytes (formByte b ++ rest) = plusByte b :: unquoteToBytes rest := by
  have bound := b.toNat_lt
  rw [formByte, plusByte]
  split
  · exact unquoteToBytes_cons (by decide) rest
  · rw [quoteByte]
    split
    · rename_i safe
      rw [Bool.or_eq_true] at safe
      have range := isAlwaysSafe_range (safe.resolve_right (by simp))
      have value := toNat_ofNat_byte b (by omega)
      have plain : Char.ofNat b.toNat ≠ '%' := by
        intro same
        have percent : ('%' : Char).toNat = 37 := rfl
        rw [same] at value
        omega
      rw [List.singleton_append, unquoteToBytes_cons plain, value, UInt8.ofNat_toNat]
    · have high := (hexDigitUpper_spec (b.toNat / 16) (by omega)).1
      have low := (hexDigitUpper_spec (b.toNat % 16) (by omega)).1
      rw [List.cons_append, List.cons_append, List.cons_append, List.nil_append, unquoteToBytes,
        if_pos rfl, high, low]
      dsimp only
      rw [show 16 * (b.toNat / 16) + b.toNat % 16 = b.toNat by omega, UInt8.ofNat_toNat]

theorem unquoteToBytes_form (bytes : List UInt8) :
    unquoteToBytes (bytes.flatMap formByte) = bytes.map plusByte := by
  induction bytes with
  | nil => rfl
  | cons b rest ih => rw [List.flatMap_cons, unquoteToBytes_formByte, ih, List.map_cons]

theorem map_plusByte_utf8 (cs : List Char) :
    (utf8 cs).map plusByte = utf8 (cs.map plusForSpace) := by
  rw [utf8, utf8, List.map_flatMap, List.flatMap_map]
  apply List.flatMap_congr
  intro c _
  by_cases space : c = ' '
  · rw [space]
    rfl
  · rw [plusForSpace, if_neg space]
    have unchanged : ∀ b ∈ String.utf8EncodeChar c, plusByte b = b := by
      intro b member
      rw [plusByte, if_neg]
      intro value
      have code : c.toNat = 32 := (toNat_of_utf8EncodeChar member (by omega)).trans value
      exact space (by rw [← Char.ofNat_toNat c, code])
    rw [List.map_congr_left unchanged, List.map_id']

variable (replace : List UInt8 → List Char)

theorem decodeReplace_utf8 (cs : List Char) : decodeReplace replace (utf8 cs) = cs := by
  have encoded : (utf8 cs).toByteArray = cs.utf8Encode := rfl
  rw [decodeReplace, encoded, List.utf8Decode?_utf8Encode]

theorem unquoteToBytes_ascii {cs : List Char} (ascii : cs.all isAscii = true) (plain : '%' ∉ cs) :
    unquoteToBytes cs = utf8 cs := by
  induction cs with
  | nil => rfl
  | cons c rest ih =>
      rw [List.all_cons, Bool.and_eq_true] at ascii
      rw [List.mem_cons, not_or] at plain
      have low : c.toNat < 128 := by simpa [isAscii] using ascii.1
      rw [unquoteToBytes_cons (Ne.symm plain.1), ih ascii.2 plain.2, utf8, utf8, List.flatMap_cons,
        utf8EncodeChar_ascii low, List.singleton_append]

/-- A text within ASCII is one stretch. -/
theorem unquote_ascii {cs : List Char} (ascii : cs.all isAscii = true) :
    unquote replace cs = decodeReplace replace (unquoteToBytes cs) := by
  rw [unquote]
  split
  · rename_i percent
    have nonempty : cs ≠ [] := List.ne_nil_of_mem percent
    have one : cs.splitBy (fun c d => isAscii c == isAscii d) = [cs] := by
      rw [List.splitBy_eq_iff]
      refine ⟨by simp, by simpa using nonempty.symm, ?_, by simp⟩
      intro stretch member
      obtain rfl := List.mem_singleton.mp member
      rw [List.all_eq_true] at ascii
      apply List.isChain_iff_getElem.mpr
      intro i bound
      rw [ascii _ (List.getElem_mem _), ascii _ (List.getElem_mem _)]
      rfl
    rw [one, List.flatMap_singleton, if_pos ascii]
  · rename_i plain
    rw [unquoteToBytes_ascii ascii plain, decodeReplace_utf8]

/-- What a form is read back as. -/
theorem unquote_quotePlus (text : String) :
    unquote replace (quotePlus text).toList = text.toList.map plusForSpace := by
  have ascii : (quotePlus text).toList.all isAscii = true := by
    rw [List.all_eq_true]
    intro c member
    exact (quotePlus_chars member).no_separator.2.2.2
  rw [unquote_ascii replace ascii, toList_quotePlus, unquoteToBytes_form, map_plusByte_utf8,
    decodeReplace_utf8]

theorem map_plusForSpace_iff {cs : List Char} : cs.map plusForSpace = cs ↔ ' ' ∉ cs := by
  have unchanged : cs.map plusForSpace = cs ↔ ∀ c ∈ cs, plusForSpace c = id c := by
    rw [← List.map_inj_left, List.map_id]
  rw [unchanged]
  constructor
  · intro each space
    exact absurd (each ' ' space) (by decide)
  · intro clean c member
    rw [plusForSpace, if_neg]
    · rfl
    · rintro rfl
      exact clean member

end ContentPlatform.Text
