import ContentPlatform.Exceptions
import ContentPlatform.Text.Base64
import ContentPlatform.Text.Decimal
import ContentPlatform.Values

/-!
# The keyset cursor

`app/api/pagination.py`: URL-safe Base64 of `created_at_epoch_micros:id`, strictly
parsed.
-/

set_option autoImplicit false

namespace ContentPlatform

open Text

def cursorText (createdAt : DateTime) (articleId : ℤ) : List Char :=
  intChars createdAt.epochMicros ++ ':' :: intChars articleId

/-- `str(n)`. -/
def strOfInt (n : ℤ) : Except Exc (List Char) :=
  if (Nat.toDigits 10 n.natAbs).length ≤ maxStrDigits then .ok (intChars n)
  else .error .valueError

/-- `base64.urlsafe_b64encode(raw).decode("ascii").rstrip("=")`. -/
def cursorOf (raw : List Char) : String :=
  String.ofList ((base64Encode (raw.map Char.toNat)).rdropWhile (· = '='))

def encodeCursor (createdAt : DateTime) (articleId : ℤ) : Except Exc String := do
  let micros ← strOfInt createdAt.epochMicros
  let id ← strOfInt articleId
  return cursorOf (micros ++ ':' :: id)

/-- `str.isdigit` on ASCII text. -/
def allDigits (cs : List Char) : Bool := !cs.isEmpty && cs.all Char.isDigit

/-- What `decode_cursor` accepts.  `none` stands for the exceptions it catches; the timestamp is
still a bare number of microseconds. -/
def parseCursor (cursor : String) : Option (ℕ × ℕ) := do
  let cs := cursor.toList
  guard (cs.all fun c => c.toNat < 128)
  let bytes ← base64Decode (cs ++ padding cs.length)
  guard (bytes.all fun b => b < 128)
  let text := bytes.map Char.ofNat
  let microsPart := text.takeWhile (· ≠ ':')
  let idPart := (text.dropWhile (· ≠ ':')).tail
  guard (':' ∈ text ∧ allDigits microsPart ∧ allDigits idPart)
  guard (microsPart.length ≤ maxStrDigits ∧ idPart.length ≤ maxStrDigits)
  let micros := Nat.ofDigitChars 10 microsPart 0
  let articleId := Nat.ofDigitChars 10 idPart 0
  guard (0 < articleId)
  return (micros, articleId)

/-- A timestamp outside the range of `datetime` raises `OverflowError`, which nothing catches. -/
def decodeCursor (cursor : String) : Except Exc Position :=
  match parseCursor cursor with
  | none => .error (.invalidCursor "Invalid pagination cursor.")
  | some (micros, articleId) =>
      match DateTime.ofMicros? micros with
      | some createdAt => .ok (createdAt, articleId)
      | none => .error .overflowError

theorem intChars_ascii (n : ℤ) : ∀ c ∈ intChars n, c.toNat < 128 := by
  intro c member
  rcases intChars_isDigit_or_sign n c member with digit | rfl
  · have range : 48 ≤ c.toNat ∧ c.toNat ≤ 57 := Char.isDigit_iff_toNat.mp digit
    omega
  · decide

theorem cursorText_ascii (createdAt : DateTime) (articleId : ℤ) :
    ∀ c ∈ cursorText createdAt articleId, c.toNat < 128 := by
  intro c member
  simp only [cursorText, List.mem_append, List.mem_cons] at member
  rcases member with member | rfl | member
  · exact intChars_ascii _ c member
  · decide
  · exact intChars_ascii _ c member

theorem base64Encode_ascii (bytes : List ℕ) (octets : ∀ b ∈ bytes, b < 256) :
    ∀ c ∈ base64Encode bytes, c.toNat < 128 := by
  have alphabet : ∀ n < 64, (sextetChar n).toNat < 128 := by decide +kernel
  intro c member
  simp only [base64Encode, List.mem_append, List.mem_map, padding, List.mem_replicate] at member
  rcases member with ⟨n, sextet, rfl⟩ | ⟨_, rfl⟩
  · exact alphabet n (sextets_lt bytes octets n sextet)
  · decide

theorem allDigits_toDigits (n : ℕ) : allDigits (Nat.toDigits 10 n) = true := by
  simp only [allDigits, Bool.and_eq_true, Bool.not_eq_true', List.isEmpty_eq_false_iff,
    List.all_eq_true]
  exact ⟨Nat.toDigits_ne_nil, toDigits_isDigit n⟩

/-- `partition(":")` of digits, a colon and a rest. -/
theorem digits_before_colon (digits rest : List Char) (allowed : allDigits digits = true) :
    (digits ++ ':' :: rest).takeWhile (· ≠ ':') = digits ∧
      ((digits ++ ':' :: rest).dropWhile (· ≠ ':')).tail = rest := by
  have plain : ∀ c ∈ digits, decide (c ≠ ':') = true := by
    intro c member
    simp only [allDigits, Bool.and_eq_true, List.all_eq_true] at allowed
    have digit := allowed.2 c member
    rw [decide_eq_true_eq]
    intro colon
    rw [colon] at digit
    exact absurd digit (by decide)
  constructor
  · rw [List.takeWhile_append_of_pos plain]
    simp
  · rw [List.dropWhile_append_of_pos plain]
    simp

/-- The microseconds of a `datetime` have eighteen digits at most. -/
theorem length_micros (createdAt : DateTime) :
    (Nat.toDigits 10 createdAt.val.natAbs).length ≤ 18 := by
  have low : minMicros ≤ createdAt.val := createdAt.property.1
  have high : createdAt.val ≤ maxMicros := createdAt.property.2
  simp only [minMicros] at low
  simp only [maxMicros] at high
  rw [Nat.length_toDigits_le_iff (by decide) (by decide)]
  omega

theorem strOfInt_short {n : ℤ} (short : n.natAbs < 10 ^ maxStrDigits) :
    strOfInt n = .ok (intChars n) := by
  rw [strOfInt, if_pos ((Nat.length_toDigits_le_iff (by decide) (by decide)).mpr short)]

theorem strOfInt_long {n : ℤ} (long : 10 ^ maxStrDigits ≤ n.natAbs) :
    strOfInt n = .error .valueError := by
  have digits : ¬(Nat.toDigits 10 n.natAbs).length ≤ maxStrDigits := by
    rw [Nat.length_toDigits_le_iff (by decide) (by decide)]
    exact not_lt.mpr long
  rw [strOfInt, if_neg digits]

theorem strOfInt_micros (createdAt : DateTime) :
    strOfInt createdAt.epochMicros = .ok (intChars createdAt.epochMicros) := by
  have digits := length_micros createdAt
  rw [strOfInt, DateTime.epochMicros_eq, if_pos (by rw [maxStrDigits]; omega)]

theorem encodeCursor_short (createdAt : DateTime) {articleId : ℤ}
    (short : articleId.natAbs < 10 ^ maxStrDigits) :
    encodeCursor createdAt articleId = .ok (cursorOf (cursorText createdAt articleId)) := by
  rw [encodeCursor, strOfInt_micros, strOfInt_short short]
  rfl

theorem encodeCursor_long (createdAt : DateTime) {articleId : ℤ}
    (long : 10 ^ maxStrDigits ≤ articleId.natAbs) :
    encodeCursor createdAt articleId = .error .valueError := by
  rw [encodeCursor, strOfInt_micros, strOfInt_long long]
  rfl

theorem parseCursor_cursorOf (createdAt : DateTime) (articleId : ℤ) (micros id : ℕ)
    (afterEpoch : createdAt.val = micros) (positive : articleId = id) (nonzero : 0 < id)
    (short : id < 10 ^ maxStrDigits) :
    parseCursor (cursorOf (cursorText createdAt articleId)) = some (micros, id) := by
  have text : cursorText createdAt articleId =
      Nat.toDigits 10 micros ++ ':' :: Nat.toDigits 10 id := by
    rw [cursorText, DateTime.epochMicros_eq, afterEpoch, positive, intChars_of_nonneg,
      intChars_of_nonneg]
  have octets : ∀ b ∈ (cursorText createdAt articleId).map Char.toNat, b < 256 := by
    intro b member
    obtain ⟨c, inside, rfl⟩ := List.mem_map.mp member
    have := cursorText_ascii createdAt articleId c inside
    omega
  have ascii : (((base64Encode ((cursorText createdAt articleId).map Char.toNat)).rdropWhile
      (· = '=')).all fun c => decide (c.toNat < 128)) = true := by
    rw [List.all_eq_true]
    intro c member
    rw [decide_eq_true_eq]
    exact base64Encode_ascii _ octets c
      ((List.rdropWhile_prefix (fun c => decide (c = '=')) _).subset member)
  have small : (((cursorText createdAt articleId).map Char.toNat).all
      fun b => decide (b < 128)) = true := by
    rw [List.all_eq_true]
    intro b member
    obtain ⟨c, inside, rfl⟩ := List.mem_map.mp member
    exact decide_eq_true (cursorText_ascii createdAt articleId c inside)
  have chars : ((cursorText createdAt articleId).map Char.toNat).map Char.ofNat =
      cursorText createdAt articleId := by
    rw [List.map_map]
    exact List.map_id'' (fun c => Char.ofNat_toNat c) _
  have digits : (Nat.toDigits 10 micros).length ≤ maxStrDigits ∧
      (Nat.toDigits 10 id).length ≤ maxStrDigits := by
    refine ⟨?_, (Nat.length_toDigits_le_iff (by decide) (by decide)).mpr short⟩
    have eighteen := length_micros createdAt
    rw [afterEpoch, Int.natAbs_natCast] at eighteen
    rw [maxStrDigits]
    omega
  obtain ⟨before, rest⟩ := digits_before_colon (Nat.toDigits 10 micros) (Nat.toDigits 10 id)
    (allDigits_toDigits micros)
  simp only [parseCursor, cursorOf, String.toList_ofList, ascii, padding_rdropWhile _ octets,
    base64Decode_encode _ octets, guard, if_true, Option.bind_eq_bind, Option.bind_some, small,
    chars]
  simp only [text, before, rest, allDigits_toDigits,
    Nat.ofDigitChars_ten_toDigits, List.mem_append, List.mem_cons, true_or, or_true, and_self,
    if_true, digits, if_pos nonzero]
  rfl

/-- A position that the list endpoint hands out is read back exactly. -/
theorem decodeCursor_cursorOf (createdAt : DateTime) (articleId : ℤ)
    (afterEpoch : 0 ≤ createdAt.val) (positive : 0 < articleId)
    (short : articleId < 10 ^ maxStrDigits) :
    decodeCursor (cursorOf (cursorText createdAt articleId)) = .ok (createdAt, articleId) := by
  obtain ⟨micros, shape⟩ := Int.eq_ofNat_of_zero_le afterEpoch
  obtain ⟨id, idShape⟩ := Int.eq_ofNat_of_zero_le (le_of_lt positive)
  have nonzero : 0 < id := by omega
  have readable : id < 10 ^ maxStrDigits := by
    rw [idShape] at short
    exact_mod_cast short
  rw [decodeCursor,
    parseCursor_cursorOf createdAt articleId micros id shape idShape nonzero readable]
  simp only [← shape, DateTime.ofMicros?_val, idShape]

/-- A row of before 1970 has a cursor that the endpoint itself refuses. -/
example : (encodeCursor ⟨-1, by decide⟩ 7).bind decodeCursor =
    .error (.invalidCursor "Invalid pagination cursor.") := by
  decide +kernel

end ContentPlatform
