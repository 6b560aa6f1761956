import ContentPlatform.Api.Requests

/-!
# What a cursor decodes to

Every text that `decode_cursor` reads is described by its two runs of digits; the only one that
escapes as something other than an invalid cursor names a time after the last `datetime`.
-/

set_option autoImplicit false

namespace ContentPlatform

open Text

/-- The Base64 of two runs of digits, of a positive id, short enough for `int`. -/
structure CursorParts (cursor : String) (microsPart idPart : List Char) : Prop where
  ascii : ∀ c ∈ cursor.toList, c.toNat < 128
  decoded : ∃ bytes, base64Decode (cursor.toList ++ padding cursor.toList.length) = some bytes ∧
    (∀ b ∈ bytes, b < 128) ∧ bytes.map Char.ofNat = microsPart ++ ':' :: idPart
  micros : allDigits microsPart = true ∧ microsPart.length ≤ maxStrDigits
  id : allDigits idPart = true ∧ idPart.length ≤ maxStrDigits
  positive : 0 < Nat.ofDigitChars 10 idPart 0

def PastCalendar (cursor : String) : Prop :=
  ∃ microsPart idPart, CursorParts cursor microsPart idPart ∧
    maxMicros < (Nat.ofDigitChars 10 microsPart 0 : ℕ)

/-- `partition(":")` cuts at a colon. -/
theorem partition_colon (text : List Char) (colon : ':' ∈ text) :
    text = text.takeWhile (· ≠ ':') ++ ':' :: (text.dropWhile (· ≠ ':')).tail := by
  induction text with
  | nil => cases colon
  | cons c cs ih =>
      by_cases here : c = ':'
      · subst here
        simp
      · have later : ':' ∈ cs := by
          rcases List.mem_cons.mp colon with same | later
          · exact absurd same.symm here
          · exact later
        simpa [here] using ih later

theorem parseCursor_of_parts {cursor : String} {microsPart idPart : List Char}
    (parts : CursorParts cursor microsPart idPart) :
    parseCursor cursor =
      some (Nat.ofDigitChars 10 microsPart 0, Nat.ofDigitChars 10 idPart 0) := by
  obtain ⟨bytes, decoded, small, text⟩ := parts.decoded
  obtain ⟨before, after⟩ := digits_before_colon microsPart idPart parts.micros.1
  have ascii : (cursor.toList.all fun c => decide (c.toNat < 128)) = true := by
    simpa using parts.ascii
  have octets : (bytes.all fun b => decide (b < 128)) = true := by
    simpa using small
  simp only [parseCursor, ascii, decoded, octets, guard, if_true, Option.bind_eq_bind,
    Option.bind_some, text, before, after]
  simp [parts.micros, parts.id, parts.positive]

theorem parts_of_parseCursor {cursor : String} {micros id : ℕ}
    (parsed : parseCursor cursor = some (micros, id)) :
    ∃ microsPart idPart, CursorParts cursor microsPart idPart ∧
      micros = Nat.ofDigitChars 10 microsPart 0 ∧ id = Nat.ofDigitChars 10 idPart 0 := by
  simp only [parseCursor, guard, Option.bind_eq_bind, Option.bind_eq_some_iff] at parsed
  obtain ⟨_, ascii, bytes, decoded, _, octets, _, shape, _, short, _, positive, result⟩ := parsed
  have ascii := (Option.ite_none_right_eq_some.mp ascii).1
  have octets := (Option.ite_none_right_eq_some.mp octets).1
  obtain ⟨colon, microsDigits, idDigits⟩ := (Option.ite_none_right_eq_some.mp shape).1
  have short := (Option.ite_none_right_eq_some.mp short).1
  have positive := (Option.ite_none_right_eq_some.mp positive).1
  obtain ⟨rfl, rfl⟩ := Prod.mk.inj (Option.some.inj result)
  refine ⟨_, _, ⟨?_, ⟨bytes, decoded, ?_, partition_colon _ colon⟩, ⟨microsDigits, short.1⟩,
    ⟨idDigits, short.2⟩, positive⟩, rfl, rfl⟩
  · simpa using ascii
  · simpa using octets

/-- A text is read as two numbers exactly if it is the Base64 of their digits. -/
theorem parseCursor_eq_some_iff (cursor : String) (micros id : ℕ) :
    parseCursor cursor = some (micros, id) ↔
      ∃ microsPart idPart, CursorParts cursor microsPart idPart ∧
        micros = Nat.ofDigitChars 10 microsPart 0 ∧ id = Nat.ofDigitChars 10 idPart 0 := by
  constructor
  · exact parts_of_parseCursor
  · intro ⟨microsPart, idPart, parts, sameMicros, sameId⟩
    rw [sameMicros, sameId]
    exact parseCursor_of_parts parts

/-- From 1970 on, the range of `datetime` has an upper end only. -/
theorem DateTime.ofMicros?_eq_none_iff (micros : ℕ) :
    DateTime.ofMicros? micros = none ↔ maxMicros < micros := by
  have start : minMicros ≤ (micros : ℤ) := by
    rw [minMicros]
    omega
  simp [DateTime.ofMicros?, start]

/-- `OverflowError` leaves `decode_cursor` for the cursors past the calendar and no others. -/
theorem decodeCursor_overflow_iff (cursor : String) :
    decodeCursor cursor = .error .overflowError ↔ PastCalendar cursor := by
  constructor
  · intro escaped
    unfold decodeCursor at escaped
    split at escaped
    · cases escaped
    · rename_i micros articleId parsed
      obtain ⟨microsPart, idPart, parts, rfl, -⟩ := parts_of_parseCursor parsed
      split at escaped
      · cases escaped
      · rename_i outside
        exact ⟨microsPart, idPart, parts, (DateTime.ofMicros?_eq_none_iff _).mp outside⟩
  · intro ⟨microsPart, idPart, parts, late⟩
    simp only [decodeCursor, parseCursor_of_parts parts,
      (DateTime.ofMicros?_eq_none_iff _).mpr late]

/-- Every text comes to a position, to an invalid cursor or to the one error nothing catches. -/
theorem decodeCursor_cases (cursor : String) :
    (∃ position, decodeCursor cursor = .ok position) ∨
      decodeCursor cursor = .error (.invalidCursor "Invalid pagination cursor.") ∨
      decodeCursor cursor = .error .overflowError := by
  unfold decodeCursor
  split
  · exact Or.inr (Or.inl rfl)
  · split
    · exact Or.inl ⟨_, rfl⟩
    · exact Or.inr (Or.inr rfl)

/-- For every text: `decode_cursor` returns a pair or raises `InvalidCursorError` exactly if the
text is not the cursor of a time past the last `datetime`. -/
theorem decode_cursor_one_failure_iff (cursor : String) :
    ((∃ position, decodeCursor cursor = .ok position) ∨
        decodeCursor cursor = .error (.invalidCursor "Invalid pagination cursor.")) ↔
      ¬PastCalendar cursor := by
  rw [← decodeCursor_overflow_iff]
  constructor
  · intro ended escaped
    rcases ended with ⟨position, returned⟩ | rejected
    · rw [returned] at escaped
      cases escaped
    · rw [rejected] at escaped
      cases escaped
  · intro caught
    rcases decodeCursor_cases cursor with returned | rejected | escaped
    · exact Or.inl returned
    · exact Or.inr rejected
    · exact absurd escaped caught

/-- The Base64 of `253402300800000000:1`, the first microsecond of the year 10000: the answer is
a 500. -/
theorem year_ten_thousand_escapes :
    ¬((∃ position, decodeCursor "MjUzNDAyMzAwODAwMDAwMDAwOjE" = .ok position) ∨
        decodeCursor "MjUzNDAyMzAwODAwMDAwMDAwOjE" =
          .error (.invalidCursor "Invalid pagination cursor.")) ∧
      decodeCursor "MjUzNDAyMzAwODAwMDAwMDAwOjE" = .error .overflowError ∧
      (errorResponse .overflowError).status = 500 := by
  have escaped : decodeCursor "MjUzNDAyMzAwODAwMDAwMDAwOjE" = .error .overflowError := by
    decide +kernel
  refine ⟨?_, escaped, rfl⟩
  rw [escaped]
  intro ended
  rcases ended with ⟨position, returned⟩ | rejected
  · cases returned
  · cases rejected

end ContentPlatform
