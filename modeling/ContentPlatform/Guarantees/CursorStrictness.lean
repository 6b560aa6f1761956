import ContentPlatform.Guarantees.CursorDecoding

/-!
# Which cursors are accepted

What the list endpoint hands out is read back exactly.  The reader takes more than that: it skips
characters outside the alphabet, surplus padding, unused bits and leading zeros.
-/

set_option autoImplicit false

namespace ContentPlatform

open Text

/-! ## Digits without leading zeros -/

/-- A run of digits as `str` writes it. -/
def Trimmed (digits : List Char) : Prop := digits.head? = some '0' → digits = ['0']

instance (digits : List Char) : Decidable (Trimmed digits) :=
  inferInstanceAs (Decidable (digits.head? = some '0' → digits = ['0']))

theorem digitChar_of_isDigit {c : Char} (digit : c.isDigit = true) :
    Nat.digitChar (c.toNat - 48) = c := by
  have range : 48 ≤ c.toNat ∧ c.toNat ≤ 57 := Char.isDigit_iff_toNat.mp digit
  have low := range.1
  have high := range.2
  have back := Char.ofNat_toNat c
  interval_cases c.toNat <;> exact back

theorem trimmed_toDigits (n : ℕ) : Trimmed (Nat.toDigits 10 n) := by
  intro zero
  cases shape : Nat.toDigits 10 n with
  | nil => exact absurd shape Nat.toDigits_ne_nil
  | cons d ds =>
      rw [shape] at zero
      obtain rfl := Option.some.inj zero
      obtain rfl := toDigits_zero_head n ds shape
      rw [← shape]
      rfl

/-- `str(int(digits)) == digits`. -/
theorem toDigits_of_trimmed {digits : List Char} (allowed : allDigits digits = true)
    (trimmed : Trimmed digits) : Nat.toDigits 10 (Nat.ofDigitChars 10 digits 0) = digits := by
  simp only [allDigits, Bool.and_eq_true, Bool.not_eq_true', List.isEmpty_eq_false_iff,
    List.all_eq_true] at allowed
  obtain ⟨nonempty, isDigit⟩ := allowed
  induction digits using List.reverseRecOn with
  | nil => exact absurd rfl nonempty
  | append_singleton front d ih =>
      have last := isDigit d (by simp)
      have range : 48 ≤ d.toNat ∧ d.toNat ≤ 57 := Char.isDigit_iff_toNat.mp last
      have value : Nat.ofDigitChars 10 (front ++ [d]) 0 =
          10 * Nat.ofDigitChars 10 front 0 + (d.toNat - 48) := by
        rw [Nat.ofDigitChars_append, Nat.ofDigitChars_cons, Nat.ofDigitChars_nil]
        rfl
      rw [value]
      cases front with
      | nil =>
          rw [Nat.ofDigitChars_nil, Nat.mul_zero, Nat.zero_add,
            Nat.toDigits_of_lt_base (by omega), digitChar_of_isDigit last]
          rfl
      | cons c cs =>
          have first : c ≠ '0' := by
            rintro rfl
            have single := trimmed rfl
            simp at single
          have back := ih (fun zero => absurd (Option.some.inj zero) first) (List.cons_ne_nil c cs)
            fun c' member => isDigit c' (List.mem_append_left _ member)
          have positive : 0 < Nat.ofDigitChars 10 (c :: cs) 0 := by
            apply Nat.pos_of_ne_zero
            intro zero
            rw [zero] at back
            exact first (List.cons.inj back).1.symm
          rw [Nat.toDigits_of_base_le (by decide) (by omega),
            show (10 * Nat.ofDigitChars 10 (c :: cs) 0 + (d.toNat - 48)) / 10 =
              Nat.ofDigitChars 10 (c :: cs) 0 by omega,
            show (10 * Nat.ofDigitChars 10 (c :: cs) 0 + (d.toNat - 48)) % 10 = d.toNat - 48 by
              omega, back, digitChar_of_isDigit last]

/-! ## The round trip -/

theorem octets_of_ascii {raw : List Char} (ascii : ∀ c ∈ raw, c.toNat < 128) :
    ∀ b ∈ raw.map Char.toNat, b < 256 := by
  intro b member
  obtain ⟨c, inside, rfl⟩ := List.mem_map.mp member
  have := ascii c inside
  omega

theorem toList_cursorOf {raw : List Char} (ascii : ∀ c ∈ raw, c.toNat < 128) :
    (cursorOf raw).toList = (sextets (raw.map Char.toNat)).map sextetChar := by
  rw [cursorOf, String.toList_ofList, rdropWhile_base64Encode _ (octets_of_ascii ascii)]

theorem urlSafe_cursorOf {raw : List Char} (ascii : ∀ c ∈ raw, c.toNat < 128) :
    ∀ c ∈ (cursorOf raw).toList, UrlSafe c := by
  intro c member
  rw [toList_cursorOf ascii] at member
  obtain ⟨n, sextet, rfl⟩ := List.mem_map.mp member
  exact urlSafe_sextetChar n (sextets_lt _ (octets_of_ascii ascii) n sextet)

/-- What a position after 1970 is encoded as: a text of the URL-safe alphabet that is read back
exactly, unless the id has more digits than `str` writes. -/
theorem cursor_round_trip (createdAt : DateTime) (articleId : ℤ) (afterEpoch : 0 ≤ createdAt.val)
    (positive : 1 ≤ articleId) :
    (articleId < 10 ^ maxStrDigits → ∃ cursor, encodeCursor createdAt articleId = .ok cursor ∧
      (∀ c ∈ cursor.toList, UrlSafe c) ∧
      decodeCursor cursor = .ok (createdAt, articleId)) ∧
    (10 ^ maxStrDigits ≤ articleId → encodeCursor createdAt articleId = .error .valueError) := by
  have magnitude : (articleId.natAbs : ℤ) = articleId := Int.natAbs_of_nonneg (by omega)
  constructor
  · intro short
    have writable : articleId.natAbs < 10 ^ maxStrDigits := by
      rw [← magnitude] at short
      exact_mod_cast short
    exact ⟨_, encodeCursor_short createdAt writable,
      urlSafe_cursorOf (cursorText_ascii createdAt articleId),
      decodeCursor_cursorOf createdAt articleId afterEpoch (by omega) short⟩
  · intro long
    apply encodeCursor_long createdAt
    rw [← magnitude] at long
    exact_mod_cast long

/-- A creation time with microseconds, and an id that is no 32-bit number. -/
theorem cursor_round_trip_of_microseconds :
    ∃ cursor, encodeCursor ⟨1704164645123456, by decide⟩ 9876543210 = .ok cursor ∧
      (∀ c ∈ cursor.toList, UrlSafe c) ∧
      decodeCursor cursor = .ok (⟨1704164645123456, by decide⟩, 9876543210) := by
  apply (cursor_round_trip _ 9876543210 (by decide) (by decide)).1
  calc (9876543210 : ℤ) < 10 ^ 10 := by norm_num
    _ ≤ 10 ^ maxStrDigits := pow_le_pow_right₀ (by norm_num) (by decide)

/-- An id of 4301 digits has no cursor: `str` raises. -/
theorem longest_id_has_no_cursor :
    encodeCursor epoch (10 ^ maxStrDigits) = .error .valueError :=
  encodeCursor_long epoch (by rw [Int.natAbs_pow, show (10 : ℤ).natAbs = 10 from rfl])

/-! ## Canonical cursors -/

/-- A cursor that the encoder may have written: of its alphabet alone, without bits to spare, and
of numbers without leading zeros. -/
structure CanonicalCursor (cursor : String) (microsPart idPart : List Char) : Prop where
  alphabet : ∀ c ∈ cursor.toList, UrlSafe c
  spare : spareBits (cursor.toList.filterMap sextetValue?) = 0
  micros : Trimmed microsPart
  id : Trimmed idPart

theorem filterMap_sextetValue? (ns : List ℕ) (small : ∀ n ∈ ns, n < 64) :
    (ns.map sextetChar).filterMap sextetValue? = ns := by
  induction ns with
  | nil => rfl
  | cons n ns ih =>
      rw [List.map_cons, List.filterMap_cons_some (sextetValue?_sextetChar n (small n (by simp))),
        ih fun m member => small m (List.mem_cons_of_mem n member)]

theorem toNat_chars {bytes : List ℕ} (small : ∀ b ∈ bytes, b < 128) :
    (bytes.map Char.ofNat).map Char.toNat = bytes := by
  have back : ∀ b < 128, (Char.ofNat b).toNat = b := by decide
  rw [List.map_map]
  calc bytes.map (Char.toNat ∘ Char.ofNat) = bytes.map id :=
        List.map_congr_left fun b member => back b (small b member)
    _ = bytes := List.map_id bytes

theorem decodeCursor_eq_ok_iff (cursor : String) (createdAt : DateTime) (articleId : ℤ) :
    decodeCursor cursor = .ok (createdAt, articleId) ↔
      ∃ microsPart idPart, CursorParts cursor microsPart idPart ∧
        createdAt.val = (Nat.ofDigitChars 10 microsPart 0 : ℕ) ∧
        articleId = (Nat.ofDigitChars 10 idPart 0 : ℕ) := by
  constructor
  · intro read
    unfold decodeCursor at read
    split at read
    · cases read
    · rename_i micros id parsed
      obtain ⟨microsPart, idPart, parts, rfl, rfl⟩ := parts_of_parseCursor parsed
      split at read
      · rename_i time inside
        obtain ⟨rfl, rfl⟩ := Prod.mk.inj (Except.ok.inj read)
        refine ⟨microsPart, idPart, parts, ?_, rfl⟩
        unfold DateTime.ofMicros? at inside
        split at inside
        · obtain rfl := Option.some.inj inside
          rfl
        · cases inside
      · cases read
  · rintro ⟨microsPart, idPart, parts, time, rfl⟩
    rw [decodeCursor, parseCursor_of_parts parts]
    dsimp only
    rw [← time, DateTime.ofMicros?_val]

section
variable {cursor : String} {microsPart idPart : List Char} {createdAt : DateTime} {articleId : ℤ}
  (parts : CursorParts cursor microsPart idPart)
  (time : createdAt.val = (Nat.ofDigitChars 10 microsPart 0 : ℕ))
  (number : articleId = (Nat.ofDigitChars 10 idPart 0 : ℕ))
include parts time number

theorem CanonicalCursor.encode (canonical : CanonicalCursor cursor microsPart idPart) :
    encodeCursor createdAt articleId = .ok cursor := by
  have microsDigits := toDigits_of_trimmed parts.micros.1 canonical.micros
  have idDigits := toDigits_of_trimmed parts.id.1 canonical.id
  have text : cursorText createdAt articleId = microsPart ++ ':' :: idPart := by
    rw [cursorText, DateTime.epochMicros_eq, time, number, intChars_of_nonneg, intChars_of_nonneg,
      microsDigits, idDigits]
  have short : articleId.natAbs < 10 ^ maxStrDigits := by
    rw [number, Int.natAbs_natCast, ← Nat.length_toDigits_le_iff (by decide) (by decide), idDigits]
    exact parts.id.2
  obtain ⟨ns, small, chars⟩ := exists_sextets cursor.toList canonical.alphabet
  obtain ⟨bytes, decoded, octets, shape⟩ := parts.decoded
  have exact_ : spareBits ns = 0 := by
    rw [← filterMap_sextetValue? ns small, chars]
    exact canonical.spare
  rw [← chars, List.length_map] at decoded
  have same := sextets_base64Scan ns small exact_ decoded
  rw [encodeCursor_short createdAt short]
  apply congrArg Except.ok
  apply String.toList_inj.mp
  rw [toList_cursorOf (cursorText_ascii createdAt articleId), text, ← shape, toNat_chars octets,
    same, chars]

theorem canonical_of_encode (encoded : encodeCursor createdAt articleId = .ok cursor) :
    CanonicalCursor cursor microsPart idPart := by
  have ascii := cursorText_ascii createdAt articleId
  have same : cursor = cursorOf (cursorText createdAt articleId) := by
    by_cases short : articleId.natAbs < 10 ^ maxStrDigits
    · rw [encodeCursor_short createdAt short] at encoded
      exact (Except.ok.inj encoded).symm
    · rw [encodeCursor_long createdAt (not_lt.mp short)] at encoded
      cases encoded
  have text : cursorText createdAt articleId =
      Nat.toDigits 10 (Nat.ofDigitChars 10 microsPart 0) ++
        ':' :: Nat.toDigits 10 (Nat.ofDigitChars 10 idPart 0) := by
    rw [cursorText, DateTime.epochMicros_eq, time, number, intChars_of_nonneg, intChars_of_nonneg]
  have chars := toList_cursorOf ascii
  have octets := octets_of_ascii ascii
  obtain ⟨bytes, decoded, small, shape⟩ := parts.decoded
  have written : microsPart ++ ':' :: idPart = cursorText createdAt articleId := by
    rw [same, cursorOf, String.toList_ofList, padding_rdropWhile _ octets,
      base64Decode_encode _ octets] at decoded
    obtain rfl := Option.some.inj decoded
    rw [← shape, List.map_map]
    exact List.map_id'' (fun c => Char.ofNat_toNat c) _
  rw [text] at written
  obtain ⟨before, after⟩ := digits_before_colon microsPart idPart parts.micros.1
  obtain ⟨before', after'⟩ := digits_before_colon
    (Nat.toDigits 10 (Nat.ofDigitChars 10 microsPart 0))
    (Nat.toDigits 10 (Nat.ofDigitChars 10 idPart 0)) (allDigits_toDigits _)
  rw [written] at before after
  refine ⟨?_, ?_, ?_, ?_⟩
  · rw [same]
    exact urlSafe_cursorOf ascii
  · rw [same, chars, filterMap_sextetValue? _ (sextets_lt _ octets)]
    exact spareBits_sextets _
  · rw [← before, before']
    exact trimmed_toDigits _
  · rw [← after, after']
    exact trimmed_toDigits _

end

/-- For every text: `decode_cursor` reads it as nothing but the position that it encodes, exactly
if the text is canonical wherever it is the Base64 of a position at all. -/
theorem decode_cursor_strict_iff (cursor : String) :
    (∀ createdAt articleId, decodeCursor cursor = .ok (createdAt, articleId) →
        encodeCursor createdAt articleId = .ok cursor) ↔
      ∀ microsPart idPart, CursorParts cursor microsPart idPart →
        ¬maxMicros < (Nat.ofDigitChars 10 microsPart 0 : ℕ) →
        CanonicalCursor cursor microsPart idPart := by
  constructor
  · intro strict microsPart idPart parts inRange
    cases inside : DateTime.ofMicros? (Nat.ofDigitChars 10 microsPart 0 : ℕ) with
    | none => exact absurd ((DateTime.ofMicros?_eq_none_iff _).mp inside) inRange
    | some createdAt =>
        have time : createdAt.val = (Nat.ofDigitChars 10 microsPart 0 : ℕ) := by
          unfold DateTime.ofMicros? at inside
          split at inside
          · obtain rfl := Option.some.inj inside
            rfl
          · cases inside
        have read := (decodeCursor_eq_ok_iff cursor createdAt
          (Nat.ofDigitChars 10 idPart 0 : ℕ)).mpr ⟨microsPart, idPart, parts, time, rfl⟩
        exact canonical_of_encode parts time rfl (strict createdAt _ read)
  · intro canonical createdAt articleId read
    obtain ⟨microsPart, idPart, parts, time, number⟩ :=
      (decodeCursor_eq_ok_iff cursor createdAt articleId).mp read
    have inRange : ¬maxMicros < (Nat.ofDigitChars 10 microsPart 0 : ℕ) := by
      rw [← time]
      exact not_lt.mpr createdAt.property.2
    exact (canonical microsPart idPart parts inRange).encode parts time number

/-- The cursor of the epoch and the id 1 is `MDox`; one with an `=` after it is read as the same
position, and so are one with a blank in it and those of `00:1` and `0:01`. -/
theorem padded_cursor_accepted :
    (¬∀ cursor createdAt articleId, decodeCursor cursor = .ok (createdAt, articleId) →
        encodeCursor createdAt articleId = .ok cursor) ∧
      encodeCursor epoch 1 = .ok "MDox" ∧
      ["MDox=", "MD ox", "MDA6MQ", "MDowMQ"].map decodeCursor =
        List.replicate 4 (.ok (epoch, 1)) := by
  have read : decodeCursor "MDox=" = .ok (epoch, 1) := by
    decide +kernel
  have written : encodeCursor epoch 1 = .ok "MDox" := by
    decide +kernel
  refine ⟨fun strict => ?_, written, by decide +kernel⟩
  have same := strict "MDox=" epoch 1 read
  rw [written] at same
  exact absurd (Except.ok.inj same) (by decide)

end ContentPlatform
