import ContentPlatform.Text.Decimal
import Mathlib.Tactic.IntervalCases

/-!
# JSON texts

`json.dumps` with its default options and `json.loads`.  A number with a
fraction or an exponent keeps its literal.  The reader is given fuel; the
number of characters is enough of it for every text `json.dumps` writes.
-/

set_option autoImplicit false

namespace ContentPlatform.Text

inductive Json where
  | null
  | bool (value : Bool)
  | int (value : ℤ)
  | float (literal : String)
  | str (value : String)
  | arr (items : List Json)
  | obj (fields : List (String × Json))

/-! ## Writing -/

/-- `\uXXXX` for one UTF-16 code unit. -/
def unicodeEscape (unit : ℕ) : List Char :=
  ['\\', 'u', Nat.digitChar (unit / 4096 % 16), Nat.digitChar (unit / 256 % 16),
    Nat.digitChar (unit / 16 % 16), Nat.digitChar (unit % 16)]

/-- `ensure_ascii=True`. -/
def escapeChar (c : Char) : List Char :=
  if c = '"' then ['\\', '"']
  else if c = '\\' then ['\\', '\\']
  else if c = '\n' then ['\\', 'n']
  else if c = '\r' then ['\\', 'r']
  else if c = '\t' then ['\\', 't']
  else if c = '\x0c' then ['\\', 'f']
  else if c = '\x08' then ['\\', 'b']
  else if 32 ≤ c.toNat ∧ c.toNat ≤ 126 then [c]
  else if c.toNat < 0x10000 then unicodeEscape c.toNat
  else unicodeEscape (0xd800 + (c.toNat - 0x10000) / 1024) ++
    unicodeEscape (0xdc00 + (c.toNat - 0x10000) % 1024)

def quote (s : String) : List Char := '"' :: s.toList.flatMap escapeChar ++ ['"']

-- `space` follows every comma and colon.
mutual
def printValue (space : List Char) : Json → List Char
  | .null => "null".toList
  | .bool true => "true".toList
  | .bool false => "false".toList
  | .int value => intChars value
  | .float literal => literal.toList
  | .str value => quote value
  | .arr items => '[' :: printItems space items ++ [']']
  | .obj fields => '{' :: printFields space fields ++ ['}']

def printItems (space : List Char) : List Json → List Char
  | [] => []
  | [item] => printValue space item
  | item :: next :: rest =>
      printValue space item ++ ',' :: (space ++ printItems space (next :: rest))

def printFields (space : List Char) : List (String × Json) → List Char
  | [] => []
  | [(name, value)] => quote name ++ ':' :: (space ++ printValue space value)
  | (name, value) :: next :: rest =>
      quote name ++ ':' :: (space ++ (printValue space value ++
        ',' :: (space ++ printFields space (next :: rest))))
end

def dumps (value : Json) : String := String.ofList (printValue [' '] value)

/-- `separators=(",", ":")`. -/
def dumpsCompact (value : Json) : String := String.ofList (printValue [] value)

/-! ## Reading -/

def skipSpace : List Char → List Char
  | [] => []
  | c :: cs => if c = ' ' ∨ c = '\t' ∨ c = '\n' ∨ c = '\r' then skipSpace cs else c :: cs

def hexValue? (c : Char) : Option ℕ :=
  if '0'.toNat ≤ c.toNat ∧ c.toNat ≤ '9'.toNat then some (c.toNat - 48)
  else if 'a'.toNat ≤ c.toNat ∧ c.toNat ≤ 'f'.toNat then some (c.toNat - 87)
  else if 'A'.toNat ≤ c.toNat ∧ c.toNat ≤ 'F'.toNat then some (c.toNat - 55)
  else none

def codeUnit? (a b c d : Char) : Option ℕ :=
  match hexValue? a, hexValue? b, hexValue? c, hexValue? d with
  | some a, some b, some c, some d => some (((a * 16 + b) * 16 + c) * 16 + d)
  | _, _, _, _ => none

/-- The character after a backslash, except `u`. -/
def simpleEscape? (c : Char) : Option Char :=
  if c = '"' then some '"'
  else if c = '\\' then some '\\'
  else if c = '/' then some '/'
  else if c = 'n' then some '\n'
  else if c = 'r' then some '\r'
  else if c = 't' then some '\t'
  else if c = 'f' then some '\x0c'
  else if c = 'b' then some '\x08'
  else none

/-- The rest of a string after its opening quote.  A lone surrogate has no character here. -/
def parseString : List Char → Option (List Char × List Char)
  | [] => none
  | '\\' :: 'u' :: a :: b :: c :: d :: rest =>
      match codeUnit? a b c d with
      | none => none
      | some unit =>
          if 0xd800 ≤ unit ∧ unit ≤ 0xdbff then
            match rest with
            | '\\' :: 'u' :: a' :: b' :: c' :: d' :: rest' =>
                match codeUnit? a' b' c' d' with
                | none => none
                | some low =>
                    if 0xdc00 ≤ low ∧ low ≤ 0xdfff then
                      (parseString rest').map fun (cs, last) =>
                        (Char.ofNat (0x10000 + (unit - 0xd800) * 1024 + (low - 0xdc00)) :: cs, last)
                    else none
            | _ => none
          else if 0xdc00 ≤ unit ∧ unit ≤ 0xdfff then none
          else (parseString rest).map fun (cs, last) => (Char.ofNat unit :: cs, last)
  | '\\' :: c :: rest =>
      match simpleEscape? c with
      | none => none
      | some c => (parseString rest).map fun (cs, last) => (c :: cs, last)
  | c :: rest =>
      if c = '"' then some ([], rest)
      else if c = '\\' ∨ c.toNat < 32 then none
      else (parseString rest).map fun (cs, last) => (c :: cs, last)

def spanFraction (cs : List Char) : List Char × List Char :=
  let fraction : List Char × List Char :=
    match cs with
    | '.' :: c :: rest =>
        if c.isDigit then ('.' :: (spanDigits (c :: rest)).1, (spanDigits (c :: rest)).2)
        else ([], cs)
    | _ => ([], cs)
  let exponent : List Char × List Char :=
    match fraction.2 with
    | e :: sign :: c :: rest =>
        if (e = 'e' ∨ e = 'E') ∧ (sign = '+' ∨ sign = '-') ∧ c.isDigit then
          (e :: sign :: (spanDigits (c :: rest)).1, (spanDigits (c :: rest)).2)
        else if (e = 'e' ∨ e = 'E') ∧ sign.isDigit then
          (e :: (spanDigits (sign :: c :: rest)).1, (spanDigits (sign :: c :: rest)).2)
        else ([], fraction.2)
    | [e, c] =>
        if (e = 'e' ∨ e = 'E') ∧ c.isDigit then ([e, c], []) else ([], fraction.2)
    | _ => ([], fraction.2)
  (fraction.1 ++ exponent.1, exponent.2)

/-- A number without its sign.  A leading zero ends the integer part. -/
def parseNumber (negative : Bool) (cs : List Char) : Option (Json × List Char) :=
  let digits : List Char × List Char :=
    match cs with
    | '0' :: rest => (['0'], rest)
    | _ => spanDigits cs
  if digits.1 = [] then none
  else
    let fraction := spanFraction digits.2
    let sign : List Char := if negative then ['-'] else []
    if fraction.1 = [] then
      let magnitude : ℤ := Nat.ofDigitChars 10 digits.1 0
      some (.int (if negative then -magnitude else magnitude), digits.2)
    else
      some (.float (String.ofList (sign ++ digits.1 ++ fraction.1)), fraction.2)

mutual
def parseValue : ℕ → List Char → Option (Json × List Char)
  | 0, _ => none
  | fuel + 1, cs =>
      match cs with
      | '"' :: rest => (parseString rest).map fun (s, rest) => (.str (String.ofList s), rest)
      | '[' :: rest =>
          match skipSpace rest with
          | ']' :: rest => some (.arr [], rest)
          | rest => (parseItems fuel rest).map fun (items, rest) => (.arr items, rest)
      | '{' :: rest =>
          match skipSpace rest with
          | '}' :: rest => some (.obj [], rest)
          | rest => (parseFields fuel rest).map fun (fields, rest) => (.obj fields, rest)
      | 'n' :: 'u' :: 'l' :: 'l' :: rest => some (.null, rest)
      | 't' :: 'r' :: 'u' :: 'e' :: rest => some (.bool true, rest)
      | 'f' :: 'a' :: 'l' :: 's' :: 'e' :: rest => some (.bool false, rest)
      | 'N' :: 'a' :: 'N' :: rest => some (.float "NaN", rest)
      | 'I' :: 'n' :: 'f' :: 'i' :: 'n' :: 'i' :: 't' :: 'y' :: rest =>
          some (.float "Infinity", rest)
      | '-' :: 'I' :: 'n' :: 'f' :: 'i' :: 'n' :: 'i' :: 't' :: 'y' :: rest =>
          some (.float "-Infinity", rest)
      | '-' :: rest => parseNumber true rest
      | rest => parseNumber false rest

def parseItems : ℕ → List Char → Option (List Json × List Char)
  | 0, _ => none
  | fuel + 1, cs =>
      match parseValue fuel cs with
      | none => none
      | some (item, rest) =>
          match skipSpace rest with
          | ',' :: rest =>
              (parseItems fuel (skipSpace rest)).map fun (items, rest) => (item :: items, rest)
          | ']' :: rest => some ([item], rest)
          | _ => none

def parseFields : ℕ → List Char → Option (List (String × Json) × List Char)
  | 0, _ => none
  | fuel + 1, cs =>
      match cs with
      | '"' :: rest =>
          match parseString rest with
          | none => none
          | some (name, rest) =>
              match skipSpace rest with
              | ':' :: rest =>
                  match parseValue fuel (skipSpace rest) with
                  | none => none
                  | some (value, rest) =>
                      match skipSpace rest with
                      | ',' :: rest =>
                          (parseFields fuel (skipSpace rest)).map fun (fields, rest) =>
                            ((String.ofList name, value) :: fields, rest)
                      | '}' :: rest => some ([(String.ofList name, value)], rest)
                      | _ => none
              | _ => none
      | _ => none
end

/-- `json.loads`, with `none` for `JSONDecodeError`. -/
def loads (text : String) : Option Json :=
  match parseValue (2 * text.toList.length + 2) (skipSpace text.toList) with
  | some (value, rest) => if skipSpace rest = [] then some value else none
  | none => none

/-! ## Reading back what was written -/

theorem hexValue?_digitChar : ∀ n, n < 16 → hexValue? (Nat.digitChar n) = some n := by
  decide

theorem codeUnit?_digits (unit : ℕ) (small : unit < 0x10000) :
    codeUnit? (Nat.digitChar (unit / 4096 % 16)) (Nat.digitChar (unit / 256 % 16))
      (Nat.digitChar (unit / 16 % 16)) (Nat.digitChar (unit % 16)) = some unit := by
  have digit : ∀ n, hexValue? (Nat.digitChar (n % 16)) = some (n % 16) :=
    fun n => hexValue?_digitChar _ (Nat.mod_lt n (by decide))
  simp only [codeUnit?, digit, Option.some.injEq]
  omega

theorem parseString_unit (unit : ℕ) (cs : List Char) (small : unit < 0x10000)
    (scalar : ¬(0xd800 ≤ unit ∧ unit ≤ 0xdfff)) :
    parseString (unicodeEscape unit ++ cs) =
      (parseString cs).map fun (s, rest) => (Char.ofNat unit :: s, rest) := by
  have high : ¬(0xd800 ≤ unit ∧ unit ≤ 0xdbff) := by omega
  have low : ¬(0xdc00 ≤ unit ∧ unit ≤ 0xdfff) := by omega
  simp only [unicodeEscape, List.cons_append, List.nil_append, parseString,
    codeUnit?_digits unit small, if_neg high, if_neg low]

theorem parseString_pair (value : ℕ) (cs : List Char) (small : value < 0x100000) :
    parseString (unicodeEscape (0xd800 + value / 1024) ++
        (unicodeEscape (0xdc00 + value % 1024) ++ cs)) =
      (parseString cs).map fun (s, rest) => (Char.ofNat (0x10000 + value) :: s, rest) := by
  have first := codeUnit?_digits (0xd800 + value / 1024) (by omega)
  have second := codeUnit?_digits (0xdc00 + value % 1024) (by omega)
  have high : 0xd800 ≤ 0xd800 + value / 1024 ∧ 0xd800 + value / 1024 ≤ 0xdbff := by omega
  have low : 0xdc00 ≤ 0xdc00 + value % 1024 ∧ 0xdc00 + value % 1024 ≤ 0xdfff := by omega
  have joined : 0x10000 + (0xd800 + value / 1024 - 0xd800) * 1024 +
      (0xdc00 + value % 1024 - 0xdc00) = 0x10000 + value := by omega
  simp only [unicodeEscape, List.cons_append, List.nil_append, parseString, first, second,
    if_pos high, if_pos low, joined]

theorem parseString_plain (c : Char) (cs : List Char) (quoteFree : c ≠ '"')
    (slashFree : c ≠ '\\') (printable : 32 ≤ c.toNat) :
    parseString (c :: cs) = (parseString cs).map fun (s, rest) => (c :: s, rest) := by
  have shown : ¬(c = '\\' ∨ c.toNat < 32) := by
    rintro (h | h)
    · exact slashFree h
    · omega
  rw [parseString.eq_def]
  split
  · rename_i h; cases h
  · rename_i h; exact absurd (List.cons.inj h).1 slashFree
  · rename_i h; exact absurd (List.cons.inj h).1 slashFree
  · rename_i h
    obtain ⟨rfl, rfl⟩ := List.cons.inj h
    rw [if_neg quoteFree, if_neg shown]

theorem parseString_escapeChar (c : Char) (cs : List Char) :
    parseString (escapeChar c ++ cs) =
      (parseString cs).map fun (s, rest) => (c :: s, rest) := by
  unfold escapeChar
  split
  · rename_i h; subst h; rfl
  split
  · rename_i h; subst h; rfl
  split
  · rename_i h; subst h; rfl
  split
  · rename_i h; subst h; rfl
  split
  · rename_i h; subst h; rfl
  split
  · rename_i h; subst h; rfl
  split
  · rename_i h; subst h; rfl
  rename_i quoteFree slashFree _ _ _ _ _
  split
  · rename_i shown
    exact parseString_plain c cs quoteFree slashFree shown.1
  -- a `Char` is a Unicode scalar value, so no code unit below is a surrogate
  have valid := c.valid
  simp only [UInt32.isValidChar, Nat.isValidChar] at valid
  have scalar : ¬(0xd800 ≤ c.toNat ∧ c.toNat ≤ 0xdfff) := by
    simp only [Char.toNat]; omega
  split
  · rename_i small
    rw [parseString_unit c.toNat cs small scalar, Char.ofNat_toNat]
  · rename_i large
    have bound : c.toNat - 0x10000 < 0x100000 := by simp only [Char.toNat] at large ⊢; omega
    rw [List.append_assoc, parseString_pair _ cs bound,
      show 0x10000 + (c.toNat - 0x10000) = c.toNat by omega, Char.ofNat_toNat]

theorem parseString_quote (s rest : List Char) :
    parseString (s.flatMap escapeChar ++ '"' :: rest) = some (s, rest) := by
  induction s with
  | nil => simp [parseString]
  | cons c s ih =>
      rw [List.flatMap_cons, List.append_assoc, parseString_escapeChar, ih]
      rfl

/-- What may follow a value inside a text that `json.dumps` wrote. -/
def Follows (rest : List Char) : Prop :=
  ∀ c, rest.head? = some c → c = ',' ∨ c = ']' ∨ c = '}'

theorem Follows.not_digit {rest : List Char} (follows : Follows rest) :
    ∀ c, rest.head? = some c → c.isDigit = false := by
  intro c head
  rcases follows c head with rfl | rfl | rfl <;> rfl

theorem spanFraction_of_follows (rest : List Char) (follows : Follows rest) :
    spanFraction rest = ([], rest) := by
  cases rest with
  | nil => rfl
  | cons c cs =>
      rcases follows c rfl with rfl | rfl | rfl <;>
        (rcases cs with _ | ⟨a, _ | ⟨b, cs⟩⟩ <;> rfl)

theorem skipSpace_of_head (c : Char) (cs : List Char)
    (visible : ¬(c = ' ' ∨ c = '\t' ∨ c = '\n' ∨ c = '\r')) : skipSpace (c :: cs) = c :: cs := by
  rw [skipSpace, if_neg visible]

theorem skipSpace_of_follows (rest : List Char) (follows : Follows rest) :
    skipSpace rest = rest := by
  cases rest with
  | nil => rfl
  | cons c cs =>
      apply skipSpace_of_head
      rcases follows c rfl with rfl | rfl | rfl <;> decide

theorem toDigits_zero_head (n : ℕ) (ds : List Char) (shape : Nat.toDigits 10 n = '0' :: ds) :
    n = 0 := by
  induction n using Nat.strong_induction_on generalizing ds with
  | _ n ih =>
      by_cases small : n < 10
      · rw [Nat.toDigits_of_lt_base small] at shape
        have digit : n.digitChar = '0' := (List.cons.inj shape).1
        interval_cases n <;> first | rfl | exact absurd digit (by decide)
      · rw [Nat.toDigits_of_base_le (by decide) (by omega)] at shape
        obtain ⟨d, rest, front, _⟩ := toDigits_head (n / 10)
        rw [front, List.cons_append] at shape
        obtain ⟨rfl, _⟩ := List.cons.inj shape
        have := ih (n / 10) (by omega) rest front
        omega

theorem parseNumber_toDigits (negative : Bool) (n : ℕ) (rest : List Char)
    (follows : Follows rest) :
    parseNumber negative (Nat.toDigits 10 n ++ rest) =
      some (.int (if negative then -(n : ℤ) else n), rest) := by
  obtain ⟨d, ds, shape, digit⟩ := toDigits_head n
  have split : spanDigits (Nat.toDigits 10 n ++ rest) = (Nat.toDigits 10 n, rest) :=
    spanDigits_append _ _ (toDigits_isDigit n) follows.not_digit
  have read : Nat.ofDigitChars 10 (Nat.toDigits 10 n) 0 = n := Nat.ofDigitChars_ten_toDigits
  by_cases leading : d = '0'
  · subst leading
    have isZero : n = 0 := toDigits_zero_head n ds shape
    subst isZero
    simp [parseNumber, Nat.toDigits_zero, spanFraction_of_follows rest follows, Nat.ofDigitChars]
  · have digits : (match Nat.toDigits 10 n ++ rest with
        | '0' :: rest => (['0'], rest)
        | _ => spanDigits (Nat.toDigits 10 n ++ rest)) = (Nat.toDigits 10 n, rest) := by
      rw [shape, List.cons_append] at split ⊢
      split
      · rename_i h; exact absurd (List.cons.inj h).1 leading
      · exact split
    simp only [parseNumber, digits, spanFraction_of_follows rest follows, read,
      Nat.toDigits_ne_nil, if_false, if_true]

mutual
/-- No number with a fraction or an exponent anywhere. -/
def Plain : Json → Prop
  | .float _ => False
  | .arr items => PlainItems items
  | .obj fields => PlainFields fields
  | _ => True

def PlainItems : List Json → Prop
  | [] => True
  | item :: rest => Plain item ∧ PlainItems rest

def PlainFields : List (String × Json) → Prop
  | [] => True
  | field :: rest => Plain field.2 ∧ PlainFields rest
end

/-- The first character of a value is not one that ends or separates values. -/
theorem printValue_head (space : List Char) (value : Json) (plain : Plain value) :
    ∃ c cs, printValue space value = c :: cs ∧
      ¬(c = ' ' ∨ c = '\t' ∨ c = '\n' ∨ c = '\r') ∧ c ≠ ']' ∧ c ≠ '}' := by
  cases value with
  | null => exact ⟨_, _, rfl, by decide, by decide, by decide⟩
  | bool b => cases b <;> exact ⟨_, _, rfl, by decide, by decide, by decide⟩
  | int n =>
      simp only [printValue]
      cases shape : intChars n with
      | nil => exact absurd shape (intChars_ne_nil n)
      | cons c cs =>
          refine ⟨c, cs, rfl, ?_⟩
          rcases intChars_isDigit_or_sign n c (by rw [shape]; exact List.mem_cons_self ..) with
            digit | rfl
          · refine ⟨?_, ?_, ?_⟩
            · rintro (rfl | rfl | rfl | rfl) <;> exact absurd digit (by decide)
            · rintro rfl; exact absurd digit (by decide)
            · rintro rfl; exact absurd digit (by decide)
          · decide
  | float literal => exact absurd plain (by simp [Plain])
  | str s => exact ⟨'"', _, by rw [printValue, quote]; rfl, by decide, by decide, by decide⟩
  | arr items => exact ⟨'[', _, by rw [printValue]; rfl, by decide, by decide, by decide⟩
  | obj fields => exact ⟨'{', _, by rw [printValue]; rfl, by decide, by decide, by decide⟩

theorem parseValue_int (fuel : ℕ) (n : ℤ) (rest : List Char) (follows : Follows rest) :
    parseValue (fuel + 1) (intChars n ++ rest) = some (.int n, rest) := by
  cases n with
  | ofNat n =>
      obtain ⟨d, ds, shape, digit⟩ := toDigits_head n
      have number := parseNumber_toDigits false n rest follows
      have chars : intChars (Int.ofNat n) = d :: ds := (intChars_of_nonneg n).trans shape
      rw [chars, List.cons_append]
      rw [shape, List.cons_append] at number
      rw [parseValue.eq_def]
      simp only
      split <;> first
        | (rename_i h; exact absurd digit (by rw [(List.cons.inj h).1]; decide))
        | exact number
  | negSucc n =>
      obtain ⟨d, ds, shape, digit⟩ := toDigits_head (n + 1)
      have number := parseNumber_toDigits true (n + 1) rest follows
      rw [intChars_of_neg, shape, List.cons_append, List.cons_append]
      rw [shape, List.cons_append] at number
      rw [parseValue.eq_def]
      simp only
      split <;> first
        | (rename_i h; exact absurd (List.cons.inj h).1 (by decide))
        | (rename_i h
           exact absurd digit (by rw [(List.cons.inj (List.cons.inj h).2).1]; decide))
        | (rename_i h
           obtain ⟨-, rfl⟩ := List.cons.inj h
           rw [number]
           rfl)
        | (rename_i h; exact absurd rfl (h _))

def Blank (space : List Char) : Prop :=
  ∀ c ∈ space, c = ' ' ∨ c = '\t' ∨ c = '\n' ∨ c = '\r'

theorem skipSpace_append (space cs : List Char) (blank : Blank space) :
    skipSpace (space ++ cs) = skipSpace cs := by
  induction space with
  | nil => rfl
  | cons c space ih =>
      rw [List.cons_append, skipSpace, if_pos (blank c (List.mem_cons_self ..))]
      exact ih fun d member => blank d (List.mem_cons_of_mem _ member)

theorem follows_comma (cs : List Char) : Follows (',' :: cs) := by
  intro c head
  exact Or.inl (Option.some.inj head).symm

theorem follows_bracket (cs : List Char) : Follows (']' :: cs) := by
  intro c head
  exact Or.inr (Or.inl (Option.some.inj head).symm)

theorem follows_brace (cs : List Char) : Follows ('}' :: cs) := by
  intro c head
  exact Or.inr (Or.inr (Option.some.inj head).symm)

theorem quote_append (s : String) (rest : List Char) :
    quote s ++ rest = '"' :: (s.toList.flatMap escapeChar ++ '"' :: rest) := by
  simp [quote]

theorem parseValue_string (fuel : ℕ) (s : String) (rest : List Char) :
    parseValue (fuel + 1) (quote s ++ rest) = some (.str s, rest) := by
  rw [quote_append, parseValue.eq_def]
  simp only [parseString_quote, Option.map_some, String.ofList_toList]

theorem printItems_head (space : List Char) (item : Json) (items : List Json)
    (plain : Plain item) :
    ∃ c cs, printItems space (item :: items) = c :: cs ∧
      ¬(c = ' ' ∨ c = '\t' ∨ c = '\n' ∨ c = '\r') ∧ c ≠ ']' := by
  obtain ⟨c, cs, shape, visible, notBracket, _⟩ := printValue_head space item plain
  cases items with
  | nil => exact ⟨c, cs, by rw [printItems, shape], visible, notBracket⟩
  | cons next rest => exact ⟨c, _, by rw [printItems, shape]; rfl, visible, notBracket⟩

theorem printFields_head (space : List Char) (field : String × Json)
    (fields : List (String × Json)) :
    ∃ cs, printFields space (field :: fields) = '"' :: cs := by
  obtain ⟨name, value⟩ := field
  cases fields with
  | nil => exact ⟨_, by rw [printFields, quote_append]⟩
  | cons next rest => exact ⟨_, by rw [printFields, quote_append]⟩

/-! What it takes for `fuel` to be enough, for the three mutually recursive readers. -/

section
variable (space : List Char)

def ReadsValue (fuel : ℕ) : Prop :=
  ∀ value rest, Plain value → Follows rest → (printValue space value).length ≤ fuel →
    parseValue fuel (printValue space value ++ rest) = some (value, rest)

def ReadsItems (fuel : ℕ) : Prop :=
  ∀ item items rest, PlainItems (item :: items) →
    (printItems space (item :: items)).length + 1 ≤ fuel →
    parseItems fuel (printItems space (item :: items) ++ ']' :: rest) = some (item :: items, rest)

def ReadsFields (fuel : ℕ) : Prop :=
  ∀ field fields rest, PlainFields (field :: fields) →
    (printFields space (field :: fields)).length + 1 ≤ fuel →
    parseFields fuel (printFields space (field :: fields) ++ '}' :: rest) =
      some (field :: fields, rest)

variable {space}

theorem readsValue_succ (fuel : ℕ) (readsItems : ReadsItems space fuel)
    (readsFields : ReadsFields space fuel) : ReadsValue space (fuel + 1) := by
  intro value rest plain follows enough
  match value with
  | .null => rw [printValue, parseValue.eq_def]; rfl
  | .bool true => rw [printValue, parseValue.eq_def]; rfl
  | .bool false => rw [printValue, parseValue.eq_def]; rfl
  | .int n => rw [printValue]; exact parseValue_int fuel n rest follows
  | .float _ => exact absurd plain (by simp [Plain])
  | .str s => rw [printValue]; exact parseValue_string fuel s rest
  | .arr [] => rw [printValue, printItems, parseValue.eq_def]; rfl
  | .arr (item :: items) =>
      have allPlain : PlainItems (item :: items) := by rw [Plain] at plain; exact plain
      rw [printValue, List.length_append, List.length_cons, List.length_singleton] at enough
      have inner := readsItems item items rest allPlain (by omega)
      obtain ⟨c, cs, head, visible, notBracket⟩ :=
        printItems_head space item items (by rw [PlainItems] at allPlain; exact allPlain.1)
      rw [printValue, List.append_assoc, List.cons_append, List.singleton_append,
        parseValue.eq_def]
      simp only
      rw [head, List.cons_append] at inner ⊢
      rw [skipSpace_of_head c _ visible]
      split
      · rename_i h; exact absurd (List.cons.inj h).1 notBracket
      · rw [inner]; rfl
  | .obj [] => rw [printValue, printFields, parseValue.eq_def]; rfl
  | .obj (field :: fields) =>
      have allPlain : PlainFields (field :: fields) := by rw [Plain] at plain; exact plain
      rw [printValue, List.length_append, List.length_cons, List.length_singleton] at enough
      have inner := readsFields field fields rest allPlain (by omega)
      obtain ⟨cs, head⟩ := printFields_head space field fields
      rw [printValue, List.append_assoc, List.cons_append, List.singleton_append,
        parseValue.eq_def]
      simp only
      rw [head, List.cons_append] at inner ⊢
      rw [skipSpace_of_head _ _ (by decide)]
      split
      · rename_i h; exact absurd (List.cons.inj h).1 (by decide)
      · rw [inner]; rfl

theorem readsItems_succ (blank : Blank space) (fuel : ℕ) (readsValue : ReadsValue space fuel)
    (readsItems : ReadsItems space fuel) : ReadsItems space (fuel + 1) := by
  intro item items rest plain enough
  rw [PlainItems] at plain
  match items with
  | [] =>
      rw [printItems] at enough ⊢
      rw [parseItems.eq_def]
      simp only
      rw [readsValue item _ plain.1 (follows_bracket rest) (by omega)]
      simp only
      rw [skipSpace_of_follows _ (follows_bracket rest)]
      rfl
  | next :: others =>
      rw [printItems, List.length_append, List.length_cons, List.length_append] at enough
      obtain ⟨first, chars, shape, _⟩ := printValue_head space item plain.1
      have filled : 1 ≤ (printValue space item).length := by rw [shape]; simp
      have nextPlain : Plain next := by have := plain.2; rw [PlainItems] at this; exact this.1
      obtain ⟨c, cs, head, visible, _⟩ := printItems_head space next others nextPlain
      have inner := readsItems next others rest plain.2 (by omega)
      rw [printItems, List.append_assoc, List.cons_append, List.append_assoc, parseItems.eq_def]
      simp only
      rw [readsValue item _ plain.1 (follows_comma _) (by omega)]
      simp only
      rw [skipSpace_of_follows _ (follows_comma _)]
      simp only
      rw [skipSpace_append space _ blank]
      rw [head, List.cons_append] at inner ⊢
      rw [skipSpace_of_head c _ visible, inner]
      rfl

theorem readsFields_succ (blank : Blank space) (fuel : ℕ) (readsValue : ReadsValue space fuel)
    (readsFields : ReadsFields space fuel) : ReadsFields space (fuel + 1) := by
  intro field fields rest plain enough
  rw [PlainFields] at plain
  obtain ⟨name, value⟩ := field
  obtain ⟨c, cs, shape, visible, _⟩ := printValue_head space value plain.1
  have filled : 1 ≤ (printValue space value).length := by rw [shape]; simp
  match fields with
  | [] =>
      rw [printFields, List.length_append, List.length_cons, List.length_append] at enough
      have inner := readsValue value _ plain.1 (follows_brace rest) (by omega)
      rw [printFields, List.append_assoc, List.cons_append, List.append_assoc, quote_append,
        parseFields.eq_def]
      simp only [parseString_quote]
      rw [skipSpace_of_head ':' _ (by decide)]
      simp only
      rw [skipSpace_append space _ blank]
      rw [shape, List.cons_append] at inner ⊢
      rw [skipSpace_of_head c _ visible, inner]
      simp only
      rw [skipSpace_of_follows _ (follows_brace rest)]
      simp only [String.ofList_toList]
  | next :: others =>
      rw [printFields, List.length_append, List.length_cons, List.length_append,
        List.length_append, List.length_cons, List.length_append] at enough
      obtain ⟨chars, head⟩ := printFields_head space next others
      have first := readsValue value
        (',' :: (space ++ (printFields space (next :: others) ++ '}' :: rest))) plain.1
        (follows_comma _) (by omega)
      have inner := readsFields next others rest plain.2 (by omega)
      rw [printFields, List.append_assoc, List.cons_append, List.append_assoc,
        List.append_assoc, List.cons_append, List.append_assoc, quote_append,
        parseFields.eq_def]
      simp only [parseString_quote]
      rw [skipSpace_of_head ':' _ (by decide)]
      simp only
      rw [skipSpace_append space _ blank]
      rw [shape, List.cons_append] at first ⊢
      rw [skipSpace_of_head c _ visible, first]
      simp only
      rw [skipSpace_of_follows _ (follows_comma _)]
      simp only
      rw [skipSpace_append space _ blank]
      rw [head, List.cons_append] at inner ⊢
      rw [skipSpace_of_head _ _ (by decide), inner]
      simp only [Option.map_some, String.ofList_toList]

/-- The readers invert the writers. -/
theorem reads (blank : Blank space) (fuel : ℕ) :
    ReadsValue space fuel ∧ ReadsItems space fuel ∧ ReadsFields space fuel := by
  induction fuel with
  | zero =>
      refine ⟨?_, ?_, ?_⟩
      · intro value rest plain follows enough
        obtain ⟨c, cs, shape, _⟩ := printValue_head space value plain
        rw [shape, List.length_cons] at enough
        omega
      · intro item items rest plain enough
        omega
      · intro field fields rest plain enough
        omega
  | succ fuel ih =>
      obtain ⟨values, items, fields⟩ := ih
      exact ⟨readsValue_succ fuel items fields, readsItems_succ blank fuel values items,
        readsFields_succ blank fuel values fields⟩

theorem loads_printValue (blank : Blank space) (value : Json) (plain : Plain value) :
    loads (String.ofList (printValue space value)) = some value := by
  obtain ⟨c, cs, shape, visible, _⟩ := printValue_head space value plain
  have read := (reads blank (2 * (printValue space value).length + 2)).1 value [] plain
    (fun c head => by cases head) (by omega)
  have start : skipSpace (printValue space value) = printValue space value := by
    rw [shape]; exact skipSpace_of_head c cs visible
  rw [List.append_nil] at read
  simp only [loads, String.toList_ofList, start, read]
  rfl

end

theorem loads_dumps (value : Json) (plain : Plain value) : loads (dumps value) = some value :=
  loads_printValue (fun _ member => Or.inl (List.mem_singleton.mp member)) value plain

theorem loads_dumpsCompact (value : Json) (plain : Plain value) :
    loads (dumpsCompact value) = some value :=
  loads_printValue (fun _ member => by cases member) value plain

end ContentPlatform.Text
