import ContentPlatform.Text.Decimal

/-!
# Log events

`_is_sensitive` and `redact_secrets` of `app/observability/logging.py`.
-/

set_option autoImplicit false

namespace ContentPlatform

open Text

/-! ## Events -/

/-- What a log event is built from, over the keys and the scalars other than texts.  A dict is its
items in order. -/
inductive LogValue (κ σ : Type) where
  | none
  | str (text : String)
  | scalar (value : σ)
  | list (items : List (LogValue κ σ))
  | dict (items : List (κ × LogValue κ σ))

namespace LogValue

variable {κ σ : Type}

def isNone : LogValue κ σ → Bool
  | .none => true
  | _ => false

def isDict : LogValue κ σ → Bool
  | .dict _ => true
  | _ => false

mutual
/-- Values by what holds of the values inside them. -/
@[elab_as_elim, induction_eliminator]
theorem induct {motive : LogValue κ σ → Prop} (none : motive .none)
    (str : ∀ text, motive (.str text)) (scalar : ∀ value, motive (.scalar value))
    (list : ∀ items, (∀ value ∈ items, motive value) → motive (.list items))
    (dict : ∀ items, (∀ item ∈ items, motive item.2) → motive (.dict items)) :
    ∀ value, motive value
  | .none => none
  | .str text => str text
  | .scalar value => scalar value
  | .list items => list items (induct_list none str scalar list dict items)
  | .dict items => dict items (induct_dict none str scalar list dict items)

theorem induct_list {motive : LogValue κ σ → Prop} (none : motive .none)
    (str : ∀ text, motive (.str text)) (scalar : ∀ value, motive (.scalar value))
    (list : ∀ items, (∀ value ∈ items, motive value) → motive (.list items))
    (dict : ∀ items, (∀ item ∈ items, motive item.2) → motive (.dict items)) :
    ∀ items : List (LogValue κ σ), ∀ value ∈ items, motive value
  | [] => fun _ member => absurd member List.not_mem_nil
  | value :: rest =>
      List.forall_mem_cons.mpr ⟨induct none str scalar list dict value,
        induct_list none str scalar list dict rest⟩

theorem induct_dict {motive : LogValue κ σ → Prop} (none : motive .none)
    (str : ∀ text, motive (.str text)) (scalar : ∀ value, motive (.scalar value))
    (list : ∀ items, (∀ value ∈ items, motive value) → motive (.list items))
    (dict : ∀ items, (∀ item ∈ items, motive item.2) → motive (.dict items)) :
    ∀ items : List (κ × LogValue κ σ), ∀ item ∈ items, motive item.2
  | [] => fun _ member => absurd member List.not_mem_nil
  | item :: rest =>
      List.forall_mem_cons.mpr ⟨induct none str scalar list dict item.2,
        induct_dict none str scalar list dict rest⟩
end

end LogValue

/-! ## Sensitive keys -/

/-- `REDACTED`. -/
def redactedText : String := "***REDACTED***"

/-- `_SENSITIVE_WORDS` and `_SENSITIVE_KEYS`. -/
def sensitiveWords : List String :=
  ["password", "passwd", "secret", "token", "authorization", "credential", "credentials", "cookie"]
def sensitiveKeys : List String := ["api_key", "apikey", "x-api-key", "set-cookie"]

/-- `str.lower` on a character, as far as the lower case meets ASCII: a letter of ASCII, the Kelvin
sign and the dotted capital I.  Any other letter has a lower case outside ASCII, as itself. -/
def lowerChar (c : Char) : List Char :=
  if c.toNat = 0x212a then ['k']
  else if c.toNat = 0x130 then ['i', Char.ofNat 0x307]
  else [c.toLower]

/-- `[._\-\s]`. -/
def isWordSeparator (c : Char) : Bool := c == '.' || c == '_' || c == '-' || isSpace c

/-- The pieces between separators.  `re.split` takes a run of separators at once; the empty pieces
within a run are no word. -/
def splitWords : List Char → List (List Char)
  | [] => [[]]
  | c :: cs =>
      if isWordSeparator c then [] :: splitWords cs
      else
        match splitWords cs with
        | [] => [[c]]
        | word :: words => (c :: word) :: words

def isSensitive (key : String) : Bool :=
  let normalized := key.toList.flatMap lowerChar
  sensitiveKeys.contains (String.ofList normalized) ||
    (splitWords normalized).any fun word => sensitiveWords.contains (String.ofList word)

/-! ## Redaction -/

section
variable {κ σ : Type} (str : κ → String)

mutual
/-- `redact_secrets`; `str` is the text of a key. -/
def redactSecrets : LogValue κ σ → LogValue κ σ
  | .dict items => .dict (redactItems items)
  | value => value

def redactItems : List (κ × LogValue κ σ) → List (κ × LogValue κ σ)
  | [] => []
  | (key, value) :: rest =>
      (key,
        if isSensitive (str key) && !value.isNone then .str redactedText
        else if value.isDict then redactSecrets value else value) :: redactItems rest
end

def redactItem (item : κ × LogValue κ σ) : κ × LogValue κ σ :=
  (item.1, if isSensitive (str item.1) && !item.2.isNone then .str redactedText
    else redactSecrets str item.2)

theorem redactSecrets_of_not_dict {value : LogValue κ σ} (other : value.isDict = false) :
    redactSecrets str value = value := by
  cases value with
  | dict items => cases other
  | none => rfl
  | str text => rfl
  | scalar value => rfl
  | list items => rfl

theorem redactItems_eq_map (items : List (κ × LogValue κ σ)) :
    redactItems str items = items.map (redactItem str) := by
  induction items with
  | nil => rfl
  | cons item rest ih =>
      obtain ⟨key, value⟩ := item
      rw [redactItems, ih, List.map_cons, redactItem]
      cases shape : value.isDict with
      | false => rw [redactSecrets_of_not_dict str shape]; simp
      | true => simp

theorem redactSecrets_dict (items : List (κ × LogValue κ σ)) :
    redactSecrets str (.dict items) = .dict (items.map (redactItem str)) := by
  rw [redactSecrets, redactItems_eq_map]

end

example : ["Access-Token", "jwt_secret", "X-API-Key"].all isSensitive = true := by decide

example : ["tokenizer", "cache_key", "secretary"].any isSensitive = false := by decide

end ContentPlatform
