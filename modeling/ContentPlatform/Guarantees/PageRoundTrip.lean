import ContentPlatform.Api.Pagination
import ContentPlatform.Schemas

/-!
# Pages through the cache

What `_encode_page` writes, `_decode_page` reads back.  `json.dumps` refuses integers of more than
4300 digits.
-/

set_option autoImplicit false

namespace ContentPlatform

open Program Py Text

/-! ## Writing -/

mutual
/-- `str` converts every integer of the value. -/
def writable : Json → Bool
  | .int value => (strOfInt value).isOk
  | .arr items => writableItems items
  | .obj fields => writableFields fields
  | _ => true

def writableItems : List Json → Bool
  | [] => true
  | item :: rest => writable item && writableItems rest

def writableFields : List (String × Json) → Bool
  | [] => true
  | field :: rest => writable field.2 && writableFields rest
end

/-- `json.dumps`, with the interpreter's cap on digits. -/
def jsonDumps (value : Json) : Except Exc String :=
  if writable value then .ok (dumps value) else .error .valueError

def nextValue : Option Position → Json
  | none => .null
  | some (createdAt, articleId) => .arr [.str (isoformat createdAt), .int articleId]

/-- The `payload` of `_encode_page`, over the items as they were dumped. -/
def pagePayload (items : List Json) (next : Option Position) : Json :=
  .obj [("items", .arr items), ("next", nextValue next)]

/-- `_encode_page`, with the interpreter's cap on digits. -/
def writePage (rt : Runtime) (page : Page) : Except Exc String :=
  jsonDumps (pagePayload (page.1.map rt.summaryDump) page.2)

/-- Where it writes a page, it writes what the service stores. -/
theorem writePage_eq (rt : Runtime) (page : Page) :
    writePage rt page =
      if writable (pagePayload (page.1.map rt.summaryDump) page.2) then .ok (encodePage rt page)
      else .error .valueError := by
  obtain ⟨items, next⟩ := page
  cases next <;> rfl

def InRange (n : ℤ) : Prop := n.natAbs < 10 ^ maxStrDigits

structure PageInRange (page : Page) : Prop where
  id : ∀ item ∈ page.1, InRange item.id
  authorId : ∀ item ∈ page.1, InRange item.authorId
  next : ∀ createdAt articleId, page.2 = some (createdAt, articleId) → InRange articleId

theorem writable_int (n : ℤ) : writable (.int n) = true ↔ InRange n := by
  rw [writable]
  by_cases short : InRange n
  · rw [strOfInt_short short]
    exact iff_of_true rfl short
  · rw [strOfInt_long (not_lt.mp short)]
    exact iff_of_false (by decide) short

theorem writable_summary (out : ArticleSummaryOut) :
    writable out.dump = true ↔ InRange out.id ∧ InRange out.authorId := by
  have text : ∀ value, writable (.str value) = true := by
    intro value
    simp [writable]
  rw [ArticleSummaryOut.dump, ArticleSummaryOut.fields, writable]
  simp [writableFields, writable_int, text]

theorem writableItems_iff (items : List ArticleSummaryOut) :
    writableItems (items.map ArticleSummaryOut.dump) = true ↔
      ∀ item ∈ items, InRange item.id ∧ InRange item.authorId := by
  induction items with
  | nil => simp [writableItems]
  | cons item rest ih =>
      rw [List.map_cons, writableItems, Bool.and_eq_true, writable_summary, ih,
        List.forall_mem_cons]

theorem writable_next (next : Option Position) :
    writable (nextValue next) = true ↔
      ∀ createdAt articleId, next = some (createdAt, articleId) → InRange articleId := by
  cases next with
  | none => simp [nextValue, writable]
  | some position =>
      obtain ⟨createdAt, articleId⟩ := position
      rw [nextValue, writable, writableItems, writableItems, writableItems, Bool.and_true,
        Bool.and_eq_true, writable_int]
      constructor
      · rintro ⟨-, short⟩ _ _ ⟨⟩
        exact short
      · intro short
        exact ⟨by simp [writable], short createdAt articleId rfl⟩

theorem writable_page (page : Page) :
    writable (pagePayload (page.1.map ArticleSummaryOut.dump) page.2) = true ↔
      PageInRange page := by
  rw [pagePayload, writable, writableFields, writableFields, writableFields, writable,
    Bool.and_true, Bool.and_eq_true, writableItems_iff, writable_next]
  constructor
  · rintro ⟨items, next⟩
    exact ⟨fun item member => (items item member).1, fun item member => (items item member).2, next⟩
  · intro short
    exact ⟨fun item member => ⟨short.id item member, short.authorId item member⟩, short.next⟩

/-! ## Reading -/

/-- How pydantic and the standard library treat what a page is made of: a summary is dumped field by
field, with datetimes as ISO texts; it is read from any object that has its fields; and texts are
read back. -/
structure Runtime.ReadsSummaries (rt : Runtime) : Prop where
  dump : ∀ out, rt.summaryDump out = out.dump
  validate : ∀ (out : ArticleSummaryOut) fields,
    (∀ field ∈ out.fields, lookupField fields field.1 = some field.2) →
      rt.summaryValidate (.obj fields) = some out
  loads : ∀ value, Plain value → writable value = true → rt.jsonLoads (dumps value) = .ok value
  iso : ∀ t, rt.fromIsoformat (isoformat t) = some t

/-- What a page of the older shape holds: the bodies of its articles too. -/
def olderPayload (outs : List ArticleOut) (next : Option Position) : Json :=
  pagePayload (outs.map fun out => .obj out.fields) next

theorem plain_nextValue (next : Option Position) : Plain (nextValue next) := by
  cases next with
  | none => simp [nextValue, Plain]
  | some position => simp [nextValue, Plain, PlainItems]

theorem plain_page {α : Type} {outs : List α} {written : α → List (String × Json)}
    (each : ∀ out, PlainFields (written out)) (next : Option Position) :
    Plain (pagePayload (outs.map fun out => Json.obj (written out)) next) := by
  have items : PlainItems (outs.map fun out => Json.obj (written out)) := by
    induction outs with
    | nil => trivial
    | cons out rest ih => exact ⟨by simpa [Plain] using each out, ih⟩
  simp [pagePayload, Plain, PlainFields, items, plain_nextValue]

section
variable {rt : Runtime} (reads : rt.ReadsSummaries)

include reads

theorem decodeNext_nextValue (createdAt : DateTime) (articleId : ℤ) :
    decodeNext rt (nextValue (some (createdAt, articleId))) = .ok (createdAt, articleId) := by
  simp only [nextValue, decodeNext, subscript, jsonToInt, List.getElem?_cons_zero,
    List.getElem?_cons_succ, Bind.bind, Except.bind, reads.iso]
  rfl

/-- A page is read from any items that are validated to its own. -/
theorem decodePage_payload {values : List Json} {items : List ArticleSummaryOut}
    {next : Option Position} {body : String}
    (read : rt.jsonLoads body = .ok (pagePayload values next))
    (valid : values.mapM rt.summaryValidate = some items) :
    decodePage rt (some body) = .ok (some (items, next)) := by
  have payload : decodePayload rt body = .ok (items, nextValue next) :=
    decodePayload_fields read (by simp [lookupField]) valid (by simp [lookupField])
  cases next with
  | none => simp only [decodePage, payload, nextValue]
  | some position =>
      obtain ⟨createdAt, articleId⟩ := position
      have position := decodeNext_nextValue reads createdAt articleId
      rw [nextValue] at payload position
      simp only [decodePage, payload, position]

theorem mapM_validate {α : Type} {outs : List α} {written : α → List (String × Json)}
    {summary : α → ArticleSummaryOut}
    (each : ∀ out, ∀ field ∈ (summary out).fields,
      lookupField (written out) field.1 = some field.2) :
    (outs.map fun out => Json.obj (written out)).mapM rt.summaryValidate =
      some (outs.map summary) := by
  induction outs with
  | nil => rfl
  | cons out rest ih =>
      rw [List.map_cons, List.mapM_cons, reads.validate (summary out) _ (each out), ih]
      rfl

theorem writePage_payload (page : Page) :
    writePage rt page =
      jsonDumps (pagePayload (page.1.map fun out => .obj out.fields) page.2) := by
  have dumped : rt.summaryDump = ArticleSummaryOut.dump := funext reads.dump
  rw [writePage, dumped]
  rfl

theorem writePage_short {page : Page} (short : PageInRange page) :
    writePage rt page =
      .ok (dumps (pagePayload (page.1.map ArticleSummaryOut.dump) page.2)) := by
  rw [writePage_payload reads, jsonDumps]
  exact if_pos ((writable_page page).mpr short)

theorem writePage_long {page : Page} (long : ¬PageInRange page) :
    writePage rt page = .error .valueError := by
  rw [writePage_payload reads, jsonDumps]
  exact if_neg fun short => long ((writable_page page).mp short)

/-- What was written of articles or of their summaries is read back as the summaries. -/
theorem decodePage_dumps {α : Type} {outs : List α} {written : α → List (String × Json)}
    {summary : α → ArticleSummaryOut} (next : Option Position)
    (plain : ∀ out, PlainFields (written out))
    (each : ∀ out, ∀ field ∈ (summary out).fields,
      lookupField (written out) field.1 = some field.2) {body : String}
    (wrote : jsonDumps (pagePayload (outs.map fun out => .obj (written out)) next) = .ok body) :
    decodePage rt (some body) = .ok (some (outs.map summary, next)) := by
  rw [jsonDumps] at wrote
  split at wrote
  · rename_i short
    obtain rfl := Except.ok.inj wrote
    exact decodePage_payload reads (reads.loads _ (plain_page plain next) short)
      (mapM_validate reads each)
  · cases wrote

end

/-- What the entry of a page is for.  A page whose numbers `str` converts is written and read back;
any other is refused with a `ValueError`; and a page that holds bodies is read without them. -/
theorem page_round_trip {rt : Runtime} (reads : rt.ReadsSummaries) :
    (∀ page, PageInRange page → ∃ body, writePage rt page = .ok body ∧
      decodePage rt (some body) = .ok (some page)) ∧
    (∀ page, ¬PageInRange page → writePage rt page = .error .valueError) ∧
    ∀ outs next body, jsonDumps (olderPayload outs next) = .ok body →
      decodePage rt (some body) = .ok (some (outs.map ArticleOut.toArticleSummaryOut, next)) := by
  constructor
  · rintro ⟨items, next⟩ short
    have plain : ∀ out : ArticleSummaryOut, PlainFields out.fields := by
      intro out
      simp [ArticleSummaryOut.fields, Plain, PlainFields]
    have wrote := writePage_short reads short
    have text := (writePage_payload reads (items, next)).symm.trans wrote
    have back : decodePage rt _ = .ok (some (items.map id, next)) :=
      decodePage_dumps reads next plain lookup_fields text
    rw [List.map_id] at back
    exact ⟨_, wrote, back⟩
  · constructor
    · intro page long
      exact writePage_long reads long
    · intro outs next body text
      have plain : ∀ out : ArticleOut, PlainFields out.fields := by
        intro out
        simp [ArticleOut.fields, ArticleSummaryOut.fields, Plain, PlainFields]
      have own : ∀ out : ArticleOut, ∀ field ∈ out.toArticleSummaryOut.fields,
          lookupField out.fields field.1 = some field.2 := by
        intro out field member
        exact lookup_article_fields out field (List.mem_append_left _ member)
      exact decodePage_dumps reads next plain own text

theorem defaultRuntime_readsSummaries (sha256Hex : String → String) :
    (defaultRuntime sha256Hex).ReadsSummaries := by
  have serializes := defaultRuntime_serializes sha256Hex
  constructor
  · intro out
    rfl
  · intro out fields each
    exact readSummary_of_lookup each
  · intro value plain _
    exact serializes.loads value plain
  · exact serializes.iso

def onePage (id : ℤ) : Page := ([⟨id, 1, "Grüße", epoch, epoch⟩], some (epoch, 1))

theorem page_round_trip_one :
    ∃ body, writePage (defaultRuntime fun _ => "") (onePage 7) = .ok body ∧
      decodePage (defaultRuntime fun _ => "") (some body) = .ok (some (onePage 7)) := by
  have small : ∀ n : ℤ, n.natAbs < 10 → InRange n := by
    intro n low
    have power : 10 ^ 1 ≤ 10 ^ maxStrDigits := Nat.pow_le_pow_right (by decide) (by decide)
    exact lt_of_lt_of_le low power
  apply (page_round_trip (defaultRuntime_readsSummaries fun _ => "")).1
  constructor
  · intro item member
    obtain rfl := List.mem_singleton.mp member
    exact small 7 (by decide)
  · intro item member
    obtain rfl := List.mem_singleton.mp member
    exact small 1 (by decide)
  · rintro _ _ ⟨⟩
    exact small 1 (by decide)

/-- The page of an article with an id of 4301 digits cannot be written: `json.dumps` raises. -/
theorem longest_id_has_no_page :
    writePage (defaultRuntime fun _ => "") (onePage (10 ^ maxStrDigits)) = .error .valueError := by
  have refused : ∀ id : ℤ, 10 ^ maxStrDigits ≤ id.natAbs →
      writePage (defaultRuntime fun _ => "") (onePage id) = .error .valueError := by
    intro id long
    apply writePage_long (defaultRuntime_readsSummaries fun _ => "")
    intro short
    exact not_lt.mpr long (short.id _ (List.mem_singleton_self _))
  apply refused
  rw [Int.natAbs_pow, show (10 : ℤ).natAbs = 10 from rfl]

end ContentPlatform
