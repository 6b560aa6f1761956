import ContentPlatform.Guarantees.FailOpen

/-!
# Bodies that are no page

`_decode_page` takes what it cannot read for a miss.  Two kinds of next position get past it: an
object, and a date beside a number that is too large.
-/

set_option autoImplicit false

namespace ContentPlatform

open Program Py Prog Text

/-! ## What each `try` lets through -/

/-- What the first `except` names. -/
def payloadErrors : List Exc := [.valueError, .keyError, .typeError]

/-- What the second `except` names. -/
def nextErrors : List Exc := [.valueError, .typeError, .indexError]

/-- A next position on which the second `try` raises something else. -/
inductive BadNext (rt : Runtime) : Json → Prop where
  | object (fields : List (String × Json)) : BadNext rt (.obj fields)
  | number {text literal : String} {rest : List Json} {error : Exc} :
      (rt.fromIsoformat text).isSome = true → rt.floatToInt literal = .error error →
        error ∉ nextErrors → BadNext rt (.arr (.str text :: .float literal :: rest))

/-- A body on which `_decode_page` raises: it cannot be read for another reason than its text, or
it is a page with a bad next position. -/
inductive BadPage (rt : Runtime) (body : String) : Prop where
  | unread {error : Exc} : rt.jsonLoads body = .error error → error ∉ payloadErrors →
      BadPage rt body
  | next {fields : List (String × Json)} {listed rawNext : Json} {values : List Json}
      {items : List ArticleSummaryOut} : rt.jsonLoads body = .ok (.obj fields) →
      lookupField fields "items" = some listed → iterate listed = some values →
      values.mapM rt.summaryValidate = some items → lookupField fields "next" = some rawNext →
      BadNext rt rawNext → BadPage rt body

section
variable {rt : Runtime} {body : String}

theorem decodePage_of_error {error : Exc} (payload : decodePayload rt body = .error error) :
    decodePage rt (some body) =
      if error ∈ payloadErrors then .ok none else .error error := by
  simp only [decodePage, payload]
  cases error <;> rfl

def nextOutcome (rt : Runtime) (items : List ArticleSummaryOut) (rawNext : Json) :
    Except Exc (Option Page) :=
  match decodeNext rt rawNext with
  | .ok next => .ok (some (items, some next))
  | .error error => if error ∈ nextErrors then .ok none else .error error

theorem decodePage_last {items : List ArticleSummaryOut}
    (payload : decodePayload rt body = .ok (items, .null)) :
    decodePage rt (some body) = .ok (some (items, none)) := by
  simp only [decodePage, payload]

theorem decodePage_next {items : List ArticleSummaryOut} {rawNext : Json}
    (payload : decodePayload rt body = .ok (items, rawNext)) (more : rawNext ≠ .null) :
    decodePage rt (some body) = nextOutcome rt items rawNext := by
  simp only [decodePage, payload, nextOutcome]
  cases rawNext with
  | null => exact absurd rfl more
  | _ =>
      cases decodeNext rt _ with
      | ok next => rfl
      | error error => cases error <;> rfl

/-! ## The next position -/

def Caught {α : Type} (outcome : Except Exc α) : Prop :=
  (∃ value, outcome = .ok value) ∨ ∃ error ∈ nextErrors, outcome = .error error

theorem Caught.ok {α : Type} (value : α) : Caught (.ok value) := Or.inl ⟨value, rfl⟩

theorem Caught.error {α : Type} {error : Exc} (named : error ∈ nextErrors) :
    Caught (.error error : Except Exc α) :=
  Or.inr ⟨error, named, rfl⟩

theorem Caught.bind {α β : Type} {outcome : Except Exc α} {f : α → Except Exc β}
    (first : Caught outcome) (next : ∀ value, outcome = .ok value → Caught (f value)) :
    Caught (outcome >>= f) := by
  rcases first with ⟨value, rfl⟩ | ⟨error, named, rfl⟩
  · exact next value rfl
  · exact Caught.error named

/-- A subscript fails in a way that is caught, except on an object. -/
theorem caught_subscript {value : Json} (other : ∀ fields, value ≠ .obj fields) (index : ℕ) :
    Caught (subscript value index) := by
  cases value with
  | arr items =>
      rw [subscript]
      cases items[index]? with
      | some item => exact Caught.ok item
      | none => exact Caught.error (by decide)
  | str text =>
      rw [subscript]
      cases text.toList[index]? with
      | some c => exact Caught.ok _
      | none => exact Caught.error (by decide)
  | obj fields => exact absurd rfl (other fields)
  | _ => exact Caught.error (by decide)

theorem caught_jsonToInt {value : Json}
    (small : ∀ literal error, value = .float literal → rt.floatToInt literal = .error error →
      error ∈ nextErrors) : Caught (jsonToInt rt value) := by
  cases value with
  | int value => exact Caught.ok value
  | bool value => exact Caught.ok _
  | float literal =>
      rw [jsonToInt]
      cases converted : rt.floatToInt literal with
      | ok value => exact Caught.ok value
      | error error => exact Caught.error (small literal error rfl converted)
  | str text =>
      rw [jsonToInt]
      cases parseInt text.toList with
      | some value => exact Caught.ok value
      | none => exact Caught.error (by decide)
  | _ => exact Caught.error (by decide)

/-- Only a list has a number at a subscript. -/
theorem subscript_float {value : Json} {index : ℕ} {literal : String}
    (found : subscript value index = .ok (.float literal)) :
    ∃ items, value = .arr items ∧ items[index]? = some (.float literal) := by
  cases value with
  | arr items =>
      rw [subscript] at found
      cases at? : items[index]? with
      | some item =>
          rw [at?] at found
          rw [← Except.ok.inj found]
          exact ⟨items, rfl, at?⟩
      | none => rw [at?] at found; cases found
  | str text =>
      rw [subscript] at found
      cases at? : text.toList[index]? with
      | some c => rw [at?] at found; cases found
      | none => rw [at?] at found; cases found
  | _ => cases found

theorem caught_decodeNext {rawNext : Json} (good : ¬BadNext rt rawNext) :
    Caught (decodeNext rt rawNext) := by
  have other : ∀ fields, rawNext ≠ .obj fields := by
    rintro fields rfl
    exact good (.object fields)
  rw [decodeNext]
  apply (caught_subscript other 0).bind
  intro first at0
  cases first with
  | str text =>
      dsimp only
      cases date : rt.fromIsoformat text with
      | none => exact Caught.error (by decide)
      | some createdAt =>
          apply (Caught.ok createdAt).bind
          rintro _ ⟨⟩
          apply (caught_subscript other 1).bind
          intro second at1
          apply Caught.bind (caught_jsonToInt _)
          · intro articleId _
            exact Caught.ok _
          · rintro literal error rfl converted
            by_contra unnamed
            obtain ⟨items, rfl, item1⟩ := subscript_float at1
            rcases items with _ | ⟨first, _ | ⟨second, rest⟩⟩
            · cases item1
            · cases item1
            · obtain rfl := Option.some.inj item1
              obtain rfl : first = .str text := Except.ok.inj at0
              exact good (.number (by rw [date]; rfl) converted unnamed)
  | _ => exact Caught.error (by decide)

theorem BadNext.decodeNext {rawNext : Json} (bad : BadNext rt rawNext) :
    ∃ error ∉ nextErrors, decodeNext rt rawNext = .error error := by
  cases bad with
  | object fields => exact ⟨.keyError, by decide, rfl⟩
  | @number text literal rest error date converted unnamed =>
      obtain ⟨createdAt, date⟩ := Option.isSome_iff_exists.mp date
      refine ⟨error, unnamed, ?_⟩
      simp [ContentPlatform.decodeNext, subscript, jsonToInt, date, converted, Bind.bind,
        Except.bind]

theorem nextOutcome_bad {rawNext : Json} (bad : BadNext rt rawNext)
    (items : List ArticleSummaryOut) : ∃ error, nextOutcome rt items rawNext = .error error := by
  obtain ⟨error, unnamed, failed⟩ := bad.decodeNext
  rw [nextOutcome, failed]
  exact ⟨error, if_neg unnamed⟩

theorem nextOutcome_good {rawNext : Json} (good : ¬BadNext rt rawNext)
    (items : List ArticleSummaryOut) : ∃ decoded, nextOutcome rt items rawNext = .ok decoded := by
  rw [nextOutcome]
  rcases caught_decodeNext good with ⟨next, read⟩ | ⟨error, named, failed⟩
  · rw [read]
    exact ⟨_, rfl⟩
  · rw [failed]
    exact ⟨none, if_pos named⟩

/-! ## The page -/

theorem decodePayload_of {fields : List (String × Json)} {listed rawNext : Json}
    {values : List Json} {items : List ArticleSummaryOut}
    (read : rt.jsonLoads body = .ok (.obj fields))
    (listedAt : lookupField fields "items" = some listed)
    (run : iterate listed = some values) (valid : values.mapM rt.summaryValidate = some items)
    (nextAt : lookupField fields "next" = some rawNext) :
    decodePayload rt body = .ok (items, rawNext) := by
  simp only [decodePayload, read, getItem, listedAt, run, valid, nextAt, Bind.bind, Except.bind]
  rfl

/-- How the first `try` ends. -/
inductive PayloadEnd (rt : Runtime) (body : String) :
    Except Exc (List ArticleSummaryOut × Json) → Prop where
  | unread {error : Exc} : rt.jsonLoads body = .error error → PayloadEnd rt body (.error error)
  | noPage {error : Exc} {payload : Json} : rt.jsonLoads body = .ok payload →
      error ∈ payloadErrors → PayloadEnd rt body (.error error)
  | page {fields : List (String × Json)} {listed rawNext : Json} {values : List Json}
      {items : List ArticleSummaryOut} : rt.jsonLoads body = .ok (.obj fields) →
      lookupField fields "items" = some listed → iterate listed = some values →
      values.mapM rt.summaryValidate = some items → lookupField fields "next" = some rawNext →
      PayloadEnd rt body (.ok (items, rawNext))

theorem payloadEnd (rt : Runtime) (body : String) : PayloadEnd rt body (decodePayload rt body) := by
  rw [decodePayload]
  cases read : rt.jsonLoads body with
  | error error => exact .unread read
  | ok payload =>
      cases payload with
      | obj fields =>
          cases listedAt : lookupField fields "items" with
          | none =>
              simp only [getItem, listedAt, Bind.bind, Except.bind]
              exact .noPage read (by decide)
          | some listed =>
              simp only [getItem, listedAt, Bind.bind, Except.bind]
              cases run : iterate listed with
              | none => exact .noPage read (by decide)
              | some values =>
                  cases valid : values.mapM rt.summaryValidate with
                  | none => simp [valid]; exact .noPage read (by decide)
                  | some items =>
                      cases nextAt : lookupField fields "next" with
                      | none => simp [valid]; exact .noPage read (by decide)
                      | some rawNext => simp [valid]; exact .page read listedAt run valid nextAt
      | _ => exact .noPage read (by decide)

/-- `_decode_page` raises on the bad pages only. -/
theorem decodePage_returns_iff :
    (∃ decoded, decodePage rt (some body) = .ok decoded) ↔ ¬BadPage rt body := by
  have ended := payloadEnd rt body
  generalize payload : decodePayload rt body = outcome at ended
  cases ended with
  | @unread error read =>
      rw [decodePage_of_error payload]
      by_cases named : error ∈ payloadErrors
      · rw [if_pos named]
        apply iff_of_true ⟨none, rfl⟩
        intro bad
        cases bad with
        | unread read' unnamed =>
            obtain rfl := Except.error.inj (read.symm.trans read')
            exact unnamed named
        | next read' => cases read.symm.trans read'
      · rw [if_neg named]
        apply iff_of_false
        · rintro ⟨decoded, ⟨⟩⟩
        · exact not_not_intro (.unread read named)
  | @noPage error value read named =>
      rw [decodePage_of_error payload, if_pos named]
      apply iff_of_true ⟨none, rfl⟩
      intro bad
      cases bad with
      | unread read' => cases read.symm.trans read'
      | next read' listedAt run valid nextAt _ =>
          obtain rfl := Except.ok.inj (read.symm.trans read')
          have page := decodePayload_of read listedAt run valid nextAt
          cases payload.symm.trans page
  | @page fields listed rawNext values items read listedAt run valid nextAt =>
      by_cases last : rawNext = .null
      · subst last
        rw [decodePage_last payload]
        apply iff_of_true ⟨_, rfl⟩
        intro bad
        cases bad with
        | unread read' => cases read.symm.trans read'
        | next read' _ _ _ nextAt' badNext =>
            obtain rfl := Json.obj.inj (Except.ok.inj (read.symm.trans read'))
            obtain rfl := Option.some.inj (nextAt.symm.trans nextAt')
            cases badNext
      · rw [decodePage_next payload last]
        by_cases badNext : BadNext rt rawNext
        · obtain ⟨error, failed⟩ := nextOutcome_bad badNext items
          rw [failed]
          apply iff_of_false
          · rintro ⟨decoded, ⟨⟩⟩
          · exact not_not_intro (.next read listedAt run valid nextAt badNext)
        · apply iff_of_true (nextOutcome_good badNext items)
          intro bad
          cases bad with
          | unread read' => cases read.symm.trans read'
          | next read' _ _ _ nextAt' badNext' =>
              obtain rfl := Json.obj.inj (Except.ok.inj (read.symm.trans read'))
              obtain rfl := Option.some.inj (nextAt.symm.trans nextAt')
              exact badNext badNext'

end

/-! ## The list -/

/-- Strings that are pages or misses: `_decode_page` raises on none of them, and with them in Redis
a list of articles ends with the page of one of them or as its load from the database did. -/
structure PagesOrMisses (service : ArticleService) (δ : ℚ) (stored : String → Prop) : Prop where
  decodes : ∀ body, stored body → ∃ decoded, decodePage service.rt (some body) = .ok decoded
  lists : ∀ limit after author now,
    Ends (ReadsFrom (fun _ body => stored body) δ) (service.listArticles limit after author)
      (fun outcome s =>
        (∃ pair s₁, Runs (ReadsFrom (fun _ body => stored body) δ)
            (service.cache.getGenerations author) ⟨[], now⟩ (.ok pair) s₁ ∧ s₁.events <+: s.events ∧
          FromEntry (fun _ body => stored body) (listKey service.rt (pickGeneration author pair)
            author limit (cursorParts after)) (pageOf service.rt) outcome s) ∨
          LoadedFrom (fun _ body => stored body) δ (service.loadPage limit after author) outcome s)
      ⟨[], now⟩

/-- Whatever strings are stored, they are pages or misses exactly when none is a bad page. -/
theorem bad_page_is_a_miss_iff (service : ArticleService) (δ : ℚ)
    (enough : service.rt.lockTimeoutSeconds ≤ service.rt.polls * δ) (stored : String → Prop) :
    PagesOrMisses service δ stored ↔ ∀ body, stored body → ¬BadPage service.rt body := by
  constructor
  · intro misses body here
    exact decodePage_returns_iff.mp (misses.decodes body here)
  · intro good
    have decodes : ∀ body, stored body → ∃ decoded, decodePage service.rt (some body) = .ok decoded :=
      fun body here => decodePage_returns_iff.mpr (good body here)
    exact ⟨decodes, fun _ _ _ _ => list_ends service (fun _ body here => decodes body here) enough⟩

/-! ## Two pages without items -/

def pageBefore (next : Json) : Json := .obj [("items", .arr []), ("next", next)]

theorem jsonLoads_pageBefore {next : Json} (plain : Plain next) :
    patientRuntime.jsonLoads (dumps (pageBefore next)) = .ok (pageBefore next) := by
  have whole : Plain (pageBefore next) := by simp [pageBefore, Plain, PlainFields, PlainItems, plain]
  show (loads (dumps (pageBefore next))).elim (Except.error Exc.valueError) Except.ok =
    .ok (pageBefore next)
  rw [loads_dumps _ whole]
  rfl

theorem decodePayload_pageBefore {next : Json} (plain : Plain next) :
    decodePayload patientRuntime (dumps (pageBefore next)) = .ok ([], next) := by
  have items : lookupField [("items", .arr []), ("next", next)] "items" = some (.arr []) := by
    simp [lookupField]
  have last : lookupField [("items", .arr []), ("next", next)] "next" = some next := by
    simp [lookupField]
  exact decodePayload_fields (jsonLoads_pageBefore plain) items rfl last

/-- A page whose next position is an empty list is a miss. -/
theorem bad_page_is_a_miss_of_empty_list :
    PagesOrMisses ⟨patientRuntime, ⟨true⟩, true⟩ (1 / 50) (· = dumps (pageBefore (.arr []))) ∧
      decodePage patientRuntime (some (dumps (pageBefore (.arr [])))) = .ok none := by
  have plain : Plain (.arr []) := by simp [Plain, PlainItems]
  have missed : decodePage patientRuntime (some (dumps (pageBefore (.arr [])))) = .ok none := by
    rw [decodePage_next (decodePayload_pageBefore plain) (by simp)]
    rfl
  refine ⟨(bad_page_is_a_miss_iff ⟨patientRuntime, ⟨true⟩, true⟩ (1 / 50) (by decide +kernel)
    _).mpr ?_, missed⟩
  rintro body rfl
  exact decodePage_returns_iff.mp ⟨none, missed⟩

/-- The page whose next position is an empty object gets past both `try` blocks. -/
theorem object_for_next_raises :
    dumps (pageBefore (.obj [])) = "\x7b\"items\": [], \"next\": \x7b\x7d\x7d" ∧
      decodePage patientRuntime (some (dumps (pageBefore (.obj [])))) = .error .keyError := by
  constructor
  · decide +kernel
  · have plain : Plain (.obj []) := by simp [Plain, PlainFields]
    rw [decodePage_next (decodePayload_pageBefore plain) (by simp)]
    rfl

end ContentPlatform
