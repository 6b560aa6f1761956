import ContentPlatform.World.Reader
import ContentPlatform.Schemas

/-!
# Reads fail open

A read ends with what an entry under its key holds, or as its own load from the
database ended, whatever Redis and its breaker do.
-/

set_option autoImplicit false

namespace ContentPlatform

open Program Py Prog

section
variable {rt : Runtime} {bodies : String → String → Prop} {δ : ℚ} {s s' : Seen} {α : Type}

/-- The read returned what the body says that a `GET` of `key` answered. -/
def FromEntry (bodies : String → String → Prop) (key : String) (decode : String → Option α)
    (outcome : Except Exc α) (s : Seen) : Prop :=
  ∃ body value, Answered bodies (.get key) (some body) s ∧ decode body = some value ∧
    outcome = .ok value

/-- The read ended as its own load did. -/
def LoadedFrom (bodies : String → String → Prop) (δ : ℚ) (load : Py α) (outcome : Except Exc α)
    (s : Seen) : Prop :=
  ∃ s₁ s₂, Runs (ReadsFrom bodies δ) load s₁ outcome s₂ ∧ s₂.events <+: s.events

abbrev FromCache (rt : Runtime) (key : String) (decode : String → Option α) :=
  FromEntry (Written rt) key decode

abbrev FromLoad (rt : Runtime) (δ : ℚ) (load : Py α) := LoadedFrom (Written rt) δ load

def ArticleService.loadOut (service : ArticleService) (articleId : ℤ) : Py ArticleOut := do
  let article ← service.load articleId
  return (← articleAttributes article).out

/-- The last part of a single-flight read: the load, the entry it leaves, and the lock. -/
theorem ends_load {load : Py α} {store : α → Py Unit} {release : Py Unit}
    (asks : load.Sends (· ≠ .outOfFuel))
    (stores : ∀ value s, Gives bodies δ (store value) (fun _ _ => True) s)
    (releases : ∀ s, Gives bodies δ release (fun _ _ => True) s) :
    Ends (ReadsFrom bodies δ)
      ((load.bind fun value => (store value).bind fun _ => .ret value).tryFinally release)
      (LoadedFrom bodies δ load) s := by
  have loads : Ends (ReadsFrom bodies δ) load (fun _ _ => True) s :=
    Ends.of_sends asks (fun op s asked _ => exists_reads op asked s) (fun _ _ _ _ _ _ _ => trivial)
      trivial
  have loaded : Ends (ReadsFrom bodies δ)
      (load.bind fun value => (store value).bind fun _ => .ret value)
      (LoadedFrom bodies δ load) s := by
    apply Ends.bind loads.runs
    · rintro value s₁ ⟨-, run⟩
      apply (stores value s₁).bind
      intro _ s₂ later _
      exact Ends.ret ⟨s, s₁, run, later.events⟩
    · rintro error s₁ ⟨-, run⟩
      exact ⟨s, s₁, run, List.prefix_rfl⟩
  apply Ends.tryFinally loaded
  rintro outcome s' ⟨s₁, s₂, run, seen⟩
  apply Ends.mono (releases s')
  rintro ended s'' ⟨⟨value, rfl, -⟩, later⟩
  exact ⟨⟨value, rfl⟩, s₁, s₂, run, seen.trans later.events⟩

variable (service : ArticleService)

theorem guardedRead_asks {policy : DependencyPolicy} {statement : Statement} :
    (guardedRead policy .mysql (mysql statement)).Sends (· ≠ .outOfFuel) := by
  apply guardedRead_sends
  · rintro op isLocal rfl
    cases isLocal
  · simp
  · simp

theorem loadOut_asks (articleId : ℤ) : (service.loadOut articleId).Sends (· ≠ .outOfFuel) := by
  apply Sends.bind
  · apply Sends.bind guardedRead_asks
    intro found
    cases found <;> trivial
  · intro article
    exact Sends.bind ⟨by simp, fun _ => sends_ofExcept _⟩ fun _ => trivial

theorem loadPage_asks (limit : ℤ) (after : Option Position) (author : Option ℤ) :
    (service.loadPage limit after author).Sends (· ≠ .outOfFuel) :=
  Sends.bind guardedRead_asks fun _ => sends_ofExcept _

theorem get_fails_open (articleId : ℤ)
    (enough : service.rt.lockTimeoutSeconds ≤ service.rt.polls * δ) :
    Ends (Reads service.rt δ) (service.get articleId) (fun outcome s' =>
      FromCache service.rt (articleKey articleId) service.rt.articleValidateJson outcome s' ∨
        FromLoad service.rt δ (service.loadOut articleId) outcome s') s := by
  unfold ArticleService.get
  apply (gives_fetch service.cache _ _).bind
  intro body s₁ _ found
  cases cached : decodeArticle service.rt body with
  | some out =>
      obtain ⟨text, rfl, decoded⟩ := Option.bind_eq_some_iff.mp cached
      exact Ends.ret (Or.inl ⟨text, out, found text rfl, decoded, rfl⟩)
  | none =>
      apply (gives_acquireLock service.cache _ _).bind
      intro won s₂ _ _
      apply (gives_waitUnlessWon service won _ enough).bind
      intro waited s₃ _ found
      cases cached : decodeArticle service.rt waited with
      | some out =>
          obtain ⟨text, rfl, decoded⟩ := Option.bind_eq_some_iff.mp cached
          exact Ends.ret (Or.inl ⟨text, out, found text rfl, decoded, rfl⟩)
      | none =>
          have shape : service.loadAndStore articleId =
              (service.loadOut articleId).bind fun dto =>
                ((service.articleTtlJittered).bind fun ttl =>
                  service.cache.setArticle articleId (service.rt.articleDumpJson dto) ttl).bind
                    fun _ => .ret dto := by
            simp only [ArticleService.loadAndStore, ArticleService.loadOut, bind_eq, bind_assoc]
            rfl
          simp only [shape]
          apply Ends.mono (ends_load (loadOut_asks service articleId) _ _)
          · exact fun _ _ loaded => Or.inr loaded
          · intro dto s
            apply (gives_jitteredTtl _ _).then
            intro ttl s' _ _
            exact gives_effect service.cache .set _
          · intro s
            exact gives_releaseIfWon service won _

def pageOf (rt : Runtime) (body : String) : Option Page :=
  ((decodePage rt (some body)).toOption).bind id

/-- What the service writes under the key of a page, it can decode. -/
theorem decodePage_written (serializes : rt.Serializes) {generation limit : ℤ} {author : Option ℤ}
    {parts : Option (ℤ × ℤ)} {body : String}
    (written : Written rt (listKey rt generation author limit parts) body) :
    ∃ decoded, decodePage rt (some body) = .ok decoded := by
  obtain ⟨page, rfl⟩ := written.page _ _ _ _ rfl
  exact ⟨_, decodePage_encodePage serializes page⟩

/-- What the lookup of a page finds is decoded, if it is what Redis may hold under the key. -/
theorem decodePage_found {key : String} {found : Option String} (holds : Found bodies key found s)
    (decodes : ∀ body, bodies key body → ∃ decoded, decodePage rt (some body) = .ok decoded) :
    decodePage rt found = .ok none ∨
      ∃ body page, found = some body ∧ decodePage rt found = .ok (some page) := by
  cases found with
  | none => exact Or.inl rfl
  | some body =>
      obtain ⟨decoded, read⟩ := decodes body (holds body rfl).permitted
      cases decoded with
      | none => exact Or.inl read
      | some page => exact Or.inr ⟨body, page, rfl, read⟩

/-- A list of articles ends with the page of an entry or as its load did, as long as no entry that
Redis may hold under the key of a page makes `_decode_page` raise. -/
theorem list_ends {limit : ℤ} {after : Option Position} {author : Option ℤ}
    (decodes : ∀ generation body, bodies (listKey service.rt generation author limit
      (cursorParts after)) body → ∃ decoded, decodePage service.rt (some body) = .ok decoded)
    (enough : service.rt.lockTimeoutSeconds ≤ service.rt.polls * δ) :
    Ends (ReadsFrom bodies δ) (service.listArticles limit after author) (fun outcome s' =>
      (∃ pair s₁, Runs (ReadsFrom bodies δ) (service.cache.getGenerations author) s (.ok pair) s₁ ∧
        s₁.events <+: s'.events ∧
        FromEntry bodies (listKey service.rt (pickGeneration author pair) author limit
          (cursorParts after)) (pageOf service.rt) outcome s') ∨
        LoadedFrom bodies δ (service.loadPage limit after author) outcome s') s := by
  unfold ArticleService.listArticles
  have counters : Ends (ReadsFrom bodies δ) (service.cache.getGenerations author)
      (fun outcome s₁ => ((∃ pair, outcome = .ok pair ∧ True) ∧ Later s s₁) ∧
        Runs (ReadsFrom bodies δ) (service.cache.getGenerations author) s outcome s₁) s :=
    (gives_getGenerations service.cache author).runs
  apply Ends.bind counters
  · rintro pair s₁ ⟨-, run⟩
    have served : ∀ (body : String) (page : Page) (s₂ : Seen), Later s₁ s₂ →
        Answered bodies (.get (listKey service.rt (pickGeneration author pair) author limit
          (cursorParts after))) (some body) s₂ →
        decodePage service.rt (some body) = .ok (some page) →
        FromEntry bodies (listKey service.rt (pickGeneration author pair) author limit
          (cursorParts after)) (pageOf service.rt) (.ok page) s₂ := by
      intro body page s₂ later answered decoded
      refine ⟨body, page, answered, ?_, rfl⟩
      rw [pageOf, decoded]
      rfl
    apply (gives_fetch service.cache _ _).bind
    intro body s₂ later found
    rcases decodePage_found found (decodes _) with decoded | ⟨text, page, rfl, decoded⟩
    · rw [decoded]
      apply (gives_acquireLock service.cache _ _).bind
      intro won s₃ later' _
      apply (gives_waitUnlessWon service won _ enough).bind
      intro waited s₄ later'' found
      rcases decodePage_found found (decodes _) with decoded | ⟨text, page, rfl, decoded⟩
      · rw [decoded]
        have shape : ∀ key, service.loadAndStorePage key limit after author =
            (service.loadPage limit after author).bind fun page =>
              ((service.listTtlJittered).bind fun ttl =>
                service.cache.setListPage key (encodePage service.rt page) ttl).bind
                  fun _ => .ret page := by
          intro key
          simp only [ArticleService.loadAndStorePage, bind_eq, bind_assoc]
          rfl
        simp only [shape]
        apply Ends.mono (ends_load (loadPage_asks service limit after author) _ _)
        · exact fun _ _ loaded => Or.inr loaded
        · intro page s
          apply (gives_jitteredTtl _ _).then
          intro ttl s' _ _
          exact gives_effect service.cache .set _
        · intro s
          exact gives_releaseIfWon service won _
      · rw [decoded]
        have all := (later.trans later').trans later''
        exact Ends.ret (Or.inl ⟨pair, s₁, run, all.events,
          served text page s₄ all (found text rfl) decoded⟩)
    · rw [decoded]
      exact Ends.ret (Or.inl ⟨pair, s₁, run, later.events,
        served text page s₂ later (found text rfl) decoded⟩)
  · rintro error s₁ ⟨⟨⟨_, ⟨⟩, -⟩, -⟩, -⟩

/-- Whatever Redis answers to a read of an article or of a page, and whatever its breaker says,
the read comes to an end: with what an entry under its own key holds, or as its own load from
the database ended.  The polls that a run is given have to last for the lock's timeout. -/
theorem reads_fail_open (serializes : service.rt.Serializes) (δ : ℚ)
    (enough : service.rt.lockTimeoutSeconds ≤ service.rt.polls * δ) (now : ℚ) :
    (∀ articleId, Ends (Reads service.rt δ) (service.get articleId) (fun outcome s =>
      FromCache service.rt (articleKey articleId) service.rt.articleValidateJson outcome s ∨
        FromLoad service.rt δ (service.loadOut articleId) outcome s) ⟨[], now⟩) ∧
    ∀ limit after author, Ends (Reads service.rt δ) (service.listArticles limit after author)
      (fun outcome s =>
        (∃ pair s₁, Runs (Reads service.rt δ) (service.cache.getGenerations author) ⟨[], now⟩
            (.ok pair) s₁ ∧ s₁.events <+: s.events ∧
          FromCache service.rt (listKey service.rt (pickGeneration author pair) author limit
            (cursorParts after)) (pageOf service.rt) outcome s) ∨
          FromLoad service.rt δ (service.loadPage limit after author) outcome s) ⟨[], now⟩ :=
  ⟨fun articleId => get_fails_open service articleId enough,
    fun _ _ _ => list_ends service (fun _ _ written => decodePage_written serializes written) enough⟩

end

/-! ## Redis is down -/

def patientRuntime : Runtime := { defaultRuntime fun _ => "" with polls := 100 }

def storedArticle : ArticleRow := ⟨7, 1, "title", "body", epoch, epoch, none⟩

/-- MySQL has the article; no command reaches Redis. -/
def replyDown (s : Seen) : (op : Op) → Option op.Reply
  | .redis _ => some (.error .redisConnectionError)
  | .mysql (.selectArticle articleId) => some (.ok (some articleId))
  | .articleAttributes _ => some (.ok storedArticle)
  | .cacheDegraded => some (s.events.any fun event => event.1 == .degradeCache)
  | .degradeCache => some ()
  | .breakerAllow _ => some true
  | .breakerSuccess _ => some ()
  | .breakerFailure _ => some ()
  | .observe _ => some ()
  | _ => none

def answerDown (op : Op) (s : Seen) : Option (op.Reply × Seen) :=
  (replyDown s op).map fun reply => (reply, ⟨s.events ++ [⟨op, reply⟩], s.now⟩)

theorem answerDown_sound (op : Op) (s : Seen) (reply : op.Reply) (s' : Seen)
    (answer : answerDown op s = some (reply, s')) :
    Reads patientRuntime (1 / 50) op s reply s' := by
  obtain ⟨reply, replied, ⟨⟩⟩ := Option.map_eq_some_iff.mp answer
  have answered : op.Permitted (Written patientRuntime) reply ∧
      op.Ticks (1 / 50) reply s.now s.now := by
    cases op with
    | redis command =>
        obtain rfl := Option.some.inj replied
        exact ⟨by cases command <;> rfl, trivial⟩
    | sleep seconds => cases replied
    | loopTime => cases replied
    | _ => exact ⟨trivial, trivial⟩
  exact ⟨answered.1, rfl, le_rfl, answered.2⟩

theorem reads_fail_open_redis_down :
    ∃ outcome s, Runs (Reads patientRuntime (1 / 50))
        (ArticleService.get ⟨patientRuntime, ⟨true⟩, true⟩ 7) ⟨[], 0⟩ outcome s ∧
      outcome.toOption = some storedArticle.out ∧
      (FromCache patientRuntime (articleKey 7) patientRuntime.articleValidateJson outcome s ∨
        FromLoad patientRuntime (1 / 50) (ArticleService.loadOut ⟨patientRuntime, ⟨true⟩, true⟩ 7)
          outcome s) := by
  obtain ⟨outcome, s, run, read⟩ := exists_runs answerDown_sound
    (ArticleService.get ⟨patientRuntime, ⟨true⟩, true⟩ 7) ⟨[], 0⟩
    (fun ended => ended.1.toOption == some storedArticle.out) (by decide +kernel)
  have serializes : patientRuntime.Serializes :=
    (defaultRuntime_serializes fun _ => "").transfer rfl rfl rfl rfl rfl rfl
  have ends := (reads_fail_open ⟨patientRuntime, ⟨true⟩, true⟩ serializes (1 / 50)
    (by decide +kernel) 0).1 7
  exact ⟨outcome, s, run, by simpa using read, ends.of_runs run⟩

end ContentPlatform
