import ContentPlatform.Api.Articles
import ContentPlatform.World.Reader
import ContentPlatform.World.Returned

/-!
# The concurrency token survives every path

The text of `updated_at` that a client gets names the version that its answer was made of,
whether that was a row or an entry of the cache, and `If-Match` reads it back.
-/

set_option autoImplicit false

namespace ContentPlatform

open Program Py Prog Text

/-- An article is dumped with the texts of `isoformat`, and a body with these fields is validated
to it. -/
structure Runtime.ReadsArticles (rt : Runtime) : Prop where
  dump : ∀ out, rt.jsonLoads (rt.articleDumpJson out) = .ok (.obj out.fields)
  validate : ∀ body fields out, rt.jsonLoads body = .ok (.obj fields) →
    (∀ field ∈ ArticleOut.fields out, lookupField fields field.1 = some field.2) →
    rt.articleValidateJson body = some out
  iso : ∀ t, rt.fromIsoformat (isoformat t) = some t

theorem Runtime.ReadsArticles.round_trip {rt : Runtime} (reads : rt.ReadsArticles)
    (out : ArticleOut) : rt.articleValidateJson (rt.articleDumpJson out) = some out :=
  reads.validate _ _ out (reads.dump out) (lookup_article_fields out)

/-! ## What one request observes -/

/-- The cache holds under the key of an article what was dumped of one of its versions. -/
def Op.Honest (rt : Runtime) : (op : Op) → op.Reply → Prop
  | .redis (.get key), .ok (some body) =>
      ∀ id, key = articleKey id → ∃ row : ArticleRow, body = rt.articleDumpJson row.out
  | _, _ => True

/-- Everything else is answered in any way. -/
structure Observes (rt : Runtime) (op : Op) (trace : List Event) (reply : op.Reply)
    (trace' : List Event) : Prop where
  honest : op.Honest rt reply
  events : trace' = trace ++ [⟨op, reply⟩]

/-- A version that was read, as a row or from the cache. -/
inductive Observed (rt : Runtime) (trace : List Event) (row : ArticleRow) : Prop where
  | loaded (id : ℤ) (seen : ⟨.articleAttributes id, .ok row⟩ ∈ trace)
  | cached (id : ℤ)
      (seen : ⟨.redis (.get (articleKey id)), .ok (some (rt.articleDumpJson row.out))⟩ ∈ trace)

theorem Observed.later {rt : Runtime} {trace trace' : List Event} {row : ArticleRow}
    (observed : Observed rt trace row) (later : trace <+: trace') : Observed rt trace' row := by
  cases observed with
  | loaded id seen => exact .loaded id (later.subset seen)
  | cached id seen => exact .cached id (later.subset seen)

section
variable {rt : Runtime} {trace trace' : List Event} {α : Type}

theorem Observes.seen {op : Op} {reply : op.Reply} (step : Observes rt op trace reply trace') :
    ⟨op, reply⟩ ∈ trace' := by
  rw [step.events]
  exact List.mem_append_right _ (List.mem_singleton.mpr rfl)

instance : Evolves (Observes rt) List.IsPrefix where
  refl _ := List.prefix_rfl
  trans first second := first.trans second
  step step := ⟨_, step.events.symm⟩

/-- What is said of a value that one request returns. -/
abbrev Tells (rt : Runtime) (p : Py α) (Q : α → List Event → Prop) (trace : List Event) : Prop :=
  Yields (Observes rt) List.IsPrefix p Q trace

/-! ## A read through the cache -/

def FoundVersion (rt : Runtime) (found : Option String) (trace : List Event) : Prop :=
  ∀ body, found = some body →
    ∃ row : ArticleRow, body = rt.articleDumpJson row.out ∧ Observed rt trace row

theorem FoundVersion.later {found : Option String} (holds : FoundVersion rt found trace)
    (later : trace <+: trace') : FoundVersion rt found trace' := by
  intro body same
  obtain ⟨row, dumped, observed⟩ := holds body same
  exact ⟨row, dumped, observed.later later⟩

theorem yields_get (id : ℤ) : Tells rt (redis (.get (articleKey id))) (FoundVersion rt) trace := by
  apply Yields.call
  intro reply trace' step
  cases reply with
  | error error => exact Yields.raise error
  | ok found =>
      apply Yields.ret
      rintro body rfl
      obtain ⟨row, rfl⟩ := step.honest id rfl
      exact ⟨row, rfl, .cached id step.seen⟩

theorem yields_found (id : ℤ) :
    Tells rt (ArticleCache.answered .get (redis (.get (articleKey id))))
      (fun result trace' => ∀ found, result = some found → FoundVersion rt found trace') trace :=
  yields_answered (yields_get id) fun _ _ _ later holds => holds.later later

theorem FoundVersion.none : FoundVersion rt none trace := by
  rintro body ⟨⟩

theorem yields_peek (cache : ArticleCache) (id : ℤ) :
    Tells rt (cache.peek (articleKey id)) (FoundVersion rt) trace := by
  apply Yields.skip
  intro live trace₁ _
  cases live with
  | false => exact Yields.ret FoundVersion.none
  | true =>
      apply (yields_found id).bind
      intro result trace₂ _ holds
      cases result with
      | none => exact Yields.ret FoundVersion.none
      | some found => exact Yields.ret (holds found rfl)

theorem yields_fetch (cache : ArticleCache) (entity : CacheEntity) (id : ℤ) :
    Tells rt (cache.fetch (articleKey id) entity) (FoundVersion rt) trace := by
  apply Yields.skip
  intro live trace₁ _
  cases live with
  | false => exact Yields.ret FoundVersion.none
  | true =>
      apply (yields_found id).bind
      intro result trace₂ _ holds
      rcases result with _ | _ | body
      · exact Yields.ret FoundVersion.none
      · apply Yields.skip
        intro _ _ _
        exact Yields.ret FoundVersion.none
      · apply Yields.skip
        intro _ trace₃ later
        exact Yields.ret ((holds _ rfl).later later)

variable (service : ArticleService)

theorem yields_pollUntil (id : ℤ) (deadline : ℚ) (polls : ℕ) :
    Tells rt (service.pollUntil (articleKey id) deadline polls) (FoundVersion rt) trace := by
  induction polls generalizing trace with
  | zero =>
      rw [ArticleService.pollUntil]
      apply Yields.skip
      intro now _ _
      split
      · exact Yields.call fun never => never.elim
      · exact Yields.ret FoundVersion.none
  | succ polls ih =>
      rw [ArticleService.pollUntil]
      apply Yields.skip
      intro now _ _
      split
      · apply Yields.skip
        intro _ _ _
        apply (yields_peek service.cache id).bind
        intro found _ _ holds
        cases found with
        | none => exact ih
        | some body => exact Yields.ret holds
      · exact Yields.ret FoundVersion.none

theorem yields_waitUnlessWon (won : Bool) (id : ℤ) :
    Tells rt (service.waitUnlessWon won (articleKey id)) (FoundVersion rt) trace := by
  cases won with
  | true => exact Yields.ret FoundVersion.none
  | false =>
      apply Yields.skip
      intro now _ _
      exact yields_pollUntil service id _ _

/-! ## The version of an answer -/

def MadeOf (rt : Runtime) (out : ArticleOut) (trace : List Event) : Prop :=
  ∃ row : ArticleRow, out = row.out ∧ Observed rt trace row

theorem MadeOf.later {out : ArticleOut} (made : MadeOf rt out trace) (later : trace <+: trace') :
    MadeOf rt out trace' := by
  obtain ⟨row, same, observed⟩ := made
  exact ⟨row, same, observed.later later⟩

theorem yields_row (id : ℤ) :
    Tells rt (articleAttributes id) (fun row trace' => MadeOf rt row.out trace') trace := by
  apply Yields.call
  intro reply trace' step
  cases reply with
  | error error => exact Yields.raise error
  | ok row => exact Yields.ret ⟨row, rfl, .loaded id step.seen⟩

theorem FoundVersion.made (reads : rt.ReadsArticles) {found : Option String} {out : ArticleOut}
    (holds : FoundVersion rt found trace)
    (decoded : decodeArticle rt found = some out) : MadeOf rt out trace := by
  cases found with
  | none => cases decoded
  | some body =>
      obtain ⟨row, rfl, observed⟩ := holds body rfl
      have same : some row.out = some out := (reads.round_trip row.out).symm.trans decoded
      exact ⟨row, (Option.some.inj same).symm, observed⟩

theorem yields_loadAndStore (id : ℤ) :
    Tells rt (service.loadAndStore id) (MadeOf rt) trace := by
  apply Yields.skip
  intro article _ _
  apply (yields_row article).bind
  intro row _ _ made
  apply Yields.skip
  intro ttl _ later
  apply Yields.skip
  intro _ _ later'
  exact Yields.ret (made.later (later.trans later'))

theorem yields_read (reads : service.rt.ReadsArticles) (id : ℤ) :
    Tells service.rt (service.get id) (MadeOf service.rt) trace := by
  apply (yields_fetch service.cache .article id).bind
  intro found trace₁ _ holds
  split
  · rename_i cached decoded
    exact Yields.ret (holds.made reads decoded)
  apply Yields.skip
  intro won trace₂ _
  apply (yields_waitUnlessWon service won id).bind
  intro waited trace₃ _ holds'
  split
  · rename_i out decoded
    exact Yields.ret (holds'.made reads decoded)
  exact (yields_loadAndStore service id).tryFinally fun _ _ _ later made => made.later later

theorem yields_create (actor : ℤ) (title body : String) :
    Tells rt (service.create actor title body) (MadeOf rt) trace := by
  apply Yields.skip
  intro _ _ _
  apply Yields.skip
  intro user _ _
  apply Yields.skip
  intro article _ _
  apply Yields.skip
  intro user' _ _
  apply Yields.skip
  intro _ _ _
  apply (yields_row article).bind
  intro row _ _ made
  exact Yields.ret made

theorem yields_update (actor id : ℤ) (title body : String) (expected : DateTime) :
    Tells rt (service.update actor id title body expected) (MadeOf rt) trace := by
  apply Yields.skip
  intro article _ _
  apply Yields.skip
  intro _ _ _
  apply Yields.skip
  intro row _ _
  apply Yields.skip
  intro rowcount _ _
  split
  · apply Yields.skip
    intro found _ _
    cases found with
    | none => exact Yields.raise _
    | some _ => exact Yields.raise _
  · apply Yields.skip
    intro _ _ _
    apply Yields.skip
    intro again _ _
    apply (yields_row again).bind
    intro row' _ _ made
    exact Yields.ret made

def AnsweredWith (rt : Runtime) (response : Response) (trace : List Event) : Prop :=
  ∀ out, response = .article out → MadeOf rt out trace

theorem AnsweredWith.of_other {response : Response} (other : ∀ out, response ≠ .article out) :
    AnsweredWith rt response trace :=
  fun out same => absurd same (other out)

theorem MadeOf.answered {out : ArticleOut} (made : MadeOf rt out trace) :
    AnsweredWith rt (.article out) trace := by
  rintro _ ⟨⟩
  exact made

theorem yields_handler (app : App) (reads : app.rt.ReadsArticles) (request : Request) :
    Tells app.rt (app.handler request) (AnsweredWith app.rt) trace := by
  cases request with
  | create principal title body =>
      apply Yields.skip
      intro actor _ _
      apply (yields_create app.articles actor title body).bind
      intro out _ _ made
      exact Yields.ret made.answered
  | get id =>
      apply (yields_read app.articles reads id).bind
      intro out _ _ made
      exact Yields.ret made.answered
  | update principal id title body expected =>
      apply Yields.skip
      intro actor _ _
      apply (yields_update app.articles actor id title body expected).bind
      intro out _ _ made
      exact Yields.ret made.answered
  | list limit after author =>
      apply Yields.skip
      intro page _ _
      exact Yields.ret (AnsweredWith.of_other fun _ => by simp)
  | delete principal id expected =>
      apply Yields.skip
      intro actor _ _
      apply Yields.skip
      intro _ _ _
      exact Yields.ret (AnsweredWith.of_other fun _ => by simp)
  | register email password =>
      apply Yields.skip
      intro user _ _
      apply Yields.skip
      intro row _ _
      exact Yields.ret (AnsweredWith.of_other fun _ => by simp)
  | login email password =>
      apply Yields.skip
      intro token _ _
      exact Yields.ret (AnsweredWith.of_other fun _ => by simp)

theorem yields_serve (app : App) (reads : app.rt.ReadsArticles) (request : Request) :
    Tells app.rt (app.serve request) (AnsweredWith app.rt) trace := by
  have stable : ∀ response trace trace', trace <+: trace' → AnsweredWith app.rt response trace →
      AnsweredWith app.rt response trace' := by
    intro response trace trace' later answered out same
    exact (answered out same).later later
  apply yields_getSession (yields_handler app reads request)
  · intro response trace trace' step
    exact stable response trace trace' ⟨_, step.events.symm⟩
  · exact stable

end

/-! ## The header -/

theorem digitChar_isDigit : ∀ n < 10, (Nat.digitChar n).isDigit = true := by decide

theorem fixedDigits_isDigit (width n : ℕ) : ∀ c ∈ fixedDigits width n, c.isDigit = true := by
  induction width generalizing n with
  | zero =>
      intro c member
      cases member
  | succ width ih =>
      intro c member
      rcases List.mem_append.mp member with front | last
      · exact ih _ c front
      · rw [List.mem_singleton.mp last]
        exact digitChar_isDigit _ (Nat.mod_lt n (by decide))

theorem isoChars_chars (t : DateTime) :
    ∀ c ∈ isoChars t, c.isDigit = true ∨ c = '-' ∨ c = 'T' ∨ c = ':' ∨ c = '.' := by
  intro c member
  have digits : ∀ width n, c ∈ fixedDigits width n → c.isDigit = true :=
    fun width n => fixedDigits_isDigit width n c
  simp only [isoChars, List.mem_append, List.mem_cons] at member
  split at member
  · grind
  · grind

theorem isoChars_plain (t : DateTime) :
    ∀ c ∈ isoChars t, isSpace c = false ∧ isQuote c = false := by
  intro c member
  rcases isoChars_chars t c member with digit | rfl | rfl | rfl | rfl
  · refine ⟨isSpace_of_isDigit c digit, ?_⟩
    have other : c ≠ '"' := by
      rintro rfl
      exact absurd digit (by decide)
    simpa [isQuote] using other
  all_goals decide

/-- A header that gives a token back, bare or in quotes, with whitespace outside them. -/
structure GivesBack (token header : String) : Prop where
  shape : ∃ before opening closing after : List Char,
    (∀ c ∈ before ++ after, isSpace c = true) ∧ (∀ c ∈ opening ++ closing, isQuote c = true) ∧
      header.toList = before ++ (opening ++ token.toList ++ closing) ++ after

theorem parseIfMatch_isoformat {rt : Runtime} (iso : ∀ t, rt.fromIsoformat (isoformat t) = some t)
    {t : DateTime} {header : String} (given : GivesBack (isoformat t) header) :
    parseIfMatch rt (some header) = .ok t := by
  obtain ⟨before, opening, closing, after, spaces, quotes, text⟩ := given.shape
  have token : (isoformat t).toList = isoChars t := String.toList_ofList
  rw [token] at text
  have inner : ∀ c ∈ opening ++ isoChars t ++ closing, isSpace c = false := by
    intro c member
    have quote : c ∈ opening ++ closing → isSpace c = false := by
      intro among
      have same : c = '"' := by simpa [isQuote] using quotes c among
      rw [same]
      decide
    rcases List.mem_append.mp member with front | back
    · rcases List.mem_append.mp front with opens | inside
      · exact quote (List.mem_append_left _ opens)
      · exact (isoChars_plain t c inside).1
    · exact quote (List.mem_append_right _ back)
  have stripped : stripOf isSpace header.toList = opening ++ isoChars t ++ closing := by
    rw [text]
    exact stripOf_surrounded (fun c member => spaces c (List.mem_append_left _ member)) inner
      fun c member => spaces c (List.mem_append_right _ member)
  have bare : stripOf isQuote (opening ++ isoChars t ++ closing) = isoChars t :=
    stripOf_surrounded (fun c member => quotes c (List.mem_append_left _ member))
      (fun c member => (isoChars_plain t c member).2)
      fun c member => quotes c (List.mem_append_right _ member)
  have read : rt.fromIsoformat (String.ofList (isoChars t)) = some t := iso t
  simp only [parseIfMatch, stripped, bare, read]

/-! ## The compare-and-set -/

def Statement.comparedWith : Statement → Option DateTime
  | .updateArticle _ expected _ _ => some expected
  | .softDeleteArticle _ expected _ => some expected
  | _ => none

/-- Every compare-and-set that is sent receives this token. -/
def Compares (expected : DateTime) (op : Op) : Prop :=
  ∀ statement token, op = .mysql statement → statement.comparedWith = some token →
    token = expected

theorem compares_of_footprint {expected : DateTime} {commands : RedisCommand → Prop} {queues : Prop}
    {op : Op} (footprint : Footprint (fun statement => ∀ token,
      statement.comparedWith = some token → token = expected) commands queues op) :
    Compares expected op := by
  rintro statement token rfl compared
  exact footprint token compared

theorem compares_getSession {cache : ArticleCache} {handler : Py Response} {expected : DateTime}
    (first : handler.Sends (Compares expected)) :
    (getSession cache handler).Sends (Compares expected) := by
  have silent : ∀ op : Op, (∀ statement, op ≠ .mysql statement) → Compares expected op :=
    fun op other statement _ same _ => absurd same (other statement)
  have locals : ∀ op : Op, op.isBookkeeping = true → Compares expected op := by
    rintro op isLocal statement token rfl
    cases isLocal
  have touch : ∀ op : Op, op.asksCache = true → Compares expected op := by
    rintro op asks statement token rfl
    cases asks
  apply getSession_sends locals cache touch
  · exact fun id => silent _ fun _ => by simp
  · exact fun author => silent _ fun _ => by simp
  · exact first
  · exact silent _ fun _ => by simp
  · exact silent _ fun _ => by simp
  · exact silent _ fun _ => by simp

theorem unconditional {statement : Statement} (other : statement.comparedWith = none)
    (expected : DateTime) : ∀ token, statement.comparedWith = some token → token = expected := by
  intro token compared
  rw [other] at compared
  cases compared

theorem compared {statement : Statement} {expected : DateTime}
    (own : statement.comparedWith = some expected) :
    ∀ token, statement.comparedWith = some token → token = expected := by
  intro token compared
  exact Option.some.inj (compared.symm.trans own)

theorem update_compares (app : App) (principal : Option ℤ) (id : ℤ) (title body : String)
    (expected : DateTime) :
    (app.serve (.update principal id title body expected)).Sends (Compares expected) := by
  apply compares_getSession
  have sends : (app.handler (.update principal id title body expected)).Sends (Footprint
      (fun statement => ∀ token, statement.comparedWith = some token → token = expected)
      (fun _ => True) True) := by
    apply Sends.bind (getCurrentUser_sends app principal fun _ => unconditional rfl _)
    intro actor
    apply Sends.bind (update_sends app.articles (unconditional rfl _) (compared rfl) trivial actor)
    intro _
    trivial
  exact sends.mono fun _ => compares_of_footprint

theorem delete_compares (app : App) (principal : Option ℤ) (id : ℤ) (expected : DateTime) :
    (app.serve (.delete principal id expected)).Sends (Compares expected) := by
  apply compares_getSession
  have sends : (app.handler (.delete principal id expected)).Sends (Footprint
      (fun statement => ∀ token, statement.comparedWith = some token → token = expected)
      (fun _ => True) True) := by
    apply Sends.bind (getCurrentUser_sends app principal fun _ => unconditional rfl _)
    intro actor
    apply Sends.bind (delete_sends app.articles (unconditional rfl _) (fun _ => compared rfl)
      trivial actor)
    intro _
    trivial
  exact sends.mono fun _ => compares_of_footprint

/-- The header is read as this version, and both conditional writes compare with it. -/
structure Names (app : App) (header : String) (version : DateTime) : Prop where
  parsed : parseIfMatch app.rt (some header) = .ok version
  update : ∀ principal id title body, app.updateArticle principal id title body (some header) =
    app.serve (.update principal id title body version)
  delete : ∀ principal id, app.deleteArticle principal id (some header) =
    app.serve (.delete principal id version)
  updateSends : ∀ principal id title body,
    (app.updateArticle principal id title body (some header)).Sends (Compares version)
  deleteSends : ∀ principal id,
    (app.deleteArticle principal id (some header)).Sends (Compares version)

theorem Names.of_parsed {app : App} {header : String} {version : DateTime}
    (parsed : parseIfMatch app.rt (some header) = .ok version) : Names app header version := by
  have updates := app.updateArticle_of_parsed parsed
  have deletes := app.deleteArticle_of_parsed parsed
  refine ⟨parsed, updates, deletes, fun principal id title body => ?_, fun principal id => ?_⟩
  · rw [updates]
    exact update_compares app principal id title body version
  · rw [deletes]
    exact delete_compares app principal id version

/-- Whatever version of an article a client is answered with, the token in the answer, given back
in a header, is the `updated_at` of that version for the compare-and-set. -/
theorem token_survives (app : App) (reads : app.rt.ReadsArticles) (request : Request)
    {out : ArticleOut} {trace : List Event}
    (run : Runs (Observes app.rt) (app.serve request) [] (.ok (.article out)) trace) :
    ∃ row : ArticleRow, out = row.out ∧ Observed app.rt trace row ∧
      ∃ token, updatedAtText out.response = some token ∧
        ∀ header, GivesBack token header → Names app header row.updatedAt := by
  have yields : Tells app.rt (app.serve request) (AnsweredWith app.rt) [] :=
    yields_serve app reads request
  obtain ⟨row, rfl, observed⟩ := yields.of_runs run out rfl
  refine ⟨row, rfl, observed, isoformat row.updatedAt, updatedAtText_response row.out, ?_⟩
  intro header given
  exact Names.of_parsed (parseIfMatch_isoformat reads.iso given)

/-! ## An answer from the cache -/

theorem defaultRuntime_readsArticles (sha256Hex : String → String) :
    (defaultRuntime sha256Hex).ReadsArticles := by
  constructor
  · intro out
    simp [defaultRuntime, ArticleOut.dumpJson, loads_dumpsCompact _ (plain_article out)]
  · intro body fields out read each
    have loaded : loads body = some (.obj fields) := by
      cases same : loads body with
      | none => simp [defaultRuntime, same] at read
      | some value => simpa [defaultRuntime, same] using read
    exact ArticleOut.validateJson_of_lookup loaded each
  · exact fromIsoformat_isoformat

theorem runs_call {rt : Runtime} {α : Type} {outcome : Except Exc α} (op : Op)
    {next : op.Reply → Py α} {trace : List Event} (reply : op.Reply) (honest : op.Honest rt reply)
    (rest : ∃ trace', Runs (Observes rt) (next reply) (trace ++ [⟨op, reply⟩]) outcome trace') :
    ∃ trace', Runs (Observes rt) (.call op next) trace outcome trace' := by
  obtain ⟨trace', run⟩ := rest
  exact ⟨trace', .call ⟨honest, rfl⟩ run⟩

theorem answered_from_cache (app : App) (on : app.cacheEnabled = true)
    (reads : app.rt.ReadsArticles) (row : ArticleRow) : ∃ trace,
    Runs (Observes app.rt) (app.serve (.get row.id)) [] (.ok (.article row.out)) trace := by
  have honest : ∀ id, articleKey row.id = articleKey id →
      ∃ row' : ArticleRow, app.rt.articleDumpJson row.out = app.rt.articleDumpJson row'.out :=
    fun _ _ => ⟨row, rfl⟩
  have decoded : decodeArticle app.articles.rt (some (app.rt.articleDumpJson row.out)) =
      some row.out := reads.round_trip row.out
  have live : app.articles.cache.enabled = true := on
  unfold App.serve App.handler ArticleService.get ArticleCache.getArticle ArticleCache.fetch
    ArticleCache.live
  rw [if_pos live]
  apply runs_call .cacheDegraded false trivial
  apply runs_call (.breakerAllow .redis) true trivial
  apply runs_call (.redis (.get (articleKey row.id)))
    (.ok (some (app.rt.articleDumpJson row.out))) honest
  apply runs_call (.breakerSuccess .redis) () trivial
  apply runs_call (.observe (.cacheHit .article)) () trivial
  simp only [pure_eq, ret_cont, decoded]
  apply runs_call .commit (.ok ()) trivial
  apply runs_call .popAfterCommit [] trivial
  exact ⟨_, .ret _ _⟩

def cachingApp : App := ⟨defaultRuntime fun _ => "", true⟩

def wholeSecond : ArticleRow :=
  ⟨1, 1, "Title", "Text", epoch, ⟨1704164645000000, by decide⟩, none⟩

theorem token_survives_the_cache : ∃ trace,
    Runs (Observes cachingApp.rt) (cachingApp.serve (.get 1)) []
      (.ok (.article wholeSecond.out)) trace ∧
    Names cachingApp " \"2024-01-02T03:04:05\"\t" wholeSecond.updatedAt := by
  have reads : cachingApp.rt.ReadsArticles := defaultRuntime_readsArticles fun _ => ""
  obtain ⟨trace, run⟩ := answered_from_cache cachingApp rfl reads wholeSecond
  obtain ⟨row, same, -, token, text, names⟩ := token_survives cachingApp reads (.get 1) run
  have version : row.updatedAt = wholeSecond.updatedAt :=
    congrArg (fun out : ArticleOut => out.updatedAt) same.symm
  have written : token = "2024-01-02T03:04:05" := by
    rw [updatedAtText_response] at text
    rw [← Option.some.inj text]
    decide +kernel
  refine ⟨trace, run, ?_⟩
  rw [← version]
  apply names
  rw [written]
  exact ⟨[' '], ['"'], ['"'], ['\t'], by simp [isSpace], by simp [isQuote], rfl⟩

end ContentPlatform
