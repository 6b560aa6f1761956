import ContentPlatform.World.Announced
import ContentPlatform.World.Snapshots

/-!
# Bodies of articles

A body is stored by the request that has loaded it, which may be after the callback of a write that
has replaced it.  Where no request is as late as that, what is cached of an article has seen every
write whose callback has run.
-/

set_option autoImplicit false

namespace ContentPlatform

open Program Py Prog Protocol

def LiveSince (id : ℤ) (n : ℕ) (row : ArticleRow) (w : World) : Prop :=
  ∃ m ≤ w.db.version, n ≤ m ∧ (w.db.history m).find id = some row ∧ row.live = true

/-- What is cached of an article has seen the commits that its key was purged for. -/
def Current (rt : Runtime) (w : World) : Prop :=
  ∀ id entry, w.store.entries (articleKey id) = some entry →
    ∃ row, LiveSince id (w.store.purged (articleKey id)) row w ∧
      entry.value = rt.articleDumpJson row.out

/-- The committed state `m` has the article as some state has it that has seen the commits that its
key was purged for. -/
def UpToDate (id : ℤ) (m : ℕ) (w : World) : Prop :=
  ∃ k ≤ w.db.version, w.store.purged (articleKey id) ≤ k ∧
    (w.db.history k).find id = (w.db.history m).find id

/-- No request stores a body of an article that has been replaced by a commit that the key was
purged for. -/
def Setting.Timely (σ : Setting) : Prop :=
  ∀ w i id body ttl c m, σ.allow w i (.redis (.set (articleKey id) body ttl false)) c →
    (w.db.sessions i).loadedFrom = some m → UpToDate id m w

/-- Outside the requests, entries with an expiry disappear, and nothing is purged. -/
structure Fades (w w' : World) : Prop extends Shrinks w w' where
  purged : w'.store.purged = w.store.purged

theorem Expires.fades {w w' : World} (expires : Expires w w') : Fades w w' := by
  refine ⟨expires.shrinks, ?_⟩
  obtain ⟨key, entry, -, -, rfl⟩ := expires
  rfl

/-! ## Steps -/

section
variable {σ : Setting} {rt : Runtime} {i : Pid} {w w' : World} {op : Op} {reply : op.Reply}

theorem LiveSince.extends_ {id : ℤ} {n : ℕ} {row : ArticleRow} (live : LiveSince id n row w)
    (moved : Extends w.db w'.db) : LiveSince id n row w' := by
  obtain ⟨m, past, since, found, lives⟩ := live
  refine ⟨m, past.trans moved.version, since, ?_, lives⟩
  rw [moved.history m past]
  exact found

theorem LiveSince.le {id : ℤ} {n k : ℕ} {row : ArticleRow} (live : LiveSince id n row w)
    (earlier : k ≤ n) : LiveSince id k row w := by
  obtain ⟨m, past, since, found⟩ := live
  exact ⟨m, past, earlier.trans since, found⟩

theorem Current.of_entries (kept : Current rt w) (moved : Extends w.db w'.db)
    (entries : ∀ id entry, w'.store.entries (articleKey id) = some entry →
      w.store.entries (articleKey id) = some entry ∧
        w'.store.purged (articleKey id) = w.store.purged (articleKey id)) : Current rt w' := by
  intro id entry stored
  obtain ⟨before, purged⟩ := entries id entry stored
  obtain ⟨row, live, value⟩ := kept id entry before
  rw [purged]
  exact ⟨row, live.extends_ moved, value⟩

/-- What a request may store under the key of an article is current, if it is in time. -/
theorem MaySend.current {command : RedisCommand} (may : MaySend σ rt i w command)
    (kept : Current rt w) (timely : ∀ id body ttl m, command = .set (articleKey id) body ttl false →
      (w.db.sessions i).loadedFrom = some m → UpToDate id m w) :
    Current rt (w.redisStep i command).2 := by
  intro id entry stored
  rw [redisStep_store] at stored ⊢
  have same : (w.redisStep i command).2.db = w.db := World.redisStep_db w command
  have aside : ¬Redis.writes command (articleKey id) → ∃ row,
      LiveSince id ((w.store.step (w.provenance i) command).2.purged (articleKey id)) row
        (w.redisStep i command).2 ∧ entry.value = rt.articleDumpJson row.out := by
    intro aside
    rw [Redis.step_entries aside] at stored
    obtain ⟨row, live, value⟩ := kept id entry stored
    rw [Redis.step_purged aside]
    refine ⟨row, live.extends_ ?_, value⟩
    rw [same]
    exact Extends.refl _
  cases may with
  | get key => exact aside fun impossible => impossible
  | mget keys => exact aside fun impossible => impossible
  | page request past loaded split bound lasts =>
      exact aside (articleKey_ne_listKey id rt _ _ _ _)
  | lock key ttl => exact aside (lockKey_ne_articleKey key id).symm
  | unlock key => exact aside (lockKey_ne_articleKey key id).symm
  | count author => exact aside (articleKey_ne_counterKey id author)
  | forget other =>
      by_cases own : id = other
      · subst own
        rw [show (w.store.step (w.provenance i) (.delete (articleKey id))).2.entries (articleKey id) =
          none from Function.update_self ..] at stored
        cases stored
      · exact aside fun equal => own (articleKey_injective equal)
  | @article other ttl n row request past loaded found live lasts =>
      by_cases own : id = other
      · subst own
        obtain ⟨k, seen, purged, unchanged⟩ := timely id _ _ n rfl loaded
        rw [show (w.store.step (w.provenance i) (.set (articleKey id) (rt.articleDumpJson row.out)
          ttl false)).2 = w.store.setEntry (articleKey id)
            (some ⟨rt.articleDumpJson row.out, true, w.provenance i⟩) from rfl] at stored ⊢
        rw [Redis.setEntry_self] at stored
        obtain rfl := Option.some.inj stored
        refine ⟨row, ⟨k, ?_, purged, ?_, live⟩, rfl⟩
        · rw [same]
          exact seen
        · rw [same, unchanged]
          exact found
      · exact aside fun equal => own (articleKey_injective equal)

theorem Current.exec (kept : Current rt w) (timely : σ.Timely)
    (may : ∀ command, op = .redis command → MaySend σ rt i w command)
    (step : Exec σ.allow i op w reply w') : Current rt w' := by
  obtain ⟨c, allowed, ran⟩ := id step
  cases asks : op.asksRedis with
  | false =>
      apply kept.of_entries (exec_extends ran)
      intro id entry stored
      rw [World.exec_store asks ran] at stored ⊢
      exact ⟨stored, rfl⟩
  | true =>
      cases op with
      | redis command =>
          rcases World.redis_cases step with ⟨rfl, -⟩ | ⟨rfl, -⟩
          · apply (may command rfl).current kept
            rintro id body ttl m rfl loaded
            exact timely w i id body ttl c m allowed loaded
          · exact kept
      | _ => cases asks

theorem purged_exec (step : Exec σ.allow i op w reply w') (key : String) :
    w.store.purged key ≤ w'.store.purged key := by
  cases asks : op.asksRedis with
  | false =>
      obtain ⟨c, -, ran⟩ := step
      rw [World.exec_store asks ran]
  | true =>
      cases op with
      | redis command =>
          rcases World.redis_cases step with ⟨rfl, -⟩ | ⟨rfl, -⟩
          · exact Redis.purged_le (w.provenance i) command key
          · exact le_rfl
      | _ => cases asks

theorem Fades.current (fades : Fades w w') (kept : Current rt w) (moved : Extends w.db w'.db) :
    Current rt w' := by
  apply kept.of_entries moved
  intro id entry stored
  rw [fades.purged]
  rcases fades.entries (articleKey id) with same | ⟨gone, -⟩
  · rw [same] at stored
    exact ⟨stored, rfl⟩
  · rw [gone] at stored
    cases stored

end

/-! ## The protocol -/

theorem shrinks_of_fades {σ : Setting} (fades : ∀ w w', σ.env w w' → Fades w w') :
    ∀ w w', σ.env w w' → Shrinks w w' := fun w w' event => (fades w w' event).toShrinks

/-- The protocol of what requests store, where they store bodies in time. -/
def Setting.details (σ : Setting) (rt : Runtime) (timely : σ.Timely)
    (fades : ∀ w w', σ.env w w' → Fades w w') : Protocol Op Op.Reply World where
  exec := Exec σ.allow
  env := σ.env
  inv w := (σ.stores rt (shrinks_of_fades fades)).inv w ∧ Current rt w
  rely i w w' := (σ.stores rt (shrinks_of_fades fades)).rely i w w' ∧
    ∀ key, w.store.purged key ≤ w'.store.purged key
  pre := (σ.stores rt (shrinks_of_fades fades)).pre
  rely_refl i w := ⟨Protocol.rely_refl _ i w, fun _ => le_rfl⟩
  rely_trans first second := ⟨Protocol.rely_trans _ first.1 second.1,
    fun key => (first.2 key).trans (second.2 key)⟩
  step_inv kept owed step :=
    ⟨Protocol.step_inv _ kept.1 owed step, kept.2.exec timely owed.2 step⟩
  step_rely kept owed step other :=
    ⟨Protocol.step_rely _ kept.1 owed step other, purged_exec step⟩
  env_inv kept event := ⟨Protocol.env_inv _ kept.1 event,
    (fades _ _ event).current kept.2 ((σ.outside _ _ event).undisturbed 0).db⟩
  env_rely kept event := ⟨Protocol.env_rely _ kept.1 event,
    fun key => (congrFun (fades _ _ event).purged key).ge⟩

section
variable {σ : Setting} {rt : Runtime} {timely : σ.Timely}
  {fades : ∀ w w', σ.env w w' → Fades w w'} {i : Pid} {α : Type} {id : ℤ} {n : ℕ}

theorem Setting.details_refines :
    Refines (σ.details rt timely fades)
      (σ.stores rt (shrinks_of_fades fades)) :=
  ⟨fun step => step, fun kept => kept.1, fun moved => moved.1⟩

theorem Setting.details_rows : Refines (σ.details rt timely fades) σ.rows :=
  ⟨fun step => step, fun kept => kept.1.1, fun moved => moved.1.1⟩

theorem Setting.details_hosts : Hosts (σ.details rt timely fades) (Exec σ.allow) := by
  have stores : Hosts (σ.stores rt (shrinks_of_fades fades)) (Exec σ.allow) :=
    Setting.stores_hosts
  exact .of_world rfl stores.owed

/-- What a request does that keeps to what it may store, it does where bodies are in time. -/
theorem details_triple {A : World → Prop} {p : Py α} {B : Except Exc α → World → Prop}
    (triple : (σ.stores rt (shrinks_of_fades fades)).Triple i A p B) :
    (σ.details rt timely fades).Triple i A p B :=
  Triple.refine Setting.details_refines (sends_all p) (fun _ _ _ _ owed => owed) triple

theorem details_own (Q : Session → RequestState → Prop) :
    (σ.details rt timely fades).Stable i (Own i Q) :=
  fun _ _ _ holds moved _ => holds.undisturbed moved.1.1

/-- A program that is owed all it asks for keeps what each of its steps keeps. -/
theorem owed_keeps {B : World → Prop} {allowed : Op → Prop} {p : Py α}
    (stable : (σ.details rt timely fades).Stable i B) (owed : ∀ op, allowed op → Owed op)
    (step : ∀ op w reply w', allowed op → B w → Exec σ.allow i op w reply w' → B w')
    (sends : p.Sends allowed) : (σ.details rt timely fades).Triple i B p fun _ => B := by
  apply Triple.of_sends sends stable
  · intro op w may _ _
    have pre : (σ.stores rt (shrinks_of_fades fades)).pre i op w := (owed op may).pre w
    exact pre
  · exact fun op w reply w' may _ holds exec _ => step op w reply w' may holds exec

/-! ## A read of an article -/

def AnswersLive (id : ℤ) (n : ℕ) (out : ArticleOut) (w : World) : Prop :=
  ∃ row, out = row.out ∧ LiveSince id n row w

theorem AnswersLive.extends_ {out : ArticleOut} {w w' : World} (answers : AnswersLive id n out w)
    (moved : Extends w.db w'.db) : AnswersLive id n out w' := by
  obtain ⟨row, same, live⟩ := answers
  exact ⟨row, same, live.extends_ moved⟩

theorem answersLive_stable (out : ArticleOut) :
    (σ.details rt timely fades).Stable i (AnswersLive id n out) :=
  fun _ _ _ answers moved _ => answers.extends_ moved.1.1.db

structure ReadsSince (n : ℕ) (s : Session) (_ : RequestState) : Prop where
  loaded : ∀ m, s.loadedFrom = some m → n ≤ m
  view : ∀ m, (s.transaction.getD .new).view = some m → n ≤ m

def Recent (i : Pid) (n : ℕ) (w : World) : Prop := Own i (ReadsSince n) w ∧ n ≤ w.db.version

theorem recent_stable : (σ.details rt timely fades).Stable i (Recent i n) :=
  fun _ _ _ recent moved _ =>
    ⟨recent.1.undisturbed moved.1.1, recent.2.trans moved.1.1.db.version⟩

theorem Recent.viewed {w : World} (recent : Recent i n w) : n ≤ w.db.viewed i := by
  unfold Database.viewed
  cases view : (w.db.transaction i).view with
  | none => exact recent.2
  | some m => exact recent.1.view m view

theorem Recent.exec {op : Op} {reply : op.Reply} {w w' : World} (recent : Recent i n w)
    (step : Exec σ.allow i op w reply w') : Recent i n w' := by
  obtain ⟨c, -, step⟩ := step
  refine ⟨⟨fun m loaded => ?_, fun m view => ?_⟩, recent.2.trans (exec_extends step).version⟩
  · rcases World.exec_loadedFrom step with same | ⟨-, now⟩
    · exact recent.1.loaded m (same.symm.trans loaded)
    · obtain rfl := Option.some.inj (now.symm.trans loaded)
      exact recent.viewed
  · rcases World.exec_view step with same | gone | now
    · exact recent.1.view m (same.symm.trans view)
    · cases gone.symm.trans view
    · obtain rfl := Option.some.inj (now.symm.trans view)
      exact recent.viewed

def Seeking (i : Pid) (id : ℤ) (n : ℕ) (w : World) : Prop :=
  Own i (fun s r => Idle s ∧ r.degraded = false) w ∧ Recent i n w ∧
    n ≤ w.store.purged (articleKey id)

theorem seeking_stable : (σ.details rt timely fades).Stable i (Seeking i id n) :=
  fun w w' kept seeking moved kept' => ⟨seeking.1.undisturbed moved.1.1,
    recent_stable w w' kept seeking.2.1 moved kept', seeking.2.2.trans (moved.2 _)⟩

def StoredLive (rt : Runtime) (id : ℤ) (n : ℕ) (body : String) (w : World) : Prop :=
  ∃ row, body = rt.articleDumpJson row.out ∧ LiveSince id n row w

theorem storedLive_stable (body : String) :
    (σ.details rt timely fades).Stable i (StoredLive rt id n body) := by
  rintro w w' - ⟨row, same, live⟩ moved -
  exact ⟨row, same, live.extends_ moved.1.1.db⟩

theorem Seeking.redis {command : RedisCommand} {w : World} (seeking : Seeking i id n w)
    (other : ∀ keys, command ≠ .mget keys) (step : Exec σ.allow i (.redis command) w
      (w.redisStep i command).1 (w.redisStep i command).2) :
    Seeking i id n (w.redisStep i command).2 := by
  refine ⟨?_, seeking.2.1.exec step, seeking.2.2.trans (purged_exec step _)⟩
  rw [redisStep_of_not_mget other]
  exact seeking.1

/-- What is found under the key has seen the commit. -/
theorem asks_body (answers : Answers σ.allow) :
    Asks (σ.details rt timely fades) i (.redis (.get (articleKey id))) (Seeking i id n)
      (okOr (Hit (Seeking i id n) (StoredLive rt id n)) fun _ => False) := by
  refine ⟨fun w _ _ => ⟨trivial, ?_⟩, fun w reply w' kept seeking step _ => ?_⟩
  · rintro _ ⟨⟩
    exact .get _
  · obtain ⟨rfl, rfl⟩ := answers.exec step
    show Hit _ _ (w.store.value (articleKey id)) _
    cases found : w.store.entries (articleKey id) with
    | none =>
        rw [Redis.value, found]
        exact seeking.redis (fun _ impossible => by cases impossible) step
    | some entry =>
        obtain ⟨row, live, value⟩ := kept.2 id entry found
        rw [Redis.value, found]
        exact ⟨row, value, live.le seeking.2.2⟩

theorem asks_bodyLock (answers : Answers σ.allow) (key : String) (ttl : ℤ) :
    Asks (σ.details rt timely fades) i (.redis (.set (lockKey key) "1" ttl true))
      (Seeking i id n) (okOr (fun _ => Seeking i id n) fun _ => False) := by
  refine ⟨fun w _ _ => ⟨trivial, ?_⟩, fun w reply w' kept seeking step _ => ?_⟩
  · rintro _ ⟨⟩
    exact .lock key ttl
  · obtain ⟨rfl, rfl⟩ := answers.exec step
    have seeking' := seeking.redis (fun _ impossible => by cases impossible) step
    rw [redisStep_reply]
    simp only [Redis.step]
    split <;> exact seeking'

variable (service : ArticleService)

/-- The load of a read sees a state since the commit. -/
theorem loadAndStore_since (same : service.rt = rt) (request : σ.requests i = .get id) :
    (σ.details rt timely fades).Triple i (Seeking i id n) (service.loadAndStore id)
      (okOr (AnswersLive id n) fun _ => True) := by
  have loads : (σ.details rt timely fades).Triple i (Own i fun s _ => Idle s)
      (service.loadAndStore id)
      (okOr (fun out w => ∃ row, out = row.out ∧ LoadedRow i id row w) fun _ => True) :=
    details_triple (loadAndStore_triple service same request)
  have framed := Triple.frame (sends_all (service.loadAndStore id))
    (recent_stable (i := i) (n := n)) (fun op w reply w' _ _ recent step => recent.exec step) loads
  apply framed.mono
  · exact fun w _ seeking => ⟨seeking.1.1, seeking.2.1⟩
  · rintro (error | out) w kept ⟨loaded, recent⟩
    · trivial
    · obtain ⟨row, rfl, m, past, from_, found, live⟩ := loaded
      exact ⟨row, rfl, m, past, recent.1.loaded m from_, found, live⟩

/-- What lasts, the commands and the commit of a read keep. -/
theorem answer_keeps {B : World → Prop} {p : Py α}
    (extends_ : ∀ w w', B w → Extends w.db w'.db → B w') (sends : p.Sends Owed) :
    (σ.details rt timely fades).Triple i B p fun _ => B := by
  apply owed_keeps _ (fun _ owed => owed) _ sends
  · exact fun w w' _ holds moved _ => extends_ w w' holds moved.1.1.db
  · intro op w reply w' _ holds step
    obtain ⟨c, -, step⟩ := step
    exact extends_ w w' holds (exec_extends step)

theorem underLock_live {p : Py ArticleOut} {A : World → Prop}
    (inner : (σ.details rt timely fades).Triple i A p (okOr (AnswersLive id n) fun _ => True))
    (won : Bool) (key : String) :
    (σ.details rt timely fades).Triple i A (p.tryFinally (service.releaseIfWon won key))
      (okOr (AnswersLive id n) fun _ => True) := by
  have release : (service.releaseIfWon won key).Sends Owed :=
    releaseIfWon_sends owed_local owed_cache service (owed_redis (free_unlock key)) won
  apply Triple.tryFinally inner
  intro outcome
  cases outcome with
  | ok out =>
      apply (answer_keeps (fun _ _ answers moved => AnswersLive.extends_ answers moved)
        release).mono fun _ _ answers => answers
      intro ended w _ answers
      cases ended with
      | ok _ => exact ⟨answersLive_stable out, answers⟩
      | error error => exact ⟨fun _ _ _ _ _ _ => trivial, trivial⟩
  | error error =>
      apply (answer_keeps (B := fun _ => True) (fun _ _ _ _ => trivial) release).mono
        fun _ _ _ => trivial
      intro ended w _ _
      cases ended <;> exact ⟨fun _ _ _ _ _ _ => trivial, trivial⟩

/-- What a lookup finds is answered; where it finds nothing, the read goes on. -/
theorem decoded_live (serializes : rt.Serializes) {A : World → Prop} {rest : Py ArticleOut}
    (goesOn : (σ.details rt timely fades).Triple i A rest (okOr (AnswersLive id n) fun _ => True))
    (body : Option String) :
    (σ.details rt timely fades).Triple i (Hit A (StoredLive rt id n) body)
      (match decodeArticle rt body with
        | some out => .ret out
        | none => rest : Py ArticleOut) (okOr (AnswersLive id n) fun _ => True) := by
  cases body with
  | none => exact goesOn
  | some body =>
      rintro w kept ⟨row, rfl, live⟩
      rw [show decodeArticle rt (some (rt.articleDumpJson row.out)) = some row.out from
        serializes.article row.out]
      have answer : AnswersLive id n row.out w := ⟨row, rfl, live⟩
      exact Triple.ret (answersLive_stable row.out) (fun _ _ answers => answers) w kept answer

/-- A read answers with a row that is live in a committed state since the commit. -/
theorem get_since (answers : Answers σ.allow) (same : service.rt = rt)
    (serializes : rt.Serializes) (request : σ.requests i = .get id) :
    (σ.details rt timely fades).Triple i (Seeking i id n) (service.get id)
      (okOr (AnswersLive id n) fun _ => True) := by
  subst same
  have undegraded : ∀ w, Seeking i id n w → Undegraded i w := fun _ seeking => seeking.1.2
  unfold ArticleService.get
  apply Triple.bind (fetch_triple Setting.details_hosts answers service.cache undegraded _ _
    seeking_stable storedLive_stable fun _ => asks_body answers)
  · intro body
    apply decoded_live serializes
    apply Triple.bind (acquireLock_triple Setting.details_hosts answers service.cache undegraded _ _
      seeking_stable fun _ => asks_bodyLock answers _ _)
    · intro won
      apply Triple.bind (waitUnlessWon_triple Setting.details_hosts answers undegraded service won _
        seeking_stable storedLive_stable (fun _ => ⟨trivial, fun _ same => by cases same⟩)
        fun _ => asks_body answers)
      · intro waited
        apply decoded_live serializes
        exact underLock_live service (loadAndStore_since service rfl request) won _
      · exact fun _ _ _ _ => trivial
    · exact fun _ _ _ impossible => impossible.elim
  · exact fun _ _ _ impossible => impossible.elim

/-! ### The whole request -/

/-- How a read ends that starts when the key of its article is purged for commit `n`. -/
def EndsLive (id : ℤ) (n : ℕ) : Except Exc Response → World → Prop
  | .ok (.article out), w => AnswersLive id n out w
  | _, _ => True

theorem EndsLive.extends_ {outcome : Except Exc Response} {w w' : World}
    (ended : EndsLive id n outcome w) (moved : Extends w.db w'.db) : EndsLive id n outcome w' := by
  cases outcome with
  | error error => trivial
  | ok response =>
      cases response with
      | article out => exact AnswersLive.extends_ ended moved
      | _ => trivial

theorem endsLive_stable (outcome : Except Exc Response) :
    (σ.details rt timely fades).Stable i (EndsLive id n outcome) :=
  fun _ _ _ ended moved _ => ended.extends_ moved.1.1.db

theorem serve_live (answers : Answers σ.allow) (app : App) (same : app.rt = rt)
    (serializes : rt.Serializes) (request : σ.requests i = .get id) :
    (σ.details rt timely fades).Triple i (Seeking i id n) (app.serve (σ.requests i))
      (EndsLive id n) := by
  have keeps : ∀ {α : Type} {p : Py α} (outcome : Except Exc Response), p.Sends Owed →
      (σ.details rt timely fades).Triple i (EndsLive id n outcome) p
        fun _ => EndsLive id n outcome :=
    fun outcome sends => answer_keeps (fun _ _ ended moved => ended.extends_ moved) sends
  have found : (σ.details rt timely fades).Triple i (Seeking i id n) (app.handler (.get id))
      (EndsLive id n) := by
    apply Triple.bind (get_since app.articles answers same serializes request)
    · exact fun out => Triple.ret (answersLive_stable out) fun _ _ answers => answers
    · exact fun _ _ _ _ => trivial
  rw [request]
  apply getSession_triple (C := EndsLive id n) app.cache endsLive_stable
  · apply Triple.bind found
    · intro response
      apply Triple.bind (keeps (.ok response) (answer_sends owed_commit _))
      · exact fun _ => Triple.ret (endsLive_stable (.ok response)) fun _ _ ended => ended
      · exact fun _ _ _ _ => trivial
    · exact fun _ _ _ failed => failed
  · intro response
    apply (keeps (.ok response) (drain_owed app.cache)).mono fun _ _ ended => ended
    intro outcome w _ ended
    cases outcome with
    | ok _ => exact ended
    | error error => trivial
  · intro error
    apply (keeps (.error error) abort_owed).mono fun _ _ _ => trivial
    intro outcome w _ _
    cases outcome <;> trivial

end

/-! ## The `DEL` of a write -/

/-- Request `i` has left the committed state `n`, and the key of the article is purged for it. -/
def Purged (i : Pid) (id : ℤ) (n : ℕ) (w : World) : Prop :=
  (w.db.sessions i).committed = some n ∧ n ≤ w.store.purged (articleKey id)

section
variable {σ : Setting} {rt : Runtime} {timely : σ.Timely}
  {fades : ∀ w w', σ.env w w' → Fades w w'} {i : Pid} {id : ℤ} {n : ℕ}

theorem purged_stable : (σ.details rt timely fades).Stable i (Purged i id n) := by
  intro w w' _ purged moved _
  refine ⟨?_, purged.2.trans (moved.2 _)⟩
  rw [moved.1.1.session]
  exact purged.1

theorem purged_triple {α : Type} {p : Py α}
    (sends : p.Sends fun op => Owed op ∧ op ≠ .commit) :
    (σ.details rt timely fades).Triple i (Purged i id n) p fun _ => Purged i id n := by
  apply owed_keeps purged_stable (fun _ may => may.1) _ sends
  intro op w reply w' may purged step
  refine ⟨?_, purged.2.trans (purged_exec step _)⟩
  obtain ⟨c, -, step⟩ := step
  rcases World.exec_committed step with same | ⟨commits, -⟩
  · exact same.trans purged.1
  · exact absurd commits may.2

def Purging (i : Pid) (n : ℕ) : World → Prop :=
  Own i fun s r => s.committed = some n ∧ r.degraded = false

theorem asks_purge (answers : Answers σ.allow) :
    Asks (σ.details rt timely fades) i (.redis (.delete (articleKey id))) (Purging i n)
      (okOr (fun _ => Purged i id n) fun _ => False) := by
  refine ⟨fun w _ _ => ⟨trivial, ?_⟩, fun w reply w' kept purging step _ => ?_⟩
  · rintro _ ⟨⟩
    exact .forget id
  · obtain ⟨rfl, rfl⟩ := answers.exec step
    refine ⟨?_, ?_⟩
    · rw [World.redisStep_db]
      exact purging.1
    · rw [redisStep_store]
      exact Redis.delete_purges (articleKey id) purging.1

variable (cache : ArticleCache)

theorem bumpGenerations_settled (authorId : ℤ) :
    (cache.bumpGenerations (some authorId)).Sends fun op => Owed op ∧ op ≠ .commit := by
  apply bumpGenerations_sends
  · exact fun op isLocal => ⟨owed_local op isLocal, by rintro rfl; cases isLocal⟩
  · exact fun op asks => ⟨owed_cache op asks, by rintro rfl; cases asks⟩
  · exact fun author _ => ⟨owed_count author, fun impossible => by cases impossible⟩

theorem drainAfterCommit_purges (answers : Answers σ.allow) (enabled : cache.enabled = true)
    (authorId : ℤ) :
    (σ.details rt timely fades).Triple i
      (Own i fun s r => s.committed = some n ∧ r.degraded = false ∧ r.queue = [⟨some id, authorId⟩])
      (drainAfterCommit cache) fun _ => Purged i id n := by
  have callback : (σ.details rt timely fades).Triple i (Purging i n)
      (runInvalidation cache ⟨some id, authorId⟩) fun _ => Purged i id n := by
    have forgets : (σ.details rt timely fades).Triple i (Purging i n)
        (invalidateGiven cache (some id)) (okOr (fun _ => Purged i id n) fun _ => False) := by
      apply effect_triple Setting.details_hosts answers cache (fun _ purging => purging.2)
        (details_own _) purged_stable (fun _ => asks_purge answers)
      intro disabled
      cases enabled.symm.trans disabled
    apply Triple.bind forgets
    · exact fun _ => purged_triple (bumpGenerations_settled cache authorId)
    · exact fun _ _ _ impossible => impossible.elim
  refine Triple.call (fun callbacks w => Purging i n w ∧ callbacks = [⟨some id, authorId⟩])
    (details_own _) (fun w _ _ => ⟨trivial, fun _ same => by cases same⟩)
    (fun w reply w' _ holds step _ => ?_) fun callbacks => ?_
  · obtain ⟨c, -, step⟩ := step
    obtain ⟨rfl, rfl⟩ := Prod.mk.inj (Option.some.inj step)
    obtain ⟨committed, degraded, queue⟩ := holds
    refine ⟨?_, queue⟩
    show (w.db.sessions i).committed = some n ∧ _
    rw [World.setRequest_requests]
    exact ⟨committed, degraded⟩
  · rintro w kept ⟨purging, rfl⟩
    refine (Triple.attempt_bind callback fun outcome => ?_) w kept purging
    cases outcome with
    | ok _ => exact purged_triple trivial
    | error error =>
        dsimp only
        split
        · exact purged_triple trivial
        · exact purged_triple trivial

/-- How a request ends: a conditional write that succeeds has purged the key of its article. -/
def Purges (σ : Setting) (i : Pid) : Except Exc Response → World → Prop
  | .ok _, w => ∀ id, (σ.requests i).target = some id → ∃ n, Purged i id n w
  | .error _, _ => True

theorem Purges.stable (outcome : Except Exc Response) :
    (σ.details rt timely fades).Stable i (Purges σ i outcome) := by
  intro w w' kept purges moved kept'
  cases outcome with
  | error error => trivial
  | ok response =>
      intro id target
      obtain ⟨n, purged⟩ := purges id target
      exact ⟨n, purged_stable w w' kept purged moved kept'⟩

theorem Closed.queued {response : Response} {w : World} (closed : Closed σ i (.ok response) w)
    (target : (σ.requests i).target = some id) : ∃ n authorId,
      Own i (fun s r => s.committed = some n ∧ r.queue = [⟨some id, authorId⟩]) w := by
  obtain ⟨⟨n, -, committed, -, rest⟩, -⟩ := closed
  refine ⟨n, ?_⟩
  cases request : σ.requests i <;> rw [request] at target rest <;> cases target
  all_goals
    obtain ⟨authorId, -, queue⟩ := rest
    exact ⟨authorId, committed, queue⟩

theorem write_purges (answers : Answers σ.allow) (app : App) (enabled : app.cacheEnabled = true)
    (target : (σ.requests i).target = some id) :
    (σ.details rt timely fades).Triple i (Awaiting i) (app.serve (σ.requests i)) (Purges σ i) := by
  have writes : (σ.requests i).writes = true := by
    cases request : σ.requests i <;> rw [request] at target <;> first | rfl | cases target
  have silent : ∀ command, ¬(σ.requests i).commands app.rt command := by
    intro command sent
    cases request : σ.requests i <;> rw [request] at target sent <;>
      first | exact sent | cases target
  have free : (untilCommit (app.handler (σ.requests i))).Sends Op.Free := by
    apply Sends.bind
    · apply (handler_sends app (σ.requests i)).mono
      rintro op footprint command rfl
      exact absurd footprint (silent command)
    · intro response
      exact Sends.bind (answer_sends owed_commit.1 _) fun _ => trivial
  have closes : (σ.details rt timely fades).Triple i (Awaiting i)
      (untilCommit (app.handler (σ.requests i))) fun outcome w =>
        Closed σ i outcome w ∧ Undegraded i w :=
    untilCommit_awaiting Setting.details_rows app writes free
      fun op w sent _ owed => ⟨owed, fun command same => sent command same σ rt i w⟩
  apply getSession_triple app.cache Purges.stable closes
  · rintro response w kept ⟨closed, undegraded⟩
    obtain ⟨n, authorId, committed, queue⟩ := closed.queued target
    have drained : (σ.details rt timely fades).Safe i (drainAfterCommit app.cache)
        (fun _ => Purged i id n) w :=
      drainAfterCommit_purges app.cache answers enabled authorId w kept
        ⟨committed, undegraded, queue⟩
    apply drained.mono
    intro outcome w' _ purged
    cases outcome with
    | error error => trivial
    | ok _ =>
        intro id' target'
        obtain rfl := Option.some.inj (target.symm.trans target')
        exact ⟨n, purged⟩
  · intro error
    apply (details_triple (owed_triple abort_owed)).mono fun _ _ _ => trivial
    intro outcome w _ _
    cases outcome <;> trivial

theorem serve_details (answers : Answers σ.allow) (app : App) (same : app.rt = rt)
    (enabled : app.cacheEnabled = true) :
    (σ.details rt timely fades).Triple i (Unbegun i) (app.serve (σ.requests i)) (Purges σ i) := by
  cases target : (σ.requests i).target with
  | some id =>
      apply (write_purges answers app enabled target).mono
      · rintro w - ⟨session, state⟩
        rw [Awaiting, Own, session, state]
        exact ⟨⟨rfl, rfl, rfl, rfl, rfl, rfl⟩, rfl⟩
      · exact fun _ _ _ ended => ended
  | none =>
      apply (details_triple (serve_stores app same)).mono fun _ _ unbegun => unbegun
      intro outcome w _ _
      cases outcome with
      | error error => trivial
      | ok response =>
          intro id impossible
          rw [target] at impossible
          cases impossible

end

end ContentPlatform
