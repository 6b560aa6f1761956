import ContentPlatform.Guarantees.FailOpen
import ContentPlatform.Program.LockedRead
import Mathlib.Algebra.Order.Floor.Ring
import Mathlib.Tactic.FieldSimp

/-!
# The wait of a single-flight read

Who does not win the lock polls the key until its clock has reached the end of its budget.  A read
loads at most once, and releases the lock if it has won it.
-/

set_option autoImplicit false

namespace ContentPlatform

open Program Py Prog

section
variable {S : Type}

/-- The clock of the event loop: it can be read, it does not go back, and a poll waits for its
interval at least. -/
structure Clocked (exec : (op : Op) → S → op.Reply → S → Prop) (clock : S → ℚ) : Prop where
  reads : ∀ s now s', exec .loopTime s now s' → clock s ≤ now ∧ now ≤ clock s'
  sleeps : ∀ s s', exec (.sleep pollIntervalSeconds) s (.ok ()) s' →
    clock s + pollIntervalSeconds ≤ clock s'
  forward : ∀ op s reply s', exec op s reply s' → clock s ≤ clock s'

/-- Everything but the end of the polls is answered. -/
def Answering (exec : (op : Op) → S → op.Reply → S → Prop) : Prop :=
  ∀ op s, op ≠ .outOfFuel → ∃ reply s', exec op s reply s'

/-- An execution of the loop of `_await_loader`, with the outcomes of its polls. -/
inductive Polled (exec : (op : Op) → S → op.Reply → S → Prop) (poll : Py (Option String))
    (deadline : ℚ) :
    List (Except Exc (Option String)) → Except Exc (Option String) → S → S → Prop where
  | expired {now : ℚ} {s s' : S} : exec .loopTime s now s' → deadline ≤ now →
      Polled exec poll deadline [] (.ok none) s s'
  | interrupted {now : ℚ} {error : Exc} {s s₁ s' : S} : exec .loopTime s now s₁ → now < deadline →
      exec (.sleep pollIntervalSeconds) s₁ (.error error) s' →
      Polled exec poll deadline [] (.error error) s s'
  | failed {now : ℚ} {error : Exc} {s s₁ s₂ s' : S} : exec .loopTime s now s₁ → now < deadline →
      exec (.sleep pollIntervalSeconds) s₁ (.ok ()) s₂ → Runs exec poll s₂ (.error error) s' →
      Polled exec poll deadline [.error error] (.error error) s s'
  | found {now : ℚ} {body : String} {s s₁ s₂ s' : S} : exec .loopTime s now s₁ → now < deadline →
      exec (.sleep pollIntervalSeconds) s₁ (.ok ()) s₂ → Runs exec poll s₂ (.ok (some body)) s' →
      Polled exec poll deadline [.ok (some body)] (.ok (some body)) s s'
  | missed {now : ℚ} {polls : List (Except Exc (Option String))}
      {outcome : Except Exc (Option String)} {s s₁ s₂ s₃ s' : S} :
      exec .loopTime s now s₁ → now < deadline →
      exec (.sleep pollIntervalSeconds) s₁ (.ok ()) s₂ → Runs exec poll s₂ (.ok none) s₃ →
      Polled exec poll deadline polls outcome s₃ s' →
      Polled exec poll deadline (.ok none :: polls) outcome s s'

def polledBody : Except Exc (Option String) → Option String
  | .ok body => body
  | .error _ => none

variable {exec : (op : Op) → S → op.Reply → S → Prop} {clock : S → ℚ} {poll : Py (Option String)}
  {deadline : ℚ} {polls : List (Except Exc (Option String))} {outcome : Except Exc (Option String)}
  {s s' : S}

/-- The loop returns the first body that a poll saw, or nothing if none did. -/
theorem Polled.first (polled : Polled exec poll deadline polls outcome s s') :
    ∀ found, outcome = .ok found → found = polls.findSome? polledBody := by
  induction polled with
  | expired _ _ =>
      rintro _ ⟨⟩
      rfl
  | interrupted _ _ _ => exact fun _ impossible => by cases impossible
  | failed _ _ _ _ => exact fun _ impossible => by cases impossible
  | found _ _ _ _ =>
      rintro _ ⟨⟩
      rfl
  | missed _ _ _ _ _ ih => exact ih

/-- An error that leaves the loop is one of a wait or of a poll. -/
theorem Polled.raised (polled : Polled exec poll deadline polls outcome s s') :
    ∀ error, outcome = .error error → .error error ∈ polls ∨
      ∃ s₁ s₂, exec (.sleep pollIntervalSeconds) s₁ (.error error) s₂ := by
  induction polled with
  | expired _ _ => exact fun _ impossible => by cases impossible
  | interrupted _ _ slept =>
      rintro _ ⟨⟩
      exact Or.inr ⟨_, _, slept⟩
  | failed _ _ _ _ =>
      rintro _ ⟨⟩
      exact Or.inl (List.mem_singleton_self _)
  | found _ _ _ _ => exact fun _ impossible => by cases impossible
  | missed _ _ _ _ _ ih => exact fun error same => (ih error same).imp_left (List.mem_cons_of_mem _)

/-- The number of polls that the time up to the deadline leaves. -/
def pollsUntil (deadline now : ℚ) : ℕ := ⌈(deadline - now) / pollIntervalSeconds⌉₊

theorem pollInterval_pos : 0 < pollIntervalSeconds := by
  rw [pollIntervalSeconds]
  norm_num

theorem pollsUntil_zero {now : ℚ} (none : pollsUntil deadline now = 0) : deadline ≤ now := by
  have spent : (deadline - now) / pollIntervalSeconds ≤ 0 := Nat.ceil_eq_zero.mp none
  have := (div_le_iff₀ pollInterval_pos).mp spent
  linarith

theorem pollsUntil_later {now later : ℚ} (before : now < deadline)
    (slept : now + pollIntervalSeconds ≤ later) :
    pollsUntil deadline later + 1 ≤ pollsUntil deadline now := by
  have positive : 0 < (deadline - now) / pollIntervalSeconds :=
    div_pos (by linarith) pollInterval_pos
  have some : 0 < pollsUntil deadline now := Nat.ceil_pos.mpr positive
  have fewer : pollsUntil deadline later ≤ pollsUntil deadline now - 1 := by
    apply Nat.ceil_le.mpr
    rw [Nat.cast_sub some, Nat.cast_one]
    have whole : (deadline - now) / pollIntervalSeconds ≤ pollsUntil deadline now := Nat.le_ceil _
    calc (deadline - later) / pollIntervalSeconds
        ≤ (deadline - now - pollIntervalSeconds) / pollIntervalSeconds := by
          apply div_le_div_of_nonneg_right _ pollInterval_pos.le
          linarith
      _ = (deadline - now) / pollIntervalSeconds - 1 := by
          rw [sub_div, div_self pollInterval_pos.ne']
      _ ≤ pollsUntil deadline now - 1 := by linarith
  omega

theorem pollsUntil_mono {now later : ℚ} (forward : now ≤ later) :
    pollsUntil deadline later ≤ pollsUntil deadline now := by
  apply Nat.ceil_mono
  apply div_le_div_of_nonneg_right _ pollInterval_pos.le
  linarith

/-! ## The wait -/

/-- What `_await_loader` comes to: a bounded number of polls, and what the first of them saw that
saw anything. -/
structure WaitKept (exec : (op : Op) → S → op.Reply → S → Prop) (service : ArticleService)
    (key : String) (s : S) (outcome : Except Exc (Option String)) (s' : S)
    (polls : List (Except Exc (Option String))) : Prop where
  polled : ∃ now s₁, exec .loopTime s now s₁ ∧ Polled exec (service.cache.peek key)
    (now + service.rt.lockTimeoutSeconds) polls outcome s₁ s'
  bounded : polls.length ≤ ⌈service.rt.lockTimeoutSeconds / pollIntervalSeconds⌉₊
  first : ∀ found, outcome = .ok found → found = polls.findSome? polledBody
  raised : ∀ error, outcome = .error error → .error error ∈ polls ∨
    ∃ s₁ s₂, exec (.sleep pollIntervalSeconds) s₁ (.error error) s₂

theorem peek_asks (cache : ArticleCache) (key : String) :
    (cache.peek key).Sends (· ≠ .outOfFuel) := by
  apply peek_sends
  · rintro op isLocal rfl
    cases isLocal
  · rintro op asks rfl
    cases asks
  · simp

theorem Answering.live {α : Type} (answers : Answering exec) {p : Py α}
    (asks : p.Sends (· ≠ .outOfFuel)) (s : S) : Live exec p s :=
  (Ends.of_sends asks (fun op s asked _ => answers op s asked)
    (fun _ _ _ _ _ _ _ => trivial) (A := fun _ => True) trivial).live

/-- A poll comes to an end, and the clock has not gone back. -/
theorem Clocked.peek (clocked : Clocked exec clock) (answers : Answering exec)
    (cache : ArticleCache) (key : String) (s : S) :
    Ends exec (cache.peek key) (fun outcome s' =>
      clock s ≤ clock s' ∧ Runs exec (cache.peek key) s outcome s') s := by
  apply Ends.runs
  apply Ends.of_sends (A := fun s' => clock s ≤ clock s') (peek_asks cache key)
  · exact fun op s' asked _ => answers op s' asked
  · exact fun op s₁ reply s₂ _ kept step => kept.trans (clocked.forward op s₁ reply s₂ step)
  · exact le_rfl

/-- The measure of the loop is the number of polls that the clock leaves. -/
theorem Clocked.pollUntil (clocked : Clocked exec clock) (answers : Answering exec)
    (service : ArticleService) (key : String) (fuel : ℕ) (s : S)
    (enough : pollsUntil deadline (clock s) ≤ fuel) :
    Ends exec (service.pollUntil key deadline fuel) (fun outcome s' => ∃ polls,
      Polled exec (service.cache.peek key) deadline polls outcome s s' ∧
        polls.length ≤ pollsUntil deadline (clock s)) s := by
  induction fuel generalizing s with
  | zero =>
      rw [ArticleService.pollUntil]
      apply Ends.call (answers .loopTime s (by simp))
      intro now s₁ read
      have late : deadline ≤ now :=
        (pollsUntil_zero (Nat.le_zero.mp enough)).trans (clocked.reads s now s₁ read).1
      simp only [ret_cont, if_neg late.not_gt]
      exact Ends.ret ⟨[], .expired read late, Nat.zero_le _⟩
  | succ fuel ih =>
      rw [ArticleService.pollUntil]
      apply Ends.call (answers .loopTime s (by simp))
      intro now s₁ read
      obtain ⟨least, most⟩ := clocked.reads s now s₁ read
      simp only [ret_cont]
      split
      · rename_i early
        apply Ends.call (answers (.sleep pollIntervalSeconds) s₁ (by simp))
        intro reply s₂ slept
        cases reply with
        | error error =>
            exact Ends.raise ⟨[], .interrupted read early slept, Nat.zero_le _⟩
        | ok _ =>
            have later := clocked.sleeps s₁ s₂ slept
            have one : pollsUntil deadline (clock s₂) + 1 ≤ pollsUntil deadline (clock s) :=
              pollsUntil_later (by linarith) (by linarith)
            apply Ends.bind (clocked.peek answers service.cache key s₂)
            · rintro body s₃ ⟨forward, run⟩
              cases body with
              | some body =>
                  refine Ends.ret ⟨[.ok (some body)], .found read early slept run, ?_⟩
                  rw [List.length_singleton]
                  omega
              | none =>
                  have fewer : pollsUntil deadline (clock s₃) ≤ pollsUntil deadline (clock s₂) :=
                    pollsUntil_mono forward
                  apply Ends.mono (ih s₃ (by omega))
                  rintro outcome s' ⟨polls, polled, bounded⟩
                  refine ⟨.ok none :: polls, .missed read early slept run polled, ?_⟩
                  rw [List.length_cons]
                  omega
            · rintro error s₃ ⟨-, run⟩
              refine ⟨[.error error], .failed read early slept run, ?_⟩
              rw [List.length_singleton]
              omega
      · rename_i late
        exact Ends.ret ⟨[], .expired read (not_lt.mp late), Nat.zero_le _⟩

theorem Clocked.awaitLoader (clocked : Clocked exec clock) (answers : Answering exec)
    (service : ArticleService) (key : String)
    (enough : ⌈service.rt.lockTimeoutSeconds / pollIntervalSeconds⌉₊ ≤ service.rt.polls) (s : S) :
    Ends exec (service.awaitLoader key)
      (fun outcome s' => ∃ polls, WaitKept exec service key s outcome s' polls) s := by
  apply Ends.call (answers .loopTime s (by simp))
  intro now s₁ read
  have left : pollsUntil (now + service.rt.lockTimeoutSeconds) (clock s₁) ≤
      ⌈service.rt.lockTimeoutSeconds / pollIntervalSeconds⌉₊ := by
    apply Nat.ceil_mono
    apply div_le_div_of_nonneg_right _ pollInterval_pos.le
    linarith [(clocked.reads s now s₁ read).2]
  apply Ends.mono (clocked.pollUntil answers service key service.rt.polls s₁ (left.trans enough))
  rintro outcome s' ⟨polls, polled, bounded⟩
  exact ⟨polls, ⟨now, s₁, read, polled⟩, bounded.trans left, polled.first, polled.raised⟩

end

/-! ## The calls of a request -/

namespace ArticleService

section
variable (service : ArticleService)

/-- A read of what is stored under a key, with the bodies that `fetch` and the wait find decoded. -/
def storedRead {ρ α : Type} (key : String) (fetch : Py (Option String))
    (decode : Option String → Py (Option α)) (load : Py ρ) (finish : ρ → Py α) :
    LockedRead Op Op.Reply Exc ρ α where
  lookUp := fetch.bind decode
  acquire := service.cache.acquireLock key service.lockTtl
  wait := (service.awaitLoader key).bind decode
  load := load
  finish := finish
  release := service.cache.releaseLock key

/-- What `get` does with what it loaded, before it releases the lock. -/
def finishArticle (articleId : ℤ) (found : Option ℤ) : Py ArticleOut :=
  let live : Py ℤ :=
    match found with
    | none => .raise (.articleNotFound "Article does not exist.")
    | some article => return article
  live.bind fun article => do
    let dto := (← articleAttributes article).out
    let ttl ← service.articleTtlJittered
    service.cache.setArticle articleId (service.rt.articleDumpJson dto) ttl
    return dto

def articleRead (articleId : ℤ) : LockedRead Op Op.Reply Exc (Option ℤ) ArticleOut :=
  service.storedRead (articleKey articleId) (service.cache.getArticle articleId)
    (fun body => return decodeArticle service.rt body) (ArticleRepository.get service.rt articleId)
    (service.finishArticle articleId)

/-- What `list_articles` does with the rows that it loaded, before it releases the lock. -/
def finishPage (key : String) (limit : ℤ) (rows : List ArticleSummaryOut) : Py Page :=
  (Prog.ofExcept (splitPage limit rows)).bind fun page => do
    let ttl ← service.listTtlJittered
    service.cache.setListPage key (encodePage service.rt page) ttl
    return page

def pageRead (limit : ℤ) (after : Option Position) (authorId : Option ℤ) (generations : ℤ × ℤ) :
    LockedRead Op Op.Reply Exc (List ArticleSummaryOut) Page :=
  let key := listKey service.rt (pickGeneration authorId generations) authorId limit
    (cursorParts after)
  service.storedRead key (service.cache.getListPage key)
    (fun body => .ofExcept (decodePage service.rt body))
    (ArticleRepository.list service.rt (limit + 1) after authorId) (service.finishPage key limit)

theorem storedRead_run {ρ α : Type} {key : String} {fetch : Py (Option String)} {load : Py ρ}
    {finish : ρ → Py α} (decode : Option String → Py (Option α))
    (nothing : decode none = return none) :
    (service.storedRead key fetch decode load finish).run = fetch.bind fun body =>
      (decode body).bind fun cached =>
        match cached with
        | some cached => return cached
        | none => (service.cache.acquireLock key service.lockTtl).bind fun won =>
            (service.waitUnlessWon won key).bind fun body => (decode body).bind fun waited =>
              match waited with
              | some waited => return waited
              | none => (load.bind finish).tryFinally (service.releaseIfWon won key) := by
  have locked : ∀ won, (service.storedRead key fetch decode load finish).afterLock won =
      (service.waitUnlessWon won key).bind fun body => (decode body).bind fun waited =>
        match waited with
        | some waited => return waited
        | none => (load.bind finish).tryFinally (service.releaseIfWon won key) := by
    intro won
    cases won with
    | true =>
        show _ = (decode none).bind _
        rw [nothing]
        rfl
    | false =>
        refine (Prog.bind_assoc (service.awaitLoader key) decode _).trans ?_
        refine congrArg _ (funext fun body => congrArg _ (funext fun waited => ?_))
        cases waited with
        | some waited => rfl
        | none => rfl
  rw [LockedRead.run, funext locked]
  refine (Prog.bind_assoc fetch decode _).trans ?_
  refine congrArg _ (funext fun body => congrArg _ (funext fun cached => ?_))
  cases cached with
  | some cached => rfl
  | none => rfl

theorem get_eq (articleId : ℤ) : service.get articleId = (service.articleRead articleId).run := by
  rw [articleRead, storedRead_run service (fun body => return decodeArticle service.rt body) rfl]
  refine congrArg (Prog.bind _) (funext fun body => ?_)
  show _ = Prog.bind (.ret (decodeArticle service.rt body)) _
  rw [Prog.bind, ret_cont]
  cases decodeArticle service.rt body with
  | some cached => rfl
  | none =>
      refine congrArg (Prog.bind _) (funext fun won => congrArg (Prog.bind _) (funext fun body => ?_))
      show _ = Prog.bind (.ret (decodeArticle service.rt body)) _
      rw [Prog.bind, ret_cont]
      cases decodeArticle service.rt body with
      | some waited => rfl
      | none => exact congrArg (tryFinally · _) (Prog.bind_assoc _ _ _)

theorem listArticles_eq (limit : ℤ) (after : Option Position) (authorId : Option ℤ) :
    service.listArticles limit after authorId = (service.cache.getGenerations authorId).bind
      fun generations => (service.pageRead limit after authorId generations).run := by
  refine congrArg (Prog.bind _) (funext fun generations => ?_)
  rw [pageRead, storedRead_run service (fun body => .ofExcept (decodePage service.rt body)) rfl]
  refine congrArg (Prog.bind _) (funext fun body => congrArg (Prog.bind _) (funext fun cached => ?_))
  cases cached with
  | some cached => rfl
  | none =>
      refine congrArg (Prog.bind _) (funext fun won => congrArg (Prog.bind _) (funext fun body =>
        congrArg (Prog.bind _) (funext fun waited => ?_)))
      cases waited with
      | some waited => rfl
      | none => exact congrArg (tryFinally · _) (Prog.bind_assoc _ _ _)

end

end ArticleService

/-! ## The requests -/

def Op.IsStatement (op : Op) : Prop := ∃ statement, op = .mysql statement

def Op.IsAside (op : Op) : Prop := op ≠ .outOfFuel ∧ ¬op.IsStatement

/-- At most one load, which alone sends statements, and the release of the lock that was won. -/
structure ReadKept {S ρ α : Type} (read : LockedRead Op Op.Reply Exc ρ α)
    (exec : (op : Op) → S → op.Reply → S → Prop) (s : S) (outcome : Except Exc α) (s' : S) :
    Prop where
  alone : read.LoadsAlone Op.IsStatement
  made : ∃ calls, read.Calls exec calls s s' ∧ LockedRead.Path calls outcome ∧
    LockedRead.Balanced calls

/-- A list request ends before it has the key of its page, or with the read of that page. -/
inductive ListKept {S : Type} (service : ArticleService) (limit : ℤ) (after : Option Position)
    (authorId : Option ℤ) (exec : (op : Op) → S → op.Reply → S → Prop) (s : S) :
    Except Exc Page → S → Prop where
  | unkeyed {error : Exc} {s' : S} :
      Runs exec (service.cache.getGenerations authorId) s (.error error) s' →
      ListKept service limit after authorId exec s (.error error) s'
  | keyed {generations : ℤ × ℤ} {outcome : Except Exc Page} {s₁ s' : S} :
      Runs exec (service.cache.getGenerations authorId) s (.ok generations) s₁ →
      ReadKept (service.pageRead limit after authorId generations) exec s₁ outcome s' →
      ListKept service limit after authorId exec s outcome s'

theorem aside_local (op : Op) (isLocal : op.isBookkeeping = true) : op.IsAside := by
  refine ⟨?_, ?_⟩
  · rintro rfl
    cases isLocal
  · rintro ⟨statement, rfl⟩
    cases isLocal

theorem aside_cache (op : Op) (asks : op.asksCache = true) : op.IsAside := by
  refine ⟨?_, ?_⟩
  · rintro rfl
    cases asks
  · rintro ⟨statement, rfl⟩
    cases asks

theorem aside_redis (command : RedisCommand) : (Op.redis command).IsAside :=
  ⟨by simp, fun ⟨_, impossible⟩ => by cases impossible⟩

theorem aside_jitteredTtl (base : ℤ) (jitter : ℚ) : (jitteredTtl base jitter).Sends Op.IsAside := by
  unfold jitteredTtl
  split
  · trivial
  · exact Sends.bind (reply_sends (aside_local _ rfl) _) fun _ => trivial

section
variable {S ρ α : Type} {exec : (op : Op) → S → op.Reply → S → Prop} {clock : S → ℚ}
  (service : ArticleService)

theorem aside_store (key body : String) (ttl : ℤ) :
    (service.cache.store key body ttl).Sends Op.IsAside :=
  store_sends aside_local service.cache aside_cache key body ttl (aside_redis _)

theorem aside_finishArticle (articleId : ℤ) (found : Option ℤ) :
    (service.finishArticle articleId found).Sends Op.IsAside := by
  have reads : ∀ article, Op.IsAside (.articleAttributes article) :=
    fun article => ⟨by simp, fun ⟨_, impossible⟩ => by cases impossible⟩
  refine Sends.bind ?_ fun article => ?_
  · cases found <;> trivial
  · refine Sends.bind (answer_sends (reads article) _) fun row => ?_
    refine Sends.bind (aside_jitteredTtl _ _) fun ttl => ?_
    exact Sends.bind (aside_store service _ _ _) fun _ => trivial

theorem aside_finishPage (key : String) (limit : ℤ) (rows : List ArticleSummaryOut) :
    (service.finishPage key limit rows).Sends Op.IsAside := by
  refine Sends.bind (sends_ofExcept _) fun page => ?_
  refine Sends.bind (aside_jitteredTtl _ _) fun ttl => ?_
  exact Sends.bind (aside_store service _ _ _) fun _ => trivial

/-- A read of what is stored under a key comes to an end, and keeps to its one load. -/
theorem storedRead_kept {key : String} {fetch : Py (Option String)}
    {decode : Option String → Py (Option α)} {load : Py ρ} {finish : ρ → Py α}
    (clocked : Clocked exec clock) (answers : Answering exec)
    (enough : ⌈service.rt.lockTimeoutSeconds / pollIntervalSeconds⌉₊ ≤ service.rt.polls)
    (fetches : fetch.Sends Op.IsAside) (decodes : ∀ body, (decode body).Sends Op.IsAside)
    (loads : load.Sends (· ≠ .outOfFuel)) (finishes : ∀ loaded, (finish loaded).Sends Op.IsAside)
    (s : S) :
    Ends exec (service.storedRead key fetch decode load finish).run
      (ReadKept (service.storedRead key fetch decode load finish) exec s) s := by
  have acquires : (service.cache.acquireLock key service.lockTtl).Sends Op.IsAside :=
    acquireLock_sends aside_local service.cache aside_cache _ _ (aside_redis _)
  have releases : (service.cache.releaseLock key).Sends Op.IsAside :=
    releaseLock_sends aside_local service.cache aside_cache _ (aside_redis _)
  have waits : (service.awaitLoader key).Sends fun op => ¬op.IsStatement := by
    apply waitUnlessWon_sends (fun op isLocal => (aside_local op isLocal).2)
      (fun op asks => (aside_cache op asks).2) service _ (aside_redis _).2 false
    rintro ⟨_, impossible⟩
    cases impossible
  have live : ∀ {β : Type} {p : Py β}, p.Sends Op.IsAside → ∀ s, Live exec p s :=
    fun sends => answers.live (sends.mono fun _ aside => aside.1)
  have alone : (service.storedRead key fetch decode load finish).LoadsAlone Op.IsStatement := by
    constructor
    · exact (fetches.bind decodes).mono fun _ aside => aside.2
    · exact acquires.mono fun _ aside => aside.2
    · exact waits.bind fun body => (decodes body).mono fun _ aside => aside.2
    · exact fun loaded => (finishes loaded).mono fun _ aside => aside.2
    · exact releases.mono fun _ aside => aside.2
  have ends : ∀ s, Live exec (service.storedRead key fetch decode load finish).run s := by
    apply LockedRead.run_live
    · exact live (fetches.bind decodes)
    · exact live acquires
    · apply LockedRead.live_bind
      · exact fun s => (clocked.awaitLoader answers service key enough s).live
      · exact fun body => live (decodes body)
    · exact answers.live loads
    · exact fun loaded => live (finishes loaded)
    · exact live releases
  apply Ends.mono (LockedRead.run_ends ends s)
  rintro outcome s' ⟨calls, made, path⟩
  exact ⟨alone, calls, made, path, path.balanced⟩

theorem get_kept (clocked : Clocked exec clock) (answers : Answering exec)
    (enough : ⌈service.rt.lockTimeoutSeconds / pollIntervalSeconds⌉₊ ≤ service.rt.polls)
    (articleId : ℤ) (s : S) :
    Ends exec (service.get articleId) (ReadKept (service.articleRead articleId) exec s) s := by
  rw [service.get_eq]
  apply storedRead_kept service clocked answers enough
  · exact fetch_sends aside_local service.cache aside_cache _ _ (aside_redis _)
  · exact fun _ => trivial
  · exact guardedRead_asks
  · exact aside_finishArticle service articleId

theorem listArticles_kept (clocked : Clocked exec clock) (answers : Answering exec)
    (enough : ⌈service.rt.lockTimeoutSeconds / pollIntervalSeconds⌉₊ ≤ service.rt.polls)
    (limit : ℤ) (after : Option Position) (authorId : Option ℤ) (s : S) :
    Ends exec (service.listArticles limit after authorId)
      (ListKept service limit after authorId exec s) s := by
  rw [service.listArticles_eq]
  have asks : (service.cache.getGenerations authorId).Sends Op.IsAside :=
    getGenerations_sends aside_local service.cache aside_cache authorId (aside_redis _)
  have generations : Ends exec (service.cache.getGenerations authorId) (fun _ _ => True) s :=
    Ends.of_sends asks (fun op s asked _ => answers op s asked.1) (fun _ _ _ _ _ _ _ => trivial)
      trivial
  apply Ends.bind generations.runs
  · rintro generations s₁ ⟨-, run⟩
    apply Ends.mono
    · apply storedRead_kept service clocked answers enough
      · exact fetch_sends aside_local service.cache aside_cache _ _ (aside_redis _)
      · exact fun _ => sends_ofExcept _
      · exact guardedRead_asks
      · exact aside_finishPage service _ limit
    · exact fun _ _ kept => .keyed run kept
  · rintro error s₁ ⟨-, run⟩
    exact .unkeyed run

/-- The wait for the winner takes a bounded number of polls, and a request, however it comes to
its load and however that ends, loads at most once and releases the lock if it has won it. -/
theorem single_flight_wait_is_bounded (clocked : Clocked exec clock) (answers : Answering exec)
    (enough : ⌈service.rt.lockTimeoutSeconds / pollIntervalSeconds⌉₊ ≤ service.rt.polls) (s : S) :
    (∀ key, Ends exec (service.awaitLoader key)
      (fun outcome s' => ∃ polls, WaitKept exec service key s outcome s' polls) s) ∧
    (∀ articleId, Ends exec (service.get articleId)
      (ReadKept (service.articleRead articleId) exec s) s) ∧
    ∀ limit after authorId, Ends exec (service.listArticles limit after authorId)
      (ListKept service limit after authorId exec s) s :=
  ⟨fun key => clocked.awaitLoader answers service key enough s,
    fun articleId => get_kept service clocked answers enough articleId s,
    fun limit after authorId => listArticles_kept service clocked answers enough limit after authorId s⟩

end

/-! ## Seen by a loser -/

theorem clocked_seen (bodies : String → String → Prop) :
    Clocked (ReadsFrom bodies pollIntervalSeconds) Seen.now := by
  constructor
  · intro s now s' step
    have same : now = s.now := step.ticks
    exact ⟨same.ge, same.trans_le step.now⟩
  · exact fun _ _ step => step.ticks
  · exact fun _ _ _ _ step => step.now

def replyEmpty (s : Seen) : (op : Op) → Option op.Reply
  | .redis (.get _) => some (.ok none)
  | .redis (.set _ _ _ _) => some (.ok true)
  | .redis (.delete _) => some (.ok ())
  | .redis _ => none
  | op => replyDown s op

def answerEmpty (op : Op) (s : Seen) : Option (op.Reply × Seen) :=
  (replyEmpty s op).map fun reply => (reply, ⟨s.events ++ [⟨op, reply⟩], s.now⟩)

theorem answerEmpty_sound (op : Op) (s : Seen) (reply : op.Reply) (s' : Seen)
    (answer : answerEmpty op s = some (reply, s')) :
    ReadsFrom (fun _ _ => True) pollIntervalSeconds op s reply s' := by
  obtain ⟨reply, replied, ⟨⟩⟩ := Option.map_eq_some_iff.mp answer
  have answered : op.Permitted (fun _ _ => True) reply ∧
      op.Ticks pollIntervalSeconds reply s.now s.now := by
    cases op with
    | redis command =>
        refine ⟨?_, trivial⟩
        cases command with
        | get key =>
            obtain rfl := Option.some.inj replied
            trivial
        | mget keys => cases replied
        | incr key => cases replied
        | _ =>
            obtain rfl := Option.some.inj replied
            trivial
    | sleep seconds => cases replied
    | loopTime => cases replied
    | _ => exact ⟨trivial, trivial⟩
  exact ⟨answered.1, rfl, le_rfl, answered.2⟩

def Seen.count (s : Seen) (op : Op) : ℕ := s.events.countP fun event => event.1 == op

/-- With the default lock timeout, a loser polls a hundred times at most.  A winner loads once and
releases the lock. -/
theorem single_flight_wait_is_bounded_of_defaults :
    (∃ outcome s' polls,
      WaitKept (ReadsFrom (fun _ _ => True) pollIntervalSeconds) ⟨patientRuntime, ⟨true⟩, true⟩
        (articleKey 7) ⟨[], 0⟩ outcome s' polls ∧ polls.length ≤ 100) ∧
    ∃ outcome s', ReadKept (ArticleService.articleRead ⟨patientRuntime, ⟨true⟩, true⟩ 7)
        (ReadsFrom (fun _ _ => True) pollIntervalSeconds) ⟨[], 0⟩ outcome s' ∧
      outcome.toOption = some storedArticle.out ∧
      s'.count (.mysql (.selectArticle 7)) = 1 ∧
      s'.count (.redis (.delete (lockKey (articleKey 7)))) = 1 := by
  have hundred : ⌈patientRuntime.lockTimeoutSeconds / pollIntervalSeconds⌉₊ ≤ 100 := by
    apply Nat.ceil_le.mpr
    norm_num [patientRuntime, defaultRuntime, pollIntervalSeconds]
  obtain ⟨waits, reads, -⟩ := single_flight_wait_is_bounded ⟨patientRuntime, ⟨true⟩, true⟩
    (clocked_seen fun _ _ => True) (fun op s asked => exists_reads op asked s) hundred ⟨[], 0⟩
  constructor
  · obtain ⟨outcome, s', run⟩ := (waits (articleKey 7)).live.exists_runs
    obtain ⟨polls, kept⟩ := (waits (articleKey 7)).of_runs run
    exact ⟨outcome, s', polls, kept, kept.bounded.trans hundred⟩
  · obtain ⟨outcome, s', run, found⟩ := exists_runs answerEmpty_sound
      (ArticleService.get ⟨patientRuntime, ⟨true⟩, true⟩ 7) ⟨[], 0⟩
      (fun ended => ended.1.toOption == some storedArticle.out &&
        ended.2.count (.mysql (.selectArticle 7)) == 1 &&
        ended.2.count (.redis (.delete (lockKey (articleKey 7)))) == 1) (by decide +kernel)
    rw [Bool.and_eq_true, Bool.and_eq_true, beq_iff_eq, beq_iff_eq, beq_iff_eq] at found
    exact ⟨outcome, s', (reads 7).of_runs run, found.1.1, found.1.2, found.2⟩

end ContentPlatform
