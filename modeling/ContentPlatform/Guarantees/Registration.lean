import ContentPlatform.Guarantees.OptimisticConcurrency
import ContentPlatform.World.Accounts

/-!
# Concurrent registration

Any number of requests register one email.  The lookup, the `INSERT` and the commit of each are
steps of their own, and the unique index decides what the lookup did not see.
-/

set_option autoImplicit false

namespace ContentPlatform

open Program Py Prog Protocol

def Request.registers : Request → Option String
  | .register email _ => some email
  | _ => none

def Setting.Applies (σ : Setting) (email : String) (i : Pid) : Prop :=
  (σ.requests i).registers = some email

/-- Nobody but the requests touches the accounts of this email. -/
def Setting.Sole (σ : Setting) (email : String) : Prop :=
  ∀ w w', σ.env w w' → w'.db.accountsOf email = w.db.accountsOf email

/-- No `INSERT` of a user runs while a user with its email is committed. -/
def Setting.Unraced (σ : Setting) (email : String) : Prop :=
  ∀ w i passwordHash roleName c,
    σ.allow w i (.mysql (.insertUser email passwordHash roleName)) c → c.fault = none →
      w.db.accountsOf email = []

/-- At most one row has the email, and the default role is there. -/
structure Registry (σ : Setting) (email : String) (w : World) : Prop where
  single : (w.db.account email).Single (σ.Applies email)
  seeded : "user" ∈ w.db.roles

theorem Setting.Sole.account {σ : Setting} {email : String} (sole : σ.Sole email) {w w' : World}
    (event : σ.env w w') : w'.db.account email = w.db.account email := by
  have rows := sole w w' event
  obtain ⟨-, users, same⟩ := σ.outside w w' event
  rw [same] at rows ⊢
  exact Account.ext rows rfl rfl rfl rfl

section
variable {σ : Setting} {email : String} {w w' : World}

theorem Registry.exec (kept : Registry σ email w) {i : Pid} {c : Choice} {op : Op}
    {reply : op.Reply} (step : w.exec i c op = some (reply, w'))
    (inserts : ∀ passwordHash roleName, op = .mysql (.insertUser email passwordHash roleName) →
      σ.Applies email i)
    (commits : op = .commit → σ.Applies email i → (w.db.account email).holder = some i) :
    Registry σ email w' := by
  have moved := World.exec_account step email
  have roles : w'.db.roles = w.db.roles := Account.roles_of_step moved
  refine ⟨kept.single.step moved inserts commits, ?_⟩
  rw [roles]
  exact kept.seeded

theorem Registry.event (kept : Registry σ email w) (sole : σ.Sole email) (event : σ.env w w') :
    Registry σ email w' := by
  constructor
  · rw [sole.account event]
    exact kept.single
  · obtain ⟨-, users, same⟩ := σ.outside w w' event
    rw [same]
    exact kept.seeded

end

/-- The protocol of one email: only who registers it inserts it, and who registers it commits only
what it has inserted. -/
def Setting.registration (σ : Setting) (email : String) (sole : σ.Sole email) :
    Protocol Op Op.Reply World where
  exec := Exec σ.allow
  env := σ.env
  inv := Registry σ email
  rely i w w' := Undisturbed i w w' ∧ (w.db.account email).Later i (w'.db.account email)
  pre i op w :=
    (∀ passwordHash roleName, op = .mysql (.insertUser email passwordHash roleName) →
      σ.Applies email i) ∧
    (op = .commit → σ.Applies email i → (w.db.account email).holder = some i)
  rely_refl i w := ⟨Undisturbed.refl i w, .refl i _⟩
  rely_trans := fun first second => ⟨first.1.trans second.1, first.2.trans second.2⟩
  step_inv := fun kept owed ⟨_, _, step⟩ => kept.exec step owed.1 owed.2
  step_rely := fun _ _ ⟨_, _, step⟩ other =>
    ⟨World.exec_undisturbed step other, Account.later_of_step (World.exec_account step email) other⟩
  env_inv := fun kept event => kept.event sole event
  env_rely := fun {i} _ _ _ event => ⟨(σ.outside _ _ event).undisturbed i, by
    rw [sole.account event]
    exact .refl i _⟩

section
variable {σ : Setting} {email : String} {sole : σ.Sole email} {i : Pid} {α : Type}

theorem registration_owed {op : Op} (w : World)
    (quiet : ∀ passwordHash roleName, op ≠ .mysql (.insertUser email passwordHash roleName))
    (open_ : op ≠ .commit) : (σ.registration email sole).pre i op w :=
  ⟨fun _ _ same => absurd same (quiet _ _), fun same => absurd same open_⟩

theorem Setting.registration_hosts (sole : σ.Sole email) :
    Hosts (σ.registration email sole) (Exec σ.allow) := by
  refine .of_world rfl fun i op w isLocal => registration_owed w ?_ ?_
  · intro passwordHash roleName same
    rw [same] at isLocal
    cases isLocal
  · intro same
    rw [same] at isLocal
    cases isLocal

def Unclaimed (s : Session) (r : RequestState) : Prop := s.committed = none ∧ r.queue = []

def Applying (email : String) (i : Pid) (w : World) : Prop :=
  Own i Unclaimed w ∧ (w.db.account email).holder ≠ some i

def Enrolled (email : String) (i : Pid) (user : ℤ) (w : World) : Prop :=
  Own i (fun s r => Unclaimed s r ∧ s.user.Loaded UserRow.id user) w ∧
    (w.db.account email).holder = some i

def Refused (email : String) (i : Pid) (w : World) : Prop :=
  Own i Unclaimed w ∧ w.db.accountsOf email ≠ []

theorem registration_own (Q : Session → RequestState → Prop) :
    (σ.registration email sole).Stable i (Own i Q) :=
  fun _ _ _ holds moved _ => holds.undisturbed moved.1

theorem Applying.stable : (σ.registration email sole).Stable i (Applying email i) :=
  fun _ _ _ holds moved _ =>
    ⟨holds.1.undisturbed moved.1, fun held => holds.2 (moved.2.holder.mp held)⟩

theorem Enrolled.stable (user : ℤ) :
    (σ.registration email sole).Stable i (Enrolled email i user) :=
  fun _ _ _ holds moved _ => ⟨holds.1.undisturbed moved.1, moved.2.holder.mpr holds.2⟩

theorem Refused.stable : (σ.registration email sole).Stable i (Refused email i) :=
  fun _ _ _ holds moved _ => ⟨holds.1.undisturbed moved.1, moved.2.rows holds.2⟩

theorem Applying.kept {w : World} {db : Database} (applying : Applying email i w)
    (keeps : Database.KeepsUsers i w.db db) (own : OwnStep i w.db db) :
    Applying email i { w with db := db } := by
  refine ⟨⟨keeps.committed.trans applying.1.1, applying.1.2⟩, ?_⟩
  rw [keeps.account own email]
  exact applying.2

/-! ## The statements -/

theorem asks_applying (calm : σ.Calm) {statement : Statement}
    (aside : ∀ email passwordHash roleName, statement ≠ .insertUser email passwordHash roleName)
    {B : statement.Reply → World → Prop}
    (answer : ∀ w c db reply, Registry σ email w →
      w.db.statementStep i c statement = some (reply, db) →
      ∃ value, reply = .ok value ∧ B value { w with db := db }) :
    Asks (σ.registration email sole) i (.mysql statement) (Applying email i)
      (okOr (fun value w => Applying email i w ∧ B value w) fun _ => False) := by
  refine ⟨fun w _ _ => registration_owed w ?_ (by simp), fun w reply w' kept applying step _ => ?_⟩
  · intro passwordHash roleName same
    exact absurd (Op.mysql.inj same) (aside _ _ _)
  · rcases mysql_cases step with ⟨hectic, -, -⟩ | ⟨c, db, answered, rfl⟩
    · exact absurd calm hectic
    · obtain ⟨value, rfl, fact⟩ := answer w c db reply kept answered
      exact ⟨applying.kept (Database.statementStep_keepsUsers aside answered)
        (Database.statementStep_own answered), fact⟩

theorem asks_lookup (calm : σ.Calm) :
    Asks (σ.registration email sole) i (.mysql (.selectUserByEmail email)) (Applying email i)
      (okOr (fun found w => Applying email i w ∧
        (found.isSome = true → w.db.accountsOf email ≠ [])) fun _ => False) := by
  apply asks_applying calm
  · intro _ _ _ impossible
    cases impossible
  · intro w c db reply _ answered
    simp only [Database.statementStep] at answered
    split at answered
    · rename_i user found
      obtain ⟨rfl, rfl⟩ := Prod.mk.inj (Option.some.inj answered)
      refine ⟨_, rfl, fun _ => Database.accountsOf_ne_nil.mpr ⟨user, ?_, ?_⟩⟩
      · exact List.mem_of_find?_eq_some found
      · simpa using List.find?_some found
    · obtain ⟨rfl, rfl⟩ := Prod.mk.inj (Option.some.inj answered)
      refine ⟨_, rfl, fun impossible => ?_⟩
      cases impossible

theorem asks_role (calm : σ.Calm) :
    Asks (σ.registration email sole) i (.mysql (.selectRole "user")) (Applying email i)
      (okOr (fun found w => Applying email i w ∧ found.isSome = true) fun _ => False) := by
  apply asks_applying calm
  · intro _ _ _ impossible
    cases impossible
  · intro w c db reply kept answered
    obtain ⟨rfl, -⟩ := Prod.mk.inj (Option.some.inj answered)
    refine ⟨_, rfl, ?_⟩
    rw [List.find?_isSome]
    exact ⟨"user", kept.seeded, rfl⟩

/-- The `INSERT` takes the email, or the unique index has a committed row. -/
theorem asks_insert (calm : σ.Calm) (applies : σ.Applies email i)
    {passwordHash roleName : String} :
    Asks (σ.registration email sole) i (.mysql (.insertUser email passwordHash roleName))
      (Applying email i)
      (okOr (Enrolled email i) fun w => Refused email i w ∧ ¬σ.Unraced email) := by
  refine ⟨fun w _ _ => ⟨fun _ _ _ => applies, by simp⟩, fun w reply w' kept applying step _ => ?_⟩
  obtain ⟨c, allowed, ⟨error, fault, -, -⟩ | ⟨db, fault, answered, rfl⟩⟩ := mysql_exec step
  · rw [(calm w i _ c allowed).1] at fault
    cases fault
  · rcases Database.insertUser_cases answered with ⟨rfl, rfl, taken⟩ | ⟨rfl, rfl, -, -⟩
    · have some_ : w.db.accountsOf email ≠ [] := by
        rcases taken with there | mine
        · exact Database.accountsOf_ne_nil.mpr there
        · exact absurd mine applying.2
      have keeps := Database.begin_keepsUsers w.db i
      refine ⟨⟨(applying.kept keeps (Database.begin_own w.db i)).1, ?_⟩, fun unraced => ?_⟩
      · rw [Database.accountsOf, keeps.users]
        exact some_
      · exact some_ (unraced w i _ _ c allowed fault)
    · refine ⟨?_, ?_⟩
      · apply own_db (Database.insertUserStep_sessions ..)
        exact ⟨applying.1, Slot.receive_loaded UserRow.id _ _⟩
      · exact congrArg Account.holder (Database.insertUserStep_account w.db i
          ⟨c.newId, email, passwordHash, roleName⟩)

/-! ## The methods -/

def Turned (σ : Setting) (email : String) (i : Pid) (B : α → World → Prop) :
    Except Exc α → World → Prop
  | .ok value, w => B value w
  | .error error, w => Refused email i w ∧ (σ.Unraced email → ∃ message, error = .conflict message)

theorem create_registers (calm : σ.Calm) (applies : σ.Applies email i) (rt : Runtime)
    (passwordHash : String) :
    (σ.registration email sole).Triple i (Applying email i)
      (UserRepository.create rt email passwordHash "user")
      (okOr (Enrolled email i) fun w => Refused email i w ∧ ¬σ.Unraced email) := by
  have hosts := Setting.registration_hosts (σ := σ) sole
  have refused : (σ.registration email sole).Stable i (Refused email i) := Refused.stable
  have refusal := stable_pure (¬σ.Unraced email) refused
  apply guardedWrite_triple hosts Applying.stable Enrolled.stable refusal
  · refine Triple.bind (C := okOr (fun _ => Applying email i) fun _ => False) ?_ (fun role => ?_)
      fun _ _ _ impossible => impossible.elim
    · refine Triple.bind (mysql_triple Applying.stable (fun _ => stable_pure _ Applying.stable)
        stable_false (asks_role calm)) (fun found => ?_) fun _ _ _ impossible => impossible.elim
      cases found with
      | some role => exact Triple.ret (stable_pure _ Applying.stable) fun _ _ holds => holds.1
      | none =>
          intro w _ impossible
          cases impossible.2
    · exact mysql_triple Applying.stable Enrolled.stable refusal (asks_insert calm applies)
  · intro w _ refused
    exact absurd calm (refused_not_calm refused)

theorem hashPassword_registers (calm : σ.Calm) (password : String) :
    (σ.registration email sole).Triple i (Applying email i) (hashPassword password)
      (okOr (fun _ => Applying email i) fun _ => False) := by
  refine triple_local (Setting.registration_hosts sole) rfl Applying.stable fun reply => ?_
  cases reply with
  | ok hash => exact Triple.ret (stable_pure _ Applying.stable) fun _ _ holds => holds.1
  | error error =>
      intro w _ holds
      obtain ⟨-, v, c, allowed, step⟩ := holds
      simp only [World.exec, (calm v i _ c allowed).1] at step
      cases (Prod.mk.inj (Option.some.inj step)).1

theorem register_registers (calm : σ.Calm) (applies : σ.Applies email i) (rt : Runtime)
    (password : String) :
    (σ.registration email sole).Triple i (Applying email i)
      (AuthService.register rt email password) (Turned σ email i (Enrolled email i)) := by
  have found : ∀ known : Option ℤ, (σ.registration email sole).Stable i fun w =>
      Applying email i w ∧ (known.isSome = true → w.db.accountsOf email ≠ []) :=
    fun known => stable_and Applying.stable fun _ _ _ holds moved _ some_ =>
      moved.2.rows (holds some_)
  have nowhere : Asks (σ.registration email sole) i (.mysql (.selectUserByEmail email))
      (fun _ => False) (okOr (fun found w => Applying email i w ∧
        (found.isSome = true → w.db.accountsOf email ≠ [])) fun _ => False) :=
    ⟨fun _ _ impossible => impossible.elim, fun _ _ _ _ impossible => impossible.elim⟩
  refine Triple.bind (guardedRead_triple (Setting.registration_hosts sole) Applying.stable found
    stable_false (asks_lookup calm) nowhere ⟨fun _ _ impossible => impossible.elim,
      fun _ _ _ _ impossible => impossible.elim⟩
    fun _ _ refused => absurd calm (refused_not_calm refused)) (fun known => ?_)
    fun _ _ _ impossible => impossible.elim
  cases known with
  | some user =>
      exact Triple.raise (found (some user)) fun w _ holds =>
        ⟨⟨holds.1.1, holds.2 rfl⟩, fun _ => ⟨_, rfl⟩⟩
  | none =>
      refine Triple.bind ((hashPassword_registers calm password).mono (fun _ _ holds => holds.1)
        fun _ _ _ ended => ended) (fun passwordHash => ?_) fun _ _ _ impossible => impossible.elim
      apply (create_registers calm applies rt passwordHash).mono fun _ _ holds => holds
      intro outcome w _ ended
      cases outcome with
      | ok user => exact ended
      | error error => exact ⟨ended.1, fun unraced => absurd unraced ended.2⟩

def Claiming (email : String) (i : Pid) (w : World) : Prop :=
  Own i Unclaimed w ∧ (w.db.account email).holder = some i

theorem userAttributes_registers (user : ℤ) :
    (σ.registration email sole).Triple i (Enrolled email i user) (userAttributes user)
      (okOr (fun _ => Claiming email i) fun _ => False) := by
  refine Triple.call (fun reply w => Enrolled email i user w ∧ reply.isOk = true)
    (Enrolled.stable user) (fun w _ _ => registration_owed w (by simp) (by simp))
    (fun w reply w' _ enrolled step _ => ?_) fun reply => ?_
  · obtain ⟨c, -, step⟩ := step
    obtain ⟨rfl, rfl⟩ := Prod.mk.inj (Option.some.inj step)
    exact ⟨enrolled, enrolled.1.2⟩
  · cases reply with
    | ok row =>
        exact Triple.ret (stable_pure _ (Enrolled.stable user)) fun w _ holds =>
          ⟨holds.1.1.1, holds.1.2⟩
    | error error =>
        intro w _ holds
        cases holds.2

theorem Claiming.stable : (σ.registration email sole).Stable i (Claiming email i) :=
  fun _ _ _ holds moved _ => ⟨holds.1.undisturbed moved.1, moved.2.holder.mpr holds.2⟩

theorem turned_raised {β : Type} {B : α → World → Prop} {C : β → World → Prop} {error : Exc}
    {w : World} (turned : Turned σ email i B (.error error) w) :
    Turned σ email i C (.error error) w := turned

theorem Turned.stable {B : α → World → Prop}
    (stable : ∀ value, (σ.registration email sole).Stable i (B value)) (outcome : Except Exc α) :
    (σ.registration email sole).Stable i (Turned σ email i B outcome) := by
  cases outcome with
  | ok value => exact stable value
  | error error => exact stable_pure _ Refused.stable

theorem handler_registers (calm : σ.Calm) (app : App) {password : String}
    (same : σ.requests i = .register email password) :
    (σ.registration email sole).Triple i (Applying email i)
      (app.handler (.register email password)) (Turned σ email i fun _ => Claiming email i) := by
  have applies : σ.Applies email i := by
    rw [Setting.Applies, same]
    rfl
  refine Triple.bind (register_registers calm applies app.rt password) (fun user => ?_)
    fun error _ _ turned => turned_raised turned
  refine Triple.bind (userAttributes_registers user) (fun row => ?_)
    fun _ _ _ impossible => impossible.elim
  exact Triple.ret Claiming.stable fun _ _ claiming => claiming

def Closing (i : Pid) : World → Prop := Own i fun s r => s.committed ≠ none ∧ r.queue = []

theorem untilCommit_registers (calm : σ.Calm) (app : App) {password : String}
    (same : σ.requests i = .register email password) :
    (σ.registration email sole).Triple i (Applying email i)
      (untilCommit (app.handler (.register email password)))
      (Turned σ email i fun _ => Closing i) := by
  refine Triple.bind (handler_registers calm app same) (fun response => ?_)
    fun error _ _ turned => turned_raised turned
  refine Triple.call (fun reply w => Closing i w ∧ reply = .ok ()) Claiming.stable
    (fun w _ claiming => ⟨by simp, fun _ _ => claiming.2⟩) (fun w reply w' _ claiming step _ => ?_)
    fun reply => ?_
  · rcases commit_cases step with ⟨rfl, rfl⟩ | ⟨hectic, -⟩
    · refine ⟨?_, rfl⟩
      apply own_db (Database.commitStep_session w.db i)
      exact ⟨Option.some_ne_none _, claiming.1.2⟩
    · exact absurd calm hectic
  · cases reply with
    | ok _ => exact Triple.ret (stable_pure _ (registration_own _)) fun _ _ holds => holds.1
    | error error =>
        intro w _ impossible
        cases impossible.2

abbrev Registers (σ : Setting) (email : String) (i : Pid) : Except Exc α → World → Prop :=
  Turned σ email i fun _ => Own i fun s _ => s.committed ≠ none

theorem drain_registers (cache : ArticleCache) (response : Response) :
    (σ.registration email sole).Triple i (Closing i) (drainAfterCommit cache) fun outcome =>
      Registers σ email i (outcome.map fun _ => response) := by
  refine Triple.call (fun callbacks w => Closing i w ∧ callbacks = []) (registration_own _)
    (fun w _ _ => registration_owed w (by simp) (by simp)) (fun w reply w' _ closing step _ => ?_)
    fun callbacks => ?_
  · obtain ⟨c, -, step⟩ := step
    obtain ⟨rfl, rfl⟩ := Prod.mk.inj (Option.some.inj step)
    refine ⟨⟨closing.1, ?_⟩, closing.2⟩
    rw [World.setRequest_requests]
  · cases callbacks with
    | nil => exact Triple.ret (stable_pure _ (registration_own _)) fun _ _ holds => holds.1.1
    | cons callback rest =>
        intro w _ impossible
        cases impossible.2

theorem abort_registers (calm : σ.Calm) (error : Exc) :
    (σ.registration email sole).Triple i
      (Registers σ email i (.error error : Except Exc Response))
      (rollback.bind fun _ => discardAfterCommit) fun outcome =>
        Registers σ email i (afterFailure error outcome : Except Exc Response) := by
  have refusal : (σ.registration email sole).Stable i
      (Registers σ email i (.error error : Except Exc Response)) :=
    stable_pure _ Refused.stable
  refine Triple.call (fun reply w =>
      Registers σ email i (.error error : Except Exc Response) w ∧ reply = .ok ()) refusal
    (fun w _ _ => registration_owed w (by simp) (by simp)) (fun w reply w' _ refused step _ => ?_)
    fun reply => ?_
  · have moved := rollback_exec step
    subst moved
    obtain ⟨c, allowed, step⟩ := step
    refine ⟨⟨⟨?_, ?_⟩, refused.2⟩, ?_⟩
    · rcases rollback_sessions w.db i with same | ended
      · exact own_db same refused.1.1
      · exact own_db ended refused.1.1
    · have rows : (w.db.rollbackStep i).accountsOf email = w.db.accountsOf email := by
        rcases Database.rollbackStep_account w.db i email with same | same <;>
          exact congrArg Account.rows same
      rw [rows]
      exact refused.1.2
    · rw [← (Prod.mk.inj (Option.some.inj step)).1, World.waited, (calm w i _ c allowed).1]
  · cases reply with
    | error failure =>
        intro w _ impossible
        cases impossible.2
    | ok _ =>
        refine Triple.call (fun _ => Registers σ email i (.error error : Except Exc Response))
          (stable_pure _ refusal) (fun w _ _ => registration_owed w (by simp) (by simp))
          (fun w reply w' _ holds step _ => ?_)
          fun _ => Triple.ret refusal fun _ _ refused => refused
        obtain ⟨c, -, step⟩ := step
        obtain ⟨-, rfl⟩ := Prod.mk.inj (Option.some.inj step)
        refine ⟨⟨⟨holds.1.1.1.1, ?_⟩, holds.1.1.2⟩, holds.1.2⟩
        rw [World.setRequest_requests]

theorem serve_registers (calm : σ.Calm) (app : App) {password : String}
    (same : σ.requests i = .register email password) :
    (σ.registration email sole).Triple i (Applying email i)
      (app.serve (.register email password)) (Registers σ email i) := by
  apply getSession_triple app.cache
  · exact Turned.stable fun _ => registration_own _
  · exact untilCommit_registers calm app same
  · exact drain_registers app.cache
  · exact fun error => (abort_registers calm error).mono (fun _ _ turned => turned_raised turned)
      fun _ _ _ ended => ended

theorem Request.registers_of_statements {request : Request} {passwordHash roleName : String}
    (sent : request.statements (.insertUser email passwordHash roleName)) :
    request.registers = some email := by
  cases request with
  | register other password => exact congrArg some sent.symm
  | get id => cases sent
  | list limit after author => cases sent
  | login other password => cases sent
  | _ => exact sent.elim

theorem bystander_triple (app : App) (other : ¬σ.Applies email i) :
    (σ.registration email sole).Triple i (fun _ => True) (app.serve (σ.requests i))
      fun _ _ => True := by
  apply Triple.of_sends (serve_statements app (σ.requests i))
  · exact fun _ _ _ _ _ _ => trivial
  · intro op w sent _ _
    refine ⟨fun passwordHash roleName same => ?_, fun _ applies => absurd applies other⟩
    exact Request.registers_of_statements (sent _ same)
  · exact fun _ _ _ _ _ _ _ _ _ => trivial

end

/-! ## The guarantee -/

section
variable {σ : Setting} {email : String}

theorem Initial.registry {w : World} (start : Initial w) (seeded : "user" ∈ w.db.roles)
    (untaken : w.db.accountsOf email = []) : Registry σ email w := by
  have pending : ∀ i, (w.db.account email).pending i = [] := by
    intro i
    simp [Database.account, Database.transaction, start.sessions i, Session.new, Transaction.new]
  have free : (w.db.account email).holder = none := start.unclaimed email
  refine ⟨⟨fun i nonempty => absurd (pending i) nonempty, fun i held => ?_, fun _ i _ => ?_,
    fun taken => absurd untaken taken⟩, seeded⟩
  · rw [free] at held
    cases held
  · simp [Database.account, start.sessions i, Session.new]

theorem Initial.registers (calm : σ.Calm) (sole : σ.Sole email) (app : App) {w : World}
    (start : Initial w) (seeded : "user" ∈ w.db.roles) (untaken : w.db.accountsOf email = []) :
    (σ.registration email sole).AllSafe
      (fun i outcome w => σ.Applies email i → Registers σ email i outcome w)
      (app.start σ.requests w) := by
  have kept : Registry σ email w := start.registry seeded untaken
  refine ⟨kept, fun i => ?_⟩
  show (σ.registration email sole).Safe i (app.serve (σ.requests i)) _ w
  by_cases applies : σ.Applies email i
  · have same : ∃ password, σ.requests i = .register email password := by
      rw [Setting.Applies] at applies
      cases shape : σ.requests i with
      | register other password =>
          rw [shape] at applies
          obtain rfl := Option.some.inj applies
          exact ⟨password, rfl⟩
      | _ =>
          rw [shape] at applies
          cases applies
    obtain ⟨password, same⟩ := same
    rw [same]
    apply (serve_registers calm app same w kept _).mono fun _ _ _ ended _ => ended
    have fresh := start.fresh i
    refine ⟨⟨fresh.committed, fresh.queue⟩, ?_⟩
    rw [show (w.db.account email).holder = none from start.unclaimed email]
    simp
  · exact (bystander_triple app applies w kept trivial).mono
      fun _ _ _ _ applies' => absurd applies' applies

end

/-- In every run in which nothing fails and somebody's registration of an email that was not
taken has ended: the email has one row, exactly one of the requests that register it has
committed a user, that request succeeds, and every other one fails; and where no `INSERT` runs
while a user with the email is committed, it fails with a conflict. -/
theorem one_registration (σ : Setting) (calm : σ.Calm) {email : String} (sole : σ.Sole email)
    (app : App) {w : World} (start : Initial w) (seeded : "user" ∈ w.db.roles)
    (untaken : w.db.accountsOf email = []) {c : System}
    (run : σ.Reaches (app.start σ.requests w) c) {i : Pid} {outcome : Except Exc Response}
    (applies : σ.Applies email i) (ended : c.outcome i = some outcome) :
    (∃ user, c.state.db.accountsOf email = [user]) ∧ ∃ winner, σ.Applies email winner ∧
      (∀ j, σ.Applies email j → ((c.state.db.sessions j).committed ≠ none ↔ j = winner)) ∧
      (i = winner → ∃ response, outcome = .ok response) ∧
      (i ≠ winner → ∃ error, outcome = .error error ∧ (σ.Unraced email →
        (∃ message, error = .conflict message) ∧ (errorResponse error).status = 409)) := by
  have all := (start.registers calm sole app seeded untaken).steps run
  have single := all.inv.single
  have last : Registers σ email i outcome c.state := all.ended i outcome ended applies
  have taken : c.state.db.accountsOf email ≠ [] := by
    cases outcome with
    | ok response => exact fun none_ => last (single.before none_ i applies)
    | error error => exact last.1.2
  obtain ⟨one, winner, applied, has, only⟩ := single.after taken
  refine ⟨one, winner, applied, fun j other => ⟨only j other, fun same => ?_⟩, fun same => ?_,
    fun different => ?_⟩
  · rw [same]
    exact has
  · subst same
    cases outcome with
    | ok response => exact ⟨response, rfl⟩
    | error error => exact absurd last.1.1.1 has
  · cases outcome with
    | ok response => exact absurd (only i applies last) different
    | error error =>
        refine ⟨error, rfl, fun unraced => ?_⟩
        obtain ⟨message, rfl⟩ := last.2 unraced
        exact ⟨⟨message, rfl⟩, rfl⟩

/-! ## Two registrations -/

theorem Setting.sole_of_expires {σ : Setting} (expires : σ.env = Expires) (email : String) :
    σ.Sole email := by
  intro w w' event
  rw [expires] at event
  obtain ⟨key, entry, -, -, rfl⟩ := event
  rfl

def twoRegistrations : List Request :=
  [.register "dan@example.org" "correct horse", .register "dan@example.org" "battery staple"]

def bothLookUp : List (Pid × Choice) :=
  turns 0 3 {} ++ turns 1 3 {} ++ turns 0 8 { newId := 4 } ++ turns 1 7 { newId := 5 }

/-- Nothing fails, and the second of two registrations ends with the error of the unique index,
which is answered with 500. -/
theorem raced_registration_internal_error : ∃ c : System,
    (Setting.calm (requestsOf twoRegistrations)).Reaches
      (calmService twoRegistrations [ann, bob]) c ∧
      c.outcome 1 = some (.error .integrityError) ∧
      (errorResponse .integrityError).status = 500 := by
  obtain ⟨c, run, failed⟩ := (Setting.calm (requestsOf twoRegistrations)).exists_replay calmChoice
    (fun _ _ _ _ checked => checked) (calmService twoRegistrations [ann, bob]) bothLookUp
    (fun c => failedWith c 1 .integrityError) (by decide +kernel)
  exact ⟨c, run, outcome_of_failedWith failed, rfl⟩

def unracedChoice (w : World) (_ : Pid) (op : Op) (_ : Choice) : Bool :=
  match op with
  | .mysql (.insertUser email _ _) => (w.db.accountsOf email).isEmpty
  | _ => true

def Setting.unraced (requests : Pid → Request) : Setting :=
  ⟨requests, fun w i op c => (calmChoice w i op c && unracedChoice w i op c) = true, Expires,
    fun _ _ => Expires.outside⟩

theorem Setting.unraced_calm (requests : Pid → Request) : (Setting.unraced requests).Calm := by
  intro w i op c allowed
  exact Setting.calm_calm requests w i op c (Bool.and_eq_true_iff.mp allowed).1

theorem Setting.unraced_unraced (requests : Pid → Request) (email : String) :
    (Setting.unraced requests).Unraced email := by
  intro w i passwordHash roleName c allowed _
  have checked := (Bool.and_eq_true_iff.mp allowed).2
  simpa [unracedChoice] using checked

/-- One registration after the other. -/
theorem one_registration_of_two : ∃ (c : System) (error : Exc),
    (Setting.unraced (requestsOf twoRegistrations)).Reaches
      (calmService twoRegistrations [ann, bob]) c ∧
      c.outcome 1 = some (.error error) ∧ (errorResponse error).status = 409 ∧
      (∃ user, c.state.db.accountsOf "dan@example.org" = [user]) ∧
      ∃ winner, 1 ≠ winner ∧ (c.state.db.sessions winner).committed ≠ none := by
  obtain ⟨c, run, failed⟩ := (Setting.unraced (requestsOf twoRegistrations)).exists_replay
    (fun w i op c => calmChoice w i op c && unracedChoice w i op c)
    (fun _ _ _ _ checked => checked) (calmService twoRegistrations [ann, bob])
    (turns 0 11 { newId := 4 } ++ turns 1 5 {})
    (fun c => failedWith c 1 (.conflict "A user with this email already exists."))
    (by decide +kernel)
  have ended := outcome_of_failedWith failed
  have applies : (Setting.unraced (requestsOf twoRegistrations)).Applies "dan@example.org" 1 := rfl
  obtain ⟨one, winner, applied, only, won, lost⟩ := one_registration _ (Setting.unraced_calm _)
    (Setting.sole_of_expires rfl "dan@example.org") _ (World.fresh_initial _ (by decide))
    (by decide) (by decide) run applies ended
  have different : 1 ≠ winner := by
    intro same
    obtain ⟨response, impossible⟩ := won same
    cases impossible
  obtain ⟨error, same, conflict⟩ := lost different
  obtain ⟨-, status⟩ := conflict (Setting.unraced_unraced _ _)
  rw [same] at ended
  exact ⟨c, error, run, ended, status, one, winner, different, (only winner applied).mpr rfl⟩

end ContentPlatform
