import ContentPlatform.Api.Accounts
import ContentPlatform.Schemas
import ContentPlatform.World.Returned
import Mathlib.Data.List.Nodup

/-!
# What registers can log in

One request against the table of users, which grows by the accounts of other requests at any
time.  MySQL compares emails under a collation.
-/

set_option autoImplicit false

namespace ContentPlatform

open Program Py Prog Text

/-- The libraries behind an account: Argon2, PyJWT and the collation of `users.email`. -/
structure AccountLibrary extends AuthRules where
  /-- `hashes password passwordHash`: verification accepts the password. -/
  hashes : String → String → Prop
  hashable : ∀ password, ∃ passwordHash, hashes password passwordHash
  token : String → String → DateTime → String
  /-- The `sub` of a token. -/
  subject : String → Option String
  subject_token : ∀ sub role issuedAt, subject (token sub role issuedAt) = some sub
  /-- Two emails are the same to MySQL if their keys are. -/
  key : String → String

/-- The committed rows, and those of the request's own transaction. -/
structure UserTable where
  committed : List UserRow
  pending : List UserRow

namespace UserTable

def rows (t : UserTable) : List UserRow := t.committed ++ t.pending

/-- The primary key and `uq_users_email`. -/
structure Unique (key : String → String) (t : UserTable) : Prop where
  ids : (t.rows.map UserRow.id).Nodup
  emails : (t.rows.map fun row => key row.email).Nodup

def lookup (key : String → String) (t : UserTable) (email : String) : Option ℤ :=
  (t.rows.find? fun row => key row.email == key email).map UserRow.id

structure Grows (key : String → String) (t t' : UserTable) : Prop where
  committed : t.committed ⊆ t'.committed
  pending : t'.pending = t.pending
  unique : t'.Unique key

variable {key : String → String} {t t' : UserTable}

theorem Grows.rows (grows : Grows key t t') : t.rows ⊆ t'.rows := by
  intro row member
  rcases List.mem_append.mp member with old | own
  · exact List.mem_append_left _ (grows.committed old)
  · exact List.mem_append_right _ (by rw [grows.pending]; exact own)

theorem Unique.grows (unique : t.Unique key) : Grows key t t :=
  ⟨fun _ member => member, rfl, unique⟩

theorem Unique.same_id (unique : t.Unique key) {row row' : UserRow} (member : row ∈ t.rows)
    (member' : row' ∈ t.rows) (same : row.id = row'.id) : row = row' :=
  List.inj_on_of_nodup_map unique.ids member member' same

theorem Unique.same_email (unique : t.Unique key) {row row' : UserRow} (member : row ∈ t.rows)
    (member' : row' ∈ t.rows) (same : key row.email = key row'.email) : row = row' :=
  List.inj_on_of_nodup_map unique.emails member member' same

theorem lookup_some {email : String} {id : ℤ} (found : t.lookup key email = some id) :
    ∃ row ∈ t.rows, row.id = id ∧ key row.email = key email := by
  obtain ⟨row, first, rfl⟩ := Option.map_eq_some_iff.mp found
  exact ⟨row, List.mem_of_find?_eq_some first, rfl, by simpa using List.find?_some first⟩

theorem lookup_none {email : String} (missed : t.lookup key email = none) :
    ∀ row ∈ t.rows, key row.email ≠ key email := by
  intro row member
  have none := Option.map_eq_none_iff.mp missed
  simpa using List.find?_eq_none.mp none row member

end UserTable

section
variable (lib : AccountLibrary)

/-- The answers of the libraries and of MySQL; any statement, and the commit, may fail.  What else
a request asks is answered in any way. -/
def LibraryAnswers : (op : Op) → UserTable → op.Reply → UserTable → Prop
  | .mysql (.selectUserByEmail email), t, reply, t' =>
      t' = t ∧ ∀ found, reply = .ok found → found = t.lookup lib.key email
  | .mysql (.insertUser email passwordHash roleName), t, reply, t' =>
      (∃ error, reply = .error error ∧ t' = t) ∨
        ∃ id, reply = .ok id ∧
          t' = { t with pending := t.pending ++ [⟨id, email, passwordHash, roleName⟩] } ∧
          t'.Unique lib.key
  | .commit, t, reply, t' =>
      (∃ error, reply = .error error ∧ t' = t) ∨ (reply = .ok () ∧ t' = ⟨t.rows, []⟩)
  | .rollback, t, _, t' => t' = ⟨t.committed, []⟩
  | .userAttributes id, t, reply, t' =>
      t' = t ∧ ∀ row, reply = .ok row → row ∈ t.rows ∧ row.id = id
  | .hashPassword password, t, reply, t' =>
      t' = t ∧ ∀ passwordHash, reply = .ok passwordHash → lib.hashes password passwordHash
  | .verifyPassword password passwordHash, t, reply, t' =>
      t' = t ∧ ∀ fits, reply = .ok fits → (fits = true ↔ lib.hashes password passwordHash)
  | .encodeToken sub role issuedAt, t, reply, t' =>
      t' = t ∧ reply = lib.token sub role issuedAt
  | _, t, _, t' => t' = t

def Meets (op : Op) (t : UserTable) (reply : op.Reply) (t' : UserTable) : Prop :=
  ∃ t₁, t.Grows lib.key t₁ ∧ LibraryAnswers lib op t₁ reply t'

def Op.Succeeds : (op : Op) → op.Reply → Prop
  | .mysql _, reply => ∃ value, reply = .ok value
  | .commit, reply | .rollback, reply => reply = .ok ()
  | .userAttributes _, reply => ∃ row, reply = .ok row
  | .hashPassword _, reply => ∃ passwordHash, reply = .ok passwordHash
  | .verifyPassword _ _, reply => ∃ fits, reply = .ok fits
  | .breakerAllow _, reply => reply = true
  | .popAfterCommit, reply => reply = []
  | _, _ => True

def MeetsCalmly (op : Op) (t : UserTable) (reply : op.Reply) (t' : UserTable) : Prop :=
  Meets lib op t reply t' ∧ op.Succeeds reply

end

section
variable {lib : AccountLibrary} {t t' : UserTable} {α : Type}

def Op.leavesTable : Op → Bool
  | .mysql (.insertUser _ _ _) | .commit | .rollback => false
  | _ => true

theorem LibraryAnswers.left {op : Op} {reply : op.Reply} (leaves : op.leavesTable = true)
    (answer : LibraryAnswers lib op t reply t') : t' = t := by
  cases op with
  | mysql statement =>
      cases statement with
      | selectUserByEmail email => exact answer.1
      | insertUser email passwordHash roleName => cases leaves
      | _ => exact answer
  | commit => cases leaves
  | rollback => cases leaves
  | userAttributes id => exact answer.1
  | hashPassword password => exact answer.1
  | verifyPassword password passwordHash => exact answer.1
  | encodeToken sub role issuedAt => exact answer.1
  | _ => exact answer

theorem Meets.grows {op : Op} {reply : op.Reply} (leaves : op.leavesTable = true)
    (step : Meets lib op t reply t') : t.Grows lib.key t' := by
  obtain ⟨t₁, grows, answer⟩ := step
  rw [answer.left leaves]
  exact grows

theorem Meets.committed {op : Op} {reply : op.Reply} (step : Meets lib op t reply t') :
    t.committed ⊆ t'.committed := by
  by_cases leaves : op.leavesTable = true
  · exact (step.grows leaves).committed
  obtain ⟨t₁, grows, answer⟩ := step
  cases op with
  | mysql statement =>
      cases statement with
      | insertUser email passwordHash roleName =>
          rcases answer with ⟨_, -, rfl⟩ | ⟨id, -, rfl, -⟩ <;> exact grows.committed
      | _ => exact absurd rfl leaves
  | commit =>
      rcases answer with ⟨_, -, rfl⟩ | ⟨-, rfl⟩
      · exact grows.committed
      · exact fun row member => List.mem_append_left _ (grows.committed member)
  | rollback =>
      obtain rfl := answer
      exact grows.committed
  | _ => exact absurd rfl leaves

instance : Evolves (Meets lib) (fun t t' => t.committed ⊆ t'.committed) where
  refl _ := fun _ member => member
  trans first second := fun _ member => second (first member)
  step step := step.committed

/-! ## Registration -/

def Registered (lib : AccountLibrary) (email password : String) (id : ℤ) (t : UserTable) : Prop :=
  t.Unique lib.key ∧ ∃ row ∈ t.rows, row.id = id ∧ row.email = email ∧
    lib.hashes password row.passwordHash

variable {email password : String} {id : ℤ}

theorem Registered.grows (registered : Registered lib email password id t)
    (grows : t.Grows lib.key t') : Registered lib email password id t' := by
  obtain ⟨-, row, member, same⟩ := registered
  exact ⟨grows.unique, row, grows.rows member, same⟩

/-- The answer to a registration tells of a row of the table. -/
def AccountOf (lib : AccountLibrary) (email password : String) (response : Response)
    (rows : List UserRow) : Prop :=
  ∃ row ∈ rows, response = .user ⟨row.id, row.email, row.roleName⟩ ∧ row.email = email ∧
    lib.hashes password row.passwordHash

abbrev Returns (lib : AccountLibrary) (p : Py α) (Q : α → UserTable → Prop) (t : UserTable) :
    Prop :=
  Yields (Meets lib) (fun t t' => t.committed ⊆ t'.committed) p Q t

theorem returns_create (rt : Runtime) {passwordHash roleName : String}
    (hashed : lib.hashes password passwordHash) :
    Returns lib (UserRepository.create rt email passwordHash roleName)
      (Registered lib email password) t := by
  apply yields_guardedWrite (Q := Registered lib email password)
  · intro s' _
    apply Yields.skip
    intro role s'' _
    apply Yields.call
    rintro reply t' ⟨t₁, -, answer⟩
    rcases answer with ⟨error, rfl, -⟩ | ⟨id, rfl, rfl, unique⟩
    · exact Yields.raise error
    · apply Yields.ret
      exact ⟨unique, ⟨id, email, passwordHash, role⟩, by simp [UserTable.rows], rfl, rfl, hashed⟩
  · intro id t t' step registered
    exact registered.grows (step.grows rfl)

theorem returns_register (app : App) :
    Returns lib (app.handler (.register email password))
      (fun response t => AccountOf lib email password response t.rows ∧ t.Unique lib.key) t := by
  apply Yields.bind (Q := Registered lib email password)
  · apply Yields.skip
    intro found t₁ _
    cases found with
    | some user => exact Yields.raise _
    | none =>
        apply Yields.call
        rintro reply t₂ ⟨t₃, -, -, made⟩
        cases reply with
        | error error => exact Yields.raise error
        | ok passwordHash => exact returns_create app.rt (made passwordHash rfl)
  · intro id t₁ _ registered
    apply Yields.call
    intro reply t₂ step
    have later := registered.grows (step.grows rfl)
    obtain ⟨t₃, -, same, read⟩ := step
    cases reply with
    | error error => exact Yields.raise error
    | ok row =>
        obtain ⟨unique, own, member, identity, mail, hashed⟩ := later
        have known := read row rfl
        rw [← same] at known
        obtain rfl := unique.same_id member known.1 (identity.trans known.2.symm)
        exact Yields.ret ⟨⟨own, member, rfl, mail, hashed⟩, unique⟩

/-- Once a registration has succeeded, its account is committed. -/
theorem returns_registered (app : App) (payload : RegisterIn) :
    Returns lib (app.register payload) (fun response t =>
      AccountOf lib payload.email payload.password response t.committed) t := by
  apply yields_getSession (returns_register app)
  · rintro response t t' ⟨t₁, grows, answer⟩ ⟨⟨row, member, same⟩, -⟩
    rcases answer with ⟨_, ⟨⟩, -⟩ | ⟨-, rfl⟩
    exact ⟨row, grows.rows member, same⟩
  · rintro response t t' later ⟨row, member, same⟩
    exact ⟨row, later member, same⟩

/-! ## Login -/

section
variable {own : UserRow} {post : Except Exc α → UserTable → Prop}

structure Stands (lib : AccountLibrary) (own : UserRow) (t : UserTable) : Prop where
  unique : t.Unique lib.key
  member : own ∈ t.committed

theorem Stands.grows (stands : Stands lib own t) (grows : t.Grows lib.key t') :
    Stands lib own t' := ⟨grows.unique, grows.committed stands.member⟩

theorem ends_calm {op : Op} {next : op.Reply → Py α} (leaves : op.leavesTable = true)
    (unique : t.Unique lib.key)
    (answered : ∃ reply, LibraryAnswers lib op t reply t ∧ op.Succeeds reply)
    (rest : ∀ reply t', t.Grows lib.key t' → LibraryAnswers lib op t' reply t' → op.Succeeds reply →
      Ends (MeetsCalmly lib) (next reply) post t') :
    Ends (MeetsCalmly lib) (.call op next) post t := by
  apply Ends.call
  · obtain ⟨reply, answer, succeeds⟩ := answered
    exact ⟨reply, t, ⟨t, unique.grows, answer⟩, succeeds⟩
  · rintro reply t' ⟨⟨t₁, grows, answer⟩, succeeds⟩
    obtain rfl := answer.left leaves
    exact rest reply _ grows answer succeeds

def LooksUp (lib : AccountLibrary) (own : UserRow) (email : String) : Option ℤ → UserTable → Prop
  | some id, t => Stands lib own t ∧
      ∃ row ∈ t.committed, row.id = id ∧ lib.key row.email = lib.key email
  | none, t => Stands lib own t ∧ lib.key own.email ≠ lib.key email

theorem LooksUp.grows {email : String} {found : Option ℤ} (holds : LooksUp lib own email found t)
    (grows : t.Grows lib.key t') : LooksUp lib own email found t' := by
  cases found with
  | none => exact ⟨holds.1.grows grows, holds.2⟩
  | some id =>
      obtain ⟨stands, row, member, same⟩ := holds
      exact ⟨stands.grows grows, row, grows.committed member, same⟩

theorem ends_getByEmail (rt : Runtime) (stands : Stands lib own t) (idle : t.pending = []) :
    Ends (MeetsCalmly lib) (UserRepository.getByEmail rt email)
      (fun outcome t' => ∃ found, outcome = .ok found ∧ LooksUp lib own email found t') t := by
  apply ends_guardedCall (Q := LooksUp lib own email)
  · exact ⟨true, t, ⟨t, stands.unique.grows, rfl⟩, rfl⟩
  · rintro reply t₁ ⟨step, admitted⟩
    refine ⟨admitted, ?_⟩
    have grows := step.grows rfl
    have stands₁ := stands.grows grows
    have idle₁ : t₁.pending = [] := grows.pending.trans idle
    apply ends_calm rfl stands₁.unique
    · exact ⟨.ok (t₁.lookup lib.key email), ⟨rfl, fun _ same => (Except.ok.inj same).symm⟩, _, rfl⟩
    · rintro reply t₂ grows₂ answer ⟨found, rfl⟩
      have idle₂ : t₂.pending = [] := grows₂.pending.trans idle₁
      have rows : t₂.rows = t₂.committed := by rw [UserTable.rows, idle₂, List.append_nil]
      have looked : found = t₂.lookup lib.key email := answer.2 found rfl
      refine Ends.ret ⟨found, rfl, ?_⟩
      have stands₂ := stands₁.grows grows₂
      cases found with
      | none =>
          refine ⟨stands₂, UserTable.lookup_none looked.symm own ?_⟩
          rw [rows]
          exact stands₂.member
      | some id =>
          obtain ⟨row, member, same⟩ := UserTable.lookup_some looked.symm
          rw [rows] at member
          exact ⟨stands₂, row, member, same⟩
  · intro found t₁ holds
    have unique : t₁.Unique lib.key := by cases found <;> exact holds.1.unique
    exact ⟨(), t₁, ⟨t₁, unique.grows, rfl⟩, trivial⟩
  · rintro found t₁ t₂ ⟨step, -⟩ holds
    exact holds.grows (step.grows rfl)

inductive LoginEnds (lib : AccountLibrary) (own : UserRow) (email password : String) :
    Except Exc String → UserTable → Prop
  | issued {t : UserTable} {row : UserRow} {issuedAt : DateTime} (member : row ∈ t.committed)
      (same : lib.key row.email = lib.key email) (fits : lib.hashes password row.passwordHash) :
      LoginEnds lib own email password
        (.ok (lib.token (toString row.id) row.roleName issuedAt)) t
  | wrong {t : UserTable} {row : UserRow} {error : Exc} (member : row ∈ t.committed)
      (same : lib.key row.email = lib.key email) (unfit : ¬lib.hashes password row.passwordHash) :
      LoginEnds lib own email password (.error error) t
  | unknown {t : UserTable} {error : Exc} (missed : lib.key own.email ≠ lib.key email) :
      LoginEnds lib own email password (.error error) t

theorem verified (lib : AccountLibrary) (password passwordHash : String) :
    ∃ fits : Bool, fits = true ↔ lib.hashes password passwordHash := by
  by_cases fits : lib.hashes password passwordHash
  · exact ⟨true, by simp [fits]⟩
  · exact ⟨false, by simp [fits]⟩

theorem ends_attributes {row : UserRow} {next : Except Exc UserRow → Py α}
    (stands : Stands lib own t) (member : row ∈ t.committed)
    (rest : ∀ t', Stands lib own t' → row ∈ t'.committed →
      Ends (MeetsCalmly lib) (next (.ok row)) post t') :
    Ends (MeetsCalmly lib) (.call (.userAttributes row.id) next) post t := by
  have among : row ∈ t.rows := List.mem_append_left _ member
  apply ends_calm rfl stands.unique
  · refine ⟨.ok row, ⟨rfl, ?_⟩, row, rfl⟩
    rintro _ ⟨⟩
    exact ⟨among, rfl⟩
  · rintro reply t' grows answer ⟨row', rfl⟩
    have known := answer.2 row' rfl
    obtain rfl := grows.unique.same_id known.1 (grows.rows among) known.2
    exact rest t' (stands.grows grows) (grows.committed member)

theorem ends_verify {passwordHash : String} {next : Except Exc Bool → Py α}
    (stands : Stands lib own t)
    (rest : ∀ fits t', t.Grows lib.key t' → Stands lib own t' →
      (fits = true ↔ lib.hashes password passwordHash) →
      Ends (MeetsCalmly lib) (next (.ok fits)) post t') :
    Ends (MeetsCalmly lib) (.call (.verifyPassword password passwordHash) next) post t := by
  apply ends_calm rfl stands.unique
  · obtain ⟨fits, exact⟩ := verified lib password passwordHash
    refine ⟨.ok fits, ⟨rfl, ?_⟩, fits, rfl⟩
    rintro _ ⟨⟩
    exact exact
  · rintro reply t' grows answer ⟨fits, rfl⟩
    exact rest fits t' grows (stands.grows grows) (answer.2 fits rfl)

abbrev LoggedIn (lib : AccountLibrary) (own : UserRow) (email password : String)
    (outcome : Except Exc String) (t : UserTable) : Prop :=
  Stands lib own t ∧ LoginEnds lib own email password outcome t

theorem ends_createAccessToken {row : UserRow} (stands : Stands lib own t)
    (member : row ∈ t.committed) (same : lib.key row.email = lib.key email)
    (fits : lib.hashes password row.passwordHash) :
    Ends (MeetsCalmly lib) (do
      let issuedAt ← utcnow
      .call (.encodeToken (toString row.id) row.roleName issuedAt) .ret : Py String)
      (LoggedIn lib own email password) t := by
  apply ends_calm rfl stands.unique
  · exact ⟨epoch, rfl, trivial⟩
  · intro issuedAt t₁ grows₁ _ _
    have stands₁ := stands.grows grows₁
    apply ends_calm rfl stands₁.unique
    · exact ⟨_, ⟨rfl, rfl⟩, trivial⟩
    · rintro _ t₂ grows₂ ⟨-, rfl⟩ _
      have member₂ : row ∈ t₂.committed := grows₂.committed (grows₁.committed member)
      exact Ends.ret ⟨stands₁.grows grows₂, .issued member₂ same fits⟩

/-- The password is verified against the row, and its id and role make the token. -/
theorem ends_known {row : UserRow} (stands : Stands lib own t) (member : row ∈ t.committed)
    (same : lib.key row.email = lib.key email) :
    Ends (MeetsCalmly lib) (do
      if ← verifyPassword password (← userAttributes row.id).passwordHash then
        let sub := toString (← userAttributes row.id).id
        let role := (← userAttributes row.id).roleName
        let issuedAt ← utcnow
        .call (.encodeToken sub role issuedAt) .ret
      else
        .raise (.unauthenticated "Invalid email or password.") : Py String)
      (LoggedIn lib own email password) t := by
  apply ends_attributes stands member
  intro t₁ stands₁ member₁
  apply ends_verify stands₁
  intro fits t₂ grows₂ stands₂ exact
  have member₂ : row ∈ t₂.committed := grows₂.committed member₁
  cases fits with
  | false =>
      have unfit : ¬lib.hashes password row.passwordHash := by
        intro hashed
        cases exact.mpr hashed
      exact Ends.raise ⟨stands₂, .wrong member₂ same unfit⟩
  | true =>
      apply ends_attributes stands₂ member₂
      intro t₃ stands₃ member₃
      apply ends_attributes stands₃ member₃
      intro t₄ stands₄ member₄
      exact ends_createAccessToken stands₄ member₄ same (exact.mp rfl)

/-- No row has the email, and the time of a verification is spent all the same. -/
theorem ends_unknown (stands : Stands lib own t) (missed : lib.key own.email ≠ lib.key email) :
    Ends (MeetsCalmly lib) (do
      let _ ← verifyPassword password (← dummyHash)
      .raise (.unauthenticated "Invalid email or password.") : Py String)
      (LoggedIn lib own email password) t := by
  have verifies : ∀ (passwordHash : String) (t₁ : UserTable), Stands lib own t₁ →
      Ends (MeetsCalmly lib) (do
        let _ ← verifyPassword password passwordHash
        .raise (.unauthenticated "Invalid email or password.") : Py String)
        (LoggedIn lib own email password) t₁ := by
    intro passwordHash t₁ stands₁
    apply ends_verify stands₁
    intro fits t₂ _ stands₂ _
    exact Ends.raise ⟨stands₂, .unknown missed⟩
  apply ends_calm rfl stands.unique
  · exact ⟨none, rfl, trivial⟩
  · intro hash t₁ grows₁ _ _
    have stands₁ := stands.grows grows₁
    cases hash with
    | some hash => exact verifies hash t₁ stands₁
    | none =>
        apply ends_calm rfl stands₁.unique
        · obtain ⟨hash, hashed⟩ := lib.hashable "timing-equalizer-not-a-real-password"
          refine ⟨.ok hash, ⟨rfl, ?_⟩, hash, rfl⟩
          rintro _ ⟨⟩
          exact hashed
        · rintro reply t₂ grows₂ _ ⟨hash, rfl⟩
          have stands₂ := stands₁.grows grows₂
          apply ends_calm rfl stands₂.unique
          · exact ⟨(), rfl, trivial⟩
          · intro _ t₃ grows₃ _ _
            exact verifies hash t₃ (stands₂.grows grows₃)

theorem ends_login (rt : Runtime) (stands : Stands lib own t) (idle : t.pending = []) :
    Ends (MeetsCalmly lib) (AuthService.login rt email password)
      (LoggedIn lib own email password) t := by
  apply (ends_getByEmail rt stands idle).bind
  · rintro found t₁ ⟨_, ⟨⟩, holds⟩
    cases found with
    | some id =>
        obtain ⟨stands₁, row, member, rfl, same⟩ := holds
        exact ends_known stands₁ member same
    | none => exact ends_unknown holds.1 holds.2
  · rintro error t₁ ⟨_, ⟨⟩, _⟩

/-! ### The session around it -/

theorem LoginEnds.later {outcome : Except Exc String}
    (ended : LoginEnds lib own email password outcome t) (later : t.committed ⊆ t'.committed) :
    LoginEnds lib own email password outcome t' := by
  cases ended with
  | issued member same fits => exact .issued (later member) same fits
  | wrong member same unfit => exact .wrong (later member) same unfit
  | unknown missed => exact .unknown missed

inductive LoginAnswered (lib : AccountLibrary) (own : UserRow) (email password : String) :
    Except Exc Response → UserTable → Prop
  | token {t : UserTable} {token : String}
      (ended : LoginEnds lib own email password (.ok token) t) :
      LoginAnswered lib own email password (.ok (.token token)) t
  | refused {t : UserTable} {error : Exc}
      (ended : LoginEnds lib own email password (.error error) t) :
      LoginAnswered lib own email password (.error error) t

theorem LoginAnswered.later {outcome : Except Exc Response}
    (answered : LoginAnswered lib own email password outcome t)
    (later : t.committed ⊆ t'.committed) : LoginAnswered lib own email password outcome t' := by
  cases answered with
  | token ended => exact .token (ended.later later)
  | refused ended => exact .refused (ended.later later)

theorem UserTable.Unique.closed (unique : t.Unique lib.key) :
    (⟨t.rows, []⟩ : UserTable).Unique lib.key := by
  have same : (⟨t.rows, []⟩ : UserTable).rows = t.rows := List.append_nil _
  constructor
  · rw [same]
    exact unique.ids
  · rw [same]
    exact unique.emails

theorem UserTable.Unique.dropped (unique : t.Unique lib.key) :
    (⟨t.committed, []⟩ : UserTable).Unique lib.key := by
  have fewer : (⟨t.committed, []⟩ : UserTable).rows.Sublist t.rows := by
    simp [UserTable.rows]
  exact ⟨unique.ids.sublist (fewer.map _), unique.emails.sublist (fewer.map _)⟩

theorem ends_commit (stands : Stands lib own t) :
    Ends (MeetsCalmly lib) commit (fun outcome t' =>
      outcome = .ok () ∧ t.committed ⊆ t'.committed ∧ Stands lib own t') t := by
  apply Ends.call
  · exact ⟨.ok (), ⟨t.rows, []⟩, ⟨t, stands.unique.grows, Or.inr ⟨rfl, rfl⟩⟩, rfl⟩
  · rintro reply t' ⟨⟨t₁, grows, answer⟩, succeeded⟩
    have done : reply = .ok () := succeeded
    subst done
    rcases answer with ⟨_, ⟨⟩, -⟩ | ⟨-, rfl⟩
    have kept : t.committed ⊆ t₁.rows := fun row member =>
      List.mem_append_left _ (grows.committed member)
    exact Ends.ret ⟨rfl, kept, grows.unique.closed, kept stands.member⟩

theorem ends_rollback (stands : Stands lib own t) :
    Ends (MeetsCalmly lib) rollback (fun outcome t' =>
      outcome = .ok () ∧ t.committed ⊆ t'.committed ∧ Stands lib own t') t := by
  apply Ends.call
  · exact ⟨.ok (), ⟨t.committed, []⟩, ⟨t, stands.unique.grows, rfl⟩, rfl⟩
  · rintro reply t' ⟨⟨t₁, grows, answer⟩, succeeded⟩
    have done : reply = .ok () := succeeded
    subst done
    obtain rfl := answer
    exact Ends.ret ⟨rfl, grows.committed, grows.unique.dropped, grows.committed stands.member⟩

/-- There is nothing in the queue of a login. -/
theorem ends_popAfterCommit {next : List Invalidation → Py α} (stands : Stands lib own t)
    (rest : ∀ t', t.committed ⊆ t'.committed → Stands lib own t' →
      Ends (MeetsCalmly lib) (next []) post t') :
    Ends (MeetsCalmly lib) (.call .popAfterCommit next) post t := by
  apply ends_calm rfl stands.unique
  · exact ⟨[], rfl, rfl⟩
  · intro callbacks t' grows _ empty
    have nothing : callbacks = [] := empty
    subst nothing
    exact rest t' grows.committed (stands.grows grows)

theorem ends_served (app : App) (stands : Stands lib own t) (idle : t.pending = []) :
    Ends (MeetsCalmly lib) (app.serve (.login email password)) (fun outcome t' =>
      Stands lib own t' ∧ LoginAnswered lib own email password outcome t') t := by
  have handled : Ends (MeetsCalmly lib) (app.handler (.login email password))
      (fun outcome t' => Stands lib own t' ∧ LoginAnswered lib own email password outcome t')
      t := by
    apply (ends_login app.rt stands idle).bind
    · rintro token t₁ ⟨stands₁, ended⟩
      exact Ends.ret ⟨stands₁, .token ended⟩
    · rintro error t₁ ⟨stands₁, ended⟩
      exact ⟨stands₁, .refused ended⟩
  have whole : Ends (MeetsCalmly lib) (untilCommit (app.handler (.login email password)))
      (fun outcome t' => Stands lib own t' ∧ LoginAnswered lib own email password outcome t')
      t := by
    apply handled.bind
    · rintro response t₁ ⟨stands₁, answered⟩
      apply (ends_commit stands₁).bind
      · rintro _ t₂ ⟨-, kept, stands₂⟩
        exact Ends.ret ⟨stands₂, answered.later kept⟩
      · rintro error t₂ ⟨⟨⟩, _⟩
    · rintro error t₁ failed
      exact failed
  apply Ends.attempt_bind whole
  rintro outcome t₁ ⟨stands₁, answered⟩
  cases outcome with
  | ok response =>
      apply ends_popAfterCommit stands₁
      intro t₂ kept stands₂
      exact Ends.ret ⟨stands₂, answered.later kept⟩
  | error error =>
      apply (ends_rollback stands₁).bind
      · rintro _ t₂ ⟨-, kept, stands₂⟩
        apply ends_popAfterCommit stands₂
        intro t₃ kept' stands₃
        exact Ends.raise ⟨stands₃, answered.later fun _ member => kept' (kept member)⟩
      · rintro _ t₂ ⟨⟨⟩, _⟩

/-- A login that asks when nothing fails is answered with a token of this account. -/
def LogsIn (lib : AccountLibrary) (app : App) (email password : String) (out : UserOut)
    (t : UserTable) : Prop :=
  Ends (MeetsCalmly lib) (app.login (LoginIn.validate lib.toAuthRules email password))
    (fun outcome _ => ∃ token, outcome = .ok (.token token) ∧
      lib.subject token = some (toString out.id)) t

theorem toString_injective {a b : ℤ} (same : toString a = toString b) : a = b := by
  apply intChars_injective
  unfold intChars
  rw [same]

/-- Whoever has an account is let in under the emails that MySQL takes for the one of its row. -/
theorem logsIn_iff (app : App) (stands : Stands lib own t) (idle : t.pending = [])
    (hashed : lib.hashes password own.passwordHash) {out : UserOut} (identity : out.id = own.id) :
    LogsIn lib app email password out t ↔ lib.key own.email = lib.key (lib.lower email) := by
  have served : Ends (MeetsCalmly lib) (app.serve (.login (lib.lower email) password))
      (fun outcome t' => Stands lib own t' ∧
        LoginAnswered lib own (lib.lower email) password outcome t') t :=
    ends_served app stands idle
  constructor
  · intro logsIn
    obtain ⟨outcome, t', run⟩ := logsIn.live.exists_runs
    obtain ⟨token, rfl, subject⟩ := logsIn.of_runs run
    obtain ⟨stands', answered⟩ := served.of_runs run
    cases answered with
    | token ended =>
        cases ended with
        | @issued _ row issuedAt member same fits =>
            rw [lib.subject_token] at subject
            have id : row.id = own.id :=
              (toString_injective (Option.some.inj subject)).trans identity
            have found : row = own := stands'.unique.same_id (List.mem_append_left _ member)
              (List.mem_append_left _ stands'.member) id
            rw [← found]
            exact same
  · intro found
    apply Ends.mono served
    rintro outcome t' ⟨stands', answered⟩
    have unique : ∀ row ∈ t'.committed, lib.key row.email = lib.key (lib.lower email) →
        row = own := by
      intro row member same
      exact stands'.unique.same_email (List.mem_append_left _ member)
        (List.mem_append_left _ stands'.member) (same.trans found.symm)
    cases answered with
    | token ended =>
        cases ended with
        | @issued _ row issuedAt member same fits =>
            refine ⟨_, rfl, ?_⟩
            rw [lib.subject_token, unique row member same, identity]
    | refused ended =>
        cases ended with
        | wrong member same unfit =>
            rw [unique _ member same] at unfit
            exact absurd hashed unfit
        | unknown missed => exact absurd found missed

end

end

/-! ## The guarantee -/

structure UserTable.Opens (key : String → String) (t t' : UserTable) : Prop where
  committed : t.committed ⊆ t'.committed
  idle : t'.pending = []
  unique : t'.Unique key

/-- The collation takes a text and its lower case for the same. -/
def AccountLibrary.Folds (lib : AccountLibrary) : Prop :=
  ∀ text, lib.key (lib.lower text) = lib.key text

/-- `EmailStr` changes no more of a text than the collation ignores. -/
def AccountLibrary.Keeps (lib : AccountLibrary) (email : String) : Prop :=
  ∀ address, lib.emailStr email = some address → lib.key address = lib.key email

/-- Who registers with an email and a password can log in with them if and only if the address that
`EmailStr` makes of the email is the email itself, as MySQL compares them. -/
theorem login_after_register_iff (lib : AccountLibrary) (folds : lib.Folds) (app : App)
    {email password : String} {payload : RegisterIn}
    (accepted : RegisterIn.validate lib.toAuthRules email password = some payload)
    {t t₁ t₂ : UserTable} {out : UserOut}
    (registered : Runs (Meets lib) (app.register payload) t (.ok (.user out)) t₁)
    (opens : t₁.Opens lib.key t₂) :
    LogsIn lib app email password out t₂ ↔ lib.Keeps email := by
  obtain ⟨address, valid, mail, secret⟩ := RegisterIn.validate_some lib.toAuthRules accepted
  have returns : Returns lib (app.register payload) (fun response t =>
      AccountOf lib payload.email payload.password response t.committed) t :=
    returns_registered app payload
  obtain ⟨row, member, same, stored, hashed⟩ := returns.of_runs registered
  have identity : out.id = row.id := congrArg UserOut.id (Response.user.inj same)
  have stands : Stands lib row t₂ := ⟨opens.unique, opens.committed member⟩
  rw [secret] at hashed
  rw [logsIn_iff app stands opens.idle hashed identity, stored, mail, folds, folds]
  constructor
  · intro kept other again
    rw [Option.some.inj (again.symm.trans valid)]
    exact kept
  · intro keeps
    exact keeps address valid

/-! ## A blank before the address -/

theorem toLower_toLower (c : Char) : c.toLower.toLower = c.toLower := by
  by_cases upper : c.isUpper = true
  · have range : 65 ≤ c.toNat ∧ c.toNat ≤ 90 := toNat_of_isUpper upper
    have letters : ∀ n < 91, 65 ≤ n → (Char.ofNat n).toLower.toLower = (Char.ofNat n).toLower := by
      decide
    have letter := letters c.toNat (by omega) range.1
    rwa [Char.ofNat_toNat] at letter
  · have kept : c.toLower = c := dif_neg fun range => upper (decide_eq_true range)
    rw [kept, kept]

def lowerAscii (text : String) : String := String.ofList (text.toList.map Char.toLower)

/-- The libraries on texts of ASCII: an address is trimmed, and a collation that ignores case. -/
def asciiLibrary : AccountLibrary where
  emailStr text := some (String.ofList (stripOf isSpace text.toList))
  lower := lowerAscii
  blocklist := []
  hashes password passwordHash := passwordHash = "hash of " ++ password
  hashable password := ⟨"hash of " ++ password, rfl⟩
  token sub _ _ := sub
  subject := some
  subject_token _ _ _ := rfl
  key := lowerAscii

theorem asciiLibrary_folds : asciiLibrary.Folds := by
  intro text
  have twice : Char.toLower ∘ Char.toLower = Char.toLower := funext toLower_toLower
  simp [asciiLibrary, lowerAscii, twice]

def annsRow : UserRow := ⟨1, "a@b.com", "hash of correct horse", "user"⟩

def annsTable : UserTable := ⟨[annsRow], []⟩

def plainApp : App := ⟨defaultRuntime fun _ => "", false⟩

theorem annsTable_unique : annsTable.Unique asciiLibrary.key := by
  constructor <;> decide

theorem empty_unique : (⟨[], []⟩ : UserTable).Unique asciiLibrary.key := by
  constructor <;> decide

theorem meets_alone {lib : AccountLibrary} {t t' : UserTable} (unique : t.Unique lib.key) (op : Op)
    (reply : op.Reply) (answer : LibraryAnswers lib op t reply t') : Meets lib op t reply t' :=
  ⟨t, unique.grows, answer⟩

theorem annsRow_registered : Runs (Meets asciiLibrary)
    (plainApp.register ⟨"a@b.com", "correct horse"⟩) ⟨[], []⟩
    (.ok (.user ⟨1, "a@b.com", "user"⟩)) annsTable := by
  have inserted : (⟨[], [annsRow]⟩ : UserTable).Unique asciiLibrary.key := by
    constructor <;> decide
  have looked : Runs (Meets asciiLibrary) (UserRepository.getByEmail plainApp.rt "a@b.com")
      ⟨[], []⟩ (.ok none) ⟨[], []⟩ := by
    apply runs_guardedCall (meets_alone empty_unique (.breakerAllow .mysql) true rfl)
    · exact .call (meets_alone empty_unique (.mysql (.selectUserByEmail "a@b.com")) (.ok none)
        ⟨rfl, fun _ same => (Except.ok.inj same).symm⟩) (.ret _ _)
    · exact meets_alone empty_unique (.breakerSuccess .mysql) () rfl
  have created : Runs (Meets asciiLibrary) (UserRepository.create plainApp.rt "a@b.com"
      "hash of correct horse" "user") ⟨[], []⟩ (.ok 1) ⟨[], [annsRow]⟩ := by
    have role := meets_alone empty_unique (.mysql (.selectRole "user")) (.ok (some "user")) rfl
    have insert : Meets asciiLibrary (.mysql (.insertUser "a@b.com" "hash of correct horse" "user"))
        ⟨[], []⟩ (.ok 1) ⟨[], [annsRow]⟩ :=
      meets_alone empty_unique _ _ (Or.inr ⟨1, rfl, rfl, inserted⟩)
    exact runs_guardedCall (meets_alone empty_unique (.breakerAllow .mysql) true rfl)
      (.call role (.call insert (.ret _ _)))
      (meets_alone inserted (.breakerSuccess .mysql) () rfl)
  have read : Meets asciiLibrary (.userAttributes 1) ⟨[], [annsRow]⟩ (.ok annsRow)
      ⟨[], [annsRow]⟩ := by
    refine meets_alone inserted _ _ ⟨rfl, ?_⟩
    rintro _ ⟨⟩
    decide
  have hashed := meets_alone empty_unique (.hashPassword "correct horse")
    (.ok "hash of correct horse") ⟨rfl, fun _ same => (Except.ok.inj same).symm⟩
  have handled : Runs (Meets asciiLibrary) (plainApp.handler (.register "a@b.com" "correct horse"))
      ⟨[], []⟩ (.ok (.user ⟨1, "a@b.com", "user"⟩)) ⟨[], [annsRow]⟩ :=
    (looked.bind (.call hashed created)).bind (.call read (.ret _ _))
  have committed : Meets asciiLibrary .commit ⟨[], [annsRow]⟩ (.ok ()) annsTable :=
    meets_alone inserted _ _ (Or.inr ⟨rfl, rfl⟩)
  have ended : Runs (Meets asciiLibrary) (untilCommit (plainApp.handler
      (.register "a@b.com" "correct horse"))) ⟨[], []⟩ (.ok (.user ⟨1, "a@b.com", "user"⟩))
      annsTable := handled.bind (.call committed (.ret _ _))
  exact ended.attempt.bind (.call (meets_alone annsTable_unique .popAfterCommit [] rfl) (.ret _ _))

theorem annsTable_opens : annsTable.Opens asciiLibrary.key annsTable :=
  ⟨fun _ member => member, rfl, annsTable_unique⟩

/-- A blank before the address is taken off by `RegisterIn` and not by `LoginIn`. -/
theorem blank_locks_out : asciiLibrary.Folds ∧
    ¬∀ {email password : String} {payload : RegisterIn},
      RegisterIn.validate asciiLibrary.toAuthRules email password = some payload →
      ∀ {t t₁ t₂ : UserTable} {out : UserOut},
        Runs (Meets asciiLibrary) (plainApp.register payload) t (.ok (.user out)) t₁ →
        t₁.Opens asciiLibrary.key t₂ → LogsIn asciiLibrary plainApp email password out t₂ := by
  refine ⟨asciiLibrary_folds, ?_⟩
  intro claim
  have accepted : RegisterIn.validate asciiLibrary.toAuthRules " a@b.com" "correct horse" =
      some ⟨"a@b.com", "correct horse"⟩ := by decide +kernel
  have stands : Stands asciiLibrary annsRow annsTable :=
    ⟨annsTable_unique, List.mem_singleton_self _⟩
  have other : asciiLibrary.key annsRow.email ≠
      asciiLibrary.key (asciiLibrary.lower " a@b.com") := by decide
  have hashed : asciiLibrary.hashes "correct horse" annsRow.passwordHash := rfl
  exact other ((logsIn_iff plainApp stands rfl hashed rfl).mp
    (claim accepted annsRow_registered annsTable_opens))

theorem login_after_register_upper_case :
    RegisterIn.validate asciiLibrary.toAuthRules "A@b.com" "correct horse" =
        some ⟨"a@b.com", "correct horse"⟩ ∧
      LogsIn asciiLibrary plainApp "A@b.com" "correct horse" ⟨1, "a@b.com", "user"⟩ annsTable := by
  have accepted : RegisterIn.validate asciiLibrary.toAuthRules "A@b.com" "correct horse" =
      some ⟨"a@b.com", "correct horse"⟩ := by decide +kernel
  have keeps : asciiLibrary.Keeps "A@b.com" := by
    rintro _ ⟨⟩
    decide
  exact ⟨accepted, (login_after_register_iff asciiLibrary asciiLibrary_folds plainApp accepted
    annsRow_registered annsTable_opens).mpr keeps⟩

end ContentPlatform
