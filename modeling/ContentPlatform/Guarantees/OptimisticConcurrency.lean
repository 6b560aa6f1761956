import ContentPlatform.Schemas
import ContentPlatform.World.Run

/-!
# Conditional writes lose no update

A token is the `updated_at` of one version of a row.  Each committed change of an
article replaced the version its token names, no two of them name the same one,
and a request whose token does not fit commits nothing.
-/

set_option autoImplicit false

namespace ContentPlatform

open Program Protocol

/-- `ON UPDATE CURRENT_TIMESTAMP(6)` gives a row that changes a value it never had before. -/
def Setting.Stamps (σ : Setting) : Prop :=
  ∀ w i op c id expected change, σ.allow w i op c → op.Compares id expected change →
    ∀ n ≤ w.db.version, ∀ row, (w.db.history n).find id = some row → row.updatedAt ≠ c.time

section
variable {requests : Pid → Request} {db db' : Database} {i : Pid} {c : Choice} {op : Op}

theorem Op.Compares.change_id {id : ℤ} {expected : DateTime} {change : ArticleRow → ArticleRow}
    (compares : op.Compares id expected change) (row : ArticleRow) : (change row).id = row.id := by
  cases op with
  | mysql statement =>
      cases statement with
      | updateArticle id' expected' title body =>
          obtain ⟨-, -, rfl⟩ := compares
          rfl
      | softDeleteArticle id' expected' deletedAt =>
          obtain ⟨-, -, rfl⟩ := compares
          rfl
      | _ => exact compares.elim
  | _ => exact compares.elim

/-- A compare-and-set writes only where the token fits. -/
theorem casStep_writes {id : ℤ} {expected stamp : DateTime} {change : ArticleRow → ArticleRow}
    {count : ℕ} (step : db.casStep i id expected change stamp = some (count, db')) :
    (db'.sessions i).compared = some ((db.currentTable i).find id) ∧
      ((db'.transaction i).writes = (db.transaction i).writes ∨
        ∃ row, (db.currentTable i).find id = some row ∧ row.live = true ∧
          row.updatedAt = expected ∧ (db'.transaction i).writes =
            (db.transaction i).writes ++ [{ change row with updatedAt := stamp }]) := by
  unfold Database.casStep at step
  split at step
  · cases step
  split at step
  · rename_i missing
    obtain ⟨-, rfl⟩ := Prod.mk.inj (Option.some.inj step)
    exact ⟨by simp [missing], Or.inl (by simp [Database.transaction])⟩
  rename_i row found
  split at step
  · rename_i fits
    split at step
    · obtain ⟨-, rfl⟩ := Prod.mk.inj (Option.some.inj step)
      exact ⟨by simp [found], Or.inl (by simp [Database.transaction])⟩
    · obtain ⟨-, rfl⟩ := Prod.mk.inj (Option.some.inj step)
      exact ⟨by simp [found], Or.inr ⟨row, found, fits.1, fits.2, by simp [Database.transaction]⟩⟩
  · obtain ⟨-, rfl⟩ := Prod.mk.inj (Option.some.inj step)
    exact ⟨by simp [found], Or.inl (by simp [Database.transaction])⟩

/-! ## Who has written saw a row that its token fits -/

structure Tokens (requests : Pid → Request) (db : Database) : Prop where
  fitted : ∀ i, (db.transaction i).writes ≠ [] ∨ (∃ n < db.version, db.writer (n + 1) = i) →
    ∀ r, Fitted (requests i) (db.sessions i) r
  closed : ∀ n < db.version, (db.sessions (db.writer (n + 1))).committed ≠ none

/-- A step that adds no committed state: what it owes about its own writes and session. -/
theorem Tokens.own (tokens : Tokens requests db) (own : OwnStep i db db')
    (committed : (db'.sessions i).committed = (db.sessions i).committed)
    (fitted : (db'.transaction i).writes ≠ [] ∨ (∃ n < db.version, db.writer (n + 1) = i) →
      ∀ r, Fitted (requests i) (db'.sessions i) r) : Tokens requests db' := by
  refine ⟨fun j wrote r => ?_, fun n past => ?_⟩
  · rw [own.version, own.writer] at wrote
    by_cases other : j ≠ i
    · rw [own.transaction other] at wrote
      rw [own.sessions j other]
      exact tokens.fitted j wrote r
    · obtain rfl := not_not.mp other
      exact fitted wrote r
  · rw [own.version] at past
    rw [own.writer]
    by_cases other : db.writer (n + 1) ≠ i
    · rw [own.sessions _ other]
      exact tokens.closed n past
    · have closed := tokens.closed n past
      rw [not_not.mp other] at closed ⊢
      rw [committed]
      exact closed

theorem Tokens.commitStep (tokens : Tokens requests db) : Tokens requests (db.commitStep i) := by
  have others : ∀ j, j ≠ i → (db.commitStep i).sessions j = db.sessions j :=
    fun j other => Database.commitStep_sessions db other
  have closed : (db.commitStep i).transaction i = .new := by simp [Database.transaction]
  have mine : ((db.transaction i).writes ≠ [] ∨ ∃ n < db.version, db.writer (n + 1) = i) →
      ∀ r, Fitted (requests i) ((db.commitStep i).sessions i) r := by
    intro wrote r
    rw [Database.commitStep_session]
    exact tokens.fitted i wrote r
  have earlier : ∀ j, (∃ n < db.version, db.writer (n + 1) = j) →
      ∀ r, Fitted (requests j) ((db.commitStep i).sessions j) r := by
    intro j wrote r
    by_cases other : j ≠ i
    · rw [others j other]
      exact tokens.fitted j (Or.inr wrote) r
    · obtain rfl := not_not.mp other
      exact mine (Or.inr wrote) r
  have committed : ∀ j, (j = i ∨ (db.sessions j).committed ≠ none) →
      ((db.commitStep i).sessions j).committed ≠ none := by
    intro j before
    by_cases other : j ≠ i
    · rw [others j other]
      exact before.resolve_left other
    · obtain rfl := not_not.mp other
      rw [Database.commitStep_session]
      exact Option.some_ne_none _
  have running : ∀ j, ((db.commitStep i).transaction j).writes ≠ [] →
      ∀ r, Fitted (requests j) ((db.commitStep i).sessions j) r := by
    intro j wrote r
    by_cases other : j ≠ i
    · rw [Database.transaction, others j other] at wrote
      rw [others j other]
      exact tokens.fitted j (Or.inl wrote) r
    · obtain rfl := not_not.mp other
      rw [closed] at wrote
      exact absurd rfl wrote
  rcases Database.commitStep_cases db i with ⟨-, version, writer, -⟩ | ⟨wrote, version, writer, -⟩
  · refine ⟨fun j before r => ?_, fun n past => ?_⟩
    · rcases before with pending | past
      · exact running j pending r
      · rw [version, writer] at past
        exact earlier j past r
    · rw [version] at past
      rw [writer]
      exact committed _ (Or.inr (tokens.closed n past))
  · refine ⟨fun j before r => ?_, fun n past => ?_⟩
    · rcases before with pending | ⟨n, past, author⟩
      · exact running j pending r
      · rw [version] at past
        rw [writer] at author
        by_cases last : n = db.version
        · subst last
          rw [Function.update_self] at author
          subst author
          exact mine (Or.inl wrote) r
        · rw [Function.update_of_ne (by omega)] at author
          exact earlier j ⟨n, by omega, author⟩ r
    · rw [version] at past
      rw [writer]
      by_cases last : n = db.version
      · subst last
        rw [Function.update_self]
        exact committed i (Or.inl rfl)
      · rw [Function.update_of_ne (by omega)]
        exact committed _ (Or.inr (tokens.closed n (by omega)))

theorem Tokens.step (tokens : Tokens requests db) (owed : rowsPre requests i op db)
    (step : DatabaseStep i c op db db') : Tokens requests db' := by
  cases step with
  | aside own keeps =>
      refine tokens.own own keeps.committed fun wrote r expected token => ?_
      have same : (db'.transaction i).writes = (db.transaction i).writes := keeps.writes
      rw [same] at wrote
      rw [keeps.compared]
      exact tokens.fitted i wrote r expected token
  | @compare _ _ _ id expected change count compares cas =>
      obtain ⟨open_, empty, named⟩ := compares.owed owed
      refine tokens.own (Database.casStep_own cas) (Database.casStep_keeps cas).committed
        fun wrote r expected' token => ?_
      obtain ⟨compared, writes⟩ := casStep_writes cas
      have same : expected' = expected := Option.some.inj (token.symm.trans named)
      subst same
      rcases writes with none_ | ⟨row, found, live, stamp, -⟩
      · rw [none_, empty] at wrote
        obtain ⟨n, past, author⟩ := wrote.resolve_left (fun impossible => impossible rfl)
        have closed := tokens.closed n past
        rw [author] at closed
        exact absurd open_ closed
      · exact ⟨_, compared, row, found, live, stamp⟩
  | @insert _ authorId title body issued =>
      obtain ⟨-, -, principal, user, shape, -⟩ := owed
      refine tokens.own (Database.insertStep_own db i _) (by simp) fun _ r expected token => ?_
      rw [shape] at token
      cases token
  | rollback =>
      refine tokens.own (Database.rollbackStep_own db i)
        (Database.rollbackStep_keeps db i).committed fun wrote r => ?_
      rcases rollback_sessions db i with same | ended
      · rw [Database.transaction, same] at wrote
        rw [same]
        exact tokens.fitted i wrote r
      · rw [Database.transaction, ended] at wrote
        rw [ended]
        exact tokens.fitted i (wrote.imp_left fun impossible => absurd rfl impossible) r
  | commit => exact tokens.commitStep

/-! ## No version of a row comes back -/

structure Stamped (db : Database) : Prop where
  pending : ∀ i, ∀ row ∈ (db.transaction i).writes, ∀ n ≤ db.version, ∀ old,
    (db.history n).find row.id = some old → old.updatedAt ≠ row.updatedAt
  fresh : ∀ k < db.version, ∀ id old new, (db.history k).find id = some old →
    (db.history (k + 1)).find id = some new → new ≠ old →
    ∀ n ≤ k, ∀ older, (db.history n).find id = some older → older.updatedAt ≠ new.updatedAt

theorem Stamped.own (stamped : Stamped db) (own : OwnStep i db db')
    (pending : ∀ row ∈ (db'.transaction i).writes, ∀ n ≤ db.version, ∀ old,
      (db.history n).find row.id = some old → old.updatedAt ≠ row.updatedAt) : Stamped db' := by
  refine ⟨fun j row member n past old found => ?_, fun k past => ?_⟩
  · rw [own.version] at past
    rw [own.history] at found
    by_cases other : j ≠ i
    · rw [own.transaction other] at member
      exact stamped.pending j row member n past old found
    · obtain rfl := not_not.mp other
      exact pending row member n past old found
  · rw [own.version] at past
    rw [own.history]
    exact stamped.fresh k past

theorem Stamped.commitStep (kept : Coherent requests db) (stamped : Stamped db) :
    Stamped (db.commitStep i) := by
  have ownClosed : ((db.commitStep i).transaction i).writes = [] := by simp [Database.transaction]; rfl
  have others : ∀ j, j ≠ i → (db.commitStep i).transaction j = db.transaction j := by
    intro j other
    rw [Database.transaction, Database.commitStep_sessions db other]
    rfl
  rcases Database.commitStep_cases db i with ⟨-, version, -, history⟩ |
    ⟨wrote, version, -, history⟩
  · refine ⟨fun j row member n past old found => ?_, fun k past => ?_⟩
    · rw [version] at past
      rw [history] at found
      by_cases other : j ≠ i
      · rw [others j other] at member
        exact stamped.pending j row member n past old found
      · obtain rfl := not_not.mp other
        rw [ownClosed] at member
        cases member
    · rw [version] at past
      rw [history]
      exact stamped.fresh k past
  obtain ⟨written, single, waiting⟩ := (kept.writes i).resolve_left wrote
  have earlier : ∀ n ≤ db.version, (db.commitStep i).history n = db.history n := by
    intro n past
    rw [history, Function.update_of_ne (by omega)]
  have latest := kept.commitStep_find single
  have mine : ∀ n ≤ db.version, ∀ old, (db.history n).find written.id = some old →
      old.updatedAt ≠ written.updatedAt :=
    stamped.pending i written (by rw [single]; exact List.mem_singleton_self _)
  refine ⟨fun j row member n past old found => ?_, fun k past id old new before after change => ?_⟩
  · by_cases other : j ≠ i
    · rw [others j other] at member
      rw [version] at past
      by_cases last : n = db.version + 1
      · subst last
        rw [latest] at found
        by_cases same : row.id = written.id
        · -- the lock of the row is held by the request that commits
          rcases kept.writes j with none_ | ⟨held, one, locked⟩
          · rw [none_] at member
            cases member
          · rw [one, List.mem_singleton] at member
            subst member
            have holder := locked.locked.symm.trans (same ▸ waiting.locked)
            exact absurd (Option.some.inj holder) other
        · rw [if_neg same] at found
          exact stamped.pending j row member db.version le_rfl old found
      · rw [earlier n (by omega)] at found
        exact stamped.pending j row member n (by omega) old found
    · obtain rfl := not_not.mp other
      rw [ownClosed] at member
      cases member
  · intro n order older found
    rw [version] at past
    rw [earlier n (by omega)] at found
    rw [earlier k (by omega)] at before
    by_cases last : k = db.version
    · subst last
      rw [latest] at after
      by_cases same : id = written.id
      · subst same
        rw [if_pos rfl] at after
        obtain rfl := Option.some.inj after
        exact mine n order older found
      · rw [if_neg same] at after
        exact absurd (Option.some.inj (after.symm.trans before)) change
    · rw [earlier (k + 1) (by omega)] at after
      exact stamped.fresh k (by omega) id old new before after change n order older found

theorem Stamped.step (kept : Coherent requests db) (stamped : Stamped db)
    (owed : rowsPre requests i op db)
    (stamps : ∀ id expected change, op.Compares id expected change → ∀ n ≤ db.version, ∀ row,
      (db.history n).find id = some row → row.updatedAt ≠ c.time)
    (step : DatabaseStep i c op db db') : Stamped db' := by
  cases step with
  | aside own keeps =>
      have same : (db'.transaction i).writes = (db.transaction i).writes := keeps.writes
      exact stamped.own own (by rw [same]; exact stamped.pending i)
  | @compare _ _ _ id expected change count compares cas =>
      obtain ⟨-, empty, -⟩ := compares.owed owed
      refine stamped.own (Database.casStep_own cas) fun row member n past old found => ?_
      rcases (casStep_writes cas).2 with none_ | ⟨seen, read, -, -, writes⟩
      · rw [none_, empty] at member
        cases member
      · rw [writes, empty, List.nil_append, List.mem_singleton] at member
        subst member
        have same : (change seen).id = id := (compares.change_id seen).trans (Table.find_id read)
        exact stamps id expected change compares n past old (same ▸ found)
  | @insert _ authorId title body issued =>
      obtain ⟨-, empty, -⟩ := owed
      refine stamped.own (Database.insertStep_own db i _) fun row member n past old found => ?_
      simp only [Database.transaction, Database.insertStep_sessions, Option.getD_some] at member
      rw [show ((db.sessions i).transaction.getD .new).writes = [] from empty, List.nil_append,
        List.mem_singleton] at member
      subst member
      have given : (Database.newRow c authorId title body).id < db.nextId :=
        kept.ids n past _ old found
      exact absurd given (not_lt.mpr issued.1)
  | rollback =>
      refine stamped.own (Database.rollbackStep_own db i) fun row member => ?_
      rcases rollback_sessions db i with same | ended
      · rw [Database.transaction, same] at member
        exact stamped.pending i row member
      · rw [Database.transaction, ended] at member
        cases member
  | commit => exact stamped.commitStep kept

/-- Once a row has changed, the stamp of the version before is gone for good. -/
theorem Stamped.gone (kept : Coherent requests db) (stamped : Stamped db) {n m : ℕ} (order : n < m)
    (past : m ≤ db.version) {id : ℤ} {old new now : ArticleRow}
    (before : (db.history n).find id = some old) (after : (db.history (n + 1)).find id = some new)
    (change : new ≠ old) (found : (db.history m).find id = some now) :
    old.updatedAt ≠ now.updatedAt := by
  induction m generalizing now with
  | zero => exact absurd order (Nat.not_lt_zero n)
  | succ m ih =>
      by_cases first : n = m
      · subst first
        obtain rfl := Option.some.inj (after.symm.trans found)
        exact stamped.fresh n (by omega) id old new before after change n le_rfl old before
      · obtain ⟨middle, there, -⟩ := kept.descends (show n ≤ m by omega) (by omega) before
        by_cases same : now = middle
        · subst same
          exact ih (by omega) (by omega) there
        · exact stamped.fresh m (by omega) id middle now there found same n (by omega) old before

end

/-! ## The guarantee -/

/-- What conditional writes promise.  `compared` is the row that the compare-and-set of a request
evaluated its token on, if the request got that far. -/
structure Optimistic (σ : Setting) (c : System) : Prop where
  /-- A committed change replaced exactly the version that its token names. -/
  replaced : ∀ n < c.state.db.version, ∀ id old new, (c.state.db.history n).find id = some old →
    (c.state.db.history (n + 1)).find id = some new → new ≠ old →
    old.live = true ∧ (σ.requests (c.state.db.writer (n + 1))).target = some id ∧
      (σ.requests (c.state.db.writer (n + 1))).expected = some old.updatedAt
  /-- Two committed changes of one article carried different tokens. -/
  once : ∀ m n, m < n → n < c.state.db.version → ∀ id old new old' new',
    (c.state.db.history m).find id = some old → (c.state.db.history (m + 1)).find id = some new →
    new ≠ old → (c.state.db.history n).find id = some old' →
    (c.state.db.history (n + 1)).find id = some new' → new' ≠ old' →
    (σ.requests (c.state.db.writer (m + 1))).expected ≠
      (σ.requests (c.state.db.writer (n + 1))).expected
  /-- A request whose token does not fit commits nothing and fails. -/
  stale : ∀ i token outcome, (σ.requests i).expected = some token → c.outcome i = some outcome →
    ¬(∃ seen, (c.state.db.sessions i).compared = some seen ∧ Fits token seen) →
    (∀ n < c.state.db.version, c.state.db.writer (n + 1) ≠ i) ∧
      ∃ error, outcome = .error error ∧
        (σ.Calm → Refusal i (σ.requests i) error c.state)

theorem Coherent.replaced {requests : Pid → Request} {db : Database} (kept : Coherent requests db)
    {n : ℕ} (past : n < db.version) {id : ℤ} {old new : ArticleRow}
    (before : (db.history n).find id = some old) (after : (db.history (n + 1)).find id = some new)
    (change : new ≠ old) :
    old.live = true ∧ (requests (db.writer (n + 1))).target = some id ∧
      (requests (db.writer (n + 1))).expected = some old.updatedAt := by
  have step := kept.evolves n past id
  rw [before, after] at step
  rcases step with same | ⟨live, -, replaces⟩
  · exact absurd same change
  · have named : old.id = id := Table.find_id before
    cases request : requests (db.writer (n + 1)) with
    | update principal target title body expected =>
        rw [request] at replaces
        obtain ⟨same, token, -⟩ := replaces
        exact ⟨live, by rw [← named, same]; rfl, by rw [token]; rfl⟩
    | delete principal target expected =>
        rw [request] at replaces
        obtain ⟨same, token, -⟩ := replaces
        exact ⟨live, by rw [← named, same]; rfl, by rw [token]; rfl⟩
    | _ =>
        rw [request] at replaces
        exact replaces.elim

/-- In every run; that nothing fails is asked only for the kind of the error. -/
theorem optimistic_concurrency (σ : Setting) (stamps : σ.Stamps) (app : App) {w : World}
    (start : Initial w) {c : System} (run : σ.Reaches (app.start σ.requests w) c) :
    Optimistic σ c := by
  have safe := start.allSafe (σ := σ) app
  have first : Tokens σ.requests w.db ∧ Stamped w.db := by
    have closed : ∀ i, w.db.transaction i = .new := by
      intro i
      rw [Database.transaction, start.sessions i]
      rfl
    have none_ : ∀ n, ¬n < w.db.version := by
      intro n
      rw [start.version]
      exact Nat.not_lt_zero n
    refine ⟨⟨fun i wrote => ?_, fun n past => absurd past (none_ n)⟩,
      ⟨fun i row member => ?_, fun n past => absurd past (none_ n)⟩⟩
    · rcases wrote with pending | ⟨n, past, -⟩
      · rw [closed i] at pending
        exact absurd rfl pending
      · exact absurd past (none_ n)
    · rw [closed i] at member
      cases member
  have kept : Tokens σ.requests c.state.db ∧ Stamped c.state.db := by
    refine AllSafe.invariant (P := σ.rows) (J := fun w => Tokens σ.requests w.db ∧ Stamped w.db)
      (fun coherent before owed stepped => ?_) (fun _ before moved => ?_) safe first run
    · obtain ⟨choice, allowed, step⟩ := stepped
      have step := World.exec_database step
      exact ⟨before.1.step owed step, before.2.step coherent owed
        (fun id expected change => stamps _ _ _ _ id expected change allowed) step⟩
    · obtain ⟨-, users, same⟩ := σ.outside _ _ moved
      rw [same]
      exact ⟨⟨before.1.fitted, before.1.closed⟩, ⟨before.2.pending, before.2.fresh⟩⟩
  have last := safe.steps run
  have coherent : Coherent σ.requests c.state.db := last.inv
  refine ⟨fun n past id old new => coherent.replaced past,
    fun m n order past id old new old' new' before after change before' after' change' same => ?_,
    fun i token outcome conditional ended unfit => ?_⟩
  · rw [(coherent.replaced (by omega) before after change).2.2,
      (coherent.replaced past before' after' change').2.2] at same
    exact kept.2.gone coherent order past.le before after change before' (Option.some.inj same)
  · have served := last.ended i outcome ended
    refine ⟨fun n past author => unfit ?_, ?_⟩
    · exact kept.1.fitted i (Or.inr ⟨n, past, author⟩) (c.state.requests i) token conditional
    · cases outcome with
      | ok response =>
          obtain ⟨⟨_, _, _, fits, _⟩, -⟩ := served
          exact absurd (fits token conditional) unfit
      | error error =>
          refine ⟨error, rfl, fun calm => (served calm).2 ?_⟩
          rw [conditional]
          exact Option.some_ne_none token

/-! ## Two requests with an old token -/

def calmChoice (w : World) (_ : Pid) (op : Op) (c : Choice) : Bool :=
  c.fault.isNone && c.flag &&
    match op with
    | .mysql (.updateArticle id _ _ _) | .mysql (.softDeleteArticle id _ _) =>
        (List.range (w.db.version + 1)).all fun n =>
          ((w.db.history n).find id).all fun row => row.updatedAt != c.time
    | _ => true

def Setting.calm (requests : Pid → Request) : Setting :=
  ⟨requests, fun w i op c => calmChoice w i op c = true, Expires, fun _ _ => Expires.outside⟩

theorem Setting.calm_calm (requests : Pid → Request) : (Setting.calm requests).Calm := by
  intro w i op c allowed
  simp only [Setting.calm, calmChoice, Bool.and_eq_true, Option.isNone_iff_eq_none] at allowed
  exact ⟨allowed.1.1, fun _ _ => allowed.1.2⟩

theorem Setting.calm_stamps (requests : Pid → Request) : (Setting.calm requests).Stamps := by
  intro w i op c id expected change allowed compares n past row found
  cases op with
  | mysql statement =>
      cases statement with
      | updateArticle id' expected' title body =>
          obtain ⟨rfl, -, -⟩ := compares
          simp only [Setting.calm, calmChoice, Bool.and_eq_true, List.all_eq_true,
            List.mem_range] at allowed
          have fresh := allowed.2 n (by omega)
          rw [found] at fresh
          simpa using fresh
      | softDeleteArticle id' expected' deletedAt =>
          obtain ⟨rfl, -, -⟩ := compares
          simp only [Setting.calm, calmChoice, Bool.and_eq_true, List.all_eq_true,
            List.mem_range] at allowed
          have fresh := allowed.2 n (by omega)
          rw [found] at fresh
          simpa using fresh
      | _ => exact compares.elim
  | _ => exact compares.elim

def calmService (requests : List Request) (users : List UserRow) : System :=
  App.start ⟨defaultRuntime fun _ => "", true⟩ (requestsOf requests)
    (World.fresh editedArticle 2 users)

def succeeded (c : System) (i : Pid) : Bool :=
  match c.outcome i with
  | some (.ok _) => true
  | _ => false

def failedWith (c : System) (i : Pid) (error : Exc) : Bool :=
  match c.outcome i with
  | some (.error e) => e == error
  | _ => false

theorem outcome_of_failedWith {c : System} {i : Pid} {error : Exc}
    (failed : failedWith c i error = true) : c.outcome i = some (.error error) := by
  unfold failedWith at failed
  split at failed
  · rename_i e ended
    rw [ended, eq_of_beq failed]
  · cases failed

/-- The ownership check comes before the token: a stranger with an old token is forbidden. -/
theorem stale_token_forbidden : ∃ c : System,
    (Setting.calm (requestsOf [.update (some 2) 1 "mine" "mine" (instant 0)])).Reaches
      (calmService [.update (some 2) 1 "mine" "mine" (instant 0)] [ann, bob]) c ∧
      c.state.db.version = 0 ∧
      (∃ row, c.state.db.table.find 1 = some row ∧ row.live = true ∧ row.updatedAt ≠ instant 0) ∧
      c.outcome 0 = some (.error
        (.forbidden "Only the author or an admin may modify this article.")) := by
  obtain ⟨c, run, facts⟩ := (Setting.calm (requestsOf
      [.update (some 2) 1 "mine" "mine" (instant 0)])).exists_replay calmChoice
    (fun _ _ _ _ checked => checked)
    (calmService [.update (some 2) 1 "mine" "mine" (instant 0)] [ann, bob]) (turns 0 11 {})
    (fun c => c.state.db.version == 0 &&
      (c.state.db.table.find 1).any (fun row => row.live && row.updatedAt != instant 0) &&
      failedWith c 0 (.forbidden "Only the author or an admin may modify this article."))
    (by decide +kernel)
  rw [Bool.and_eq_true, Bool.and_eq_true, Option.any_eq_true] at facts
  obtain ⟨⟨unchanged, row, found, stale⟩, failed⟩ := facts
  rw [Bool.and_eq_true] at stale
  exact ⟨c, run, by simpa using unchanged, ⟨row, found, stale.1, by simpa using stale.2⟩,
    outcome_of_failedWith failed⟩

/-- The author edits twice under one token; the second edit is a conflict. -/
theorem optimistic_concurrency_of_two_edits : ∃ c : System,
    (Setting.calm (requestsOf [.update (some 1) 1 "new" "text" (instant 1),
      .update (some 1) 1 "newer" "text" (instant 1)])).Reaches
      (calmService [.update (some 1) 1 "new" "text" (instant 1),
        .update (some 1) 1 "newer" "text" (instant 1)] [ann, bob]) c ∧
      c.state.db.version = 1 ∧ succeeded c 0 = true ∧
      failedWith c 1 (.conflict
        "The article changed since it was read; re-fetch and retry with the current updated_at.")
        = true ∧
      Optimistic (Setting.calm (requestsOf [.update (some 1) 1 "new" "text" (instant 1),
        .update (some 1) 1 "newer" "text" (instant 1)])) c := by
  obtain ⟨c, run, facts⟩ := (Setting.calm (requestsOf
      [.update (some 1) 1 "new" "text" (instant 1),
        .update (some 1) 1 "newer" "text" (instant 1)])).exists_replay calmChoice
    (fun _ _ _ _ checked => checked)
    (calmService [.update (some 1) 1 "new" "text" (instant 1),
      .update (some 1) 1 "newer" "text" (instant 1)] [ann, bob])
    -- both have loaded the article before either compares
    (turns 0 9 {} ++ turns 1 9 {} ++ turns 0 20 { time := instant 2 } ++
      turns 1 9 { time := instant 3 })
    (fun c => c.state.db.version == 1 && succeeded c 0 && failedWith c 1 (.conflict
      "The article changed since it was read; re-fetch and retry with the current updated_at."))
    (by decide +kernel)
  rw [Bool.and_eq_true, Bool.and_eq_true] at facts
  exact ⟨c, run, by simpa using facts.1.1, facts.1.2, facts.2,
    optimistic_concurrency _ (Setting.calm_stamps _) _ (World.fresh_initial _ (by decide)) run⟩

end ContentPlatform
