import ContentPlatform.World.Frame

/-!
# The life of a row

Whatever the interleaving and whatever the faults, a row of `articles` changes
only by the compare-and-set of a request that may change it, on exactly the
version its token names.  `rowsProtocol` is the protocol that all requests keep,
and `Coherent` its invariant.
-/

set_option autoImplicit false

namespace ContentPlatform

open Program

/-! ## What one committed state may make of the one before -/

def Authorized (actor : Option UserRow) (row : ArticleRow) : Prop :=
  ∃ user, actor = some user ∧ (row.authorId = user.id ∨ user.isAdmin = true)

def Request.principal : Request → Option ℤ
  | .create principal _ _ | .update principal _ _ _ _ | .delete principal _ _ => principal
  | _ => none

/-- The request replaces exactly this version of the row, and by this. -/
def Request.Replaces : Request → ArticleRow → ArticleRow → Prop
  | .update _ id title body expected, old, new =>
      old.id = id ∧ old.updatedAt = expected ∧
        new = { Database.edit title body old with updatedAt := new.updatedAt }
  | .delete _ id expected, old, new =>
      old.id = id ∧ old.updatedAt = expected ∧
        ∃ deletedAt, new = { Database.markDeleted deletedAt old with updatedAt := new.updatedAt }
  | _, _, _ => False

/-- The request inserts this row under its actor's id. -/
def Request.Inserts (request : Request) (actor : Option UserRow) (new : ArticleRow) : Prop :=
  ∃ principal title body user, request = .create principal title body ∧ actor = some user ∧
    new.authorId = user.id ∧ new.title = title ∧ new.body = body ∧ new.deletedAt = none ∧
    new.updatedAt = new.createdAt

def RowStep (request : Request) (actor : Option UserRow) :
    Option ArticleRow → Option ArticleRow → Prop
  | none, none => True
  | none, some new => request.Inserts actor new
  | some _, none => False
  | some old, some new =>
      new = old ∨ (old.live = true ∧ Authorized actor old ∧ request.Replaces old new)

/-- What no change of a row touches; a deleted row is not changed at all. -/
structure Descends (old new : ArticleRow) : Prop where
  id : new.id = old.id
  authorId : new.authorId = old.authorId
  createdAt : new.createdAt = old.createdAt
  final : old.live = false → new = old

theorem Descends.refl (row : ArticleRow) : Descends row row := ⟨rfl, rfl, rfl, fun _ => rfl⟩

theorem Descends.trans {a b c : ArticleRow} (first : Descends a b) (second : Descends b c) :
    Descends a c := by
  refine ⟨second.id.trans first.id, second.authorId.trans first.authorId,
    second.createdAt.trans first.createdAt, fun dead => ?_⟩
  have same := first.final dead
  subst same
  exact second.final dead

theorem Request.Replaces.descends {request : Request} {old new : ArticleRow}
    (replaces : request.Replaces old new) (live : old.live = true) : Descends old new := by
  have final : old.live = false → new = old := fun dead => by rw [live] at dead; cases dead
  cases request with
  | update principal id title body expected =>
      obtain ⟨-, -, shape⟩ := replaces
      rw [shape]
      exact ⟨rfl, rfl, rfl, fun dead => by rw [live] at dead; cases dead⟩
  | delete principal id expected =>
      obtain ⟨-, -, deletedAt, shape⟩ := replaces
      rw [shape]
      exact ⟨rfl, rfl, rfl, fun dead => by rw [live] at dead; cases dead⟩
  | _ => exact absurd replaces id

theorem RowStep.descends {request : Request} {actor : Option UserRow} {old : ArticleRow}
    {next : Option ArticleRow} (step : RowStep request actor (some old) next) :
    ∃ new, next = some new ∧ Descends old new := by
  cases next with
  | none => exact absurd step id
  | some new =>
      refine ⟨new, rfl, ?_⟩
      rcases step with rfl | ⟨live, -, replaces⟩
      · exact Descends.refl _
      · exact replaces.descends live

theorem RowStep.self (request : Request) (actor : Option UserRow) (row : Option ArticleRow) :
    RowStep request actor row row := by
  cases row with
  | none => trivial
  | some row => exact Or.inl rfl

theorem RowStep.actor_mono {request : Request} {actor actor' : Option UserRow}
    {old new : Option ArticleRow} (step : RowStep request actor old new)
    (later : actor' = actor ∨ actor = none) : RowStep request actor' old new := by
  rcases later with rfl | rfl
  · exact step
  · cases old with
    | none =>
        cases new with
        | none => trivial
        | some new =>
            obtain ⟨_, _, _, _, _, missing, _⟩ := step
            cases missing
    | some old =>
        cases new with
        | none => exact step
        | some new =>
            rcases step with same | ⟨_, ⟨_, missing, _⟩, _⟩
            · exact Or.inl same
            · cases missing

/-! ## The invariant -/

section
variable (requests : Pid → Request) (db : Database)

/-- A write that is not committed yet: the row is locked, and committing it is a step. -/
structure Pending (i : Pid) (row : ArticleRow) : Prop where
  positive : 0 < row.id
  issued : row.id < db.nextId
  locked : db.rowLocks row.id = some i
  step : RowStep (requests i) (db.sessions i).actor (db.table.find row.id) (some row)

/-- A row that was committed at some time, or is a write of the request itself. -/
def Known (i : Pid) (row : ArticleRow) : Prop :=
  (∃ n ≤ db.version, (db.history n).find row.id = some row) ∨ row ∈ (db.transaction i).writes

structure Coherent : Prop where
  ids : ∀ n ≤ db.version, ∀ id row, (db.history n).find id = some row → id < db.nextId
  locks : ∀ id i, db.rowLocks id = some i → id < db.nextId
  evolves : ∀ n < db.version, ∀ id,
    RowStep (requests (db.writer (n + 1))) (db.sessions (db.writer (n + 1))).actor
      ((db.history n).find id) ((db.history (n + 1)).find id)
  writes : ∀ i, (db.transaction i).writes = [] ∨
    ∃ row, (db.transaction i).writes = [row] ∧ Pending requests db i row
  view : ∀ i, db.viewed i ≤ db.version
  article : ∀ i row, (db.sessions i).article = .loaded row → Known db i row
  user : ∀ i user, (db.sessions i).user = .loaded user →
    (db.sessions i).actor = none ∨ (db.sessions i).actor = some user

end

namespace Coherent

variable {requests : Pid → Request} {db : Database} {i : Pid}

/-- A row that is there at some time is there ever after, with the same id, author and
creation time, and unchanged once it is deleted. -/
theorem descends (kept : Coherent requests db) {m n : ℕ} (order : m ≤ n) (past : n ≤ db.version)
    {id : ℤ} {row : ArticleRow} (found : (db.history m).find id = some row) :
    ∃ later, (db.history n).find id = some later ∧ Descends row later := by
  induction n with
  | zero =>
      obtain rfl : m = 0 := by omega
      exact ⟨row, found, Descends.refl row⟩
  | succ n ih =>
      by_cases last : m = n + 1
      · subst last
        exact ⟨row, found, Descends.refl row⟩
      · obtain ⟨middle, there, first⟩ := ih (by omega) (by omega)
        have step := kept.evolves n (by omega) id
        rw [there] at step
        obtain ⟨later, next, second⟩ := step.descends
        exact ⟨later, next, first.trans second⟩

theorem viewed_le_succ (kept : Coherent requests db) (j : Pid) :
    (db.transaction j).view.getD (db.version + 1) ≤ db.version + 1 := by
  have before := kept.view j
  rw [Database.viewed] at before
  cases view : (db.transaction j).view with
  | none => exact le_rfl
  | some n =>
      rw [view] at before
      exact Nat.le_succ_of_le before

theorem known_read (kept : Coherent requests db) {id : ℤ} {row : ArticleRow}
    (found : (db.readTable i).find id = some row) : Known db i row := by
  have past : db.viewed i ≤ db.version := kept.view i
  have same : row.id = id := Table.find_id found
  subst same
  rcases kept.writes i with none_ | ⟨written, single, pending⟩
  · rw [Database.readTable, none_] at found
    exact Or.inl ⟨_, past, found⟩
  · rw [Database.readTable, single, Table.overlay_singleton,
      Table.find_put _ _ pending.positive] at found
    by_cases own : row.id = written.id
    · rw [if_pos own] at found
      obtain rfl := Option.some.inj found
      exact Or.inr (by rw [single]; exact List.mem_singleton_self _)
    · rw [if_neg own] at found
      exact Or.inl ⟨_, past, found⟩

/-- A change of one session that keeps its writes. -/
theorem setSession (kept : Coherent requests db) (session : Session)
    (writes : (session.transaction.getD .new).writes = (db.transaction i).writes)
    (view : (session.transaction.getD .new).view.getD db.version ≤ db.version)
    (article : ∀ row, session.article = .loaded row → Known db i row)
    (actor : session.actor = (db.sessions i).actor ∨ (db.sessions i).actor = none)
    (user : ∀ user, session.user = .loaded user →
      session.actor = none ∨ session.actor = some user) :
    Coherent requests (db.setSession i session) := by
  have other : ∀ j, j ≠ i → (db.setSession i session).sessions j = db.sessions j :=
    fun j ne => Function.update_of_ne ne _ _
  have own : (db.setSession i session).sessions i = session := Function.update_self ..
  have ownWrites : ((db.setSession i session).transaction i).writes = (db.transaction i).writes := by
    rw [Database.transaction, own, writes]
  have otherTransaction : ∀ j, j ≠ i →
      (db.setSession i session).transaction j = db.transaction j := by
    intro j ne
    rw [Database.transaction, other j ne]
    rfl
  have actors : ∀ j, ((db.setSession i session).sessions j).actor = (db.sessions j).actor ∨
      (db.sessions j).actor = none := by
    intro j
    by_cases same : j = i
    · subst same
      rw [own]
      exact actor
    · rw [other j same]
      exact Or.inl rfl
  have pending : ∀ j row, Pending requests db j row →
      Pending requests (db.setSession i session) j row :=
    fun j row before => ⟨before.positive, before.issued, before.locked,
      before.step.actor_mono (actors j)⟩
  refine ⟨kept.ids, kept.locks, fun n past id => (kept.evolves n past id).actor_mono (actors _),
    fun j => ?_, fun j => ?_, fun j row loaded => ?_, fun j found loaded => ?_⟩
  · by_cases same : j = i
    · subst same
      rw [ownWrites]
      exact (kept.writes j).imp_right (Exists.imp fun row held => ⟨held.1, pending j row held.2⟩)
    · rw [otherTransaction j same]
      exact (kept.writes j).imp_right (Exists.imp fun row held => ⟨held.1, pending j row held.2⟩)
  · by_cases same : j = i
    · subst same
      rw [Database.viewed, Database.transaction, own]
      exact view
    · rw [Database.viewed, otherTransaction j same]
      exact kept.view j
  · by_cases same : j = i
    · subst same
      rw [own] at loaded
      exact (article row loaded).imp_right fun member => by rw [ownWrites]; exact member
    · rw [other j same] at loaded
      exact (kept.article j row loaded).imp_right fun member => by
        rw [otherTransaction j same]; exact member
  · by_cases same : j = i
    · subst same
      rw [own] at loaded ⊢
      exact user found loaded
    · rw [other j same] at loaded ⊢
      exact kept.user j found loaded

/-! ### Reads -/

theorem known_setSession {row : ArticleRow} (known : Known db i row) (session : Session)
    (writes : (session.transaction.getD .new).writes = (db.transaction i).writes) :
    Known (db.setSession i session) i row := by
  refine known.imp_right fun member => ?_
  have own : (db.setSession i session).sessions i = session := Function.update_self ..
  rw [Database.transaction, own, writes]
  exact member

theorem begin_ (kept : Coherent requests db) : Coherent requests (db.begin_ i) :=
  kept.setSession _ rfl (kept.view i) (kept.article i) (Or.inl rfl) (kept.user i)

theorem takeView (kept : Coherent requests db) : Coherent requests (db.takeView i) :=
  kept.setSession _ rfl (kept.view i) (kept.article i) (Or.inl rfl) (kept.user i)

theorem readArticles (kept : Coherent requests db) : Coherent requests (db.readArticles i) :=
  kept.setSession _ rfl (kept.view i) (kept.article i) (Or.inl rfl) (kept.user i)

theorem expireInstances (kept : Coherent requests db) :
    Coherent requests (db.expireInstances i) := by
  refine kept.setSession _ rfl (kept.view i) (fun row loaded => ?_) (Or.inl rfl)
    fun user loaded => ?_
  · simp only [Slot.expire] at loaded
    split at loaded
    · cases loaded
    · exact kept.article i row loaded
  · simp only [Slot.expire] at loaded
    split at loaded
    · cases loaded
    · exact kept.user i user loaded

theorem observeCompared (kept : Coherent requests db) (row : Option ArticleRow) :
    Coherent requests (db.observeCompared i row) :=
  kept.setSession _ rfl (kept.view i) (kept.article i) (Or.inl rfl) (kept.user i)

theorem receiveArticle (kept : Coherent requests db) {row : ArticleRow} (known : Known db i row) :
    Coherent requests (db.receiveArticle i row) := by
  refine kept.setSession _ rfl (kept.view i) (fun held loaded => ?_) (Or.inl rfl) (kept.user i)
  simp only [Slot.receive] at loaded
  split at loaded
  · rename_i earlier before
    split at loaded
    · obtain rfl := Slot.loaded.inj loaded
      exact kept.article i _ before
    · obtain rfl := Slot.loaded.inj loaded
      exact known
  · obtain rfl := Slot.loaded.inj loaded
    exact known

theorem lockEmail (kept : Coherent requests db) (email : String) :
    Coherent requests (db.lockEmail i email) :=
  ⟨kept.ids, kept.locks, kept.evolves, fun j => (kept.writes j).imp id fun ⟨row, single, pending⟩ =>
    ⟨row, single, pending.positive, pending.issued, pending.locked, pending.step⟩, kept.view,
    kept.article, kept.user⟩

theorem receiveUser (kept : Coherent requests db) (user : UserRow)
    (nobody : (db.sessions i).actor = none) : Coherent requests (db.receiveUser i user) :=
  kept.setSession _ rfl (kept.view i) (kept.article i) (Or.inl rfl) fun _ _ => Or.inl nobody

/-! ### Writes -/

theorem lockRow (kept : Coherent requests db) {id : ℤ} (issued : id < db.nextId)
    (free : db.lockedOut i id = false) : Coherent requests (db.lockRow i id) := by
  have locks : ∀ row j, db.rowLocks row = some j → (db.lockRow i id).rowLocks row = some j := by
    intro row j held
    by_cases same : row = id
    · subst same
      simp only [Database.lockedOut, held, Option.any_some, bne_eq_false_iff_eq] at free
      subst free
      exact Function.update_self ..
    · exact (Function.update_of_ne same _ _).trans held
  refine ⟨kept.ids, fun row j held => ?_, kept.evolves, fun j => ?_, kept.view, kept.article,
    kept.user⟩
  · by_cases same : row = id
    · rw [same]
      exact issued
    · exact kept.locks row j ((Function.update_of_ne same _ _).symm.trans held)
  · exact (kept.writes j).imp_right fun ⟨row, single, before⟩ => ⟨row, single, before.positive,
      before.issued, locks row.id j before.locked, before.step⟩

theorem issue (kept : Coherent requests db) {next : ℤ} (grows : db.nextId ≤ next) :
    Coherent requests { db with nextId := next } :=
  ⟨fun n past id row found => (kept.ids n past id row found).trans_le grows,
    fun id j held => (kept.locks id j held).trans_le grows, kept.evolves,
    fun j => (kept.writes j).imp_right fun ⟨row, single, before⟩ =>
      ⟨row, single, before.positive, before.issued.trans_le grows, before.locked, before.step⟩,
    kept.view, kept.article, kept.user⟩

theorem write (kept : Coherent requests db) (empty : (db.transaction i).writes = [])
    {row : ArticleRow} (pending : Pending requests db i row) :
    Coherent requests (db.write i row) := by
  have own : (db.write i row).sessions i = { db.sessions i with
      transaction := some { db.transaction i with writes := [row] } } := by
    rw [Database.write, Database.setTransaction, empty, List.nil_append]
    exact Function.update_self ..
  have other : ∀ j, j ≠ i → (db.write i row).sessions j = db.sessions j :=
    fun j ne => Function.update_of_ne ne _ _
  have otherTransaction : ∀ j, j ≠ i → (db.write i row).transaction j = db.transaction j := by
    intro j ne
    rw [Database.transaction, other j ne]
    rfl
  have ownTransaction : (db.write i row).transaction i =
      { db.transaction i with writes := [row] } := by
    rw [Database.transaction, own]
    rfl
  have actor : ∀ j, ((db.write i row).sessions j).actor = (db.sessions j).actor := by
    intro j
    by_cases same : j = i
    · subst same
      rw [own]
    · rw [other j same]
  have transfer : ∀ j held, Pending requests db j held → Pending requests (db.write i row) j held :=
    fun j held before => ⟨before.positive, before.issued, before.locked,
      before.step.actor_mono (Or.inl (actor j))⟩
  refine ⟨kept.ids, kept.locks,
    fun n past id => (kept.evolves n past id).actor_mono (Or.inl (actor _)), fun j => ?_,
    fun j => ?_, fun j held loaded => ?_, fun j user loaded => ?_⟩
  · by_cases same : j = i
    · subst same
      exact Or.inr ⟨row, by rw [ownTransaction], transfer j row pending⟩
    · rw [otherTransaction j same]
      exact (kept.writes j).imp_right (Exists.imp fun held own => ⟨own.1, transfer j held own.2⟩)
  · by_cases same : j = i
    · subst same
      rw [Database.viewed, ownTransaction]
      exact kept.view j
    · rw [Database.viewed, otherTransaction j same]
      exact kept.view j
  · by_cases same : j = i
    · subst same
      rw [own] at loaded
      rcases kept.article j held loaded with committed | member
      · exact Or.inl committed
      · rw [empty] at member
        cases member
    · rw [other j same] at loaded
      exact (kept.article j held loaded).imp_right fun member => by
        rw [otherTransaction j same]; exact member
  · by_cases same : j = i
    · subst same
      rw [own] at loaded ⊢
      exact kept.user j user loaded
    · rw [other j same] at loaded ⊢
      exact kept.user j user loaded

/-- The end of a transaction whose session holds only rows that are committed. -/
theorem finish (kept : Coherent requests db) (session : Session)
    (closed : session.transaction = none) (actor : session.actor = (db.sessions i).actor)
    (article : ∀ row, session.article = .loaded row →
      ∃ n ≤ db.version, (db.history n).find row.id = some row)
    (user : ∀ user, session.user = .loaded user →
      session.actor = none ∨ session.actor = some user) :
    Coherent requests ((db.setSession i session).release i) := by
  have own : ((db.setSession i session).release i).sessions i = session :=
    Function.update_self ..
  have other : ∀ j, j ≠ i →
      ((db.setSession i session).release i).sessions j = db.sessions j :=
    fun j ne => Function.update_of_ne ne _ _
  have ownTransaction : ((db.setSession i session).release i).transaction i = .new := by
    rw [Database.transaction, own, closed]
    rfl
  have otherTransaction : ∀ j, j ≠ i →
      ((db.setSession i session).release i).transaction j = db.transaction j := by
    intro j ne
    rw [Database.transaction, other j ne]
    rfl
  have actors : ∀ j, (((db.setSession i session).release i).sessions j).actor =
      (db.sessions j).actor := by
    intro j
    by_cases same : j = i
    · subst same
      rw [own, actor]
    · rw [other j same]
  refine ⟨kept.ids, fun id j held => ?_,
    fun n past id => (kept.evolves n past id).actor_mono (Or.inl (actors _)), fun j => ?_,
    fun j => ?_, fun j row loaded => ?_, fun j found loaded => ?_⟩
  · exact kept.locks id j ((Database.release_rowLocks _ i j id).mp held).1
  · by_cases same : j = i
    · subst same
      rw [ownTransaction]
      exact Or.inl rfl
    · rw [otherTransaction j same]
      rcases kept.writes j with empty | ⟨row, single, before⟩
      · exact Or.inl empty
      · refine Or.inr ⟨row, single, before.positive, before.issued, ?_,
          before.step.actor_mono (Or.inl (actors j))⟩
        exact (Database.release_rowLocks _ i j row.id).mpr ⟨before.locked, same⟩
  · by_cases same : j = i
    · subst same
      rw [Database.viewed, ownTransaction]
      exact le_rfl
    · rw [Database.viewed, otherTransaction j same]
      exact kept.view j
  · by_cases same : j = i
    · subst same
      rw [own] at loaded
      exact Or.inl (article row loaded)
    · rw [other j same] at loaded
      exact (kept.article j row loaded).imp_right fun member => by
        rw [otherTransaction j same]; exact member
  · by_cases same : j = i
    · subst same
      rw [own] at loaded ⊢
      exact user found loaded
    · rw [other j same] at loaded ⊢
      exact kept.user j found loaded

theorem rollbackStep (kept : Coherent requests db) : Coherent requests (db.rollbackStep i) := by
  unfold Database.rollbackStep
  split
  · exact kept
  · refine kept.finish _ rfl rfl (fun row loaded => ?_) fun user loaded => ?_
    · cases slot : (db.sessions i).article <;> simp [slot, Slot.expire] at loaded
    · cases slot : (db.sessions i).user <;> simp [slot, Slot.expire] at loaded

/-- What is published is a step of every row: one by the write, and none by the others. -/
theorem publish (kept : Coherent requests db) {row : ArticleRow} {transaction : Transaction}
    (open_ : db.transaction i = transaction) (single : transaction.writes = [row])
    (pending : Pending requests db i row) : Coherent requests (db.publish i transaction) := by
  have shape : db.publish i transaction = { db with
      history := Function.update db.history (db.version + 1) (db.table.put row)
      version := db.version + 1
      writer := Function.update db.writer (db.version + 1) i
      users := db.users ++ transaction.users } := by
    simp only [Database.publish, single, Table.overlay_singleton]
  rw [shape]
  have past : ∀ n, n ≤ db.version →
      Function.update db.history (db.version + 1) (db.table.put row) n = db.history n :=
    fun n before => Function.update_of_ne (by omega) _ _
  have latest : Function.update db.history (db.version + 1) (db.table.put row) (db.version + 1) =
      db.table.put row := Function.update_self ..
  have found : ∀ id, (db.table.put row).find id = if id = row.id then some row else db.table.find id :=
    Table.find_put db.table row pending.positive
  have committed : ∀ held, (∃ n ≤ db.version, (db.history n).find held.id = some held) →
      ∃ n ≤ db.version + 1, (Function.update db.history (db.version + 1) (db.table.put row) n).find
        held.id = some held := by
    rintro held ⟨n, before, there⟩
    exact ⟨n, by omega, by rw [past n before]; exact there⟩
  refine ⟨fun n before id held there => ?_, kept.locks, fun n before id => ?_, fun j => ?_,
    fun j => (kept.viewed_le_succ j), fun j held loaded => ?_, kept.user⟩
  · dsimp only at before there ⊢
    by_cases last : n = db.version + 1
    · subst last
      simp only [latest, found] at there
      split at there
      · rename_i same
        rw [same]
        exact pending.issued
      · exact kept.ids _ le_rfl id held there
    · rw [past n (by omega)] at there
      exact kept.ids n (by omega) id held there
  · dsimp only at before ⊢
    by_cases last : n = db.version
    · subst last
      simp only [latest, past db.version le_rfl, found, Function.update_self]
      by_cases same : id = row.id
      · subst same
        rw [if_pos rfl]
        exact pending.step
      · rw [if_neg same]
        exact RowStep.self _ _ _
    · have early : n < db.version := by omega
      simp only [past n early.le, past (n + 1) early,
        Function.update_of_ne (show n + 1 ≠ db.version + 1 by omega)]
      exact kept.evolves n early id
  · rcases kept.writes j with none_ | ⟨held, one, before⟩
    · exact Or.inl none_
    · refine Or.inr ⟨held, one, before.positive, before.issued, before.locked, ?_⟩
      have now : (Function.update db.history (db.version + 1) (db.table.put row)
          (db.version + 1)).find held.id = if held.id = row.id then some row else
            db.table.find held.id := by rw [latest, found]
      show RowStep _ _ ((Function.update db.history (db.version + 1) (db.table.put row)
        (db.version + 1)).find held.id) _
      rw [now]
      by_cases same : held.id = row.id
      · -- one row has one lock, so this is the request that publishes, and the row is its write
        rw [if_pos same]
        have holder : some j = some i := by
          rw [← before.locked, same, pending.locked]
        obtain rfl := Option.some.inj holder
        rw [← open_] at single
        obtain rfl := List.singleton_inj.mp (one.symm.trans single)
        exact Or.inl rfl
      · rw [if_neg same]
        exact before.step
  · rcases kept.article j held loaded with there | member
    · exact Or.inl (committed held there)
    · exact Or.inr member

theorem addUsers (kept : Coherent requests db) (users : List UserRow) :
    Coherent requests { db with users := users } :=
  ⟨kept.ids, kept.locks, kept.evolves, fun j => (kept.writes j).imp_right
    fun ⟨row, single, before⟩ => ⟨row, single, before.positive, before.issued, before.locked,
      before.step⟩, kept.view, kept.article, kept.user⟩

theorem publish_find {transaction : Transaction} {row : ArticleRow}
    (single : transaction.writes = [row]) (positive : 0 < row.id) :
    ((db.publish i transaction).history (db.publish i transaction).version).find row.id =
      some row := by
  simp only [Database.publish, single, Table.overlay_singleton, Function.update_self]
  rw [Table.find_put _ _ positive, if_pos rfl]

theorem commitStep (kept : Coherent requests db) : Coherent requests (db.commitStep i) := by
  unfold Database.commitStep
  rcases kept.writes i with none_ | ⟨row, single, pending⟩
  · have shape : db.publish i (db.transaction i) =
        { db with users := db.users ++ (db.transaction i).users } := by
      simp only [Database.publish, none_]
    rw [shape]
    refine (kept.addUsers _).finish _ rfl rfl (fun row loaded => ?_) (kept.user i)
    rcases kept.article i row loaded with there | member
    · exact there
    · rw [none_] at member
      cases member
  · have kept' := kept.publish rfl single pending
    have sessions := Database.publish_sessions db i (db.transaction i)
    refine kept'.finish _ rfl (by rw [sessions]) (fun held loaded => ?_) (kept.user i)
    rcases kept.article i held loaded with ⟨n, before, there⟩ | member
    · have extended := Database.publish_extends db i (db.transaction i)
      exact ⟨n, before.trans extended.version, by rw [extended.history n before]; exact there⟩
    · rw [single, List.mem_singleton] at member
      subst member
      exact ⟨_, le_rfl, publish_find single pending.positive⟩

/-- The committed state that a commit adds differs from the last one in the row it writes. -/
theorem commitStep_find (kept : Coherent requests db) {row : ArticleRow}
    (single : (db.transaction i).writes = [row]) (id : ℤ) :
    ((db.commitStep i).history (db.version + 1)).find id =
      if id = row.id then some row else db.table.find id := by
  rcases kept.writes i with none_ | ⟨written, one, pending⟩
  · rw [none_] at single
    cases single
  rcases Database.commitStep_cases db i with ⟨none_, -⟩ | ⟨-, -, -, history⟩
  · rw [none_] at single
    cases single
  · obtain rfl := List.singleton_inj.mp (one.symm.trans single)
    rw [history, Function.update_self, single, Table.overlay_singleton,
      Table.find_put _ _ pending.positive]

theorem casStep (kept : Coherent requests db) {id : ℤ} {expected stamp : DateTime}
    {change : ArticleRow → ArticleRow} {count : ℕ} {db' : Database}
    (empty : (db.transaction i).writes = [])
    (may : ∃ n ≤ db.version, ∃ row, (db.history n).find id = some row ∧
      Authorized (db.sessions i).actor row)
    (replaces : ∀ row, row.id = id → row.updatedAt = expected →
      (requests i).Replaces row { change row with updatedAt := stamp })
    (step : db.casStep i id expected change stamp = some (count, db')) : Coherent requests db' := by
  have compared : ∀ row, Coherent requests ((db.begin_ i).observeCompared i row) :=
    fun row => kept.begin_.observeCompared row
  have current : (db.currentTable i).find id = db.table.find id := by
    rw [Database.currentTable, empty, Table.overlay_nil]
  unfold Database.casStep at step
  rw [current] at step
  split at step
  · cases step
  rename_i free
  rw [Bool.not_eq_true] at free
  split at step
  · obtain ⟨-, rfl⟩ := Prod.mk.inj (Option.some.inj step)
    exact compared _
  rename_i row found
  have same : row.id = id := Table.find_id found
  have issued : id < db.nextId := kept.ids db.version le_rfl id row found
  have locked := (compared (db.table.find id)).lockRow (i := i) issued free
  split at step
  · rename_i matched
    split at step
    · obtain ⟨-, rfl⟩ := Prod.mk.inj (Option.some.inj step)
      exact locked
    · obtain ⟨-, rfl⟩ := Prod.mk.inj (Option.some.inj step)
      have step := replaces row same matched.2
      have descends := step.descends matched.1
      have id_ : ({ change row with updatedAt := stamp } : ArticleRow).id = id :=
        descends.id.trans same
      -- the version that was loaded and the version that is replaced have one author
      have authorized : Authorized (db.sessions i).actor row := by
        obtain ⟨n, past, loaded, there, user, actor, allowed⟩ := may
        obtain ⟨now, last, later⟩ := kept.descends past le_rfl there
        obtain rfl := Option.some.inj (found.symm.trans last)
        exact ⟨user, actor, by rw [later.authorId]; exact allowed⟩
      have session : ∀ read, ((((db.begin_ i).observeCompared i read).lockRow i id).sessions i) =
          { db.sessions i with
            transaction := some (db.transaction i), compared := some read } := by
        intro read
        simp [Database.lockRow, Database.observeCompared, Database.begin_,
          Database.setTransaction, Database.setSession]
      refine locked.write ?_ ⟨?_, ?_, ?_, ?_⟩
      · rw [Database.transaction, session]
        exact empty
      · rw [id_]
        exact Table.find_positive found
      · rw [id_]
        exact issued
      · rw [id_]
        exact Function.update_self ..
      · rw [session, id_]
        show RowStep _ _ (db.table.find id) _
        rw [found]
        exact Or.inr ⟨matched.1, authorized, step⟩
  · obtain ⟨-, rfl⟩ := Prod.mk.inj (Option.some.inj step)
    exact locked

theorem insertStep (kept : Coherent requests db) {row : ArticleRow}
    (empty : (db.transaction i).writes = []) (positive : 0 < row.id) (fresh : db.nextId ≤ row.id)
    (inserts : (requests i).Inserts (db.sessions i).actor row) :
    Coherent requests (db.insertStep i row) := by
  have free : db.lockedOut i row.id = false := by
    cases held : db.rowLocks row.id with
    | none => simp [Database.lockedOut, held]
    | some j =>
        have := kept.locks _ _ held
        omega
  have opened : Coherent requests { db.begin_ i with nextId := row.id + 1 } :=
    (kept.begin_ (i := i)).issue (fresh.trans (Int.lt_succ_self _).le)
  have session : (({ db.begin_ i with nextId := row.id + 1 } : Database).lockRow i row.id).sessions i =
      { db.sessions i with transaction := some (db.transaction i) } := Function.update_self ..
  have transaction : (({ db.begin_ i with nextId := row.id + 1 } : Database).lockRow i
      row.id).transaction i = db.transaction i := by
    rw [Database.transaction, session]
    rfl
  have missing : db.table.find row.id = none := by
    rw [Option.eq_none_iff_forall_ne_some]
    intro other found
    have := kept.ids db.version le_rfl _ _ found
    omega
  have locked : Coherent requests (Database.lockRow _ i row.id) :=
    opened.lockRow (Int.lt_succ_self _) free
  have written : Coherent requests (Database.write _ i row) :=
    locked.write (by rw [transaction]; exact empty) ⟨positive, Int.lt_succ_self _,
      Function.update_self .., by
        rw [session]
        show RowStep _ _ (db.table.find row.id) _
        rw [missing]
        exact inserts⟩
  exact written.setSession _ rfl (written.view i) (fun _ loaded => by cases loaded) (Or.inl rfl)
    (written.user i)

end Coherent

/-! ## The protocol -/

section
variable (requests : Pid → Request)

/-- What a request owes before it sends a statement. -/
def rowsPre (i : Pid) (op : Op) (db : Database) : Prop :=
  match op with
  | .mysql (.selectUser id) => (requests i).principal = some id ∧
      (db.sessions i).actor = none ∧ (db.sessions i).user = .absent
  | .mysql (.selectUserByEmail _) => (db.sessions i).actor = none
  | .mysql (.insertUser _ _ _) => (db.sessions i).actor = none
  | .mysql (.insertArticle authorId title body) =>
      (db.sessions i).committed = none ∧ (db.transaction i).writes = [] ∧ ∃ principal user,
        requests i = .create principal title body ∧ (db.sessions i).actor = some user ∧
          user.id = authorId
  | .mysql (.updateArticle id expected title body) =>
      (db.sessions i).committed = none ∧ (db.transaction i).writes = [] ∧
        (∃ n ≤ db.version, ∃ row, (db.history n).find id = some row ∧
          Authorized (db.sessions i).actor row) ∧
        ∃ principal, requests i = .update principal id title body expected
  | .mysql (.softDeleteArticle id expected _) =>
      (db.sessions i).committed = none ∧ (db.transaction i).writes = [] ∧
        (∃ n ≤ db.version, ∃ row, (db.history n).find id = some row ∧
          Authorized (db.sessions i).actor row) ∧
        ∃ principal, requests i = .delete principal id expected
  | _ => True

variable {requests}

theorem Coherent.selectUser {db : Database} {i : Pid} {user : UserRow}
    (kept : Coherent requests db) (nobody : (db.sessions i).actor = none)
    (absent : (db.sessions i).user = .absent) :
    Coherent requests (((db.takeView i).receiveUser i user).observeActor i user) := by
  have actor : ((db.takeView i).sessions i).actor = none := by
    simp [Database.takeView, Database.setTransaction, Database.setSession, nobody]
  have received := (kept.takeView (i := i)).receiveUser user actor
  have session : ((db.takeView i).receiveUser i user).sessions i =
      { (db.takeView i).sessions i with user := .loaded user } := by
    simp [Database.receiveUser, Database.takeView, Database.setTransaction, Database.setSession,
      absent, Slot.receive]
  refine received.setSession _ rfl (received.view i) (received.article i)
    (Or.inr (by rw [session]; exact actor)) fun held loaded => Or.inr ?_
  rw [session] at loaded
  obtain rfl := Slot.loaded.inj loaded
  rfl

theorem Coherent.statementStep {db db' : Database} {i : Pid} {c : Choice} {statement : Statement}
    {reply : Except Exc statement.Reply} (kept : Coherent requests db)
    (owed : rowsPre requests i (.mysql statement) db)
    (step : db.statementStep i c statement = some (reply, db')) : Coherent requests db' := by
  have read := kept.readArticles (i := i)
  have known : ∀ id row, (db.readTable i).find id = some row → Known (db.readArticles i) i row :=
    fun id row found => Coherent.known_setSession (kept.known_read found) _ rfl
  cases statement with
  | selectUser id =>
      simp only [Database.statementStep] at step
      split at step <;> obtain ⟨-, rfl⟩ := Prod.mk.inj (Option.some.inj step)
      · exact kept.selectUser owed.2.1 owed.2.2
      · exact kept.takeView
  | selectUserByEmail email =>
      simp only [Database.statementStep] at step
      split at step <;> obtain ⟨-, rfl⟩ := Prod.mk.inj (Option.some.inj step)
      · refine kept.takeView.receiveUser _ ?_
        simp only [Database.takeView, Database.setTransaction, Database.setSession,
          Function.update_self]
        exact owed
      · exact kept.takeView
  | selectRole name =>
      obtain ⟨-, rfl⟩ := Prod.mk.inj (Option.some.inj step)
      exact kept.takeView
  | insertUser email passwordHash roleName =>
      rcases Database.insertUser_cases step with ⟨-, rfl, -⟩ | ⟨-, rfl, -, -⟩
      · exact kept.begin_
      · have locked := kept.lockEmail (i := i) email
        have opened := locked.setSession (i := i) { db.sessions i with
            transaction := some { db.transaction i with users := (db.transaction i).users ++
              [⟨c.newId, email, passwordHash, roleName⟩] } } rfl (kept.view i) (kept.article i)
          (Or.inl rfl) (kept.user i)
        refine opened.receiveUser _ ?_
        simp only [Database.setSession, Function.update_self]
        exact owed
  | selectArticle id =>
      simp only [Database.statementStep] at step
      split at step
      · rename_i row found
        split at step <;> obtain ⟨-, rfl⟩ := Prod.mk.inj (Option.some.inj step)
        · exact read.receiveArticle (known id row found)
        · exact read
      · obtain ⟨-, rfl⟩ := Prod.mk.inj (Option.some.inj step)
        exact read
  | selectPage limit after author =>
      simp only [Database.statementStep] at step
      split at step <;> obtain ⟨-, rfl⟩ := Prod.mk.inj (Option.some.inj step)
      · exact kept.begin_
      · exact read
  | insertArticle authorId title body =>
      simp only [Database.statementStep] at step
      split at step
      · rename_i issued
        obtain ⟨-, rfl⟩ := Prod.mk.inj (Option.some.inj step)
        obtain ⟨-, empty, principal, user, shape, actor, rfl⟩ := owed
        exact kept.insertStep empty issued.2 issued.1
          ⟨principal, title, body, user, shape, actor, rfl, rfl, rfl, rfl, rfl⟩
      · cases step
  | refreshArticle id =>
      simp only [Database.statementStep] at step
      split at step
      · rename_i row found
        obtain ⟨-, rfl⟩ := Prod.mk.inj (Option.some.inj step)
        refine read.setSession _ rfl (read.view i) (fun held loaded => ?_) (Or.inl rfl)
          (read.user i)
        obtain rfl := Slot.loaded.inj loaded
        exact known id _ found
      · obtain ⟨-, rfl⟩ := Prod.mk.inj (Option.some.inj step)
        exact read
  | updateArticle id expected title body =>
      obtain ⟨⟨count, db''⟩, cas, same⟩ := Option.map_eq_some_iff.mp step
      obtain ⟨-, rfl⟩ := Prod.mk.inj same
      obtain ⟨-, empty, may, principal, shape⟩ := owed
      refine kept.casStep empty may (fun row own token => ?_) cas
      rw [shape]
      exact ⟨own, token, rfl⟩
  | softDeleteArticle id expected deletedAt =>
      obtain ⟨⟨count, db''⟩, cas, same⟩ := Option.map_eq_some_iff.mp step
      obtain ⟨-, rfl⟩ := Prod.mk.inj same
      obtain ⟨-, empty, may, principal, shape⟩ := owed
      refine kept.casStep empty may (fun row own token => ?_) cas
      rw [shape]
      exact ⟨own, token, deletedAt, rfl⟩

theorem Coherent.exec {w w' : World} {i : Pid} {c : Choice} {op : Op} {reply : op.Reply}
    (kept : Coherent requests w.db) (owed : rowsPre requests i op w.db)
    (step : w.exec i c op = some (reply, w')) : Coherent requests w'.db := by
  by_cases aside : op.asksDatabase = false
  · rw [World.exec_db aside step]
    exact kept
  · cases op <;> first
      | exact absurd rfl aside
      | skip
    case mysql statement =>
      simp only [World.exec] at step
      split at step
      · obtain ⟨-, rfl⟩ := Prod.mk.inj (Option.some.inj step)
        exact kept.begin_
      · obtain ⟨⟨_, db⟩, answered, same⟩ := Option.map_eq_some_iff.mp step
        obtain ⟨-, rfl⟩ := Prod.mk.inj same
        exact kept.statementStep owed answered
    case commit =>
      obtain ⟨-, rfl⟩ := Prod.mk.inj (Option.some.inj step)
      rcases Database.commitReply_cases w.db i c with done | same
      · simp only [done]
        exact kept.commitStep
      · simp only [same]
        exact kept
    case rollback =>
      obtain ⟨-, rfl⟩ := Prod.mk.inj (Option.some.inj step)
      exact kept.rollbackStep
    case expireAll =>
      obtain ⟨-, rfl⟩ := Prod.mk.inj (Option.some.inj step)
      exact kept.expireInstances

end

/-- What happens outside the requests: Redis may change, and so may the users and their roles. -/
structure Outside (w w' : World) : Prop where
  requests : w'.requests = w.requests
  db : ∃ users, w'.db = { w.db with users := users }

theorem Outside.undisturbed {w w' : World} (outside : Outside w w') (i : Pid) :
    Undisturbed i w w' := by
  obtain ⟨requests, users, db⟩ := outside
  exact ⟨by rw [db], by rw [requests], by rw [db]; exact ⟨le_rfl, fun _ _ => rfl, fun _ _ => rfl⟩⟩

theorem Outside.coherent {requests : Pid → Request} {w w' : World} (outside : Outside w w')
    (kept : Coherent requests w.db) : Coherent requests w'.db := by
  obtain ⟨-, users, db⟩ := outside
  rw [db]
  exact kept.addUsers users

theorem Expires.outside {w w' : World} (expires : Expires w w') : Outside w w' := by
  obtain ⟨key, entry, -, -, rfl⟩ := expires
  exact ⟨rfl, w.db.users, rfl⟩

/-- The protocol of the articles table, under any allowance and any events outside. -/
def rowsProtocol (requests : Pid → Request) (allow : Allowance) (env : World → World → Prop)
    (outside : ∀ w w', env w w' → Outside w w') : Protocol Op Op.Reply World where
  exec := Exec allow
  env := env
  inv w := Coherent requests w.db
  rely := Undisturbed
  pre i op w := rowsPre requests i op w.db
  rely_refl := Undisturbed.refl
  rely_trans := Undisturbed.trans
  step_inv := fun kept owed ⟨_, _, step⟩ => kept.exec owed step
  step_rely := fun _ _ ⟨_, _, step⟩ other => World.exec_undisturbed step other
  env_inv := fun kept event => (outside _ _ event).coherent kept
  env_rely := fun _ event => (outside _ _ event).undisturbed _

end ContentPlatform
