import ContentPlatform.World.Served

/-!
# Runs of the service

A run starts with no request under way and interleaves the requests of a
setting step by step.  `replay` executes one schedule.
-/

set_option autoImplicit false

namespace ContentPlatform

open Program Protocol

/-- No request has begun; the table, the store and the users are whatever they are. -/
structure Initial (w : World) : Prop where
  sessions : ∀ i, w.db.sessions i = .new
  requests : ∀ i, w.requests i = .new
  version : w.db.version = 0
  issued : ∀ id row, w.db.table.find id = some row → id < w.db.nextId
  unlocked : ∀ id, w.db.rowLocks id = none
  unclaimed : ∀ email, w.db.emailLocks email = none

def World.fresh (table : Table) (nextId : ℤ) (users : List UserRow) : World where
  db := ⟨fun _ => table, 0, fun _ => 0, nextId, users, ["admin", "user"], fun _ => none,
    fun _ => none, fun _ => .new⟩
  store := ⟨fun _ => none, fun _ => 0⟩
  requests := fun _ => .new
  dummyHash := none

theorem World.fresh_initial {table : Table} {nextId : ℤ} (users : List UserRow)
    (issued : ∀ row ∈ table.rows, row.id < nextId) : Initial (World.fresh table nextId users) :=
  ⟨fun _ => rfl, fun _ => rfl, rfl, fun id row found => by
    obtain ⟨member, rfl⟩ := Table.find_some.mp found
    exact issued row member, fun _ => rfl, fun _ => rfl⟩

abbrev System := Config Op Op.Reply Exc Response World

def App.start (app : App) (requests : Pid → Request) (w : World) : System :=
  Config.initial w fun i => app.serve (requests i)

def Setting.Reaches (σ : Setting) : System → System → Prop := Steps (Exec σ.allow) σ.env

/-- A run adds committed states and keeps those there are. -/
theorem Setting.Reaches.extends_ {σ : Setting} {c c' : System} (run : σ.Reaches c c') :
    Extends c.state.db c'.state.db := by
  induction run with
  | refl => exact Extends.refl _
  | tail _ step ih =>
      cases step with
      | run i _ exec =>
          obtain ⟨c, -, exec⟩ := exec
          exact ih.trans (exec_extends exec)
      | env event => exact ih.trans ((σ.outside _ _ event).undisturbed 0).db

section
variable {σ : Setting} {w : World}

theorem Initial.fresh (start : Initial w) (i : Pid) : Own i Fresh w := by
  rw [Own, start.sessions i, start.requests i]
  exact ⟨rfl, rfl, rfl, rfl, rfl, rfl⟩

theorem Initial.coherent (start : Initial w) (requests : Pid → Request) :
    Coherent requests w.db := by
  have transaction : ∀ i, w.db.transaction i = .new := by
    intro i
    rw [Database.transaction, start.sessions i]
    rfl
  refine ⟨fun n past id row found => ?_, fun id i held => ?_, fun n past => ?_, fun i => ?_,
    fun i => ?_, fun i row loaded => ?_, fun i user loaded => ?_⟩
  · rw [start.version, Nat.le_zero] at past
    subst past
    exact start.issued id row (by rw [Database.table, start.version]; exact found)
  · rw [start.unlocked id] at held
    cases held
  · rw [start.version] at past
    exact absurd past (Nat.not_lt_zero n)
  · rw [transaction i]
    exact Or.inl rfl
  · rw [Database.viewed, transaction i]
    exact le_rfl
  · rw [start.sessions i] at loaded
    cases loaded
  · rw [start.sessions i] at loaded
    cases loaded

/-- Every request of a run keeps the protocol of the articles table. -/
theorem Initial.allSafe (start : Initial w) (app : App) :
    σ.rows.AllSafe (fun i => Served σ i) (app.start σ.requests w) :=
  ⟨start.coherent σ.requests, fun i => serve_triple app w (start.coherent σ.requests) (start.fresh i)⟩

end

/-! ## Replaying a schedule -/

def advance (check : World → Pid → Op → Choice → Bool) (c : System) (i : Pid) (choice : Choice) :
    Option System :=
  match c.code i with
  | .call op next =>
      if check c.state i op choice then
        match c.state.exec i choice op with
        | some (reply, w) =>
            some ⟨w, Function.update c.code i (next reply), Function.update c.started i true⟩
        | none => none
      else none
  | _ => none

def replay (check : World → Pid → Op → Choice → Bool) (c : System) :
    List (Pid × Choice) → Option System
  | [] => some c
  | (i, choice) :: rest => (advance check c i choice).bind fun c' => replay check c' rest

def turns (i : Pid) (count : ℕ) (choice : Choice) : List (Pid × Choice) :=
  List.replicate count (i, choice)

theorem advance_step {check : World → Pid → Op → Choice → Bool} {allow : Allowance}
    {env : World → World → Prop} {c c' : System} {i : Pid} {choice : Choice}
    (sound : ∀ w i op choice, check w i op choice = true → allow w i op choice)
    (next : advance check c i choice = some c') : Step (Exec allow) env c c' := by
  unfold advance at next
  split at next
  · rename_i op rest code
    split at next
    · rename_i checked
      split at next
      · rename_i reply w answer
        obtain rfl := Option.some.inj next
        exact Step.run i code ⟨choice, sound _ _ _ _ checked, answer⟩
      · cases next
    · cases next
  · cases next

theorem replay_steps {check : World → Pid → Op → Choice → Bool} {allow : Allowance}
    {env : World → World → Prop} {c c' : System} {schedule : List (Pid × Choice)}
    (sound : ∀ w i op choice, check w i op choice = true → allow w i op choice)
    (run : replay check c schedule = some c') : Steps (Exec allow) env c c' := by
  have extend : ∀ (schedule : List (Pid × Choice)) (c₀ c₁ : System), Steps (Exec allow) env c₀ c₁ →
      replay check c₁ schedule = some c' → Steps (Exec allow) env c₀ c' := by
    intro schedule
    induction schedule with
    | nil =>
        intro c₀ c₁ before last
        obtain rfl := Option.some.inj last
        exact before
    | cons turn rest ih =>
        intro c₀ c₁ before last
        obtain ⟨c₂, next, last⟩ := Option.bind_eq_some_iff.mp last
        exact ih c₀ c₂ (before.tail (advance_step sound next)) last
  exact extend schedule c c .refl run

theorem Setting.exists_replay (σ : Setting) (check : World → Pid → Op → Choice → Bool)
    (sound : ∀ w i op choice, check w i op choice = true → σ.allow w i op choice) (c : System)
    (schedule : List (Pid × Choice)) (P : System → Bool)
    (run : (replay check c schedule).any P = true) : ∃ c', σ.Reaches c c' ∧ P c' = true := by
  cases last : replay check c schedule with
  | none => rw [last] at run; cases run
  | some c' =>
      rw [last] at run
      exact ⟨c', replay_steps sound last, run⟩

/-! ## A small service -/

/-- Anything may fail, and what is cached expires. -/
def Setting.free (requests : Pid → Request) : Setting :=
  ⟨requests, fun _ _ _ _ => True, Expires, fun _ _ => Expires.outside⟩

/-- An author, a reader and an admin. -/
def ann : UserRow := ⟨1, "ann@example.org", "$2b$12$", "user"⟩
def bob : UserRow := ⟨2, "bob@example.org", "$2b$12$", "user"⟩
def eve : UserRow := ⟨3, "eve@example.org", "$2b$12$", "admin"⟩

def instant (micros : ℤ) : DateTime := (DateTime.ofMicros? micros).getD epoch

def editedArticle : Table :=
  Table.empty.put ⟨1, 1, "title", "text", instant 0, instant 1, none⟩

def requestsOf (requests : List Request) (i : Pid) : Request := requests.getD i (.get 0)

end ContentPlatform
