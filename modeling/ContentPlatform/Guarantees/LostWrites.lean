import ContentPlatform.Guarantees.OptimisticConcurrency
import ContentPlatform.World.Aftermath

/-!
# The answer to a write that came too late

A compare-and-set that matches nothing is answered after a second read of the article.  That read
sees the committed state its transaction began with, not the one the compare-and-set ran against.
-/

set_option autoImplicit false

namespace ContentPlatform

open Program Protocol

section
variable {requests : Pid → Request} {db db' : Database} {i : Pid} {c : Choice} {op : Op}

def ComparedCommitted (requests : Pid → Request) (db : Database) : Prop :=
  ∀ i seen, (db.sessions i).compared = some seen → ∃ n ≤ db.version, ∃ id expected,
    (requests i).conditional = some (id, expected) ∧ (db.history n).find id = seen

theorem ComparedCommitted.kept (before : ComparedCommitted requests db) (extends_ : Extends db db')
    (same : ∀ j, (db'.sessions j).compared = (db.sessions j).compared) :
    ComparedCommitted requests db' := by
  intro j seen compared
  rw [same j] at compared
  obtain ⟨n, past, id, expected, conditional, found⟩ := before j seen compared
  refine ⟨n, past.trans extends_.version, id, expected, conditional, ?_⟩
  rw [extends_.history n past]
  exact found

theorem ComparedCommitted.step (before : ComparedCommitted requests db)
    (owed : rowsPre requests i op db) (step : DatabaseStep i c op db db') :
    ComparedCommitted requests db' := by
  have aside : ∀ {db' : Database}, OwnStep i db db' →
      (db'.sessions i).compared = (db.sessions i).compared → ComparedCommitted requests db' := by
    intro db' own same
    apply before.kept own.kept
    intro j
    by_cases other : j ≠ i
    · rw [own.sessions j other]
    · rw [not_not.mp other]
      exact same
  cases step with
  | aside own keeps => exact aside own keeps.compared
  | @compare _ _ _ id expected change count compares cas =>
      obtain ⟨empty, conditional⟩ := compares.conditional owed
      have own := Database.casStep_own cas
      have compared := (casStep_writes cas).1
      intro j seen same
      by_cases other : j ≠ i
      · rw [own.sessions j other] at same
        obtain ⟨n, past, rest⟩ := before j seen same
        rw [own.version, own.history]
        exact ⟨n, past, rest⟩
      · obtain rfl := not_not.mp other
        have seen_ := Option.some.inj (compared.symm.trans same)
        rw [Database.currentTable, empty, Table.overlay_nil] at seen_
        refine ⟨db.version, own.version.ge, id, expected, conditional, ?_⟩
        rw [own.history]
        exact seen_
  | insert issued =>
      exact aside (Database.insertStep_own db i _) (by rw [Database.insertStep_sessions])
  | rollback =>
      apply aside (Database.rollbackStep_own db i)
      rcases rollback_sessions db i with same | ended
      · rw [same]
      · rw [ended]
  | commit =>
      apply before.kept (Database.commitStep_extends db i)
      intro j
      by_cases other : j ≠ i
      · rw [Database.commitStep_sessions db other]
      · rw [not_not.mp other, Database.commitStep_session]

end

theorem Initial.judged {σ : Setting} (foreign : σ.Foreign) (app : App) {w : World}
    (start : Initial w) {c : System} (run : σ.Reaches (app.start σ.requests w) c) {i : Pid} {id : ℤ}
    {expected : DateTime} (conditional : (σ.requests i).conditional = some (id, expected))
    {outcome : Except Exc Response} (ended : c.outcome i = some outcome) :
    Judged σ i id expected outcome c.state := by
  have each : ∀ j, σ.assumed.Safe j (app.serve (σ.requests j)) (fun outcome w =>
      ∀ id expected, (σ.requests j).conditional = some (id, expected) →
        Judged σ j id expected outcome w) w := by
    intro j
    have kept : Coherent σ.requests w.db := start.coherent σ.requests
    have fresh := start.fresh j
    cases shape : (σ.requests j).conditional with
    | none =>
        have free : ∀ op w, σ.assumed.pre j op w := fun _ _ => trivial
        apply (Triple.anything free (app.serve (σ.requests j)) w kept trivial).mono
        intro outcome w' _ _ id expected impossible
        cases impossible
    | some target =>
        apply (serve_judged foreign app shape w kept ⟨fresh.compared, fresh.empty⟩).mono
        intro outcome w' _ judged id expected same
        obtain rfl := Option.some.inj same
        exact judged
  have both := AllSafe.and_covered σ.assumed_covers (start.allSafe (σ := σ) app) each
  exact ((both.steps run).ended i outcome ended).2 id expected conditional

theorem Initial.comparedCommitted {σ : Setting} (app : App) {w : World} (start : Initial w)
    {c : System} (run : σ.Reaches (app.start σ.requests w) c) :
    ComparedCommitted σ.requests c.state.db := by
  refine AllSafe.invariant (P := σ.rows) (J := fun w => ComparedCommitted σ.requests w.db)
    (fun _ before owed stepped => ?_) (fun _ before moved => ?_) (start.allSafe (σ := σ) app) ?_ run
  · obtain ⟨choice, -, step⟩ := stepped
    exact before.step owed (World.exec_database step)
  · obtain ⟨-, users, same⟩ := σ.outside _ _ moved
    rw [same]
    exact before
  · intro i seen compared
    rw [show (app.start σ.requests w).state.db.sessions i = .new from start.sessions i] at compared
    cases compared

/-! ## The guarantee, and what it takes -/

/-- Not found if the article was deleted in the state that the compare-and-set ran against, and a
conflict if it was live there. -/
def RightAnswer (seen : Option ArticleRow) (outcome : Except Exc Response) : Prop :=
  if seen.any ArticleRow.live then ∃ message, outcome = .error (.conflict message)
  else ∃ message, outcome = .error (.articleNotFound message)

theorem answersLoss_iff (error : Exc) : error.answersLoss = true ↔
    (∃ message, error = .conflict message) ∨ ∃ message, error = .articleNotFound message := by
  constructor
  · intro answers
    cases error with
    | domain kind message =>
        cases kind with
        | conflict => exact Or.inl ⟨message, rfl⟩
        | articleNotFound => exact Or.inr ⟨message, rfl⟩
        | _ => cases answers
    | _ => cases answers
  · rintro (⟨message, rfl⟩ | ⟨message, rfl⟩) <;> rfl

/-- In every run, of a request whose compare-and-set ran against the row `seen` and matched
nothing: the row is that of a committed state; the answer is the right one exactly if MySQL
answered the second read and the rollback after it, and the article is live in the committed state
that this read saw just as it is in `seen`; and where nothing fails the answer is a conflict, so
that it is the right one exactly if the article was not deleted yet. -/
theorem lost_write_answer_iff (σ : Setting) (foreign : σ.Foreign) (app : App) {w : World}
    (start : Initial w) {chronicle : List (Pid × Interaction Op.Reply)} {c : System}
    (run : Chronicle (Exec σ.allow) σ.env (app.start σ.requests w) chronicle c) {i : Pid} {id : ℤ}
    {expected : DateTime} (conditional : (σ.requests i).conditional = some (id, expected))
    {outcome : Except Exc Response} (ended : c.outcome i = some outcome)
    {seen : Option ArticleRow} (compared : (c.state.db.sessions i).compared = some seen)
    (unfit : ¬Fits expected seen) :
    (∃ n ≤ c.state.db.version, (c.state.db.history n).find id = seen) ∧
      (RightAnswer seen outcome ↔ Reread (part i chronicle) ∧ ∃ n ≤ c.state.db.version,
        (c.state.db.sessions i).loadedFrom = some n ∧
          (c.state.db.history n).live id = seen.any ArticleRow.live) ∧
      (σ.Calm → (∃ message, outcome = .error (.conflict message)) ∧
        (RightAnswer seen outcome ↔ seen.any ArticleRow.live = true)) := by
  have judged := start.judged foreign app run.steps conditional ended
  have lost : Own i (Lost expected) c.state := ⟨seen, compared, unfit⟩
  obtain ⟨error, rfl, conflict, gone, calm⟩ := judged lost
  have answered : Reread (part i chronicle) ↔
      (∃ message, error = .conflict message) ∨ ∃ message, error = .articleNotFound message := by
    rcases foreign.told app run conditional ended with unlost | ⟨other, same, told⟩
    · exact absurd unlost (start.lost_told app run conditional lost)
    · obtain rfl := Except.error.inj same
      exact told.trans (answersLoss_iff error)
  refine ⟨?_, ?_, fun peace => ?_⟩
  · obtain ⟨n, past, target, token, same, found⟩ :=
      start.comparedCommitted app run.steps i seen compared
    obtain ⟨rfl, rfl⟩ := Prod.mk.inj (Option.some.inj (conditional.symm.trans same))
    exact ⟨n, past, found⟩
  · constructor
    · intro right
      unfold RightAnswer at right
      split at right
      · rename_i live
        obtain ⟨message, same⟩ := right
        have kind : ∃ message, error = .conflict message := ⟨message, Except.error.inj same⟩
        obtain ⟨n, past, loaded, shown⟩ := conflict kind
        exact ⟨answered.mpr (Or.inl kind), n, past, loaded, shown.trans live.symm⟩
      · rename_i dead
        obtain ⟨message, same⟩ := right
        have kind : ∃ message, error = .articleNotFound message := ⟨message, Except.error.inj same⟩
        obtain ⟨n, past, loaded, shown⟩ := gone kind
        refine ⟨answered.mpr (Or.inr kind), n, past, loaded, ?_⟩
        rw [shown]
        simpa using dead
    · intro agrees
      obtain ⟨reread, n, -, loaded, same⟩ := agrees
      have shown : ∀ live, Saw i id live c.state → seen.any ArticleRow.live = live := by
        intro live saw
        obtain ⟨m, -, loaded', shown⟩ := saw
        obtain rfl := Option.some.inj (loaded.symm.trans loaded')
        exact same.symm.trans shown
      unfold RightAnswer
      rcases answered.mp reread with ⟨message, answer⟩ | ⟨message, answer⟩
      · rw [if_pos (shown true (conflict ⟨message, answer⟩))]
        exact ⟨message, congrArg Except.error answer⟩
      · have dead := shown false (gone ⟨message, answer⟩)
        rw [if_neg (by rw [dead]; exact Bool.false_ne_true)]
        exact ⟨message, congrArg Except.error answer⟩
  · obtain ⟨message, rfl⟩ := calm peace.dutiful
    refine ⟨⟨message, rfl⟩, ?_⟩
    unfold RightAnswer
    constructor
    · intro right
      split at right
      · rename_i live
        exact live
      · obtain ⟨other, impossible⟩ := right
        cases impossible
    · intro live
      rw [if_pos live]
      exact ⟨message, rfl⟩

/-! ## A delete between the read and the compare-and-set -/

theorem Setting.Calm.foreign {σ : Setting} (calm : σ.Calm) : σ.Foreign := by
  intro w i op c error allowed failed
  rw [(calm w i op c allowed).1] at failed
  cases failed

def editAndDelete : List Request :=
  [.update (some 1) 1 "new" "text" (instant 1), .delete (some 1) 1 (instant 1)]

def deletedBetween : List (Pid × Choice) :=
  turns 0 9 {} ++ turns 1 26 { time := instant 2 } ++ turns 0 9 { time := instant 3 }

def conflictOverDeleted (c : System) : Bool :=
  failedWith c 0 (.conflict
      "The article changed since it was read; re-fetch and retry with the current updated_at.") &&
    (c.state.db.sessions 0).compared.any fun seen => seen.any fun row => !row.live

theorem conflictOverDeleted_reached : ∃ c : System,
    (Setting.calm (requestsOf editAndDelete)).Reaches
      (calmService editAndDelete [ann, bob]) c ∧ conflictOverDeleted c = true :=
  (Setting.calm (requestsOf editAndDelete)).exists_replay calmChoice
    (fun _ _ _ _ checked => checked) _ deletedBetween _ (by decide +kernel)

theorem conflictOverDeleted_spec {c : System} (reached : conflictOverDeleted c = true) :
    c.outcome 0 = some (.error (.conflict
      "The article changed since it was read; re-fetch and retry with the current updated_at.")) ∧
    ∃ row, (c.state.db.sessions 0).compared = some (some row) ∧ row.live = false := by
  rw [conflictOverDeleted, Bool.and_eq_true, Option.any_eq_true] at reached
  obtain ⟨failed, seen, compared, dead⟩ := reached
  rw [Option.any_eq_true] at dead
  obtain ⟨row, rfl, dead⟩ := dead
  exact ⟨outcome_of_failedWith failed, row, compared, by simpa using dead⟩

theorem unfit_of_dead {expected : DateTime} {row : ArticleRow} (dead : row.live = false) :
    ¬Fits expected (some row) := by
  intro fits
  obtain ⟨same, found, live, -⟩ := fits
  obtain rfl := Option.some.inj found
  rw [dead] at live
  cases live

/-- The article was deleted in the state that the compare-and-set ran against, and the answer is a
conflict. -/
theorem conflict_over_deleted : ∃ c : System,
    (Setting.calm (requestsOf editAndDelete)).Reaches
      (calmService editAndDelete [ann, bob]) c ∧
    ∃ row outcome, (c.state.db.sessions 0).compared = some (some row) ∧ row.live = false ∧
      c.outcome 0 = some outcome ∧ ¬RightAnswer (some row) outcome := by
  obtain ⟨c, run, reached⟩ := conflictOverDeleted_reached
  obtain ⟨ended, row, compared, dead⟩ := conflictOverDeleted_spec reached
  refine ⟨c, run, row, _, compared, dead, ended, ?_⟩
  unfold RightAnswer
  rw [Option.any_some, dead]
  intro right
  obtain ⟨message, impossible⟩ := right
  cases impossible

/-- What the theorem says of that run. -/
theorem lost_write_answer_iff_of_deleted : ∃ c : System,
    (Setting.calm (requestsOf editAndDelete)).Reaches
      (calmService editAndDelete [ann, bob]) c ∧
    ∃ row outcome, c.outcome 0 = some outcome ∧ (∃ message, outcome = .error (.conflict message)) ∧
      (RightAnswer (some row) outcome ↔ (some row).any ArticleRow.live = true) := by
  obtain ⟨c, run, reached⟩ := conflictOverDeleted_reached
  obtain ⟨ended, row, compared, dead⟩ := conflictOverDeleted_spec reached
  have calm := Setting.calm_calm (requestsOf editAndDelete)
  have same : (Setting.calm (requestsOf editAndDelete)).requests 0 =
      .update (some 1) 1 "new" "text" (instant 1) := rfl
  have conditional : ((Setting.calm (requestsOf editAndDelete)).requests 0).conditional =
      some (1, instant 1) := by rw [same]; rfl
  obtain ⟨chronicle, written⟩ := run.chronicled
  exact ⟨c, run, row, _, ended, (lost_write_answer_iff (Setting.calm (requestsOf editAndDelete))
    calm.foreign _ (World.fresh_initial _ (by decide)) written conditional ended compared
    (unfit_of_dead dead)).2.2 calm⟩

end ContentPlatform
