import ContentPlatform.Api.Middleware
import ContentPlatform.Program.Chronicle
import ContentPlatform.World.Run

/-!
# The whole application

The layers around the endpoints, with MySQL and Redis behind them.
-/

set_option autoImplicit false

namespace ContentPlatform

open Program

structure Site where
  world : World
  front : Front

/-- What an interaction does behind the layers. -/
def behind (σ : Setting) (i : Pid) : (op : FrontOp) → World → op.Reply → World → Prop
  | .endpoint op, w, reply, w' => Exec σ.allow i op w reply w'
  | _, w, _, w' => w' = w

def Site.exec (σ : Setting) (i : Pid) (op : FrontOp) (s : Site) (reply : op.Reply) (s' : Site) :
    Prop :=
  s.front.exec op reply s'.front ∧ behind σ i op s.world reply s'.world

def Site.env (σ : Setting) (s s' : Site) : Prop := σ.env s.world s'.world ∧ s'.front = s.front

abbrev HttpSystem := Config FrontOp FrontOp.Reply Empty Ending Site

/-- No request has reached the application yet. -/
def Application.start (a : Application) (http : Pid → HttpRequest) (s : Site) : HttpSystem :=
  Config.initial s fun i => a.handle (http i)

def Setting.Handles (σ : Setting) : HttpSystem → HttpSystem → Prop :=
  Steps (Site.exec σ) (Site.env σ)

/-! ## One request -/

def Site.answer (i : Pid) (choice : Choice) (op : FrontOp) (s : Site) : Option (op.Reply × Site) :=
  match op with
  | .endpoint op =>
      (s.world.exec i choice op).map fun answered => (answered.1, { s with world := answered.2 })
  | .newRequestId => some ("0123456789abcdef0123456789abcdef", s)
  | .arrive route => some ((s.front.loadShed.arrive route).1,
      { s with front := { s.front with loadShed := (s.front.loadShed.arrive route).2 } })
  | .depart => some ((), { s with front := { s.front with loadShed := s.front.loadShed.leave } })
  | .observeRequest route method status =>
      some ((), { s with front := s.front.observeRequest route method status })
  | .observeDegradedResponse route reason =>
      some ((), { s with front := s.front.observeDegradedResponse route reason })
  | .log record => some ((), { s with front := { s.front with log := s.front.log ++ [record] } })

theorem Site.answer_exec {σ : Setting} {i : Pid} {choice : Choice} {op : FrontOp} {s s' : Site}
    {reply : op.Reply} (answered : Site.answer i choice op s = some (reply, s'))
    (allowed : ∀ inner, op = .endpoint inner → σ.allow s.world i inner choice) :
    Site.exec σ i op s reply s' := by
  cases op with
  | endpoint op =>
      obtain ⟨⟨_, w⟩, step, same⟩ := Option.map_eq_some_iff.mp answered
      obtain ⟨rfl, rfl⟩ := Prod.mk.inj same
      exact ⟨rfl, choice, allowed op rfl, step⟩
  | newRequestId =>
      obtain ⟨rfl, rfl⟩ := Prod.mk.inj (Option.some.inj answered)
      have hexadecimal : "0123456789abcdef0123456789abcdef".toList.all isHexDigit = true := by decide
      exact ⟨⟨⟨by decide, List.all_eq_true.mp hexadecimal⟩, rfl⟩, rfl⟩
  | arrive route =>
      obtain ⟨rfl, rfl⟩ := Prod.mk.inj (Option.some.inj answered)
      exact ⟨⟨rfl, rfl⟩, rfl⟩
  | depart =>
      obtain ⟨-, rfl⟩ := Prod.mk.inj (Option.some.inj answered)
      exact ⟨rfl, rfl⟩
  | observeRequest route method status =>
      obtain ⟨-, rfl⟩ := Prod.mk.inj (Option.some.inj answered)
      exact ⟨rfl, rfl⟩
  | observeDegradedResponse route reason =>
      obtain ⟨-, rfl⟩ := Prod.mk.inj (Option.some.inj answered)
      exact ⟨rfl, rfl⟩
  | log record =>
      obtain ⟨-, rfl⟩ := Prod.mk.inj (Option.some.inj answered)
      exact ⟨rfl, rfl⟩

/-- A request may be served before anybody else does anything. -/
theorem exists_served {c : HttpSystem} {i : Pid} {p : Prog FrontOp FrontOp.Reply Empty Ending}
    (code : c.code i = p) (choose : FrontOp → Choice) (check : Ending → Site → Bool)
    (ended : (execute (fun op s => Site.answer i (choose op) op s) p c.state).any
      (fun last => last.1.toOption.any fun ending => check ending last.2) = true) :
    ∃ c' ending, (Setting.free (requestsOf [])).Handles c c' ∧
      c'.outcome i = some (.ok ending) ∧ check ending c'.state = true ∧
      ∀ j, j ≠ i → c'.code j = c.code j := by
  have sound : ∀ (op : FrontOp) (s : Site) (reply : op.Reply) (s' : Site),
      Site.answer i (choose op) op s = some (reply, s') →
      Site.exec (Setting.free (requestsOf [])) i op s reply s' :=
    fun _ _ _ _ answered => Site.answer_exec answered fun _ _ => trivial
  obtain ⟨outcome, s, run, checked⟩ := exists_runs sound p c.state _ ended
  obtain ⟨c', steps, rfl, last, others⟩ : ∃ c', (Setting.free (requestsOf [])).Handles c c' ∧
      c'.state = s ∧ c'.outcome i = some outcome ∧ ∀ j, j ≠ i → c'.code j = c.code j :=
    run.steps rfl code
  cases outcome with
  | error error => exact nomatch error
  | ok ending => exact ⟨c', ending, steps, last, checked, others⟩

end ContentPlatform
