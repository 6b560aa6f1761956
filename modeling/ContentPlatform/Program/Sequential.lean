import ContentPlatform.Program.Interaction

/-!
# Programs run alone

`exec op s reply s'` says that the environment may answer `op` in state `s`
with `reply` and leave state `s'`.  `Runs` collects the whole executions of a
program against such an environment, and `wp` is its weakest precondition over
all of them.  `Ends` adds that the environment can always answer; programs are
well-founded, so then every execution comes to an end.
-/

set_option autoImplicit false

namespace ContentPlatform.Program

open Prog

section
variable {Op : Type} {Res : Op → Type} {ε α β S : Type}

inductive Runs (exec : (op : Op) → S → Res op → S → Prop) :
    Prog Op Res ε α → S → Except ε α → S → Prop where
  | ret (value : α) (s : S) : Runs exec (.ret value) s (.ok value) s
  | raise (error : ε) (s : S) : Runs exec (.raise error) s (.error error) s
  | call {op : Op} {next : Res op → Prog Op Res ε α} {s s' s'' : S} {reply : Res op}
      {outcome : Except ε α} :
      exec op s reply s' → Runs exec (next reply) s' outcome s'' →
      Runs exec (.call op next) s outcome s''

/-- Every execution of the program ends in an outcome and a state that satisfy `post`. -/
def wp (exec : (op : Op) → S → Res op → S → Prop) :
    Prog Op Res ε α → (Except ε α → S → Prop) → S → Prop
  | .ret value, post, s => post (.ok value) s
  | .raise error, post, s => post (.error error) s
  | .call op next, post, s => ∀ reply s', exec op s reply s' → wp exec (next reply) post s'

variable {exec : (op : Op) → S → Res op → S → Prop}

@[simp] theorem wp_ret (value : α) (post : Except ε α → S → Prop) (s : S) :
    wp exec (.ret value) post s ↔ post (.ok value) s := Iff.rfl

@[simp] theorem wp_raise (error : ε) (post : Except ε α → S → Prop) (s : S) :
    wp exec (.raise error) post s ↔ post (.error error) s := Iff.rfl

theorem wp_sound (p : Prog Op Res ε α) (post : Except ε α → S → Prop) (s s' : S)
    (outcome : Except ε α) (holds : wp exec p post s) (run : Runs exec p s outcome s') :
    post outcome s' := by
  induction run with
  | ret value s => exact holds
  | raise error s => exact holds
  | call step _ ih => exact ih (holds _ _ step)

theorem wp_complete (p : Prog Op Res ε α) (post : Except ε α → S → Prop) (s : S)
    (holds : ∀ outcome s', Runs exec p s outcome s' → post outcome s') : wp exec p post s := by
  induction p generalizing s with
  | ret value => exact holds _ _ (.ret value s)
  | raise error => exact holds _ _ (.raise error s)
  | call op next ih =>
      intro reply s' step
      exact ih reply s' fun outcome s'' run => holds outcome s'' (.call step run)

theorem wp_mono {p : Prog Op Res ε α} {post post' : Except ε α → S → Prop} {s : S}
    (holds : wp exec p post s) (weaken : ∀ outcome s', post outcome s' → post' outcome s') :
    wp exec p post' s := by
  induction p generalizing s with
  | ret value => exact weaken _ _ holds
  | raise error => exact weaken _ _ holds
  | call op next ih => exact fun reply s' step => ih reply (holds reply s' step)

/-- The sequencing rule, for every combinator that is built from `cont`. -/
theorem wp_cont (p : Prog Op Res ε α) (f : α → Prog Op Res ε β) (g : ε → Prog Op Res ε β)
    (post : Except ε β → S → Prop) (s : S) :
    wp exec (p.cont f g) post s ↔
      wp exec p (fun outcome s' =>
        match outcome with
        | .ok value => wp exec (f value) post s'
        | .error error => wp exec (g error) post s') s := by
  induction p generalizing s with
  | ret value => exact Iff.rfl
  | raise error => exact Iff.rfl
  | call op next ih =>
      constructor
      · intro holds reply s' step
        exact (ih reply s').mp (holds reply s' step)
      · intro holds reply s' step
        exact (ih reply s').mpr (holds reply s' step)

theorem wp_bind (p : Prog Op Res ε α) (f : α → Prog Op Res ε β)
    (post : Except ε β → S → Prop) (s : S) :
    wp exec (p.bind f) post s ↔
      wp exec p (fun outcome s' =>
        match outcome with
        | .ok value => wp exec (f value) post s'
        | .error error => post (.error error) s') s :=
  wp_cont p f .raise post s

theorem wp_attempt (p : Prog Op Res ε α) (post : Except ε (Except ε α) → S → Prop) (s : S) :
    wp exec p.attempt post s ↔ wp exec p (fun outcome s' => post (.ok outcome) s') s := by
  refine (wp_cont p _ _ post s).trans ?_
  constructor
  · exact fun holds => wp_mono holds fun outcome s' h => by cases outcome <;> exact h
  · exact fun holds => wp_mono holds fun outcome s' h => by cases outcome <;> exact h

/-! ## Total correctness -/

/-- Whatever was answered so far, what the program asks next can be answered. -/
def Live (exec : (op : Op) → S → Res op → S → Prop) : Prog Op Res ε α → S → Prop
  | .ret _, _ => True
  | .raise _, _ => True
  | .call op next, s => (∃ reply s', exec op s reply s') ∧
      ∀ reply s', exec op s reply s' → Live exec (next reply) s'

/-- Every execution comes to an end, and to one that satisfies `post`. -/
structure Ends (exec : (op : Op) → S → Res op → S → Prop) (p : Prog Op Res ε α)
    (post : Except ε α → S → Prop) (s : S) : Prop where
  live : Live exec p s
  holds : wp exec p post s

theorem Live.exists_runs {p : Prog Op Res ε α} {s : S} (live : Live exec p s) :
    ∃ outcome s', Runs exec p s outcome s' := by
  induction p generalizing s with
  | ret value => exact ⟨_, _, .ret value s⟩
  | raise error => exact ⟨_, _, .raise error s⟩
  | call op next ih =>
      obtain ⟨⟨reply, s', step⟩, rest⟩ := live
      obtain ⟨outcome, s'', run⟩ := ih reply (rest reply s' step)
      exact ⟨outcome, s'', .call step run⟩

theorem Live.cont {p : Prog Op Res ε α} {f : α → Prog Op Res ε β} {g : ε → Prog Op Res ε β}
    {s : S} (live : Live exec p s)
    (rest : wp exec p (fun outcome s' =>
      match outcome with
      | .ok value => Live exec (f value) s'
      | .error error => Live exec (g error) s') s) : Live exec (p.cont f g) s := by
  induction p generalizing s with
  | ret value => exact rest
  | raise error => exact rest
  | call op next ih =>
      obtain ⟨answered, live⟩ := live
      refine ⟨answered, fun reply s' step => ?_⟩
      exact ih reply (live reply s' step) (rest reply s' step)

theorem Runs.of_cont {p : Prog Op Res ε α} {f : α → Prog Op Res ε β} {g : ε → Prog Op Res ε β}
    {s s' : S} {outcome : Except ε β} (run : Runs exec (p.cont f g) s outcome s') :
    ∃ middle s₁, Runs exec p s middle s₁ ∧
      match middle with
      | .ok value => Runs exec (f value) s₁ outcome s'
      | .error error => Runs exec (g error) s₁ outcome s' := by
  induction p generalizing s with
  | ret value => exact ⟨.ok value, s, .ret value s, run⟩
  | raise error => exact ⟨.error error, s, .raise error s, run⟩
  | call op next ih =>
      cases run with
      | call step run =>
          obtain ⟨middle, s₁, first, rest⟩ := ih _ run
          exact ⟨middle, s₁, .call step first, rest⟩

theorem Runs.bind {p : Prog Op Res ε α} {f : α → Prog Op Res ε β} {value : α} {s s₁ s' : S}
    {outcome : Except ε β} (first : Runs exec p s (.ok value) s₁)
    (rest : Runs exec (f value) s₁ outcome s') : Runs exec (p.bind f) s outcome s' := by
  generalize ended : Except.ok value = middle at first
  induction first with
  | ret value' s =>
      obtain rfl := Except.ok.inj ended
      exact rest
  | raise error s => cases ended
  | call step _ ih => exact .call step (ih rest ended)

/-- What the interactions that a program may send keep, its executions keep. -/
theorem Runs.keeps {allowed : Op → Prop} {A : S → Prop} {p : Prog Op Res ε α} {s s' : S}
    {outcome : Except ε α} (run : Runs exec p s outcome s') (sends : p.Sends allowed)
    (keeps : ∀ op s reply s', allowed op → A s → exec op s reply s' → A s') (start : A s) :
    A s' := by
  induction run with
  | ret value s => exact start
  | raise error s => exact start
  | call step _ ih => exact ih (sends.2 _) (keeps _ _ _ _ sends.1 start step)

theorem Runs.attempt {p : Prog Op Res ε α} {s s' : S} {outcome : Except ε α}
    (run : Runs exec p s outcome s') : Runs exec p.attempt s (.ok outcome) s' := by
  induction run with
  | ret value s => exact .ret _ s
  | raise error s => exact .ret _ s
  | call step _ ih => exact .call step ih

theorem Runs.of_attempt_bind {p : Prog Op Res ε α} {next : Except ε α → Prog Op Res ε β} {s s' : S}
    {outcome : Except ε β} (run : Runs exec (p.attempt.bind next) s outcome s') :
    ∃ middle s₁, Runs exec p s middle s₁ ∧ Runs exec (next middle) s₁ outcome s' := by
  rw [Prog.bind, Prog.attempt, cont_assoc] at run
  obtain ⟨middle, s₁, first, rest⟩ := run.of_cont
  cases middle with
  | ok value => exact ⟨.ok value, s₁, first, rest⟩
  | error error => exact ⟨.error error, s₁, first, rest⟩

namespace Ends

variable {p : Prog Op Res ε α} {f : α → Prog Op Res ε β} {post post' : Except ε α → S → Prop}
  {after : Except ε β → S → Prop} {s s' : S}

theorem ret {value : α} (holds : post (.ok value) s) : Ends exec (.ret value) post s :=
  ⟨trivial, holds⟩

theorem raise {error : ε} (holds : post (.error error) s) : Ends exec (.raise error) post s :=
  ⟨trivial, holds⟩

theorem call {op : Op} {next : Res op → Prog Op Res ε α}
    (answered : ∃ reply s', exec op s reply s')
    (rest : ∀ reply s', exec op s reply s' → Ends exec (next reply) post s') :
    Ends exec (.call op next) post s :=
  ⟨⟨answered, fun reply s' step => (rest reply s' step).live⟩,
    fun reply s' step => (rest reply s' step).holds⟩

theorem mono (ends : Ends exec p post s)
    (weaken : ∀ outcome s', post outcome s' → post' outcome s') :
    Ends exec p post' s :=
  ⟨ends.live, wp_mono ends.holds weaken⟩

theorem of_runs (ends : Ends exec p post s) {outcome : Except ε α}
    (run : Runs exec p s outcome s') : post outcome s' :=
  wp_sound p post s s' outcome ends.holds run

/-- The end of an execution, together with the execution. -/
theorem runs (ends : Ends exec p post s) :
    Ends exec p (fun outcome s' => post outcome s' ∧ Runs exec p s outcome s') s :=
  ⟨ends.live, wp_complete p _ s fun _ _ run => ⟨ends.of_runs run, run⟩⟩

theorem cont {g : ε → Prog Op Res ε β}
    (first : Ends exec p (fun outcome s' =>
      match outcome with
      | .ok value => Ends exec (f value) after s'
      | .error error => Ends exec (g error) after s') s) : Ends exec (p.cont f g) after s := by
  constructor
  · apply Live.cont first.live
    apply wp_mono first.holds
    intro outcome s' rest
    cases outcome with
    | ok value => exact rest.live
    | error error => exact rest.live
  · apply (wp_cont p f g after s).mpr
    apply wp_mono first.holds
    intro outcome s' rest
    cases outcome with
    | ok value => exact rest.holds
    | error error => exact rest.holds

theorem bind (first : Ends exec p post s)
    (next : ∀ value s', post (.ok value) s' → Ends exec (f value) after s')
    (failed : ∀ error s', post (.error error) s' → after (.error error) s') :
    Ends exec (p.bind f) after s := by
  apply cont
  apply first.mono
  intro outcome s' ended
  cases outcome with
  | ok value => exact next value s' ended
  | error error => exact raise (failed error s' ended)

theorem attempt_bind {next : Except ε α → Prog Op Res ε β} (first : Ends exec p post s)
    (rest : ∀ outcome s', post outcome s' → Ends exec (next outcome) after s') :
    Ends exec (p.attempt.bind next) after s := by
  rw [Prog.bind, Prog.attempt, cont_assoc]
  apply cont
  apply first.mono
  intro outcome s' ended
  cases outcome with
  | ok value => exact rest (.ok value) s' ended
  | error error => exact rest (.error error) s' ended

/-- A `finally` that does not fail keeps the outcome. -/
theorem tryFinally {last : Prog Op Res ε Unit} {post' : Except ε α → S → Prop}
    (first : Ends exec p post s)
    (second : ∀ outcome s', post outcome s' →
      Ends exec last (fun ended s'' => (∃ value, ended = .ok value) ∧ post' outcome s'') s') :
    Ends exec (p.tryFinally last) post' s := by
  apply cont
  apply first.mono
  intro outcome s' ended
  cases outcome with
  | ok value =>
      apply cont
      apply (second (.ok value) s' ended).mono
      rintro _ s'' ⟨⟨_, rfl⟩, holds⟩
      exact ret holds
  | error error =>
      apply cont
      apply (second (.error error) s' ended).mono
      rintro _ s'' ⟨⟨_, rfl⟩, holds⟩
      exact raise holds

/-- A program that asks only what is always answered and keeps `A` comes to an end in `A`. -/
theorem of_sends {allowed : Op → Prop} {A : S → Prop} (sends : p.Sends allowed)
    (answered : ∀ op s, allowed op → A s → ∃ reply s', exec op s reply s')
    (keeps : ∀ op s reply s', allowed op → A s → exec op s reply s' → A s') (start : A s) :
    Ends exec p (fun _ s' => A s') s := by
  induction p generalizing s with
  | ret value => exact ret start
  | raise error => exact raise start
  | call op next ih =>
      apply call (answered op s sends.1 start)
      intro reply s' step
      exact ih reply (sends.2 reply) (keeps op s reply s' sends.1 start step)

end Ends

/-- Where every request of a program is answered in the same way in two systems, both run it in
the same way. -/
theorem Runs.agree {S' : Type} {exec' : (op : Op) → S' → Res op → S' → Prop}
    {allowed : Op → Prop} {R : S → S' → Prop} {p : Prog Op Res ε α} (sends : p.Sends allowed)
    (answers : ∀ op s reply s₁ s', allowed op → R s s' → exec op s reply s₁ →
      (∃ reply' s₁', exec' op s' reply' s₁') ∧
        ∀ reply' s₁', exec' op s' reply' s₁' → reply' = reply ∧ R s₁ s₁')
    {s s₁ : S} {s' : S'} {outcome : Except ε α} (related : R s s')
    (run : Runs exec p s outcome s₁) :
    Ends exec' p (fun outcome' s₁' => outcome' = outcome ∧ R s₁ s₁') s' := by
  induction run generalizing s' with
  | ret value s => exact Ends.ret ⟨rfl, related⟩
  | raise error s => exact Ends.raise ⟨rfl, related⟩
  | call step run ih =>
      obtain ⟨answered, same⟩ := answers _ _ _ _ s' sends.1 related step
      apply Ends.call answered
      intro reply' s₁' step'
      obtain ⟨rfl, related'⟩ := same reply' s₁' step'
      exact ih (sends.2 _) related'

/-! ## One execution -/

def execute (answer : (op : Op) → S → Option (Res op × S)) :
    Prog Op Res ε α → S → Option (Except ε α × S)
  | .ret value, s => some (.ok value, s)
  | .raise error, s => some (.error error, s)
  | .call op next, s => (answer op s).bind fun (reply, s') => execute answer (next reply) s'

theorem execute_runs {answer : (op : Op) → S → Option (Res op × S)}
    (sound : ∀ op s reply s', answer op s = some (reply, s') → exec op s reply s')
    {p : Prog Op Res ε α} {s s' : S} {outcome : Except ε α}
    (ended : execute answer p s = some (outcome, s')) : Runs exec p s outcome s' := by
  induction p generalizing s with
  | ret value =>
      obtain ⟨rfl, rfl⟩ := Prod.mk.inj (Option.some.inj ended)
      exact .ret value s
  | raise error =>
      obtain ⟨rfl, rfl⟩ := Prod.mk.inj (Option.some.inj ended)
      exact .raise error s
  | call op next ih =>
      obtain ⟨⟨reply, s₁⟩, answered, rest⟩ := Option.bind_eq_some_iff.mp ended
      exact .call (sound op s reply s₁ answered) (ih reply rest)

theorem exists_runs {answer : (op : Op) → S → Option (Res op × S)}
    (sound : ∀ op s reply s', answer op s = some (reply, s') → exec op s reply s')
    (p : Prog Op Res ε α) (s : S) (check : Except ε α × S → Bool)
    (ended : (execute answer p s).any check = true) :
    ∃ outcome s', Runs exec p s outcome s' ∧ check (outcome, s') = true := by
  cases result : execute answer p s with
  | none =>
      rw [result] at ended
      cases ended
  | some last =>
      rw [result] at ended
      exact ⟨last.1, last.2, execute_runs sound result, ended⟩

end

end ContentPlatform.Program
