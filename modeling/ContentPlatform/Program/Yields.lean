import ContentPlatform.Program.Sequential

/-!
# What a program returns

`Yields` is partial correctness for the values a program returns: nothing is said of an execution
that raises.  `later` is a preorder on states that every interaction follows, and each rule hands
on that the state has only moved along it.
-/

set_option autoImplicit false

namespace ContentPlatform.Program

open Prog

section
variable {Op : Type} {Res : Op → Type} {ε α β S : Type}

/-- Every interaction moves the state along a preorder. -/
class Evolves (exec : (op : Op) → S → Res op → S → Prop) (later : S → S → Prop) : Prop where
  refl : ∀ s, later s s
  trans : ∀ {s s' s''}, later s s' → later s' s'' → later s s''
  step : ∀ {op : Op} {s : S} {reply : Res op} {s' : S}, exec op s reply s' → later s s'

/-- What holds of the value whenever the program returns one. -/
def Yields (exec : (op : Op) → S → Res op → S → Prop) (later : S → S → Prop)
    (p : Prog Op Res ε α) (Q : α → S → Prop) (s : S) : Prop :=
  wp exec p (fun outcome s' => later s s' ∧ ∀ value, outcome = .ok value → Q value s') s

namespace Yields

variable {exec : (op : Op) → S → Res op → S → Prop} {later : S → S → Prop} [Evolves exec later]
  {p : Prog Op Res ε α} {Q Q' : α → S → Prop} {R : β → S → Prop} {s s' : S}

theorem ret {value : α} (holds : Q value s) :
    Yields exec later (.ret value : Prog Op Res ε α) Q s := by
  refine ⟨Evolves.refl exec s, ?_⟩
  rintro _ ⟨⟩
  exact holds

theorem raise (error : ε) : Yields exec later (.raise error : Prog Op Res ε α) Q s := by
  refine ⟨Evolves.refl exec s, ?_⟩
  rintro _ ⟨⟩

omit [Evolves exec later] in
theorem mono (first : Yields exec later p Q s)
    (weaken : ∀ value s', later s s' → Q value s' → Q' value s') :
    Yields exec later p Q' s := by
  apply wp_mono first
  rintro outcome s' ⟨after, holds⟩
  exact ⟨after, fun value same => weaken value s' after (holds value same)⟩

theorem call {op : Op} {next : Res op → Prog Op Res ε α}
    (rest : ∀ reply s', exec op s reply s' → Yields exec later (next reply) Q s') :
    Yields exec later (.call op next) Q s := by
  intro reply s' step
  apply wp_mono (rest reply s' step)
  rintro outcome s'' ⟨after, holds⟩
  exact ⟨Evolves.trans exec (Evolves.step step) after, holds⟩

theorem any (p : Prog Op Res ε α) : Yields exec later p (fun _ _ => True) s := by
  induction p generalizing s with
  | ret value => exact ret trivial
  | raise error => exact raise error
  | call op next ih => exact call fun reply s' _ => ih reply

theorem of_sends {allowed : Op → Prop} {A : S → Prop} (sends : p.Sends allowed)
    (keeps : ∀ op s reply s', allowed op → exec op s reply s' → A s → A s') (start : A s) :
    Yields exec later p (fun _ s' => A s') s := by
  induction p generalizing s with
  | ret value => exact ret start
  | raise error => exact raise error
  | call op next ih =>
      apply call
      intro reply s' step
      exact ih reply (sends.2 reply) (keeps op s reply s' sends.1 step start)

theorem bind {f : α → Prog Op Res ε β} (first : Yields exec later p Q s)
    (next : ∀ value s', later s s' → Q value s' → Yields exec later (f value) R s') :
    Yields exec later (p.bind f) R s := by
  apply (wp_bind p f _ s).mpr
  apply wp_mono first
  rintro outcome s' ⟨after, holds⟩
  cases outcome with
  | ok value =>
      apply wp_mono (next value s' after (holds value rfl))
      rintro outcome s'' ⟨after', holds'⟩
      exact ⟨Evolves.trans exec after after', holds'⟩
  | error error =>
      refine ⟨after, ?_⟩
      rintro _ ⟨⟩

theorem skip {f : α → Prog Op Res ε β}
    (next : ∀ value s', later s s' → Yields exec later (f value) R s') :
    Yields exec later (p.bind f) R s :=
  (any p).bind fun value s' after _ => next value s' after

omit [Evolves exec later] in
theorem attempt (first : Yields exec later p Q s) :
    Yields exec later p.attempt (fun outcome s' => ∀ value, outcome = .ok value → Q value s')
      s := by
  apply (wp_attempt p _ s).mpr
  apply wp_mono first
  rintro outcome s' ⟨after, holds⟩
  refine ⟨after, ?_⟩
  rintro _ ⟨⟩
  exact holds

/-- `try: ... except`, with what holds at each end of the first part. -/
theorem attempt_bind {next : Except ε α → Prog Op Res ε β} {post : Except ε α → S → Prop}
    (first : wp exec p (fun outcome s' => later s s' ∧ post outcome s') s)
    (rest : ∀ outcome s', later s s' → post outcome s' → Yields exec later (next outcome) R s') :
    Yields exec later (p.attempt.bind next) R s := by
  apply (wp_bind _ _ _ s).mpr
  apply (wp_attempt p _ s).mpr
  apply wp_mono first
  rintro outcome s' ⟨after, holds⟩
  apply wp_mono (rest outcome s' after holds)
  rintro _ s'' ⟨after', holds'⟩
  exact ⟨Evolves.trans exec after after', holds'⟩

theorem tryFinally {last : Prog Op Res ε Unit} (first : Yields exec later p Q s)
    (stable : ∀ value s s', later s s' → Q value s → Q value s') :
    Yields exec later (p.tryFinally last) Q s := by
  apply (wp_cont p _ _ _ s).mpr
  apply wp_mono first
  rintro outcome s' ⟨after, holds⟩
  have ended : ∀ ending : Prog Op Res ε α,
      (∀ s'', later s' s'' → Yields exec later ending Q s'') →
      wp exec (last.bind fun _ => ending) (fun outcome s' =>
        later s s' ∧ ∀ value, outcome = .ok value → Q value s') s' := by
    intro ending ends
    apply wp_mono (skip fun _ s'' after' => ends s'' after')
    rintro outcome' s'' ⟨after', holds'⟩
    exact ⟨Evolves.trans exec after after', holds'⟩
  cases outcome with
  | ok value =>
      apply ended
      intro s'' after'
      exact ret (stable value s' s'' after' (holds value rfl))
  | error error =>
      apply ended
      intro _ _
      exact raise error

omit [Evolves exec later] in
theorem of_runs {value : α} (yields : Yields exec later p Q s)
    (run : Runs exec p s (.ok value) s') : Q value s' := by
  obtain ⟨-, holds⟩ := wp_sound p _ s s' (.ok value) yields run
  exact holds value rfl

end Yields

end

end ContentPlatform.Program
