import ContentPlatform.Program.Yields
import ContentPlatform.Services.ArticleService
import ContentPlatform.Session

/-!
# What cache commands, guarded calls and sessions return

The rules for returned values, for the combinators of this service and any environment.
-/

set_option autoImplicit false

namespace ContentPlatform

open Program Py Prog

section
variable {S α : Type} {exec : (op : Op) → S → op.Reply → S → Prop} {later : S → S → Prop}
  [Evolves exec later] {Q Q' : α → S → Prop} {s : S}

theorem yields_answered {operation : CacheOperation} {command : Py α}
    (first : Yields exec later command Q s)
    (stable : ∀ value s s', later s s' → Q value s → Q value s') :
    Yields exec later (ArticleCache.answered operation command)
      (fun result s' => ∀ value, result = some value → Q value s') s := by
  apply first.attempt.bind
  intro outcome s' _ holds
  cases outcome with
  | ok value =>
      apply Yields.skip
      intro _ s'' after
      apply Yields.ret
      rintro _ ⟨⟩
      exact stable value s' s'' after (holds value rfl)
  | error error =>
      dsimp only
      split
      · apply Yields.skip
        intro _ _ _
        apply Yields.ret
        rintro _ ⟨⟩
      · exact Yields.raise error

/-- A value of a guarded call is one that its attempts return. -/
theorem yields_guardedCall {policy : DependencyPolicy} {dependency : Dependency}
    {operation : Py α} {onRetry : Option (Py Unit)} {retry : Bool}
    (attempts : ∀ s', exec (.breakerAllow dependency) s true s' →
      Yields exec later (withRetry (if retry then policy else { policy with attempts := 1 })
        dependency operation (if retry then onRetry else none)) Q s')
    (after : ∀ value s s', exec (.breakerSuccess dependency) s () s' → Q value s → Q' value s') :
    Yields exec later (guardedCall policy dependency operation onRetry retry) Q' s := by
  apply Yields.call
  intro admitted s' allowed
  cases admitted with
  | false =>
      apply Yields.call
      intro retryAfter s'' _
      exact Yields.raise _
  | true =>
      have timed : Yields exec later (timeoutBlock (withRetry
          (if retry then policy else { policy with attempts := 1 }) dependency operation
          (if retry then onRetry else none))) Q s' := by
        apply (attempts s' allowed).attempt.bind
        intro outcome s'' _ holds
        cases outcome with
        | ok value => exact Yields.ret (holds value rfl)
        | error error => cases error <;> exact Yields.raise _
      apply timed.attempt.bind
      intro outcome s'' _ holds
      cases outcome with
      | ok value =>
          apply Yields.call
          intro _ s₃ succeeded
          exact Yields.ret (after value s'' s₃ succeeded (holds value rfl))
      | error error =>
          -- whatever is reported of a failure, the call raises
          have raised : ∀ (report : Py Unit) (raises : Exc),
              Yields exec later (report.bind fun _ => .raise raises) Q' s'' :=
            fun report raises => Yields.skip fun _ _ _ => Yields.raise raises
          have other : Yields exec later (if error.isException then
              (do breakerSuccess dependency; .raise error : Py α) else .raise error) Q' s'' := by
            split
            · exact raised _ error
            · exact Yields.raise error
          cases error with
          | timeoutError => exact Yields.skip fun _ _ _ => Yields.skip fun _ _ _ => Yields.raise _
          | domain kind message =>
              cases kind with
              | dependencyUnavailable retryAfter => exact raised _ _
              | upstreamTimeout retryAfter =>
                  exact Yields.skip fun _ _ _ => Yields.skip fun _ _ _ => Yields.raise _
              | _ => exact other
          | _ => exact other

/-- A value of a write comes from its one attempt. -/
theorem yields_guardedWrite {policy : DependencyPolicy} {dependency : Dependency}
    {operation : Py α} (first : ∀ s', exec (.breakerAllow dependency) s true s' →
      Yields exec later operation Q s')
    (after : ∀ value s s', exec (.breakerSuccess dependency) s () s' → Q value s → Q' value s') :
    Yields exec later (guardedWrite policy dependency operation) Q' s := by
  apply yields_guardedCall _ after
  intro s' allowed
  show Yields exec later (retryLoop _ _ operation none 0 0) Q s'
  rw [retryLoop]
  apply (first s' allowed).attempt.bind
  intro outcome s'' _ holds
  cases outcome with
  | ok value => exact Yields.ret (holds value rfl)
  | error error =>
      dsimp only
      split <;> exact Yields.raise _

/-- How one attempt of a read ends: with a value, or so that the next attempt may start. -/
def Attempted (Q : α → S → Prop) (E : S → Prop) : Except Exc α → S → Prop
  | .ok value, s => Q value s
  | .error _, s => E s

section
variable {policy : DependencyPolicy} {dependency : Dependency} {operation : Py α} {E : S → Prop}
  (attempt : ∀ s, E s →
    wp exec operation (fun outcome s' => later s s' ∧ Attempted Q E outcome s') s)
  (rolledBack : ∀ s reply s', E s → exec .rollback s reply s' → E s')

include attempt rolledBack

theorem wp_attemptOnce (started : ℕ) (start : E s) :
    wp exec (attemptOnce operation (some rollback) started)
      (fun outcome s' => later s s' ∧ Attempted Q E outcome s') s := by
  cases started with
  | zero => exact attempt s start
  | succ started =>
      intro reply s' step
      have moved : later s s' := Evolves.step step
      have kept := rolledBack s reply s' start step
      cases reply with
      | ok _ =>
          apply wp_mono (attempt s' kept)
          rintro outcome s'' ⟨after, ended⟩
          exact ⟨Evolves.trans exec moved after, ended⟩
      | error _ => exact ⟨moved, kept⟩

variable (waited : ∀ longest s reply s', E s → exec (.backoff longest) s reply s' → E s')
  (observed : ∀ metric value s s', exec (.observe metric) s () s' → Q value s → Q value s')
include waited observed

theorem yields_retryLoop (remaining started : ℕ) (start : E s) :
    Yields exec later (retryLoop policy dependency operation (some rollback) remaining started) Q
      s := by
  have succeeded : ∀ started value s, Q value s → Yields exec later
      ((observeRetry dependency started .success).bind fun _ => .ret value) Q s := by
    intro started value s holds
    unfold observeRetry
    split
    · apply Yields.call
      intro _ s' step
      exact Yields.ret (observed _ value s s' step holds)
    · exact Yields.ret holds
  induction remaining generalizing started s with
  | zero =>
      rw [retryLoop]
      apply Yields.attempt_bind (wp_attemptOnce attempt rolledBack started start)
      intro outcome s' _ ended
      cases outcome with
      | ok value => exact succeeded started value s' ended
      | error error =>
          dsimp only
          split
          · exact Yields.skip fun _ _ _ => Yields.raise _
          · exact Yields.raise error
  | succ remaining ih =>
      rw [retryLoop]
      apply Yields.attempt_bind (wp_attemptOnce attempt rolledBack started start)
      intro outcome s' _ ended
      cases outcome with
      | ok value => exact succeeded started value s' ended
      | error error =>
          dsimp only
          split
          · apply Yields.call
            intro reply s'' step
            cases reply with
            | ok _ => exact ih (started + 1) (waited _ s' _ s'' ended step)
            | error _ => exact Yields.raise _
          · exact Yields.raise error

/-- A value of a read comes from one of its attempts, each after the first in a session that was
rolled back. -/
theorem yields_guardedRead (admitted : ∀ s', exec (.breakerAllow dependency) s true s' → E s')
    (after : ∀ value s s', exec (.breakerSuccess dependency) s () s' → Q value s → Q' value s') :
    Yields exec later (guardedRead policy dependency operation) Q' s :=
  yields_guardedCall (fun s' allowed =>
    yields_retryLoop attempt rolledBack waited observed _ 0 (admitted s' allowed)) after

end

omit [Evolves exec later] in
/-- A call that is admitted, and whose first attempt returns, returns. -/
theorem ends_guardedCall {policy : DependencyPolicy} {dependency : Dependency} {operation : Py α}
    {onRetry : Option (Py Unit)} {retry : Bool}
    (asked : ∃ reply s', exec (.breakerAllow dependency) s reply s')
    (first : ∀ reply s', exec (.breakerAllow dependency) s reply s' → reply = true ∧
      Ends exec operation (fun outcome s'' => ∃ value, outcome = .ok value ∧ Q value s'') s')
    (told : ∀ value s, Q value s → ∃ reply s', exec (.breakerSuccess dependency) s reply s')
    (after : ∀ value s s', exec (.breakerSuccess dependency) s () s' → Q value s → Q' value s') :
    Ends exec (guardedCall policy dependency operation onRetry retry)
      (fun outcome s' => ∃ value, outcome = .ok value ∧ Q' value s') s := by
  apply Ends.call asked
  intro reply s' admitted
  obtain ⟨rfl, returns⟩ := first reply s' admitted
  have once : ∀ policy hook remaining,
      Ends exec (retryLoop policy dependency operation hook remaining 0)
        (fun outcome s'' => ∃ value, outcome = .ok value ∧ Q value s'') s' := by
    intro policy hook remaining
    have attempt : attemptOnce operation hook 0 = operation := by cases hook <;> rfl
    unfold retryLoop
    rw [attempt]
    apply Ends.attempt_bind returns
    rintro outcome s'' ⟨value, rfl, holds⟩
    exact Ends.ret ⟨value, rfl, holds⟩
  have timed : ∀ policy hook, Ends exec (timeoutBlock (withRetry policy dependency operation hook))
      (fun outcome s'' => ∃ value, outcome = .ok value ∧ Q value s'') s' := by
    intro policy hook
    apply Ends.attempt_bind (once _ _ _)
    rintro outcome s'' ⟨value, rfl, holds⟩
    exact Ends.ret ⟨value, rfl, holds⟩
  apply Ends.attempt_bind (timed _ _)
  rintro outcome s'' ⟨value, rfl, holds⟩
  apply Ends.call (told value s'' holds)
  intro _ s₃ succeeded
  exact Ends.ret ⟨value, rfl, after value s'' s₃ succeeded holds⟩

omit [Evolves exec later] in
/-- A run of a guarded call whose first attempt returns. -/
theorem runs_guardedCall {policy : DependencyPolicy} {dependency : Dependency} {operation : Py α}
    {onRetry : Option (Py Unit)} {retry : Bool} {value : α} {s₁ s₂ s' : S}
    (admitted : exec (.breakerAllow dependency) s true s₁)
    (run : Runs exec operation s₁ (.ok value) s₂)
    (succeeded : exec (.breakerSuccess dependency) s₂ () s') :
    Runs exec (guardedCall policy dependency operation onRetry retry) s (.ok value) s' := by
  have once : ∀ policy hook remaining,
      Runs exec (retryLoop policy dependency operation hook remaining 0) s₁ (.ok value) s₂ := by
    intro policy hook remaining
    have attempt : attemptOnce operation hook 0 = operation := by cases hook <;> rfl
    unfold retryLoop
    rw [attempt]
    exact run.attempt.bind (.ret value s₂)
  have timed : ∀ policy hook,
      Runs exec (timeoutBlock (withRetry policy dependency operation hook)) s₁ (.ok value) s₂ :=
    fun policy hook => (once _ _ _).attempt.bind (.ret value s₂)
  exact .call admitted ((timed _ _).attempt.bind (.call succeeded (.ret value s')))

/-- The value of a handler whose session committed. -/
theorem yields_getSession {cache : ArticleCache} {handler : Py α}
    (first : Yields exec later handler Q s)
    (commits : ∀ value s s', exec .commit s (.ok ()) s' → Q value s → Q' value s')
    (stable : ∀ value s s', later s s' → Q' value s → Q' value s') :
    Yields exec later (getSession cache handler) Q' s := by
  have whole : Yields exec later (untilCommit handler) Q' s := by
    apply first.bind
    intro value s' _ holds
    apply Yields.call
    intro committed s'' step
    cases committed with
    | ok done => exact Yields.ret (commits value s' s'' step holds)
    | error error => exact Yields.raise error
  apply whole.attempt.bind
  intro outcome s' _ holds
  cases outcome with
  | ok value =>
      apply Yields.skip
      intro _ s'' after
      exact Yields.ret (stable value s' s'' after (holds value rfl))
  | error error =>
      apply Yields.skip
      intro _ _ _
      apply Yields.skip
      intro _ _ _
      exact Yields.raise error

/-! ### A single-flight read -/

section
variable {Found : Option String → S → Prop} (none_ : ∀ s, Found none s)
  (stable : ∀ found s s', later s s' → Found found s → Found found s') {key : String}
  (look : ∀ s, Yields exec later (redis (.get key)) Found s)

include none_ stable look

/-- A body that a `peek` returns is one that Redis answered with. -/
theorem found_peek (cache : ArticleCache) : Yields exec later (cache.peek key) Found s := by
  apply Yields.skip
  intro live s₁ _
  cases live with
  | false => exact Yields.ret (none_ s₁)
  | true =>
      apply (yields_answered (look s₁) stable).bind
      intro result s₂ _ holds
      cases result with
      | none => exact Yields.ret (none_ s₂)
      | some found => exact Yields.ret (holds found rfl)

theorem found_fetch (cache : ArticleCache) (entity : CacheEntity) :
    Yields exec later (cache.fetch key entity) Found s := by
  apply Yields.skip
  intro live s₁ _
  cases live with
  | false => exact Yields.ret (none_ s₁)
  | true =>
      apply (yields_answered (look s₁) stable).bind
      intro result s₂ _ holds
      rcases result with _ | _ | body
      · exact Yields.ret (none_ s₂)
      · apply Yields.skip
        intro _ s₃ _
        exact Yields.ret (none_ s₃)
      · apply Yields.skip
        intro _ s₃ after
        exact Yields.ret (stable _ s₂ s₃ after (holds _ rfl))

variable (service : ArticleService)

theorem found_pollUntil (deadline : ℚ) (polls : ℕ) :
    Yields exec later (service.pollUntil key deadline polls) Found s := by
  induction polls generalizing s with
  | zero =>
      rw [ArticleService.pollUntil]
      apply Yields.skip
      intro now s₁ _
      split
      · exact Yields.call fun never => never.elim
      · exact Yields.ret (none_ s₁)
  | succ polls ih =>
      rw [ArticleService.pollUntil]
      apply Yields.skip
      intro now s₁ _
      split
      · apply Yields.skip
        intro _ s₂ _
        apply (found_peek none_ stable look service.cache).bind
        intro found s₃ _ holds
        cases found with
        | none => exact ih
        | some body => exact Yields.ret holds
      · exact Yields.ret (none_ s₁)

theorem found_waitUnlessWon (won : Bool) :
    Yields exec later (service.waitUnlessWon won key) Found s := by
  cases won with
  | true => exact Yields.ret (none_ s)
  | false =>
      apply Yields.skip
      intro now s₁ _
      exact found_pollUntil none_ stable look service _ _

end

end

end ContentPlatform
