import ContentPlatform.Program.Sequential
import Mathlib.Data.List.Basic

/-!
# Reads that share a load

A value is looked up, and loaded where it is not found, by whoever acquires a lock.  Who does not
acquire it waits for a while for the value to turn up, and then loads it too.  The lock is released
however the load ends, by who acquired it.
-/

set_option autoImplicit false

namespace ContentPlatform.Program

open Prog

/-- The calls that such a read makes. -/
structure LockedRead (Op : Type) (Res : Op → Type) (ε ρ α : Type) where
  lookUp : Prog Op Res ε (Option α)
  acquire : Prog Op Res ε Bool
  wait : Prog Op Res ε (Option α)
  load : Prog Op Res ε ρ
  /-- What is done with what was loaded, before the lock is released. -/
  finish : ρ → Prog Op Res ε α
  release : Prog Op Res ε Unit

/-- A call, with its outcome. -/
inductive LockedCall (ε ρ α : Type) where
  | lookUp (outcome : Except ε (Option α))
  | acquire (outcome : Except ε Bool)
  | wait (outcome : Except ε (Option α))
  | load (outcome : Except ε ρ)
  | finish (loaded : ρ) (outcome : Except ε α)
  | release (outcome : Except ε Unit)

namespace LockedCall

variable {ε ρ α : Type}

def isAcquire : LockedCall ε ρ α → Bool
  | .acquire _ => true
  | _ => false

def isWin : LockedCall ε ρ α → Bool
  | .acquire (.ok true) => true
  | _ => false

def isLoad : LockedCall ε ρ α → Bool
  | .load _ => true
  | _ => false

def isRelease : LockedCall ε ρ α → Bool
  | .release _ => true
  | _ => false

end LockedCall

namespace LockedRead

section
variable {Op : Type} {Res : Op → Type} {ε ρ α S : Type} (read : LockedRead Op Res ε ρ α)

/-- The load and what follows it, with the release of a lock that was acquired. -/
def underLock (won : Bool) : Prog Op Res ε α :=
  (read.load.bind read.finish).tryFinally (if won then read.release else .ret ())

/-- What is done once it is known who acquired the lock. -/
def afterLock (won : Bool) : Prog Op Res ε α :=
  (if won then .ret none else read.wait).bind fun waited =>
    match waited with
    | some value => .ret value
    | none => read.underLock won

def run : Prog Op Res ε α :=
  read.lookUp.bind fun found =>
    match found with
    | some value => .ret value
    | none => read.acquire.bind read.afterLock

/-- A whole execution of one of the calls. -/
def Makes (exec : (op : Op) → S → Res op → S → Prop) : LockedCall ε ρ α → S → S → Prop
  | .lookUp outcome, s, s' => Runs exec read.lookUp s outcome s'
  | .acquire outcome, s, s' => Runs exec read.acquire s outcome s'
  | .wait outcome, s, s' => Runs exec read.wait s outcome s'
  | .load outcome, s, s' => Runs exec read.load s outcome s'
  | .finish loaded outcome, s, s' => Runs exec (read.finish loaded) s outcome s'
  | .release outcome, s, s' => Runs exec read.release s outcome s'

/-- Only the load sends what `loads` says of. -/
structure LoadsAlone (loads : Op → Prop) : Prop where
  lookUp : read.lookUp.Sends fun op => ¬loads op
  acquire : read.acquire.Sends fun op => ¬loads op
  wait : read.wait.Sends fun op => ¬loads op
  finish : ∀ loaded, (read.finish loaded).Sends fun op => ¬loads op
  release : read.release.Sends fun op => ¬loads op

/-- An execution that consists of these calls, one after the other. -/
inductive Calls (exec : (op : Op) → S → Res op → S → Prop) :
    List (LockedCall ε ρ α) → S → S → Prop where
  | nil (s : S) : Calls exec [] s s
  | cons {call : LockedCall ε ρ α} {rest : List (LockedCall ε ρ α)} {s s₁ s' : S} :
      read.Makes exec call s s₁ → Calls exec rest s₁ s' → Calls exec (call :: rest) s s'

/-- The calls of the part under the lock, with its outcome. -/
inductive Loading : List (LockedCall ε ρ α) → Except ε α → Prop where
  | failed (error : ε) : Loading [.load (.error error)] (.error error)
  | loaded (value : ρ) (outcome : Except ε α) :
      Loading [.load (.ok value), .finish value outcome] outcome

/-- The calls that a read makes, with its outcome. -/
inductive Path : List (LockedCall ε ρ α) → Except ε α → Prop where
  | unread (error : ε) : Path [.lookUp (.error error)] (.error error)
  | found (value : α) : Path [.lookUp (.ok (some value))] (.ok value)
  | unlocked (error : ε) : Path [.lookUp (.ok none), .acquire (.error error)] (.error error)
  | interrupted (error : ε) :
      Path [.lookUp (.ok none), .acquire (.ok false), .wait (.error error)] (.error error)
  | waited (value : α) :
      Path [.lookUp (.ok none), .acquire (.ok false), .wait (.ok (some value))] (.ok value)
  | lost {loading : List (LockedCall ε ρ α)} {outcome : Except ε α} : Loading loading outcome →
      Path (.lookUp (.ok none) :: .acquire (.ok false) :: .wait (.ok none) :: loading) outcome
  | released {loading : List (LockedCall ε ρ α)} {outcome : Except ε α} : Loading loading outcome →
      Path (.lookUp (.ok none) :: .acquire (.ok true) :: (loading ++ [.release (.ok ())])) outcome
  | kept {loading : List (LockedCall ε ρ α)} {outcome : Except ε α} (error : ε) :
      Loading loading outcome →
      Path (.lookUp (.ok none) :: .acquire (.ok true) :: (loading ++ [.release (.error error)]))
        (.error error)

/-- At most one load, and one release if the lock was acquired and none if it was not. -/
structure Balanced (calls : List (LockedCall ε ρ α)) : Prop where
  acquired : calls.countP LockedCall.isAcquire ≤ 1
  loaded : calls.countP LockedCall.isLoad ≤ 1
  released : calls.countP LockedCall.isRelease = if calls.any LockedCall.isWin then 1 else 0

end

section
variable {Op : Type} {Res : Op → Type} {ε ρ α S : Type} {read : LockedRead Op Res ε ρ α}
  {exec : (op : Op) → S → Res op → S → Prop} {s s₁ s' : S} {calls : List (LockedCall ε ρ α)}

theorem Loading.balanced {outcome : Except ε α} (loading : Loading calls outcome) :
    calls.countP LockedCall.isAcquire = 0 ∧ calls.countP LockedCall.isLoad = 1 ∧
      calls.countP LockedCall.isRelease = 0 ∧ calls.any LockedCall.isWin = false := by
  cases loading <;> exact ⟨rfl, rfl, rfl, rfl⟩

theorem Path.balanced {outcome : Except ε α} (path : Path calls outcome) : Balanced calls := by
  cases path with
  | lost loading =>
      obtain ⟨acquired, loaded, released, won⟩ := loading.balanced
      constructor <;> simp [List.countP_cons, LockedCall.isAcquire, LockedCall.isLoad,
        LockedCall.isRelease, LockedCall.isWin, acquired, loaded, released, won]
  | released loading | kept _ loading =>
      obtain ⟨acquired, loaded, released, -⟩ := loading.balanced
      constructor <;> simp [List.countP_cons, LockedCall.isAcquire, LockedCall.isLoad,
        LockedCall.isRelease, LockedCall.isWin, acquired, loaded, released]
  | _ =>
      constructor <;> simp [List.countP_cons, LockedCall.isAcquire, LockedCall.isLoad,
        LockedCall.isRelease, LockedCall.isWin]

theorem Calls.append {first second : List (LockedCall ε ρ α)}
    (before : read.Calls exec first s s₁) (after : read.Calls exec second s₁ s') :
    read.Calls exec (first ++ second) s s' := by
  induction before with
  | nil _ => exact after
  | cons made _ ih => exact .cons made (ih after)

theorem Calls.single {call : LockedCall ε ρ α} (made : read.Makes exec call s s') :
    read.Calls exec [call] s s' :=
  .cons made (.nil s')

theorem loading_calls {outcome : Except ε α}
    (run : Runs exec (read.load.bind read.finish) s outcome s') :
    ∃ calls, read.Calls exec calls s s' ∧ Loading calls outcome := by
  obtain ⟨middle, s₁, first, rest⟩ := Runs.of_cont run
  cases middle with
  | error error =>
      cases rest
      exact ⟨[.load (.error error)], .single first, .failed error⟩
  | ok value =>
      exact ⟨[.load (.ok value), .finish value outcome], .cons first (.single rest),
        .loaded value outcome⟩

/-- Whatever comes of the load, the lock is released after it. -/
theorem released_calls {outcome : Except ε α} (run : Runs exec (read.underLock true) s outcome s') :
    ∃ loading loaded ended, read.Calls exec (loading ++ [.release ended]) s s' ∧
      Loading loading loaded ∧
      ((ended = .ok () ∧ outcome = loaded) ∨
        ∃ error, ended = .error error ∧ outcome = .error error) := by
  obtain ⟨loaded, s₁, first, rest⟩ := Runs.of_cont run
  obtain ⟨loading, before, shape⟩ := loading_calls first
  have last : ∃ ended, Runs exec read.release s₁ ended s' ∧
      ((ended = .ok () ∧ outcome = loaded) ∨
        ∃ error, ended = .error error ∧ outcome = .error error) := by
    cases loaded <;>
    · obtain ⟨ended, s₂, release, rest⟩ := Runs.of_cont rest
      cases ended with
      | ok _ =>
          cases rest
          exact ⟨.ok (), release, Or.inl ⟨rfl, rfl⟩⟩
      | error error =>
          cases rest
          exact ⟨.error error, release, Or.inr ⟨error, rfl, rfl⟩⟩
  obtain ⟨ended, release, outcomes⟩ := last
  exact ⟨loading, loaded, ended, before.append (.single release), shape, outcomes⟩

/-- Who did not acquire the lock releases none. -/
theorem unreleased_calls {outcome : Except ε α}
    (run : Runs exec (read.underLock false) s outcome s') :
    ∃ loading, read.Calls exec loading s s' ∧ Loading loading outcome := by
  obtain ⟨loaded, s₁, first, rest⟩ := Runs.of_cont run
  obtain ⟨loading, before, shape⟩ := loading_calls first
  cases loaded <;>
  · cases rest
    exact ⟨loading, before, shape⟩

/-- A run of a read is made of the calls of one of the paths. -/
theorem run_calls {outcome : Except ε α} (run : Runs exec read.run s outcome s') :
    ∃ calls, read.Calls exec calls s s' ∧ Path calls outcome := by
  obtain ⟨middle, s₁, lookedUp, run⟩ := Runs.of_cont run
  rcases middle with error | _ | value
  · cases run
    exact ⟨[.lookUp (.error error)], .single lookedUp, .unread error⟩
  · obtain ⟨middle, s₂, acquired, run⟩ := Runs.of_cont run
    rcases middle with error | _ | _
    · cases run
      exact ⟨[.lookUp (.ok none), .acquire (.error error)], .cons lookedUp (.single acquired),
        .unlocked error⟩
    · obtain ⟨middle, s₃, waited, run⟩ := Runs.of_cont run
      rcases middle with error | _ | value
      · cases run
        exact ⟨[.lookUp (.ok none), .acquire (.ok false), .wait (.error error)],
          .cons lookedUp (.cons acquired (.single waited)), .interrupted error⟩
      · obtain ⟨loading, calls, shape⟩ := unreleased_calls run
        exact ⟨.lookUp (.ok none) :: .acquire (.ok false) :: .wait (.ok none) :: loading,
          .cons lookedUp (.cons acquired (.cons waited calls)), .lost shape⟩
      · cases run
        exact ⟨[.lookUp (.ok none), .acquire (.ok false), .wait (.ok (some value))],
          .cons lookedUp (.cons acquired (.single waited)), .waited value⟩
    · obtain ⟨loading, loaded, ended, calls, shape, outcomes⟩ := released_calls run
      have path : Path (.lookUp (.ok none) :: .acquire (.ok true) ::
          (loading ++ [.release ended])) outcome := by
        rcases outcomes with ⟨rfl, rfl⟩ | ⟨error, rfl, rfl⟩
        · exact .released shape
        · exact .kept error shape
      exact ⟨.lookUp (.ok none) :: .acquire (.ok true) :: (loading ++ [.release ended]),
        .cons lookedUp (.cons acquired calls), path⟩
  · cases run
    exact ⟨[.lookUp (.ok (some value))], .single lookedUp, .found value⟩

/-- What is composed of programs that come to an end from everywhere comes to an end. -/
theorem live_cont {β γ : Type} {p : Prog Op Res ε β} {f : β → Prog Op Res ε γ}
    {g : ε → Prog Op Res ε γ} (first : ∀ s, Live exec p s)
    (onValue : ∀ value s, Live exec (f value) s)
    (onError : ∀ error s, Live exec (g error) s) (s : S) : Live exec (p.cont f g) s := by
  apply (first s).cont
  apply wp_complete
  intro outcome s' _
  cases outcome with
  | ok value => exact onValue value s'
  | error error => exact onError error s'

theorem live_bind {β γ : Type} {p : Prog Op Res ε β} {f : β → Prog Op Res ε γ}
    (first : ∀ s, Live exec p s) (next : ∀ value s, Live exec (f value) s) (s : S) :
    Live exec (p.bind f) s :=
  live_cont (g := .raise) first next (fun _ _ => trivial) s

theorem run_live (lookUp : ∀ s, Live exec read.lookUp s) (acquire : ∀ s, Live exec read.acquire s)
    (wait : ∀ s, Live exec read.wait s) (load : ∀ s, Live exec read.load s)
    (finish : ∀ loaded s, Live exec (read.finish loaded) s)
    (release : ∀ s, Live exec read.release s) (s : S) : Live exec read.run s := by
  have underLock : ∀ won s, Live exec (read.underLock won) s := by
    intro won
    have last : ∀ s, Live exec (if won then read.release else .ret ()) s := by
      intro s
      cases won with
      | true => exact release s
      | false => trivial
    apply live_cont (live_bind load finish)
    · exact fun value => live_cont last (fun _ _ => trivial) fun _ _ => trivial
    · exact fun error => live_cont last (fun _ _ => trivial) fun _ _ => trivial
  refine live_bind lookUp (fun found => ?_) s
  cases found with
  | some value => exact fun _ => trivial
  | none =>
      refine live_bind acquire fun won => live_bind ?_ fun waited => ?_
      · intro s
        cases won with
        | true => trivial
        | false => exact wait s
      · cases waited with
        | some value => exact fun _ => trivial
        | none => exact underLock won

/-- A read whose calls come to an end comes to an end, and does so over one of the paths. -/
theorem run_ends (live : ∀ s, Live exec read.run s) (s : S) :
    Ends exec read.run (fun outcome s' =>
      ∃ calls, read.Calls exec calls s s' ∧ Path calls outcome) s :=
  ⟨live s, wp_complete _ _ s fun _ _ run => run_calls run⟩

end

end LockedRead

end ContentPlatform.Program
