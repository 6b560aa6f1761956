import Mathlib.Logic.Function.Basic

/-!
# Interaction programs

A coroutine is a tree of requests to its environment.  `ret` is a normal
return, `raise` an exception that left the coroutine, and `call` one request
together with what is done with each possible reply.  Everything between two
requests is atomic, which is what a single-threaded event loop guarantees.
-/

set_option autoImplicit false

namespace ContentPlatform.Program

inductive Prog (Op : Type) (Res : Op → Type) (ε α : Type) : Type where
  | ret (value : α)
  | raise (error : ε)
  | call (op : Op) (next : Res op → Prog Op Res ε α)

namespace Prog

variable {Op : Type} {Res : Op → Type} {ε α β γ : Type}

/-- Run `p`, then continue with `onValue` or `onError`, whichever way it ended. -/
def cont (p : Prog Op Res ε α) (onValue : α → Prog Op Res ε β)
    (onError : ε → Prog Op Res ε β) : Prog Op Res ε β :=
  match p with
  | .ret value => onValue value
  | .raise error => onError error
  | .call op next => .call op fun reply => (next reply).cont onValue onError

def bind (p : Prog Op Res ε α) (next : α → Prog Op Res ε β) : Prog Op Res ε β :=
  p.cont next .raise

/-- `try: ... except error` with the exception as a value. -/
def attempt (p : Prog Op Res ε α) : Prog Op Res ε (Except ε α) :=
  p.cont (fun value => .ret (.ok value)) (fun error => .ret (.error error))

/-- `try: ... finally: last`.  An exception raised by `last` replaces the outcome. -/
def tryFinally (p : Prog Op Res ε α) (last : Prog Op Res ε Unit) : Prog Op Res ε α :=
  p.cont (fun value => last.cont (fun _ => .ret value) .raise)
    (fun error => last.cont (fun _ => .raise error) .raise)

instance : Monad (Prog Op Res ε) where
  pure := .ret
  bind := bind

def ofExcept : Except ε α → Prog Op Res ε α
  | .ok value => .ret value
  | .error error => .raise error

@[simp] theorem pure_eq (value : α) : (pure value : Prog Op Res ε α) = .ret value := rfl

@[simp] theorem bind_eq (p : Prog Op Res ε α) (next : α → Prog Op Res ε β) :
    p >>= next = p.bind next := rfl

@[simp] theorem ret_cont (value : α) (f : α → Prog Op Res ε β) (g : ε → Prog Op Res ε β) :
    (Prog.ret value).cont f g = f value := rfl

@[simp] theorem raise_cont (error : ε) (f : α → Prog Op Res ε β) (g : ε → Prog Op Res ε β) :
    (Prog.raise error).cont f g = g error := rfl

@[simp] theorem call_cont (op : Op) (next : Res op → Prog Op Res ε α)
    (f : α → Prog Op Res ε β) (g : ε → Prog Op Res ε β) :
    (Prog.call op next).cont f g = .call op fun reply => (next reply).cont f g := rfl

theorem cont_assoc (p : Prog Op Res ε α) (f : α → Prog Op Res ε β) (g : ε → Prog Op Res ε β)
    (f' : β → Prog Op Res ε γ) (g' : ε → Prog Op Res ε γ) :
    (p.cont f g).cont f' g' =
      p.cont (fun value => (f value).cont f' g') fun error => (g error).cont f' g' := by
  induction p with
  | ret value => rfl
  | raise error => rfl
  | call op next ih => simp only [call_cont, ih]

theorem bind_assoc (p : Prog Op Res ε α) (f : α → Prog Op Res ε β) (g : β → Prog Op Res ε γ) :
    (p.bind f).bind g = p.bind fun value => (f value).bind g := cont_assoc p f .raise g .raise

/-- Every request that `p` can send, whatever the replies, is in `allowed`. -/
def Sends (allowed : Op → Prop) : Prog Op Res ε α → Prop
  | .ret _ => True
  | .raise _ => True
  | .call op next => allowed op ∧ ∀ reply, (next reply).Sends allowed

variable {allowed allowed' : Op → Prop} {p : Prog Op Res ε α}

@[simp] theorem sends_ret (value : α) : (Prog.ret value : Prog Op Res ε α).Sends allowed := trivial

@[simp] theorem sends_raise (error : ε) : (Prog.raise error : Prog Op Res ε α).Sends allowed :=
  trivial

theorem Sends.mono (sends : p.Sends allowed) (more : ∀ op, allowed op → allowed' op) :
    p.Sends allowed' := by
  induction p with
  | ret value => trivial
  | raise error => trivial
  | call op next ih => exact ⟨more op sends.1, fun reply => ih reply (sends.2 reply)⟩

theorem Sends.cont {f : α → Prog Op Res ε β} {g : ε → Prog Op Res ε β} (first : p.Sends allowed)
    (onValue : ∀ value, (f value).Sends allowed) (onError : ∀ error, (g error).Sends allowed) :
    (p.cont f g).Sends allowed := by
  induction p with
  | ret value => exact onValue value
  | raise error => exact onError error
  | call op next ih => exact ⟨first.1, fun reply => ih reply (first.2 reply)⟩

theorem Sends.bind {f : α → Prog Op Res ε β} (first : p.Sends allowed)
    (next : ∀ value, (f value).Sends allowed) : (p.bind f).Sends allowed :=
  first.cont next fun _ => trivial

theorem Sends.attempt (first : p.Sends allowed) : p.attempt.Sends allowed :=
  first.cont (fun _ => trivial) fun _ => trivial

theorem Sends.tryFinally {last : Prog Op Res ε Unit} (first : p.Sends allowed)
    (second : last.Sends allowed) : (p.tryFinally last).Sends allowed :=
  first.cont (fun _ => second.cont (fun _ => trivial) fun _ => trivial)
    fun _ => second.cont (fun _ => trivial) fun _ => trivial

@[simp] theorem sends_ofExcept (result : Except ε α) :
    (ofExcept result : Prog Op Res ε α).Sends allowed := by
  cases result <;> trivial

end Prog

end ContentPlatform.Program
