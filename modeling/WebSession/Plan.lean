import WebSession.Bytes
import WebSession.Error
/-!
# WebSession.Plan

**What a session operation does to the outside world**, as a tree of calls.

A plan is done, or it makes one call and goes on with the answer. Random octets and the
records of server-side stores are all the world that an operation sees.

Design points:

* A plan says nothing about who answers. The same plan runs against working stores
  (`World`), against failing ones, and call by call between the calls of another request.
* Answers are typed by their calls: so many random octets are a vector of that length, and
  only reading a record answers with a text.
* `Plan.run` folds a plan with a responder, which carries a state of its own.
-/

namespace WebSession

/-- A call to the outside world. -/
inductive Call where
  | random (count : Nat)
  /-- Write the record of a session id; a positive age in seconds limits its life. -/
  | add (store id record : String) (maxAge : Int)
  /-- Read the record of a session id. -/
  | get (store id : String)
  /-- Remove the record of a session id. -/
  | remove (store id : String)
  deriving DecidableEq

/-- What a call is answered with; random octets may be missing. -/
abbrev Call.Answer : Call → Type
  | .random count => Option (Vector UInt8 count)
  | .get _ _ => Except Error String
  | .add .. => Except Error Unit
  | .remove .. => Except Error Unit

/-- The calls of an operation and its result. -/
inductive Plan (α : Type) where
  | done (result : α)
  /-- The operation calls and goes on with the answer. -/
  | ask (call : Call) (next : call.Answer → Plan α)

/-- Who answers calls, with a state of its own. -/
abbrev Responder (σ : Type) := (call : Call) → σ → call.Answer × σ

namespace Plan

variable {α β σ : Type}

/-- Goes on with the result of a plan. -/
def bind : Plan α → (α → Plan β) → Plan β
  | .done a, f => f a
  | .ask call next, f => .ask call fun answer => (next answer).bind f

instance : Monad Plan where
  pure := .done
  bind := bind

@[simp] theorem pure_eq_done (a : α) : (pure a : Plan α) = .done a := rfl

@[simp] theorem done_bind (a : α) (f : α → Plan β) : (Plan.done a >>= f) = f a := rfl

@[simp] theorem ask_bind (call : Call) (next : call.Answer → Plan α) (f : α → Plan β) :
    (Plan.ask call next >>= f) = .ask call fun answer => next answer >>= f := rfl

/-! ### Single calls -/

/-- Asks for random octets. -/
def random (count : Nat) : Plan (Option (Vector UInt8 count)) := .ask (.random count) .done

/-- Writes a record. -/
def add (store id record : String) (maxAge : Int) : Plan (Except Error Unit) :=
  .ask (.add store id record maxAge) .done

/-- Reads a record. -/
def get (store id : String) : Plan (Except Error String) := .ask (.get store id) .done

/-- Removes a record. -/
def remove (store id : String) : Plan (Except Error Unit) := .ask (.remove store id) .done

/-! ### Running -/

/-- Answers every call of a plan, one after the other. -/
def run (respond : Responder σ) : Plan α → σ → α × σ
  | .done a, s => (a, s)
  | .ask call next, s =>
    let (answer, s) := respond call s
    (next answer).run respond s

@[simp] theorem run_done (respond : Responder σ) (a : α) (s : σ) :
    (Plan.done a).run respond s = (a, s) := rfl

@[simp] theorem run_ask (respond : Responder σ) (call : Call) (next : call.Answer → Plan α)
    (s : σ) : (Plan.ask call next).run respond s =
      (next (respond call s).1).run respond (respond call s).2 := rfl

/-- A plan runs part by part. -/
theorem run_bind (respond : Responder σ) (p : Plan α) (f : α → Plan β) (s : σ) :
    (p >>= f).run respond s = (f (p.run respond s).1).run respond (p.run respond s).2 := by
  induction p generalizing s with
  | done a => rfl
  | ask call next ih => exact ih _ _

end Plan

end WebSession
