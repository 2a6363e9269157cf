import WebSession.Plan
import WebSession.Records
/-!
# WebSession.World

**Who answers the calls of a plan**: a clock, a stream of random octets, and the records of
every server-side store.

Design points:

* The random octets are any function of their position. What was drawn is never drawn again.
* `Responder.refusing` puts failures in front of any responder: a refused call is answered with
  an error and changes nothing.
-/

namespace WebSession

/-- A stream of random octets. -/
structure Entropy where
  octet : Nat → UInt8
  position : Nat := 0
  broken : Bool := false

/-- Draws the next octets. -/
def Entropy.draw (e : Entropy) (count : Nat) : Option (Vector UInt8 count) × Entropy :=
  if e.broken then (none, e)
  else (some (Vector.ofFn fun i => e.octet (e.position + i.val)),
    { e with position := e.position + count })

/-- The world that session operations run in. -/
structure World where
  now : Int
  entropy : Entropy
  /-- The records by the name of their store. -/
  records : Dict Records := .empty

namespace World

/-- The clock in whole seconds. -/
def seconds (w : World) : Int := w.now / 1000

/-- The world with other records of one store. -/
def withRecords (w : World) (store : String) (records : Records) : World :=
  { w with records := w.records.set store records }

/-- Answers a call. Records of a store that has none are out of reach. -/
def respond : Responder World
  | .random count, w =>
    let (octets, entropy) := w.entropy.draw count
    (octets, { w with entropy := entropy })
  | .add store id record maxAge, w =>
    match w.records.get? store with
    | none => (.error .noStore, w)
    | some records =>
      let (answer, records) := records.add w.now id record maxAge
      (answer, w.withRecords store records)
  | .get store id, w =>
    match w.records.get? store with
    | none => (.error .noStore, w)
    | some records => (records.get w.now id, w)
  | .remove store id, w =>
    match w.records.get? store with
    | none => (.error .noStore, w)
    | some records =>
      let (answer, records) := records.remove w.now id
      (answer, w.withRecords store records)

end World

/-- The answer to a call that fails. -/
def Call.refusal (e : Error) : (call : Call) → call.Answer
  | .random _ => none
  | .add .. => .error e
  | .get .. => .error e
  | .remove .. => .error e

/-- A responder some calls to which fail, changing nothing. -/
def Responder.refusing {σ : Type} (refuse? : Call → Option Error) (respond : Responder σ) :
    Responder σ := fun call s =>
  match refuse? call with
  | some e => (call.refusal e, s)
  | none => respond call s

end WebSession
