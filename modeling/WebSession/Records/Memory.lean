import WebSession.Error
import WebSession.Fields
import WebSession.Range
/-!
# WebSession.Records.Memory

**Session records in memory.**

Design points:

* Times are milliseconds. A record without a positive age has no deadline; at its deadline it
  is gone.
* Both steps from an age to a deadline stop at the greatest number of sixty-four bits.
* Reading hides what has passed its deadline; adding drops it.
-/

namespace WebSession.Records

/-- A record in memory. -/
structure Memory.Record where
  text : String
  /-- When the record is gone. -/
  deadline? : Option Int

/-- Records by session id. -/
structure Memory where
  /-- The records, those past their deadline included. -/
  records : Dict Memory.Record := .empty

namespace Memory

/-- The last moment that is told apart from later ones. -/
def lastMoment : Int := Range.maxInt64

/-- The deadline of a record that is added now. -/
def deadline? (now maxAge : Int) : Option Int :=
  if 0 < maxAge then some (min lastMoment (now + min lastMoment (1000 * maxAge))) else none

/-- Whether a record is gone. -/
def Record.isExpired (r : Record) (now : Int) : Bool :=
  match r.deadline? with
  | some t => t ≤ now
  | none => false

/-- Drops the records that are gone. -/
def prune (m : Memory) (now : Int) : Memory :=
  ⟨Dict.ofList (m.records.toList.filter fun f => !f.2.isExpired now)⟩

/-- The number of records, those past their deadline included. -/
def size (m : Memory) : Nat := m.records.length

/-- Writes a record. -/
def add (m : Memory) (now : Int) (id record : String) (maxAge : Int) : Memory :=
  ⟨(m.prune now).records.set id ⟨record, deadline? now maxAge⟩⟩

/-- Reads a record. -/
def get (m : Memory) (now : Int) (id : String) : Except Error String :=
  match m.records.get? id with
  | some r => if r.isExpired now then .error .noSession else .ok r.text
  | none => .error .noSession

/-- Removes a record; one that is gone but was not dropped yet counts. -/
def remove (m : Memory) (id : String) : Except Error Unit × Memory :=
  if m.records.contains id then (.ok (), ⟨m.records.erase id⟩) else (.error .noSession, m)

end Memory

end WebSession.Records
