import WebSession.Error
import WebSession.Fields
/-!
# WebSession.Records.Redis

**Session records on a key-value server.**

Design points:

* Each operation is one command. The key is `sess_` followed by the id, whatever the id is.
* A positive age is handed to the server, which forgets the value by itself: when the age is over,
  some time later, or never.
* The server may be out of reach, and it may refuse commands.
-/

namespace WebSession.Records

/-- A command to the server. -/
inductive Redis.Command where
  | set (key value : String)
  /-- Store a value for so many seconds. -/
  | setex (key : String) (seconds : Int) (value : String)
  | get (key : String)
  | del (key : String)

/-- A value on a server. -/
structure Redis.Lease where
  value : String
  /-- The millisecond at which the value is forgotten, if it ever is. -/
  until? : Option Int

/-- The server as it can be reached. -/
inductive Redis where
  | unreachable
  /-- A connected server with its values. It forgets a value so many milliseconds after its age is
  over, if at all, and it may refuse every command. -/
  | connected (leases : Dict Redis.Lease) (grace? : Option Nat) (refusing : Bool)

namespace Redis

/-- The key of an id. -/
def recordKey (id : String) : String := "sess_" ++ id

/-- The command that writes a record. -/
def addCommand (id record : String) (maxAge : Int) : Command :=
  if 0 < maxAge then .setex (recordKey id) maxAge record else .set (recordKey id) record

/-- The command that reads a record. -/
def getCommand (id : String) : Command := .get (recordKey id)

/-- The command that removes a record. -/
def removeCommand (id : String) : Command := .del (recordKey id)

/-- The words of a command on the wire. -/
def Command.words : Command → List String
  | .set key value => ["SET", key, value]
  | .setex key seconds value => ["SETEX", key, Nat.repr seconds.toNat, value]
  | .get key => ["GET", key]
  | .del key => ["DEL", key]

/-- When a value with an age is forgotten. -/
def deadline? (grace? : Option Nat) (now maxAge : Int) : Option Int :=
  grace?.map fun grace => now + 1000 * maxAge + grace

/-- Whether a value is forgotten. -/
def Lease.isOver (lease : Lease) (now : Int) : Bool :=
  match lease.until? with
  | some t => t ≤ now
  | none => false

/-- The value of a key at a millisecond. -/
def value? (leases : Dict Lease) (now : Int) (key : String) : Option String :=
  match leases.get? key with
  | some lease => if lease.isOver now then none else some lease.value
  | none => none

/-- The values after a command at a millisecond. -/
def Command.apply (grace? : Option Nat) (now : Int) : Command → Dict Lease → Dict Lease
  | .set key value, leases => leases.set key ⟨value, none⟩
  | .setex key seconds value, leases => leases.set key ⟨value, deadline? grace? now seconds⟩
  | .get _, leases => leases
  | .del key, leases => leases.erase key

/-- The error of a missing connection. -/
def noConnection : Error := .other "Connection error"

/-- Writes a record. -/
def add (r : Redis) (now : Int) (id record : String) (maxAge : Int) : Except Error Unit × Redis :=
  match r with
  | .unreachable => (.error noConnection, r)
  | .connected _ _ true => (.error (.other "Redis set error"), r)
  | .connected leases grace? false =>
    (.ok (), .connected ((addCommand id record maxAge).apply grace? now leases) grace? false)

/-- Reads a record. -/
def get (r : Redis) (now : Int) (id : String) : Except Error String :=
  match r with
  | .unreachable => .error noConnection
  | .connected _ _ true => .error (.other "Redis get error")
  | .connected leases _ false =>
    match value? leases now (recordKey id) with
    | some record => .ok record
    | none => .error .noSession

/-- Removes a record. -/
def remove (r : Redis) (now : Int) (id : String) : Except Error Unit × Redis :=
  match r with
  | .unreachable => (.error noConnection, r)
  | .connected _ _ true => (.error (.other "Redis delete error"), r)
  | .connected leases grace? false =>
    let answer := if (value? leases now (recordKey id)).isSome then .ok () else .error .noSession
    (answer, .connected ((removeCommand id).apply grace? now leases) grace? false)

end Redis

end WebSession.Records
