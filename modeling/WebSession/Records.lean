import WebSession.Records.Directory
import WebSession.Records.Memory
import WebSession.Records.Redis
/-!
# WebSession.Records

**Where a server-side store keeps its records**: texts by session id, in memory, in a
directory or on a key-value server.

The three kinds differ in what they do with malformed ids, in how a record ends, and in what
can fail. Within the life of a record and for valid ids they are the same map.
-/

namespace WebSession

/-- The records of a server-side store. -/
inductive Records where
  | memory (m : Records.Memory)
  | directory (d : Records.Directory)
  | redis (r : Records.Redis)

namespace Records

/-- Writes a record that lives so many seconds, without limit if not positive. -/
def add (records : Records) (now : Int) (id record : String) (maxAge : Int) :
    Except Error Unit × Records :=
  match records with
  | .memory m => (.ok (), .memory (m.add now id record maxAge))
  | .directory d => (d.add now id record maxAge).map (fun x => x) .directory
  | .redis r => (r.add now id record maxAge).map (fun x => x) .redis

/-- Reads the record of an id. -/
def get (records : Records) (now : Int) (id : String) : Except Error String :=
  match records with
  | .memory m => m.get now id
  | .directory d => d.get id
  | .redis r => r.get now id

/-- Removes the record of an id. -/
def remove (records : Records) (now : Int) (id : String) : Except Error Unit × Records :=
  match records with
  | .memory m => (m.remove id).map (fun x => x) .memory
  | .directory d => (d.remove id).map (fun x => x) .directory
  | .redis r => (r.remove now id).map (fun x => x) .redis

end Records

end WebSession
