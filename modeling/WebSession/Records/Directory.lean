import WebSession.Fields
import WebSession.SessionId
/-!
# WebSession.Records.Directory

**Session records as files of one directory.**

Design points:

* The record of an id is the file `sess_` followed by the id. An id is validated first, so
  its file name has no separator and no dot.
* A file has no deadline of its own. Adding with a positive age sweeps the directory: every
  file whose name begins like a record's and that was not written for longer than that age is
  removed.
* The directory may vanish. Files that are no records and directories may stand in it, under any
  name. There are no links, and no file is kept from being read, written or removed.
-/

namespace WebSession.Records

/-- What stands under a name in a directory. -/
inductive Directory.Entry where
  /-- A file with its content, the millisecond of its last writing and its access mode. -/
  | file (content : Bytes) (modified : Int) (mode : Nat)
  | directory

/-- A directory that may be missing. -/
structure Directory where
  entries? : Option (Dict Directory.Entry) := some .empty

namespace Directory

/-- How the names of record files begin. -/
def recordPrefix : String := "sess_"

/-- The file name of an id. -/
def fileName (id : String) : String := recordPrefix ++ id

/-- The access mode of a new record: the owner alone reads and writes it. -/
def recordMode : Nat := 0o600

/-- Whether a name begins like a record's. -/
def isRecordName (name : String) : Bool := recordPrefix.toList.isPrefixOf name.toList

/-- Whether an entry was not written for longer than an age in seconds. -/
def isStale (now maxAge : Int) : Entry → Bool
  | .file _ modified _ => 1000 * maxAge < now - modified
  | .directory => false

/-- Removes the files that a sweep removes. -/
def sweep (entries : Dict Entry) (now maxAge : Int) : Dict Entry :=
  Dict.ofList (entries.toList.filter fun f => !(isRecordName f.1 && isStale now maxAge f.2))

/-- Writes a file. One that exists keeps its access mode. -/
def write (entries : Dict Entry) (now : Int) (name record : String) :
    Except Error (Dict Entry) :=
  match entries.get? name with
  | some (.file _ _ mode) => .ok (entries.set name (.file (Bytes.ofText record) now mode))
  | none => .ok (entries.set name (.file (Bytes.ofText record) now recordMode))
  | some .directory => .error (.other "open")

/-- Writes a record. -/
def add (d : Directory) (now : Int) (id record : String) (maxAge : Int) :
    Except Error Unit × Directory :=
  if !SessionId.isValid id then (.error .badSessionId, d)
  else
    match d.entries? with
    | none => (.error (.other (if 0 < maxAge then "read dir" else "open")), d)
    | some entries =>
      let swept := if 0 < maxAge then sweep entries now maxAge else entries
      match write swept now (fileName id) record with
      | .ok written => (.ok (), ⟨some written⟩)
      | .error e => (.error e, ⟨some swept⟩)

/-- Reads a record. -/
def get (d : Directory) (id : String) : Except Error String :=
  if !SessionId.isValid id then .error .badSessionId
  else
    match d.entries?.bind (Fields.get? (fileName id)) with
    | none => .error .noSession
    | some .directory => .error (.other "read")
    | some (.file content _ _) =>
      match Bytes.text? content with
      | some record => .ok record
      | none => .error (.other "read")

/-- Removes a record. -/
def remove (d : Directory) (id : String) : Except Error Unit × Directory :=
  if !SessionId.isValid id then (.error .badSessionId, d)
  else
    match d.entries? with
    | none => (.error .noSession, d)
    | some entries =>
      match entries.get? (fileName id) with
      | none => (.error .noSession, d)
      | some .directory => (.error (.other "remove"), d)
      | some (.file ..) => (.ok (), ⟨some (entries.erase (fileName id))⟩)

end Directory

end WebSession.Records
