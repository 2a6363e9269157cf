import WebSession.Cookie.Jar
import WebSession.SessionId
/-!
# WebSession.SessionStore

**Loading, saving and initializing a session.**

A cookie store keeps the whole session in the signed text of a cookie. A server-side store
keeps the session in a record under the session id, and in the cookie the id alone.

Design points:

* Loading never fails: what cannot be read is an empty session. When the record of a
  server-side session cannot be had or is another session's, what the cookie says remains.
* Saving changes the jar last and only on success, so a jar never holds a cookie whose record
  was refused.
* A server-side session that holds nothing besides its id, or that is to end, has no record:
  saving it removes one.
* Initializing gives the session an id, if it has none, and then writes it like saving does.
-/

namespace WebSession

/-- A loaded session. -/
structure SessionInfo where
  data : SessionData := .empty
  /-- The name of the store it was loaded from. -/
  store : String
  config : SessionConfig := {}

/-- Where a store keeps sessions. -/
inductive StoreKind where
  | cookie
  /-- In the records with a name. -/
  | serverSide (records : String)
  deriving DecidableEq

/-- The kind of a store with the encoders of its texts. -/
structure SessionStore where
  kind : StoreKind
  /-- The first one writes, all read. -/
  encoders : List Encoder := []

namespace SessionStore

/-- The greatest length of a signed text that fits a cookie. -/
def cookieMaxLength : Nat := 4096

/-- The length to which the store limits the texts its encoders read, zero for none. A
record may be of any length. -/
def maxLength (s : SessionStore) : Nat :=
  match s.kind with
  | .cookie => cookieMaxLength
  | .serverSide _ => 0

/-! ### Cookies -/

/-- The session in the cookie with a name. -/
def readCookie (s : SessionStore) (jar : Cookie.Jar) (key : String) (now : Int) :
    Except Error SessionData :=
  match jar.get? key with
  | none => .error .noSession
  | some text => Encoders.decode s.encoders key now text

/-- Sets the cookie with a name to a session. -/
def setCookie (s : SessionStore) (jar : Cookie.Jar) (key : String) (now : Int)
    (d : SessionData) (config : SessionConfig) : ExceptT Error Plan Cookie.Jar := do
  let text ← Encoders.encode s.encoders key now d
  pure (jar.add (Cookie.ofSession key text config))

/-! ### Records -/

/-- The session of a record, if it can be read and has the id; else what the cookie says. -/
def preferRecord (s : SessionStore) (key : String) (now : Int) (fromCookie : SessionData)
    (id : String) (record : Except Error String) : SessionData :=
  match record with
  | .error _ => fromCookie
  | .ok text =>
    match Encoders.decode s.encoders key now text with
    | .ok d => if d.id? = some id then d else fromCookie
    | .error _ => fromCookie

/-- Loads a session from the records, by the id in the cookie. -/
def loadRecord (s : SessionStore) (records : String) (jar : Cookie.Jar) (key : String)
    (now : Int) : ExceptT Error Plan SessionData :=
  match s.readCookie jar key now with
  | .error e => throw e
  | .ok fromCookie =>
    match fromCookie.id? with
    | none => throw .notInitialized
    | some id =>
      match SessionId.validate id with
      | .error e => throw e
      | .ok () => do
        let record ← ExceptT.lift (Plan.get records id)
        pure (s.preferRecord key now fromCookie id record)

/-- Removes a record that may be missing. -/
def dropRecord (records id : String) : ExceptT Error Plan Unit := ExceptT.mk do
  match ← Plan.remove records id with
  | .error .noSession => pure (.ok ())
  | answer => pure answer

/-- Writes the record of a session, or drops it where there is nothing to keep. -/
def writeRecord (s : SessionStore) (records key : String) (now : Int) (id : String)
    (info : SessionInfo) : ExceptT Error Plan Unit :=
  if info.config.maxAge < 0 ∨ info.data.length ≤ 1 then dropRecord records id
  else do
    let record ← Encoders.encode s.encoders key now info.data
    ExceptT.mk (Plan.add records id record info.config.maxAge)

/-- Saves a session in the records and its id in the cookie. -/
def saveRecord (s : SessionStore) (records : String) (jar : Cookie.Jar) (key : String)
    (now : Int) (info : SessionInfo) : ExceptT Error Plan Cookie.Jar :=
  match info.data.id? with
  | none => throw .notInitialized
  | some id =>
    match SessionId.validate id with
    | .error e => throw e
    | .ok () => do
      s.writeRecord records key now id info
      s.setCookie jar key now (SessionData.ofId id) info.config

/-! ### Operations -/

/-- Loads a session, or says why there is none. -/
def load? (s : SessionStore) (jar : Cookie.Jar) (key : String) (now : Int) :
    ExceptT Error Plan SessionData :=
  match s.kind with
  | .cookie => ExceptT.mk (pure (s.readCookie jar key now))
  | .serverSide records => s.loadRecord records jar key now

/-- Loads a session; what cannot be loaded is empty. -/
def load (s : SessionStore) (jar : Cookie.Jar) (key : String) (now : Int) : Plan SessionData := do
  match ← (s.load? jar key now).run with
  | .ok d => pure d
  | .error _ => pure .empty

/-- Saves a session: the jar with its cookie. -/
def save (s : SessionStore) (jar : Cookie.Jar) (key : String) (now : Int) (info : SessionInfo) :
    ExceptT Error Plan Cookie.Jar :=
  match s.kind with
  | .cookie => s.setCookie jar key now info.data info.config
  | .serverSide records => s.saveRecord records jar key now info

/-- Gives a session an id, if it has none, and writes it. The data keeps the new id even when
writing fails. -/
def init (s : SessionStore) (jar : Cookie.Jar) (key : String) (now : Int) (info : SessionInfo) :
    Plan (SessionInfo × Except Error Cookie.Jar) :=
  if info.data.id?.isSome then pure (info, .ok jar)
  else do
    match ← (SessionId.generate SessionId.octets).run with
    | .error e => pure (info, .error e)
    | .ok id =>
      let info := { info with data := info.data.insert SessionData.idKey (.str id) }
      let saved ← (s.save jar key now info).run
      pure (info, saved)

end SessionStore

end WebSession
