import WebSession.SessionFactory
/-!
# WebSession.RequestSessions

**The sessions of one request**: at most one for each session key, loaded when first asked for,
and saved together at the end.

Design points:

* A session key stays with the store it was first loaded from; asking for it in another store is
  an error and changes nothing.
* A loaded session is never loaded again in the same request.
* Saving and initializing visit the sessions one by one, hand the jar on, and collect every
  error: the failure of one session does not stop the others.
* An empty key means the default one, as a missing key does.
-/

namespace WebSession

/-- The cookies and the loaded sessions of a request. -/
structure RequestSessions where
  jar : Cookie.Jar := {}
  /-- The loaded sessions by session key, in the order in which they were loaded. -/
  loaded : List (String × SessionInfo) := []

/-- An operation on the sessions of a request. What it changed stays changed when it fails. -/
abbrev OnSessions := ExceptT Error (StateT RequestSessions Plan)

namespace RequestSessions

/-- The key of a session that is not named. -/
def defaultSessionKey : String := "s"

/-- The key of flash messages that are not named. -/
def defaultFlashKey : String := "_flash"

/-- A key, or the default for a missing or empty one. -/
def keyOr (default : String) (key? : Option String) : String :=
  match key? with
  | some key => if key.isEmpty then default else key
  | none => default

/-- The loaded session with a key. -/
def find? (r : RequestSessions) (key : String) : Option SessionInfo :=
  (r.loaded.find? fun f => f.1 = key).map Prod.snd

/-- Replaces the loaded session with a key. -/
def replace (r : RequestSessions) (key : String) (info : SessionInfo) : RequestSessions :=
  { r with loaded := r.loaded.map fun f => if f.1 = key then (key, info) else f }

/-! ### Loading -/

/-- Runs a plan that neither fails nor changes the sessions. -/
def liftPlan {α : Type} (p : Plan α) : OnSessions α :=
  (StateT.lift p : StateT RequestSessions Plan α)

/-- The session with a key in a store, loaded if it was not yet. -/
def sessionInfo (factory : SessionFactory) (now : Int) (key? store? : Option String) :
    OnSessions SessionInfo := do
  let key := keyOr defaultSessionKey key?
  let name := keyOr SessionFactory.cookieName store?
  match factory.store name with
  | .error e => throw e
  | .ok store =>
    let r ← get
    match r.find? key with
    | some info => if info.store = name then pure info else throw .storeMismatch
    | none =>
      let data ← liftPlan (store.load r.jar key now)
      let info : SessionInfo := { data := data, store := name, config := factory.defaultConfig }
      set { r with loaded := r.loaded ++ [(key, info)] }
      pure info

/-- The data of the session with a key in a store. -/
def session (factory : SessionFactory) (now : Int) (key? store? : Option String) :
    OnSessions SessionData := do
  let info ← sessionInfo factory now key? store?
  pure info.data

/-- Changes the data of the session with a key in a store. -/
def modifySession {α : Type} (factory : SessionFactory) (now : Int) (key? store? : Option String)
    (change : SessionData → α × SessionData) : OnSessions α := do
  let info ← sessionInfo factory now key? store?
  let (result, data) := change info.data
  modify fun r => r.replace (keyOr defaultSessionKey key?) { info with data := data }
  pure result

/-- The configuration of a loaded session. -/
def config (key? : Option String) : OnSessions SessionConfig := do
  match (← get).find? (keyOr defaultSessionKey key?) with
  | some info => pure info.config
  | none => throw .noSession

/-- Changes the configuration of a loaded session. -/
def modifyConfig (key? : Option String) (change : SessionConfig → SessionConfig) :
    OnSessions SessionConfig := do
  let key := keyOr defaultSessionKey key?
  match (← get).find? key with
  | some info =>
    let info := { info with config := change info.config }
    modify fun r => r.replace key info
    pure info.config
  | none => throw .noSession

/-! ### Flash messages -/

/-- Takes the messages under a key out of the data; a value that is no list is one message. -/
def takeFlashes (key : String) (d : SessionData) : Option (List Value) × SessionData :=
  match d.get? key with
  | some (.list messages) => (some messages, d.erase key)
  | some message => (some [message], d.erase key)
  | none => (none, d)

/-- Adds a message behind those under a key; a value that is no list is the first message. -/
def pushFlash (key : String) (message : Value) (d : SessionData) : SessionData :=
  d.insert key (.list (((takeFlashes key d).1.getD []) ++ [message]))

/-- Removes and returns the flash messages of a session. -/
def flashes (factory : SessionFactory) (now : Int) (flash? key? store? : Option String) :
    OnSessions (List Value) := do
  let taken? ← modifySession factory now key? store? (takeFlashes (keyOr defaultFlashKey flash?))
  match taken? with
  | some messages => pure messages
  | none => throw .noFlashes

/-- Adds a flash message to a session. -/
def addFlash (factory : SessionFactory) (now : Int) (message : Value)
    (flash? key? store? : Option String) : OnSessions Unit :=
  modifySession factory now key? store? fun d =>
    ((), pushFlash (keyOr defaultFlashKey flash?) message d)

/-! ### Saving and initializing -/

/-- Saves sessions one after the other: the jar with their cookies and the errors. -/
def saveAll (factory : SessionFactory) (now : Int) :
    List (String × SessionInfo) → Cookie.Jar → Plan (Cookie.Jar × List Error)
  | [], jar => pure (jar, [])
  | (key, info) :: more, jar => do
    let saved ← match factory.store info.store with
      | .ok store => (store.save jar key now info).run
      | .error e => pure (.error e)
    match saved with
    | .ok jar => saveAll factory now more jar
    | .error e =>
      let (jar, errors) ← saveAll factory now more jar
      pure (jar, e :: errors)

/-- Initializes sessions one after the other: the sessions and the jar afterwards and the
errors. -/
def initAll (factory : SessionFactory) (now : Int) :
    List (String × SessionInfo) → Cookie.Jar →
      Plan (List (String × SessionInfo) × Cookie.Jar × List Error)
  | [], jar => pure ([], jar, [])
  | (key, info) :: more, jar => do
    let (info, result) ← match factory.store info.store with
      | .ok store => store.init jar key now info
      | .error e => pure (info, .error e)
    let (jar, failed) := match result with
      | .ok jar => (jar, [])
      | .error e => (jar, [e])
    let (more, jar, errors) ← initAll factory now more jar
    pure ((key, info) :: more, jar, failed ++ errors)

/-- Saves all sessions of the request: the errors. -/
def save (factory : SessionFactory) (now : Int) (r : RequestSessions) :
    Plan (RequestSessions × List Error) := do
  let (jar, errors) ← saveAll factory now r.loaded r.jar
  pure ({ r with jar := jar }, errors)

/-- Initializes all sessions of the request: the errors. -/
def init (factory : SessionFactory) (now : Int) (r : RequestSessions) :
    Plan (RequestSessions × List Error) := do
  let (loaded, jar, errors) ← initAll factory now r.loaded r.jar
  pure ({ loaded := loaded, jar := jar }, errors)

end RequestSessions

end WebSession
