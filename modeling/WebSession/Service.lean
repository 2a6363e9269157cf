import WebSession.RequestSessions
import WebSession.Service.Failure
import WebSession.Service.Input
import WebSession.Value.Json
/-!
# WebSession.Service

**A web service with sessions**: it shows and changes the values of the client's session, gives
the session an id, keeps flash messages, and logs out.

Design points:

* A request becomes an `Action`, or it is answered at once. Only actions touch sessions.
* An action works on the sessions of its request, which are loaded when it asks for them. After
  it, whether it failed or not, all loaded sessions are saved. What saving cannot do is not
  told to the client.
* All actions use one session key. The query chooses the store.
* The key of the session id is reserved: no client can choose an id.
-/

namespace WebSession.Service

open WebSession.Http

/-- The key of the client's session. -/
def sessionKey : String := "s"

/-! ### Actions -/

/-- What a client can ask for, with the name of a store. -/
inductive Action where
  /-- Tell that the service is there. -/
  | live
  /-- Show the values of the session. -/
  | showValues (store? : Option String)
  /-- Set values of the session and show all. -/
  | setValues (store? : Option String) (fields : Dict Json)
  /-- Give the session an id and show it. -/
  | init (store? : Option String)
  /-- Show and remove the flash messages. -/
  | takeFlashes (store? : Option String)
  /-- Add a flash message. -/
  | addFlash (store? : Option String) (message : String)
  /-- End the session. -/
  | logout (store? : Option String)

/-- What the service does at a path. -/
inductive Endpoint where
  | live
  | showValues
  | setValues
  | init
  | takeFlashes
  | addFlash
  | logout
  deriving DecidableEq

/-- What a path has for showing and for changing. -/
structure Route where
  get? : Option Endpoint := none
  post? : Option Endpoint := none

/-- The route of a path. -/
def Route.ofPath? (path : String) : Option Route :=
  match path with
  | "/live" => some { get? := some .live }
  | "/session" => some { get? := some .showValues, post? := some .setValues }
  | "/session/init" => some { post? := some .init }
  | "/flash" => some { get? := some .takeFlashes, post? := some .addFlash }
  | "/logout" => some { post? := some .logout }
  | _ => none

/-- The endpoint for a method. -/
def Route.endpoint? (r : Route) : Method → Option Endpoint
  | .get | .head => r.get?
  | .post => r.post?
  | .other _ => none

/-- The methods that a route knows. -/
def Route.allow (r : Route) : List String :=
  (if r.get?.isSome then ["GET", "HEAD"] else []) ++ (if r.post?.isSome then ["POST"] else [])

/-- Reads what an endpoint needs from a request, the query before the body. -/
def Action.read (request : Request) : Endpoint → Except Refusal Action
  | .live => pure .live
  | .showValues => return .showValues (← Input.storeName? request.query)
  | .setValues => do
    let store? ← Input.storeName? request.query
    pure (.setValues store? (← Input.fields request))
  | .init => return .init (← Input.storeName? request.query)
  | .takeFlashes => return .takeFlashes (← Input.storeName? request.query)
  | .addFlash => do
    let store? ← Input.storeName? request.query
    pure (.addFlash store? (← Input.message request))
  | .logout => return .logout (← Input.storeName? request.query)

/-- The action that a request asks for, or the response to one that asks for none. -/
def Action.ofRequest (request : Request) : Except Response Action :=
  match Route.ofPath? request.path with
  | none => .error { status := 404 }
  | some route =>
    match route.endpoint? request.method with
    | none => .error { status := 405, allow := route.allow }
    | some endpoint =>
      match Action.read request endpoint with
      | .ok action => .ok action
      | .error r => .error { status := r.status, body := .refusal r }

/-! ### Performing -/

/-- An action at work on the sessions of its request. -/
abbrev Performing := ExceptT Failure (StateT RequestSessions Plan)

/-- Does something with sessions. -/
def onSessions {α : Type} (p : OnSessions α) : Performing α := ExceptT.mk do
  match ← p.run with
  | .ok a => pure (.ok a)
  | .error e => pure (.error (.ofError e))

/-- Sets values of a session. -/
def setAll (fields : Dict Json) (d : SessionData) : SessionData :=
  fields.toList.foldl (fun d f => d.insert f.1 (Value.ofJson f.2)) d

/-- The JSON object with one field. -/
def single (key : String) (j : Json) : Json := Json.ofFields [(key, j)]

/-- What is shown of a session. -/
def valuesBody (d : SessionData) : Body := .json (single "values" d.toJson)

/-- What remains of a session that ends: its id, so that its record can be found. -/
def ended (d : SessionData) : SessionData := d.idOnly?.getD .empty

/-- Initializes all loaded sessions; the first error is told. -/
def initAll (factory : SessionFactory) (now : Int) : Performing Unit := do
  let (sessions, errors) ← ExceptT.lift (StateT.lift ((← get).init factory now))
  set sessions
  match errors with
  | [] => pure ()
  | e :: _ => throw (.ofError e)

/-- Performs an action. -/
def perform (factory : SessionFactory) (now : Int) : Action → Performing Body
  | .live => pure (.text "OK")
  | .showValues store? => do
    let d ← onSessions (RequestSessions.session factory now (some sessionKey) store?)
    pure (valuesBody d)
  | .setValues store? fields => do
    if fields.contains SessionData.idKey then
      throw (.badRequest "Reserved key" SessionData.idKey)
    let d ← onSessions (RequestSessions.modifySession factory now (some sessionKey) store?
      fun d => (setAll fields d, setAll fields d))
    pure (valuesBody d)
  | .init store? => do
    let _ ← onSessions (RequestSessions.session factory now (some sessionKey) store?)
    initAll factory now
    let d ← onSessions (RequestSessions.session factory now (some sessionKey) store?)
    match d.id? with
    | some id => pure (.json (single "session_id" (.str id)))
    | none => throw .noSession
  | .takeFlashes store? => do
    let messages ← onSessions
      (RequestSessions.flashes factory now none (some sessionKey) store?)
    pure (.json (single "flashes" (.array (messages.map Value.toJson))))
  | .addFlash store? message => do
    onSessions
      (RequestSessions.addFlash factory now (.str message) none (some sessionKey) store?)
    pure (.text "")
  | .logout store? => do
    onSessions (RequestSessions.modifySession factory now (some sessionKey) store?
      fun d => ((), ended d))
    let _ ← onSessions (RequestSessions.modifyConfig (some sessionKey)
      fun config => { config with maxAge := -1 })
    pure (.text "")

/-! ### Responding -/

/-- The response to an action with this result. -/
def reply : Except Failure Body → Response
  | .ok body => { status := 200, body := body }
  | .error failure => { status := failure.status, body := .text failure.publicText }

/-- Performs an action on the sessions of a request and saves them. -/
def act (factory : SessionFactory) (now : Int) (jar : Cookie.Jar) (action : Action) :
    Plan Response := do
  let (result, sessions) ← (perform factory now action).run.run { jar := jar }
  let (sessions, _) ← sessions.save factory now
  pure { reply result with cookies := sessions.jar.headers }

/-- A response without its body, if the request does not want one. -/
def withoutBody (method : Method) (r : Response) : Response :=
  if method = .head then { r with body := .text "" } else r

/-- Responds to a request. -/
def respond (factory : SessionFactory) (now : Int) (request : Request) : Plan Response := do
  let response ← match Action.ofRequest request with
    | .error response => pure response
    | .ok action => act factory now (Cookie.Jar.ofHeaders request.cookies) action
  pure (withoutBody request.method response)

end WebSession.Service
