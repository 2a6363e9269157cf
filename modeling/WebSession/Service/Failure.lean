import WebSession.Error
/-!
# WebSession.Service.Failure

**How the service tells that it failed.**

Each failure has a status and a public text for the client, and a description with all details
for the operator. Details never reach the client.
-/

namespace WebSession.Service

/-- Why an action of the service failed. -/
inductive Failure where
  /-- The client asked for something that cannot be. -/
  | badRequest (reason details : String)
  /-- The service cannot do its work. -/
  | internal (details : String)
  /-- The client has no session. -/
  | noSession
  /-- What the client asked for is not there. -/
  | notFound (what : String)
  /-- Something outside the service failed. -/
  | other (cause : String)
  deriving DecidableEq

namespace Failure

/-- The failure that an error of a session means. -/
def ofError (e : Error) : Failure :=
  match e with
  | .noSession | .notInitialized => .noSession
  | .noFlashes => .notFound "No flashes"
  | .noStore => .badRequest "Unknown store" e.message
  | .storeMismatch | .badSessionId => .badRequest "Wrong session" e.message
  | .other cause => .other cause
  | e => .internal e.message

/-- The failure of an action that is given no sessions to act on. -/
def noSessions : Failure := .internal "session middleware not configured"

/-- The status that tells a failure. -/
def status : Failure → Nat
  | .badRequest .. => 400
  | .internal _ => 500
  | .noSession => 401
  | .notFound _ => 404
  | .other _ => 500

/-- The text that the client gets. -/
def publicText : Failure → String
  | .badRequest reason _ => reason
  | .internal _ => "Internal Server Error"
  | .noSession => "No session"
  | .notFound what => what
  | .other _ => "Internal Server Error"

/-- The text that the operator gets. -/
def description : Failure → String
  | .badRequest reason details => "bad request: " ++ reason ++ ", details: " ++ details
  | .internal details => "Server error: " ++ details ++ "`"
  | .noSession => "No session`"
  | .notFound what => "Not found: " ++ what ++ "`"
  | .other cause => cause

end Failure

end WebSession.Service
