import WebSession.Proofs.Service

/-!
# WebSession.Proofs.Service.SessionMap

**The service as a map**: how one client would be answered if all there was were a map from keys to
values, without cookies, encoders, records and clocks (`SessionMap.step`).

The machine is what the service is measured by. It knows requests and values, and it is given a
fresh id with every request, of which it uses one at most.
-/

namespace WebSession.Service

open Http

/-- The session of one client. -/
abbrev SessionMap := Dict Value

/-- What a client is told. -/
structure Answer where
  status : Nat
  body : Body

/-- What a response tells. -/
def Answer.ofResponse (r : Response) : Answer := ⟨r.status, r.body⟩

/-- The answer to a request with a method; one of them does not want the body. -/
def Answer.forMethod (method : Method) (a : Answer) : Answer :=
  if method = .head then { a with body := .text "" } else a

namespace SessionMap

/-- The key of the messages. -/
def flashKey : String := "_flash"

/-- The id: a text under its key. -/
def id? (m : SessionMap) : Option String :=
  match m.get? SessionData.idKey with
  | some (.str id) => some id
  | _ => none

/-- The map that keeps the id and nothing else. -/
def idOnly (m : SessionMap) : SessionMap :=
  match m.id? with
  | some id => Dict.empty.set SessionData.idKey (.str id)
  | none => .empty

/-- The fields of an object become values, in the place of those that were there. -/
def override (m : SessionMap) (fields : Dict Json) : SessionMap :=
  fields.toList.foldl (fun m f => m.set f.1 (Value.ofJson f.2)) m

/-- The messages of a value: the items of a list, and any other value is one message. -/
def messagesOf : Value → List Value
  | .list messages => messages
  | v => [v]

/-- The messages that are kept. -/
def messages (m : SessionMap) : List Value := ((m.get? flashKey).map messagesOf).getD []

/-- A JSON object with one field. -/
def object (key : String) (j : Json) : Body := .json (.object (Dict.empty.set key j))

/-- All values. -/
def shown (m : SessionMap) : Body := object "values" (.object (m.map Value.toJson))

/-- Answers what is asked for. -/
def step (fresh : String) (m : SessionMap) : Action → Answer × SessionMap
  | .live => (⟨200, .text "OK"⟩, m)
  | .showValues _ => (⟨200, m.shown⟩, m)
  | .setValues _ fields =>
    if fields.contains SessionData.idKey then (⟨400, .text "Reserved key"⟩, m)
    else (⟨200, (m.override fields).shown⟩, m.override fields)
  | .init _ =>
    match m.id? with
    | some id => (⟨200, object "session_id" (.str id)⟩, m)
    | none => (⟨200, object "session_id" (.str fresh)⟩, m.set SessionData.idKey (.str fresh))
  | .takeFlashes _ =>
    match m.get? flashKey with
    | some v =>
      (⟨200, object "flashes" (.array ((messagesOf v).map Value.toJson))⟩, m.erase flashKey)
    | none => (⟨404, .text "No flashes"⟩, m)
  | .addFlash _ message =>
    (⟨200, .text ""⟩, m.set flashKey (.list (m.messages ++ [.str message])))
  | .logout _ => (⟨200, .text ""⟩, m.idOnly)

/-- Answers a request. One that asks for nothing is refused and changes nothing. -/
def answer (fresh : String) (m : SessionMap) (request : Request) : Answer × SessionMap :=
  match Action.ofRequest request with
  | .error response => ((Answer.ofResponse response).forMethod request.method, m)
  | .ok action =>
    ((m.step fresh action).1.forMethod request.method, (m.step fresh action).2)

theorem answer_of_error {request : Request} {response : Response}
    (h : Action.ofRequest request = .error response) (fresh : String) (m : SessionMap) :
    m.answer fresh request = ((Answer.ofResponse response).forMethod request.method, m) := by
  rw [answer, h]

theorem answer_of_ok {request : Request} {action : Action}
    (h : Action.ofRequest request = .ok action) (fresh : String) (m : SessionMap) :
    m.answer fresh request =
      ((m.step fresh action).1.forMethod request.method, (m.step fresh action).2) := by
  rw [answer, h]

/-- Answers one request after the other: the answers, each with the map after it. -/
def run : SessionMap → List (String × Request) → List (Answer × SessionMap)
  | _, [] => []
  | m, (fresh, request) :: more => m.answer fresh request :: run (m.answer fresh request).2 more

end SessionMap

end WebSession.Service
