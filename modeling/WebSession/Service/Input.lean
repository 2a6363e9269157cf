import WebSession.Http
import WebSession.Http.Form
import WebSession.Http.MediaType
import WebSession.Json.Reader
/-!
# WebSession.Service.Input

**What requests bring**: the name of a store in the query, and a JSON body.

Design points:

* A body is read only as far as its shape needs. Whatever follows the first value is ignored,
  and the first thing that is wrong decides: a text of another shape is refused for its shape
  even where it breaks off later.
* The fields of an update are those of any object. A message is an object with one field that
  counts, or an array of one text; other fields are skipped without being evaluated.
-/

namespace WebSession.Service.Input

open WebSession.Http

/-! ### The query -/

/-- The store that a query names, which it may do once. -/
def storeName? (query : String) : Except Refusal (Option String) :=
  match Form.valuesOf "store" query with
  | [] => .ok none
  | [name] => .ok (some name)
  | _ => .error .query

/-! ### Messages -/

/-- The field that holds a message. -/
def messageKey : String := "message"

/-- Drops the colon behind a key. -/
def colon? (b : Bytes) : Except Json.Fault Bytes :=
  match Json.skipBlank b with
  | 0x3a :: rest => .ok rest
  | _ => .error .malformed

/-- Reads a key off the front, without the colon behind it. -/
def key? (bound : Nat) (b : Bytes) : Except Json.Fault (String × Bytes) :=
  match Json.skipBlank b with
  | 0x22 :: rest => Json.orMalformed (Json.quoted? bound rest)
  | _ => .error .malformed

/-- Reads a field, behind a message that was found before. -/
def field? (bound : Nat) (found? : Option String) (b : Bytes) :
    Except Json.Fault (Option String × Bytes) := do
  let (key, rest) ← key? bound b
  if key = messageKey then
    if found?.isSome then .error .shape
    else
      let (message, rest) ← Json.text? bound (← colon? rest)
      pure (some message, rest)
  else
    let rest ← Json.orMalformed (Json.skip? bound (← colon? rest))
    pure (found?, rest)

/-- Reads the fields of a message up to the closing brace. -/
def fieldsFrom? (texts : Nat) : Nat → Option String → Bytes → Except Json.Fault String
  | 0, _, _ => .error .malformed
  | bound + 1, found?, b => do
    let (found?, rest) ← field? texts found? b
    match Json.skipBlank rest with
    | 0x2c :: rest => fieldsFrom? texts bound found? rest
    | 0x7d :: _ =>
      match found? with
      | some message => .ok message
      | none => .error .shape
    | _ => .error .malformed

/-- Reads the one item of a message that is an array. -/
def item? (bound : Nat) (b : Bytes) : Except Json.Fault String := do
  let (message, rest) ← Json.text? bound b
  match Json.skipBlank rest with
  | 0x5d :: _ => .ok message
  | _ => .error .malformed

/-- Reads a message. -/
def message? (b : Bytes) : Except Json.Fault String :=
  let bound := Json.roundsFor b
  match Json.skipBlank b with
  | 0x7b :: rest =>
    match Json.skipBlank rest with
    | 0x7d :: _ => .error .shape
    | _ => fieldsFrom? bound bound none rest
  | 0x5b :: rest =>
    match Json.skipBlank rest with
    | 0x5d :: _ => .error .shape
    | _ => item? bound rest
  | rest => .error (Json.otherShape rest)

/-! ### Bodies -/

/-- The greatest size of a body. -/
def maxBody : Nat := 2 * 1024 * 1024

/-- Whether a header names a type of JSON texts. -/
def isJsonType (contentType? : Option String) : Bool :=
  match contentType?.bind MediaType.ofText? with
  | some t => t.isJson
  | none => false

/-- The body of a request that is to be JSON. -/
def jsonBody (request : Request) : Except Refusal Bytes :=
  if !isJsonType request.contentType? then .error .mediaType
  else if maxBody < request.body.length then .error .size
  else .ok request.body

/-- The refusal of a body with a fault. -/
def refusalOf : Json.Fault → Refusal
  | .malformed => .malformed
  | .shape => .shape

/-- The fields that a request brings. -/
def fields (request : Request) : Except Refusal (Dict Json) := do
  (Json.readFields? (← jsonBody request)).map Prod.fst |>.mapError refusalOf

/-- The message that a request brings. -/
def message (request : Request) : Except Refusal String := do
  (message? (← jsonBody request)).mapError refusalOf

end WebSession.Service.Input
