import WebSession.Json.Text
/-!
# WebSession.Http

**Requests and responses**, as far as sessions depend on them.

Design points:

* A request names its path and its query as they were sent. Nothing is decoded in a path: two
  paths are the same only if they are the same text.
* A refusal is what the reader of requests says before anything is done. It is kept apart from
  what the service answers, though both end as a text.
-/

namespace WebSession.Http

/-! ### Requests -/

/-- A method. -/
inductive Method where
  | get
  | head
  | post
  | other (name : String)
  deriving DecidableEq

/-- The method with a name. -/
def Method.ofName (name : String) : Method :=
  match name with
  | "GET" => .get
  | "HEAD" => .head
  | "POST" => .post
  | name => .other name

/-- A request. -/
structure Request where
  method : Method := .get
  path : String
  /-- The query behind the path, without its question mark. -/
  query : String := ""
  cookies : List String := []
  /-- The header that names the type of the body. -/
  contentType? : Option String := none
  body : Bytes := []

/-- What follows the scheme and the two slashes of a target that has them. -/
def behindScheme? : List Char → Option (List Char)
  | ':' :: '/' :: '/' :: cs => some cs
  | '/' :: _ => none
  | _ :: cs => behindScheme? cs
  | [] => none

/-- The path, the query and the fragment of a target, which may name a scheme and a host in
front of them. -/
def withoutHost (target : List Char) : List Char :=
  match behindScheme? target with
  | some cs => cs.dropWhile fun c => c ≠ '/' && c ≠ '?' && c ≠ '#'
  | none => target

/-- The path and the query of a target; a fragment is part of neither. An empty path is the
root. -/
def splitTarget (target : String) : String × String :=
  let (path, query) := ((withoutHost target.toList).takeWhile (· ≠ '#')).span (· ≠ '?')
  (if path.isEmpty then "/" else String.ofList path, String.ofList (query.drop 1))

/-! ### Responses -/

/-- Why a request is refused before anything is done. -/
inductive Refusal where
  /-- The query names something twice. -/
  | query
  /-- The body is of another type than JSON. -/
  | mediaType
  /-- The body is too large. -/
  | size
  /-- The body is no JSON text. -/
  | malformed
  /-- The body is JSON of another shape. -/
  | shape
  deriving DecidableEq

/-- The status that tells a refusal. -/
def Refusal.status : Refusal → Nat
  | .query => 400
  | .mediaType => 415
  | .size => 413
  | .malformed => 400
  | .shape => 422

/-- The wording of a refusal. -/
def Refusal.message : Refusal → String
  | .query => "The query cannot be read"
  | .mediaType => "The body has to be JSON"
  | .size => "The body is too large"
  | .malformed => "The body is not a JSON text"
  | .shape => "The body has another shape than expected"

/-- What a response says. -/
inductive Body where
  | text (s : String)
  | json (j : Json)
  | refusal (r : Refusal)

/-- The text of a body. -/
def Body.render : Body → String
  | .text s => s
  | .json j => j.text
  | .refusal r => r.message

/-- A response. -/
structure Response where
  status : Nat
  body : Body := .text ""
  /-- The methods that the path knows, if the method of the request is none of them. -/
  allow : List String := []
  cookies : List String := []

end WebSession.Http
