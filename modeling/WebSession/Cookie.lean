import WebSession.Percent
import WebSession.SessionConfig
/-!
# WebSession.Cookie

**Cookies and their texts.**

Design points:

* A name or value may be any text. In a header both are percent-encoded, so that no character
  of theirs can end them early.
* A header is read part by part. A part that is no cookie is dropped, and the others are kept.
-/

namespace WebSession

/-- A cookie that a response sets. -/
structure Cookie where
  name : String
  value : String
  /-- The path below which the cookie is sent. -/
  path : Option String := none
  /-- The domain to which the cookie is sent. -/
  domain : Option String := none
  /-- The number of seconds the cookie lives. -/
  maxAge : Option Nat := none
  /-- The cookie is sent over encrypted connections only. -/
  secure : Bool := false
  /-- The cookie is hidden from scripts. -/
  httpOnly : Bool := false
  deriving DecidableEq

namespace Cookie

/-- The cookie of a session: no age for a session without limit, age zero for one that ends. -/
def ofSession (name value : String) (config : SessionConfig) : Cookie where
  name := name
  value := value
  path := some config.path
  domain := if config.domain.isEmpty then none else some config.domain
  maxAge :=
    if 0 < config.maxAge then some config.maxAge.toNat
    else if config.maxAge < 0 then some 0
    else none
  secure := config.secure
  httpOnly := config.httpOnly

/-- The domain without the dot that may lead it. -/
def bareDomain? (c : Cookie) : Option String :=
  c.domain.map fun d =>
    match d.toList with
    | '.' :: cs => String.ofList cs
    | _ => d

/-! ### Percent-encoding -/

/-- The octets that stand for themselves in a name or value. -/
def isPlain (b : UInt8) : Bool :=
  0x20 < b && b < 0x7f && !("\"<>`#?\x7b\x7d/:;=@[\\]^|%(),".toList.any fun c => c.toNat = b.toNat)

/-- The text of a name or value in a header. -/
def percentEncode (s : String) : String := Percent.encode isPlain s

/-! ### Setting -/

/-- The attributes in the order in which they are written. -/
def attributes (c : Cookie) : List String :=
  (if c.httpOnly then ["HttpOnly"] else [])
    ++ (if c.secure then ["Secure"] else [])
    ++ (c.path.map fun p => "Path=" ++ p).toList
    ++ (c.bareDomain?.map fun d => "Domain=" ++ d).toList
    ++ (c.maxAge.map fun n => "Max-Age=" ++ Nat.repr n).toList

/-- The text of a cookie with its name and value as they are. -/
def plainText (c : Cookie) : String :=
  "; ".intercalate ((c.name ++ "=" ++ c.value) :: c.attributes)

/-- The text of a cookie in a response. -/
def text (c : Cookie) : String :=
  "; ".intercalate ((percentEncode c.name ++ "=" ++ percentEncode c.value) :: c.attributes)

/-- A header cannot hold control characters other than the tab. -/
def isHeaderText (s : String) : Bool :=
  s.toList.all fun c => c = '\t' || (' ' ≤ c && c ≠ '\x7f')

/-! ### Reading a request -/

/-- The characters that a header may have if it is to be read. -/
def isVisible (c : Char) : Bool := c = '\t' || (' ' ≤ c && c ≤ '~')

/-- Blanks around the parts of a header. -/
def isBlank (c : Char) : Bool := c = ' ' || c = '\t'

/-- Drops blanks at both ends. -/
def trim (cs : List Char) : List Char :=
  ((cs.dropWhile isBlank).reverse.dropWhile isBlank).reverse

/-- The text of percent-encoded characters, if it is UTF-8. -/
def decoded? (cs : List Char) : Option String :=
  Bytes.text? (Percent.decode (Bytes.ofText (String.ofList cs)))

/-- The name and value of one part of a header. -/
def pair? (part : List Char) : Option (String × String) :=
  match part.span (· ≠ '=') with
  | (_, []) => none
  | (name, _ :: value) => do
    let name := trim name
    if name.isEmpty then none
    else pure (← decoded? name, ← decoded? (trim value))

/-- Splits characters at every semicolon. -/
def splitParts (cs : List Char) : List (List Char) := cs.splitOnP (· = ';')

/-- The names and values in a header of a request. -/
def parseHeader (header : String) : List (String × String) :=
  if header.toList.all isVisible then (splitParts header.toList).filterMap pair? else []

end Cookie

end WebSession
