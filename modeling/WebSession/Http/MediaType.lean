import WebSession.Bytes
/-!
# WebSession.Http.MediaType

**The media types of bodies**: a type, a subtype that may have a suffix, and parameters.

Design points:

* Parameters are read one character at a time by a small machine. They are checked for their
  form and then forgotten, since nothing depends on them.
* A quoted value has at least one character and ends at the next quote; there are no escapes.
* Type, subtype and suffix are compared without regard to case.
-/

namespace WebSession.Http

/-- A media type without its parameters, in lower case. -/
structure MediaType where
  /-- The type in front of the slash. -/
  type : String
  /-- The subtype up to its last plus sign. -/
  subtype : String
  /-- What follows the last plus sign of the subtype. -/
  suffix? : Option String
  deriving DecidableEq

namespace MediaType

/-- The characters of names. -/
def isToken (c : Char) : Bool :=
  ('0' ≤ c && c ≤ '9') || ('A' ≤ c && c ≤ 'Z') || ('a' ≤ c && c ≤ 'z')
    || "!#$%&'*+-.^_`|~".toList.contains c

/-- The characters between quotes. -/
def isQuotable (c : Char) : Bool := ' ' ≤ c && c ≤ '~'

/-! ### Parameters -/

/-- Where reading parameters stands. -/
inductive Reading where
  | start
  | name
  | valueStart
  | value
  | quotedStart
  | quoted
  | closed
  deriving DecidableEq

namespace Reading

/-- Takes a character. -/
def step : Reading → Char → Option Reading
  | .start, c => if c = ' ' then some .start else if isToken c then some .name else none
  | .name, c => if c = '=' then some .valueStart else if isToken c then some .name else none
  | .valueStart, c =>
    if c = '"' then some .quotedStart else if isToken c then some .value else none
  | .value, c => if c = ';' then some .start else if isToken c then some .value else none
  | .quotedStart, c => if isQuotable c then some .quoted else none
  | .quoted, c => if c = '"' then some .closed else if isQuotable c then some .quoted else none
  | .closed, c => if c = ';' then some .start else if c = ' ' then some .closed else none

/-- Whether the parameters may end here. -/
def mayEnd : Reading → Bool
  | .start | .valueStart | .value | .closed => true
  | .name | .quotedStart | .quoted => false

end Reading

/-- Whether characters are parameters. -/
def areParameters (cs : List Char) : Bool :=
  match cs.foldlM Reading.step .start with
  | some r => r.mayEnd
  | none => false

/-! ### Types -/

/-- Splits a subtype at its last plus sign, unless that is its first character. -/
def splitSuffix (cs : List Char) : List Char × Option (List Char) :=
  match cs.reverse.span (· ≠ '+') with
  | (suffix, _ :: subtype) =>
    if subtype.isEmpty then (cs, none) else (subtype.reverse, some suffix.reverse)
  | (_, []) => (cs, none)

/-- A text in lower case. -/
def lowerText (cs : List Char) : String := String.ofList (cs.map Char.toLower)

/-- The media type that names make. -/
def ofNames (type subtype : List Char) : MediaType :=
  let (subtype, suffix?) := splitSuffix subtype
  ⟨lowerText type, lowerText subtype, suffix?.map lowerText⟩

/-- Reads a media type. -/
def ofText? (s : String) : Option MediaType :=
  match s.toList.span isToken with
  | ([], _) => none
  | (type, '/' :: rest) =>
    match rest.span isToken with
    | (subtype, []) => some (ofNames type subtype)
    | ([], _ :: _) => none
    | (subtype, ';' :: parameters) =>
      if areParameters parameters then some (ofNames type subtype) else none
    | _ => none
  | _ => none

/-- Whether the type is one of JSON texts. -/
def isJson (t : MediaType) : Bool :=
  t.type = "application" && (t.subtype = "json" || t.suffix? = some "json")

end MediaType

end WebSession.Http
