import WebSession.Bytes.Lossy
import WebSession.Percent
/-!
# WebSession.Http.Form

**Form-encoded queries**: names and values, joined by equals signs and ampersands.

Every text is a query. A plus sign is a blank, octets may be percent-encoded, and what is no
UTF-8 is replaced. Empty parts are skipped; a part without an equals sign is a name with an
empty value.
-/

namespace WebSession.Http.Form

/-- The text of a name or value. -/
def decoded (cs : List Char) : String :=
  let blanks := cs.map fun c => if c = '+' then ' ' else c
  Bytes.lossyText (Percent.decode (Bytes.ofText (String.ofList blanks)))

/-- The name and the value of a part. -/
def pair (part : List Char) : String × String :=
  let (name, value) := part.span (· ≠ '=')
  (decoded name, decoded (value.drop 1))

/-- The names and values of a query. -/
def pairs (query : String) : List (String × String) :=
  ((query.toList.splitOnP (· = '&')).filter fun part => !part.isEmpty).map pair

/-- All values of a name. -/
def valuesOf (name query : String) : List String :=
  ((pairs query).filter fun p => p.1 = name).map Prod.snd

end WebSession.Http.Form
