import WebSession.Json
import WebSession.Range
import WebSession.SessionData
/-!
# WebSession.Value.Json

**Session values and JSON values.**

Design points:

* A session value becomes JSON with two losses: octets become a list of numbers, and a
  floating-point number that is not finite becomes `null`.
* A JSON value becomes a session value with one loss: an integer beyond sixty-four signed
  bits becomes the nearest floating-point number.
-/

namespace WebSession

namespace Value

/-- The session value of a JSON value. -/
def ofJson : Json → Value
  | .null => .nil
  | .bool b => .bool b
  | .int n => if Range.isInt64 n then .int (Int64.ofInt n) else .float (Binary64.ofInt n)
  | .float x _ => .float x
  | .str s => .str s
  | .array items => .list (items.map ofJson)
  | .object fields => .map (ofJsonFields fields)
where
  /-- The session values of an object's fields. -/
  ofJsonFields {lo : Option String} : Fields Json lo → Fields Value lo
    | .nil => .nil
    | .cons key above j rest => .cons key above (ofJson j) (ofJsonFields rest)

/-- The JSON value of a session value. -/
def toJson : Value → Json
  | .nil => .null
  | .int n => .int n.toInt
  | .bool b => .bool b
  | .str s => .str s
  | .float x => if h : x.isFinite = true then .float x h else .null
  | .bytes b => .array (b.map fun o => .int o.toNat)
  | .list items => .array (items.map toJson)
  | .map fields => .object (toJsonFields fields)
where
  /-- The JSON values of a map's fields. -/
  toJsonFields {lo : Option String} : Fields Value lo → Fields Json lo
    | .nil => .nil
    | .cons key above v rest => .cons key above (toJson v) (toJsonFields rest)

end Value

/-- The JSON object of a session. -/
def SessionData.toJson (d : SessionData) : Json := .object (Value.toJson.toJsonFields d.values)

end WebSession
