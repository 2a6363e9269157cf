import WebSession.Binary64
import WebSession.Fields
/-!
# WebSession.Json

**JSON values.**

Design points:

* A number is an integer or a floating-point number, as it was written, and the two are
  different values even where they are equal as numbers.
* A floating-point number carries the proof that it is finite: JSON has no text for the
  others.
* An object is a `Dict`: each key once, no order of its own.
-/

namespace WebSession

/-- A JSON value. -/
inductive Json where
  /-- No value. -/
  | null
  /-- A truth value. -/
  | bool (b : Bool)
  /-- A number written as an integer. -/
  | int (n : Int)
  /-- Any other number. -/
  | float (x : Binary64) (finite : x.isFinite = true)
  /-- A text. -/
  | str (s : String)
  /-- A list of values. -/
  | array (items : List Json)
  /-- A map from text keys to values. -/
  | object (fields : Fields Json none)
  deriving Inhabited

namespace Json

/-- The object with the given fields, the later of two equal keys winning. -/
def ofFields (fields : List (String × Json)) : Json := .object (Dict.ofList fields)

mutual

/-- How many arrays and objects enclose the innermost value, itself included. -/
def height : Json → Nat
  | .array items => heightOfItems items + 1
  | .object fields => heightOfFields fields + 1
  | _ => 0
termination_by structural j => j

/-- The greatest height among array items. -/
def heightOfItems : List Json → Nat
  | [] => 0
  | j :: rest => max j.height (heightOfItems rest)
termination_by structural items => items

/-- The greatest height among the values of an object. -/
def heightOfFields {lo : Option String} : Fields Json lo → Nat
  | .nil => 0
  | .cons _ _ j rest => max j.height (heightOfFields rest)
termination_by structural fields => fields

end

end Json

end WebSession
