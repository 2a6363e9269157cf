import WebSession.Binary64
import WebSession.Bytes
import WebSession.Fields
/-!
# WebSession.Value

**Session values**: what an application keeps under a key.

Design points:

* Octets and text are different values, and so are a whole number and a floating-point
  number that happens to be whole: a session gives back what was put in.
* A map value is a `Dict`, so it has each key once and no order of its own.
* `Value.height` counts the lists, maps and octet strings around the innermost value,
  which is what the serialized form bounds.
-/

namespace WebSession

/-- A dynamically typed value. -/
inductive Value where
  | nil
  | int (n : Int64)
  | bool (b : Bool)
  | str (s : String)
  | float (x : Binary64)
  | bytes (b : Bytes)
  | list (items : List Value)
  /-- A map from text keys to values. -/
  | map (fields : Fields Value none)
  deriving Inhabited

namespace Value

/-- The text of a text value. -/
def text? : Value → Option String
  | .str s => some s
  | _ => none

/-- The number of a whole number. -/
def int? : Value → Option Int64
  | .int n => some n
  | _ => none

/-- The items of a list. -/
def list? : Value → Option (List Value)
  | .list items => some items
  | _ => none

/-! ### Height -/

mutual

/-- How many lists, maps and octet strings enclose the innermost value, itself included. -/
def height : Value → Nat
  | .bytes _ => 1
  | .list items => heightOfItems items + 1
  | .map fields => heightOfFields fields + 1
  | _ => 0
termination_by structural v => v

/-- The greatest height among list items. -/
def heightOfItems : List Value → Nat
  | [] => 0
  | v :: rest => max v.height (heightOfItems rest)
termination_by structural items => items

/-- The greatest height among the values of a map. -/
def heightOfFields {lo : Option String} : Fields Value lo → Nat
  | .nil => 0
  | .cons _ _ v rest => max v.height (heightOfFields rest)
termination_by structural fields => fields

end

/-- The items of a list are no higher than the greatest height among them. -/
theorem heightOfItems_le_iff {items : List Value} {n : Nat} :
    heightOfItems items ≤ n ↔ ∀ v ∈ items, v.height ≤ n := by
  induction items with
  | nil => simp [heightOfItems]
  | cons v rest ih => rw [heightOfItems, Nat.max_le, ih, List.forall_mem_cons]

/-- The values of a map are no higher than the greatest height among them. -/
theorem heightOfFields_le_iff {lo : Option String} {fields : Fields Value lo} {n : Nat} :
    heightOfFields fields ≤ n ↔ ∀ f ∈ fields.toList, f.2.height ≤ n := by
  induction fields with
  | nil => simp [heightOfFields]
  | cons key above v rest ih =>
    rw [heightOfFields, Nat.max_le, ih, Fields.toList_cons, List.forall_mem_cons]

/-! ### Comparison -/

mutual

/-- Equality in which floating-point numbers are compared as numbers. -/
def same : Value → Value → Bool
  | .nil, .nil => true
  | .int a, .int b => a == b
  | .bool a, .bool b => a == b
  | .str a, .str b => a == b
  | .float a, .float b => a.same b
  | .bytes a, .bytes b => a == b
  | .list a, .list b => sameItems a b
  | .map a, .map b => sameFields a b
  | _, _ => false
termination_by structural v => v

/-- Item by item comparison of two lists. -/
def sameItems : List Value → List Value → Bool
  | [], [] => true
  | v :: rest, w :: rest' => v.same w && sameItems rest rest'
  | _, _ => false
termination_by structural items => items

/-- Field by field comparison of two maps. -/
def sameFields {lo lo' : Option String} : Fields Value lo → Fields Value lo' → Bool
  | .nil, .nil => true
  | .cons key _ v rest, .cons key' _ w rest' =>
    key == key' && v.same w && sameFields rest rest'
  | _, _ => false
termination_by structural fields => fields

end

end Value

end WebSession
