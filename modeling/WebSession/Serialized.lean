import WebSession.Error
import WebSession.MessagePack
import WebSession.Range
import WebSession.SessionData
/-!
# WebSession.Serialized

**The serialized form of a session.**

A session is a map from its keys to values. A value is a map of one pair, the name of its
kind with its content, except that the value `nil` is its name alone.

Design points:

* An octet string is written as a list of small numbers, so it is one level of nesting.
* Writing puts the fields of a session in one order and reading takes them in any.
* Writing knows no limit. Reading follows at most `maxHeight` levels, counting the session
  itself, every list, every map and every octet string written as a list; the pairs that
  name a kind do not count.
* Reading takes the session off the front and ignores what follows it.
-/

namespace WebSession

open MessagePack

/-! ### Kinds -/

/-- The kind of a value. -/
inductive Kind where
  | nil | int | bool | str | float | bytes | list | map
  deriving DecidableEq

namespace Kind

/-- The kinds in the order by which their numbers name them. -/
def all : List Kind := [.nil, .int, .bool, .str, .float, .bytes, .list, .map]

/-- The name of a kind. -/
def name : Kind → String
  | .nil => "Nil"
  | .int => "Int"
  | .bool => "Bool"
  | .str => "Str"
  | .float => "Float"
  | .bytes => "Bytes"
  | .list => "List"
  | .map => "Map"

/-- The kind with a name. -/
def ofName? (s : String) : Option Kind := all.find? fun k => k.name = s

/-- Reads a kind, which is named by a text or by its number in an unsigned form. -/
def after? (head : Head) (rest : Bytes) : Option (Kind × Bytes) :=
  match head with
  | .unsigned n => all[n]?.map fun k => (k, rest)
  | head => do
    let (s, rest) ← textAfter? head rest
    let k ← ofName? s
    pure (k, rest)

end Kind

/-! ### Writing -/

namespace Value

/-- A value of a kind with its content. -/
def tagged (k : Kind) (content : Bytes) : Bytes :=
  (Head.map 1).write ++ writeText k.name ++ content

/-- The serialized form of a value. -/
def write : Value → Bytes
  | .nil => writeText Kind.nil.name
  | .int n => tagged .int (Head.ofInt n.toInt).write
  | .bool b => tagged .bool (Head.bool b).write
  | .str s => tagged .str (writeText s)
  | .float x => tagged .float (Head.float64 x.bits.toNat).write
  | .bytes b =>
    tagged .bytes ((Head.array b.length).write ++ b.flatMap fun x => (Head.unsigned x.toNat).write)
  | .list items => tagged .list ((Head.array items.length).write ++ items.flatMap write)
  | .map fields =>
    tagged .map ((Head.map fields.length).write ++
      fields.toList.attach.flatMap fun ⟨f, _⟩ => writeText f.1 ++ f.2.write)
termination_by v => sizeOf v
decreasing_by
  · have := List.sizeOf_lt_of_mem (by assumption)
    simp only [list.sizeOf_spec]; omega
  · have := Fields.sizeOf_lt_of_mem (by assumption)
    simp only [map.sizeOf_spec]; omega

/-- A field of a map: its key, then its value. -/
def writeField (f : String × Value) : Bytes := writeText f.1 ++ f.2.write

/-- The serialized form of a map is the fields one after the other. -/
theorem write_map {fields : Dict Value} :
    (Value.map fields).write =
      tagged .map ((Head.map fields.length).write ++ fields.toList.flatMap writeField) := by
  rw [write]
  conv => rhs; rw [← List.attach_map_subtype_val fields.toList, List.flatMap_map]
  rfl

end Value

/-- The serialized form of a session, with the fields in the order of their keys. A session has no
order of its own, and another writer may choose another one each time. `SessionData.WrittenAs` is any
of these forms, and `SessionData.prefix_code` speaks of them all. -/
def SessionData.serialize (d : SessionData) : Bytes :=
  (Head.map d.length).write ++ d.toList.flatMap Value.writeField

/-! ### Reading -/

namespace Value

/-- How many levels reading follows. -/
def maxHeight : Nat := 1023

/-- A small number as an octet. -/
def octet? (n : Int) : Option UInt8 :=
  if 0 ≤ n ∧ n < 256 then some (UInt8.ofNat n.toNat) else none

/-- Reads a number from zero to 255 in any form. -/
def readOctet? (b : Bytes) : Option (UInt8 × Bytes) := do
  let (head, rest) ← Head.read? b
  let x ← octet? (← head.int?)
  pure (x, rest)

/-- The floating-point number of a head. -/
def float? : Head → Option Binary64
  | .float32 bits => some (Binary64.ofBinary32 bits)
  | .float64 bits => some ⟨UInt64.ofNat bits⟩
  | head => head.int?.map Binary64.ofInt

/-- Reads a field of a map with a reader of values. -/
def readField? (value : Bytes → Option (Value × Bytes)) (b : Bytes) :
    Option ((String × Value) × Bytes) := do
  let (key, rest) ← readText? b
  let (v, rest) ← value rest
  pure ((key, v), rest)

/-- Reads the content of a value of a known kind. The reader of the values one level further
in is missing when no further level is followed. -/
def readContent? (inner? : Option (Bytes → Option (Value × Bytes))) (k : Kind) (b : Bytes) :
    Option (Value × Bytes) := do
  let (head, rest) ← Head.read? b
  match k with
  | .nil => if head = .nil then some (.nil, rest) else none
  | .int => do
    let n ← Range.int64? (← head.int?)
    pure (.int n, rest)
  | .bool =>
    match head with
    | .bool b => some (.bool b, rest)
    | _ => none
  | .str => do
    let (s, rest) ← textAfter? head rest
    pure (.str s, rest)
  | .float => do
    let x ← float? head
    pure (.float x, rest)
  | .bytes =>
    match head with
    | .bin n => do
      let (octets, rest) ← split? n rest
      pure (.bytes octets, rest)
    | .array n => do
      let _ ← inner?
      let (octets, rest) ← readMany readOctet? n [] rest
      pure (.bytes octets, rest)
    | _ => none
  | .list =>
    match head with
    | .bin 0 => some (.list [], rest)
    | .array n => do
      let (items, rest) ← readMany (← inner?) n [] rest
      pure (.list items, rest)
    | _ => none
  | .map =>
    match head with
    | .map n => do
      let (fields, rest) ← readMany (readField? (← inner?)) n [] rest
      pure (.map (Dict.ofList fields), rest)
    | _ => none

/-- Reads a value: a map of one pair, or the name of the kind `nil` alone. -/
def readTagged? (inner? : Option (Bytes → Option (Value × Bytes))) (b : Bytes) :
    Option (Value × Bytes) := do
  let (head, rest) ← Head.read? b
  match head with
  | .map n =>
    if n = 1 then do
      let (head, rest) ← Head.read? rest
      let (k, rest) ← Kind.after? head rest
      readContent? inner? k rest
    else none
  | head => do
    let (k, rest) ← Kind.after? head rest
    if k = .nil then some (.nil, rest) else none

/-- Reads a value of at most the given height. -/
def read? : Nat → Bytes → Option (Value × Bytes)
  | 0 => readTagged? none
  | levels + 1 => readTagged? (some (read? levels))

end Value

/-- Reads a session off the front of the octets. -/
def SessionData.read? (b : Bytes) : Option (SessionData × Bytes) := do
  let (head, rest) ← Head.read? b
  match head with
  | .map n => do
    let (fields, rest) ← readMany (Value.readField? (Value.read? (Value.maxHeight - 1))) n [] rest
    pure (SessionData.ofList fields, rest)
  | _ => none

/-- The session of a serialized form; octets behind it are ignored. -/
def SessionData.deserialize (b : Bytes) : Except Error SessionData :=
  match SessionData.read? b with
  | some (d, _) => .ok d
  | none => .error .decoding

end WebSession
