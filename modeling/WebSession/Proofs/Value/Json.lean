import WebSession.Proofs.Fields
import WebSession.Value.Json

/-!
# WebSession.Proofs.Value.Json

**What is lost between session values and JSON** (`json_round_trip`).

* A session value that goes through JSON comes back as `Value.keptByJson` says: octet strings are
  lists of numbers, and numbers that are not finite are gone. So it comes back as it was exactly if
  it has neither in it, at any level.
* A JSON value that goes through a session comes back as it was exactly if all its integers fit
  sixty-four bits with a sign.

Both conversions follow the value, and so do the inductions: what holds of the items of a list and
of the values of a map holds of the list and of the map.
-/

namespace WebSession

/-! ### Parts -/

/-- A value stands in another at some level, or is that value. -/
inductive Value.PartOf (w : Value) : Value → Prop where
  | self : PartOf w w
  /-- In an item of a list. -/
  | item {items : List Value} {v : Value} : v ∈ items → PartOf w v → PartOf w (.list items)
  /-- In a value of a map. -/
  | field {fields : Dict Value} {f : String × Value} :
      f ∈ fields.toList → PartOf w f.2 → PartOf w (.map fields)

/-- A JSON value stands in another at some level, or is that value. -/
inductive Json.PartOf (i : Json) : Json → Prop where
  | self : PartOf i i
  /-- In an item of an array. -/
  | item {items : List Json} {j : Json} : j ∈ items → PartOf i j → PartOf i (.array items)
  /-- In a value of an object. -/
  | field {fields : Dict Json} {f : String × Json} :
      f ∈ fields.toList → PartOf i f.2 → PartOf i (.object fields)

namespace Value

/-! ### Through JSON and back -/

mutual

/-- What JSON keeps of a session value: of octets their numbers, and of a number that is not finite
nothing. -/
def keptByJson : Value → Value
  | .nil => .nil
  | .int n => .int n
  | .bool b => .bool b
  | .str s => .str s
  | .float x => if x.isFinite then .float x else .nil
  | .bytes b => .list (b.map fun o => .int (Int64.ofNat o.toNat))
  | .list items => .list (keptItems items)
  | .map fields => .map (keptFields fields)
termination_by structural v => v

/-- What JSON keeps of list items. -/
def keptItems : List Value → List Value
  | [] => []
  | v :: rest => v.keptByJson :: keptItems rest
termination_by structural items => items

/-- What JSON keeps of the values of a map; their keys stay. -/
def keptFields {lo : Option String} : Fields Value lo → Fields Value lo
  | .nil => .nil
  | .cons key above v rest => .cons key above v.keptByJson (keptFields rest)
termination_by structural fields => fields

end

theorem ofJson_int {n : Int} (h : Range.isInt64 n = true) :
    ofJson (.int n) = .int (Int64.ofInt n) := by
  rw [ofJson, if_pos h]

/-- A number of sixty-four bits fits them. -/
theorem isInt64_toInt (n : Int64) : Range.isInt64 n.toInt = true :=
  Range.isInt64_iff.mpr ⟨n.le_toInt, n.toInt_lt⟩

/-- An octet comes back as a number. -/
theorem ofJson_octet (o : UInt8) : ofJson (.int o.toNat) = .int (Int64.ofNat o.toNat) := by
  have hlt := o.toNat_lt
  exact ofJson_int (Range.isInt64_iff.mpr ⟨by omega, by omega⟩)

mutual

/-- **A session value that goes through JSON** comes back as what JSON keeps of it. -/
theorem ofJson_toJson : (v : Value) → ofJson v.toJson = v.keptByJson
  | .nil => by rw [toJson, ofJson, keptByJson]
  | .int n => by rw [toJson, ofJson_int (isInt64_toInt n), Int64.ofInt_toInt, keptByJson]
  | .bool b => by rw [toJson, ofJson, keptByJson]
  | .str s => by rw [toJson, ofJson, keptByJson]
  | .float x => by
    rw [toJson, keptByJson]
    split
    · rw [ofJson]
    · rw [ofJson]
  | .bytes b => by
    rw [toJson, ofJson, keptByJson, List.map_map]
    exact congrArg Value.list (List.map_congr_left fun o _ => ofJson_octet o)
  | .list items => by rw [toJson, ofJson, keptByJson, ofJson_toJson_items items]
  | .map fields => by rw [toJson, ofJson, keptByJson, ofJson_toJson_fields fields]

theorem ofJson_toJson_items : (items : List Value) →
    (items.map toJson).map ofJson = keptItems items
  | [] => rfl
  | v :: rest => by
    rw [List.map_cons, List.map_cons, ofJson_toJson v, ofJson_toJson_items rest, keptItems]

theorem ofJson_toJson_fields {lo : Option String} : (fields : Fields Value lo) →
    ofJson.ofJsonFields (toJson.toJsonFields fields) = keptFields fields
  | .nil => by rw [toJson.toJsonFields, ofJson.ofJsonFields, keptFields]
  | .cons key above v rest => by
    rw [toJson.toJsonFields, ofJson.ofJsonFields, ofJson_toJson v, ofJson_toJson_fields rest,
      keptFields]

end

/-! ### When nothing is lost -/

/-- JSON has values for the whole of a session value: no octet string stands in it, and no number
that is not finite. -/
def Lossless (v : Value) : Prop :=
  ∀ w : Value, w.PartOf v → (∀ b, w ≠ .bytes b) ∧ ∀ x, w = .float x → x.isFinite = true

theorem keptItems_eq_self_iff {items : List Value} :
    keptItems items = items ↔ ∀ v ∈ items, v.keptByJson = v := by
  induction items with
  | nil => simp [keptItems]
  | cons v rest ih => rw [keptItems, List.cons.injEq, ih, List.forall_mem_cons]

theorem keptFields_eq_self_iff {lo : Option String} {fields : Fields Value lo} :
    keptFields fields = fields ↔ ∀ f ∈ fields.toList, f.2.keptByJson = f.2 := by
  induction fields with
  | nil => simp [keptFields]
  | cons key above v rest ih =>
      rw [keptFields, Fields.toList_cons, List.forall_mem_cons, ← ih]
      simp

/-- Of a value that is kept as a whole every part is. -/
theorem PartOf.keptByJson_eq {v w : Value} (h : w.PartOf v) (hv : v.keptByJson = v) :
    w.keptByJson = w := by
  induction h with
  | self => exact hv
  | item hmem _ ih =>
      rw [keptByJson, list.injEq, keptItems_eq_self_iff] at hv
      exact ih (hv _ hmem)
  | field hmem _ ih =>
      rw [keptByJson, map.injEq, keptFields_eq_self_iff] at hv
      exact ih (hv _ hmem)

theorem keptByJson_of_lossless : (v : Value) → v.Lossless → v.keptByJson = v
  | .nil, _ => by rw [keptByJson]
  | .int n, _ => by rw [keptByJson]
  | .bool b, _ => by rw [keptByJson]
  | .str s, _ => by rw [keptByJson]
  | .float x, h => by rw [keptByJson, if_pos ((h _ .self).2 x rfl)]
  | .bytes b, h => absurd rfl ((h _ .self).1 b)
  | .list items, h => by
    rw [keptByJson, keptItems_eq_self_iff.mpr]
    intro v hv
    exact keptByJson_of_lossless v fun w hw => h w (.item hv hw)
  | .map fields, h => by
    rw [keptByJson, keptFields_eq_self_iff.mpr]
    intro f hf
    exact keptByJson_of_lossless f.2 fun w hw => h w (.field hf hw)
termination_by v => sizeOf v
decreasing_by
  · have := List.sizeOf_lt_of_mem hv
    simp only [list.sizeOf_spec]
    omega
  · have := Fields.sizeOf_lt_of_mem hf
    simp only [map.sizeOf_spec]
    omega

/-- **JSON keeps the whole of a session value** exactly if it has values for all of it. -/
theorem keptByJson_eq_self_iff {v : Value} : v.keptByJson = v ↔ v.Lossless := by
  constructor
  · intro h w hw
    have hkept := hw.keptByJson_eq h
    refine ⟨?_, ?_⟩
    · rintro b rfl
      rw [keptByJson] at hkept
      cases hkept
    · rintro x rfl
      cases hfinite : x.isFinite with
      | true => rfl
      | false =>
          rw [keptByJson, if_neg (Bool.eq_false_iff.mp hfinite)] at hkept
          cases hkept
  · exact keptByJson_of_lossless v

end Value

/-! ### From JSON and back -/

namespace Json

/-- All integers in a JSON value fit sixty-four bits with a sign. -/
def FitsInt64 (j : Json) : Prop := ∀ n : Int, (Json.int n).PartOf j → Range.isInt64 n = true

/-- An integer comes back if it fits sixty-four bits. Else it has become a floating-point number. -/
theorem toJson_ofJson_int_iff {n : Int} :
    (Value.ofJson (.int n)).toJson = .int n ↔ Range.isInt64 n = true := by
  constructor
  · intro h
    cases hfits : Range.isInt64 n with
    | true => rfl
    | false =>
        rw [Value.ofJson, if_neg (Bool.eq_false_iff.mp hfits), Value.toJson] at h
        split at h <;> cases h
  · intro h
    have hrange := Range.isInt64_iff.mp h
    rw [Value.ofJson_int h, Value.toJson, Int64.toInt_ofInt_of_le hrange.1 hrange.2]

theorem toJson_ofJson_items_iff {items : List Json} :
    (items.map Value.ofJson).map Value.toJson = items ↔
      ∀ j ∈ items, (Value.ofJson j).toJson = j := by
  induction items with
  | nil => simp
  | cons j rest ih =>
      rw [List.map_cons, List.map_cons, List.cons.injEq, ih, List.forall_mem_cons]

theorem toJson_ofJson_fields_iff {lo : Option String} {fields : Fields Json lo} :
    Value.toJson.toJsonFields (Value.ofJson.ofJsonFields fields) = fields ↔
      ∀ f ∈ fields.toList, (Value.ofJson f.2).toJson = f.2 := by
  induction fields with
  | nil => simp [Value.ofJson.ofJsonFields, Value.toJson.toJsonFields]
  | cons key above j rest ih =>
      rw [Value.ofJson.ofJsonFields, Value.toJson.toJsonFields, Fields.toList_cons,
        List.forall_mem_cons, ← ih]
      simp

/-- Of a JSON value that comes back every part does. -/
theorem PartOf.toJson_ofJson_eq {i j : Json} (h : i.PartOf j) (hj : (Value.ofJson j).toJson = j) :
    (Value.ofJson i).toJson = i := by
  induction h with
  | self => exact hj
  | item hmem _ ih =>
      rw [Value.ofJson, Value.toJson, array.injEq, toJson_ofJson_items_iff] at hj
      exact ih (hj _ hmem)
  | field hmem _ ih =>
      rw [Value.ofJson, Value.toJson, object.injEq, toJson_ofJson_fields_iff] at hj
      exact ih (hj _ hmem)

theorem toJson_ofJson_of_fits : (j : Json) → j.FitsInt64 → (Value.ofJson j).toJson = j
  | .null, _ => by rw [Value.ofJson, Value.toJson]
  | .bool b, _ => by rw [Value.ofJson, Value.toJson]
  | .int n, h => toJson_ofJson_int_iff.mpr (h n .self)
  | .float x finite, _ => by rw [Value.ofJson, Value.toJson, dif_pos finite]
  | .str s, _ => by rw [Value.ofJson, Value.toJson]
  | .array items, h => by
    rw [Value.ofJson, Value.toJson, toJson_ofJson_items_iff.mpr]
    intro j hj
    exact toJson_ofJson_of_fits j fun n hn => h n (.item hj hn)
  | .object fields, h => by
    rw [Value.ofJson, Value.toJson, toJson_ofJson_fields_iff.mpr]
    intro f hf
    exact toJson_ofJson_of_fits f.2 fun n hn => h n (.field hf hn)
termination_by j => sizeOf j
decreasing_by
  · have := List.sizeOf_lt_of_mem hj
    simp only [array.sizeOf_spec]
    omega
  · have := Fields.sizeOf_lt_of_mem hf
    simp only [object.sizeOf_spec]
    omega

/-- **A JSON value that goes through a session** comes back exactly if its integers fit. -/
theorem toJson_ofJson_eq_self_iff {j : Json} :
    (Value.ofJson j).toJson = j ↔ j.FitsInt64 := by
  constructor
  · intro h n hn
    exact toJson_ofJson_int_iff.mp (hn.toJson_ofJson_eq h)
  · exact toJson_ofJson_of_fits j

end Json

/-- **JSON and session values lose exactly this of each other.** A session value that goes through
JSON comes back with the numbers of its octets for them and without the numbers that are not finite;
so it comes back as it was exactly if it has neither in it. A JSON value that goes through a session
comes back as it was exactly if all its integers fit sixty-four bits. -/
theorem json_round_trip :
    (∀ v : Value, Value.ofJson v.toJson = v.keptByJson) ∧
    (∀ v : Value, Value.ofJson v.toJson = v ↔
      ∀ w : Value, w.PartOf v → (∀ b, w ≠ .bytes b) ∧ ∀ x, w = .float x → x.isFinite = true) ∧
    ∀ j : Json, (Value.ofJson j).toJson = j ↔
      ∀ n : Int, (Json.int n).PartOf j → Range.isInt64 n = true := by
  refine ⟨Value.ofJson_toJson, fun v => ?_, fun j => Json.toJson_ofJson_eq_self_iff⟩
  rw [Value.ofJson_toJson]
  exact Value.keptByJson_eq_self_iff

/-- A whole floating-point number is not taken for an integer, nor the negative zero for zero;
octets and a number that is not finite are lost inside a list. -/
example : Value.ofJson (Value.toJson (.list [.float ⟨0x4008000000000000⟩, .int 3,
      .float ⟨0x8000000000000000⟩, .bytes [7], .float Binary64.infinity])) =
    .list [.float ⟨0x4008000000000000⟩, .int 3, .float ⟨0x8000000000000000⟩, .list [.int 7],
      .nil] := by cbv

end WebSession
