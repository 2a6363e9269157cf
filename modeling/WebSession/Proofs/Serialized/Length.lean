import WebSession.Proofs.Serialized

/-!
# WebSession.Proofs.Serialized.Length

**A session that the format has no form for is long** (`lt_length_serialize`): each level of it takes
some octets, and so does each item, field and octet of what is broad. So it is too long for a cookie
before it is too high or too broad to be read.
-/

namespace WebSession

open MessagePack

/-- A head takes an octet at least. -/
theorem MessagePack.Head.length_write_pos (h : Head) : 0 < h.write.length := by
  unfold Head.write
  cases h with
  | nil | bool b | float32 bits | float64 bits => exact Nat.succ_pos _
  | unsigned n | str n | bin n | array n | map n =>
      dsimp only
      split_ifs <;> exact Nat.succ_pos _
  | signed n =>
      dsimp only
      split_ifs
      · rw [signedOctets, Bytes.length_bigEndian]
        exact Nat.one_pos
      all_goals exact Nat.succ_pos _

namespace Value

theorem length_writeText (s : String) : s.utf8ByteSize < (writeText s).length := by
  have hhead := (Head.str s.utf8ByteSize).length_write_pos
  rw [writeText, List.length_append, Bytes.length_ofText]
  omega

/-- A tag takes the head of a map of one pair and the name of a kind. -/
theorem length_tagged (k : Kind) (content : Bytes) :
    1 + content.length < (tagged k content).length := by
  have hhead := (Head.map 1).length_write_pos
  have hname := length_writeText k.name
  rw [tagged, List.length_append, List.length_append]
  omega

/-- The tag of something with an inside takes four octets at least. -/
theorem length_tagged_of_inside {k : Kind} (h : 3 ≤ k.name.utf8ByteSize) (content : Bytes) :
    4 + content.length < (tagged k content).length := by
  have hhead := (Head.map 1).length_write_pos
  have hname := length_writeText k.name
  rw [tagged, List.length_append, List.length_append]
  omega

theorem length_write_pos (v : Value) : 0 < v.write.length := by
  cases v <;> rw [write]
  case nil => exact Nat.lt_of_le_of_lt (Nat.zero_le _) (length_writeText _)
  all_goals exact Nat.lt_of_le_of_lt (Nat.zero_le _) (length_tagged _ _)

/-- Whatever takes an octet at least, so many take as many. -/
theorem length_le_length_flatMap {α : Type} {f : α → Bytes} (h : ∀ a, 0 < (f a).length)
    (items : List α) : items.length ≤ (items.flatMap f).length := by
  induction items with
  | nil => exact Nat.zero_le _
  | cons a rest ih =>
      have ha := h a
      rw [List.flatMap_cons, List.length_append, List.length_cons]
      omega

mutual

/-- Every level of a value takes four octets, and whatever it holds takes one. -/
theorem extent_le : (v : Value) →
    4 * v.height ≤ v.write.length ∧ v.breadth ≤ v.write.length
  | .nil => ⟨Nat.zero_le _, Nat.zero_le _⟩
  | .int _ => ⟨Nat.zero_le _, Nat.zero_le _⟩
  | .bool _ => ⟨Nat.zero_le _, Nat.zero_le _⟩
  | .float _ => ⟨Nat.zero_le _, Nat.zero_le _⟩
  | .str s => by
    have htag := length_tagged .str (writeText s)
    have htext := length_writeText s
    rw [write, breadth]
    exact ⟨Nat.zero_le _, by omega⟩
  | .bytes b => by
    have htag := length_tagged_of_inside (k := .bytes) (by decide)
      ((Head.array b.length).write ++ b.flatMap fun x => (Head.unsigned x.toNat).write)
    have hoctets := length_le_length_flatMap (fun x : UInt8 =>
      (Head.unsigned x.toNat).length_write_pos) b
    rw [List.length_append] at htag
    rw [write, breadth, height]
    constructor <;> omega
  | .list items => by
    have htag := length_tagged_of_inside (k := .list) (by decide)
      ((Head.array items.length).write ++ items.flatMap write)
    have hitems := extent_items_le items
    rw [List.length_append] at htag
    rw [write, breadth, height]
    constructor <;> omega
  | .map fields => by
    have htag := length_tagged_of_inside (k := .map) (by decide)
      ((Head.map fields.length).write ++ fields.toList.flatMap writeField)
    have hfields := extent_fields_le fields
    rw [List.length_append] at htag
    rw [write_map, breadth, height]
    constructor <;> omega

theorem extent_items_le : (items : List Value) →
    4 * heightOfItems items ≤ (items.flatMap write).length ∧
      items.length ≤ (items.flatMap write).length ∧
      breadthOfItems items ≤ (items.flatMap write).length
  | [] => ⟨Nat.zero_le _, Nat.zero_le _, Nat.zero_le _⟩
  | v :: rest => by
    have hpos := v.length_write_pos
    have hv := extent_le v
    have hrest := extent_items_le rest
    rw [List.flatMap_cons, List.length_append, heightOfItems, breadthOfItems, List.length_cons]
    omega

theorem extent_fields_le {lo : Option String} : (fields : Fields Value lo) →
    4 * heightOfFields fields ≤ (fields.toList.flatMap writeField).length ∧
      fields.length ≤ (fields.toList.flatMap writeField).length ∧
      breadthOfFields fields ≤ (fields.toList.flatMap writeField).length
  | .nil => ⟨Nat.zero_le _, Nat.zero_le _, Nat.zero_le _⟩
  | .cons key above v rest => by
    have hkey := length_writeText key
    have hv := extent_le v
    have hrest := extent_fields_le rest
    have hfield : (writeField (key, v)).length = (writeText key).length + v.write.length :=
      List.length_append
    rw [Fields.toList_cons, List.flatMap_cons, List.length_append, hfield, heightOfFields,
      breadthOfFields, Fields.length_cons]
    omega

end

end Value

namespace SessionData

/-- Every level of a session but the first takes four octets, and whatever it holds takes one. -/
theorem extent_le (d : SessionData) :
    4 * d.height ≤ d.serialize.length + 3 ∧ d.breadth ≤ d.serialize.length := by
  have hhead := (Head.map d.length).length_write_pos
  obtain ⟨hheight, hlength, hbreadth⟩ := Value.extent_fields_le d.values
  have hserialize : d.serialize.length =
      (Head.map d.length).write.length + (d.values.toList.flatMap Value.writeField).length := by
    rw [serialize, List.length_append]
    rfl
  rw [height, breadth, Value.breadth]
  omega

/-- **What cannot be read back is long.** -/
theorem lt_length_serialize {d : SessionData} (h : ¬ d.Representable) :
    4 * Value.maxHeight < d.serialize.length := by
  obtain ⟨hheight, hbreadth⟩ := d.extent_le
  by_contra hshort
  have hbound : 4 * Value.maxHeight < lengthBound := by decide
  exact h ⟨by omega, by omega⟩

end SessionData

end WebSession
