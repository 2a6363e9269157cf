import Mathlib.Tactic.SplitIfs
import WebSession.Proofs.Fields
import WebSession.Proofs.MessagePack
import WebSession.Serialized

/-!
# WebSession.Proofs.Serialized

**A session is read back from its serialized form** (`SessionData.deserialize_serialize`),
every number bit for bit, if it is representable.

* `Value.breadth` is the greatest length that is written in front of a text, an octet string,
  a list or a map. The format has thirty-two bits for a length.
* `SessionData.Representable` bounds the height, which reading does, and the breadth.
* Reading follows the levels one by one, and so does the induction: the values inside a value
  are lower than it, so the reader that is one level further in reads them.
-/

namespace WebSession

open MessagePack

namespace Value

/-! ### Breadth -/

mutual

/-- The greatest length of a text, an octet string, a list or a map in a value. -/
def breadth : Value → Nat
  | .str s => s.utf8ByteSize
  | .bytes b => b.length
  | .list items => max items.length (breadthOfItems items)
  | .map fields => max fields.length (breadthOfFields fields)
  | _ => 0
termination_by structural v => v

/-- The greatest breadth among list items. -/
def breadthOfItems : List Value → Nat
  | [] => 0
  | v :: rest => max v.breadth (breadthOfItems rest)
termination_by structural items => items

/-- The greatest breadth among the values of a map and the greatest length of a key. -/
def breadthOfFields {lo : Option String} : Fields Value lo → Nat
  | .nil => 0
  | .cons key _ v rest => max (max key.utf8ByteSize v.breadth) (breadthOfFields rest)
termination_by structural fields => fields

end

theorem breadthOfItems_lt_iff {items : List Value} {n : Nat} (hn : 0 < n) :
    breadthOfItems items < n ↔ ∀ v ∈ items, v.breadth < n := by
  induction items with
  | nil => simp [breadthOfItems, hn]
  | cons v rest ih => rw [breadthOfItems, Nat.max_lt, ih, List.forall_mem_cons]

theorem breadthOfFields_lt_iff {lo : Option String} {fields : Fields Value lo} {n : Nat}
    (hn : 0 < n) : breadthOfFields fields < n ↔
      ∀ f ∈ fields.toList, f.1.utf8ByteSize < n ∧ f.2.breadth < n := by
  induction fields with
  | nil => simp [breadthOfFields, hn]
  | cons key above v rest ih =>
      rw [breadthOfFields, Nat.max_lt, Nat.max_lt, ih, Fields.toList_cons, List.forall_mem_cons]

/-- A list is no broader than a bound if it is shorter and all its items are less broad. -/
theorem breadth_list_lt_iff {items : List Value} {n : Nat} :
    (Value.list items).breadth < n ↔ items.length < n ∧ ∀ v ∈ items, v.breadth < n := by
  rw [breadth, Nat.max_lt]
  constructor
  · intro h
    exact ⟨h.1, (breadthOfItems_lt_iff (Nat.zero_lt_of_lt h.1)).mp h.2⟩
  · intro h
    exact ⟨h.1, (breadthOfItems_lt_iff (Nat.zero_lt_of_lt h.1)).mpr h.2⟩

/-- A map is no broader than a bound if it has fewer fields and all its keys and values are
less broad. -/
theorem breadth_map_lt_iff {fields : Dict Value} {n : Nat} :
    (Value.map fields).breadth < n ↔
      fields.length < n ∧ ∀ f ∈ fields.toList, f.1.utf8ByteSize < n ∧ f.2.breadth < n := by
  rw [breadth, Nat.max_lt]
  constructor
  · intro h
    exact ⟨h.1, (breadthOfFields_lt_iff (Nat.zero_lt_of_lt h.1)).mp h.2⟩
  · intro h
    exact ⟨h.1, (breadthOfFields_lt_iff (Nat.zero_lt_of_lt h.1)).mpr h.2⟩

/-! ### Height of the values inside -/

theorem height_lt_of_mem_list {items : List Value} {v : Value} (h : v ∈ items) :
    v.height < (Value.list items).height := by
  rw [height]
  exact Nat.lt_succ_of_le (heightOfItems_le_iff.mp (Nat.le_refl _) v h)

theorem height_lt_of_mem_map {fields : Dict Value} {f : String × Value}
    (h : f ∈ fields.toList) : f.2.height < (Value.map fields).height := by
  rw [height]
  exact Nat.lt_succ_of_le (heightOfFields_le_iff.mp (Nat.le_refl _) f h)

/-- One of the items is as high as the highest. -/
theorem exists_of_lt_heightOfItems {items : List Value} {n : Nat} (h : n < heightOfItems items) :
    ∃ v ∈ items, n < v.height := by
  by_contra hall
  have hle := heightOfItems_le_iff.mpr fun v hv =>
    Nat.le_of_not_lt fun hlt => hall ⟨v, hv, hlt⟩
  exact Nat.not_lt.mpr hle h

theorem exists_of_lt_heightOfFields {fields : Dict Value} {n : Nat}
    (h : n < heightOfFields fields) : ∃ f ∈ fields.toList, n < f.2.height := by
  by_contra hall
  have hle := heightOfFields_le_iff.mpr fun f hf =>
    Nat.le_of_not_lt fun hlt => hall ⟨f, hf, hlt⟩
  exact Nat.not_lt.mpr hle h

/-! ### Reading what was written -/

theorem Kind.ofName?_name (k : Kind) : Kind.ofName? k.name = some k := by
  cases k <;> decide

theorem tagged_append (k : Kind) (content t : Bytes) :
    tagged k content ++ t = tagged k (content ++ t) := List.append_assoc ..

/-- Behind a tag, the content is read by the kind that the tag names. -/
theorem readTagged?_tagged (inner? : Option (Bytes → Option (Value × Bytes))) (k : Kind)
    (content : Bytes) : readTagged? inner? (tagged k content) = readContent? inner? k content := by
  have hname : (Bytes.ofText k.name).length < lengthBound := by
    cases k <;> decide
  have hone : (Head.map 1).Fits := by
    show 1 < lengthBound
    decide
  rw [readTagged?, tagged, List.append_assoc, Head.read?_write hone, writeText]
  simp only [Option.bind_eq_bind, Option.bind_some, if_true, List.append_assoc]
  rw [Head.read?_write (show (Head.str _).Fits from hname)]
  simp only [Kind.after?, Option.bind_eq_bind, Option.bind_some, textAfter?_ofText,
    Kind.ofName?_name, Option.pure_def]

theorem readOctet?_write (x : UInt8) (t : Bytes) :
    readOctet? ((Head.unsigned x.toNat).write ++ t) = some (x, t) := by
  have hx := x.toNat_lt
  have hfits : (Head.unsigned x.toNat).Fits := by
    show x.toNat < 0x10000000000000000
    omega
  have hoctet : octet? (x.toNat : Int) = some x := by
    rw [octet?, if_pos (by omega), Int.toNat_natCast, UInt8.ofNat_toNat]
  rw [readOctet?, Head.read?_write hfits]
  simp only [Head.int?, Option.bind_eq_bind, Option.bind_some, hoctet, Option.pure_def]

theorem ofInt_fits (n : Int64) : (Head.ofInt n.toInt).Fits := by
  have hlo := n.le_toInt
  have hhi := n.toInt_lt
  unfold Head.ofInt
  split
  · show -0x8000000000000000 ≤ _ ∧ _
    omega
  · show _ < 0x10000000000000000
    omega

theorem int?_ofInt (n : Int) : (Head.ofInt n).int? = some n := by
  unfold Head.ofInt
  split
  · rfl
  · rw [Head.int?]
    congr 1
    omega

theorem int64?_toInt (n : Int64) : Range.int64? n.toInt = some n := by
  rw [Range.int64?, if_pos (Range.isInt64_iff.mpr ⟨n.le_toInt, n.toInt_lt⟩), Int64.ofInt_toInt]

theorem readField?_write {inner : Bytes → Option (Value × Bytes)} {f : String × Value}
    (hkey : f.1.utf8ByteSize < lengthBound)
    (hvalue : ∀ t, inner (f.2.write ++ t) = some (f.2, t)) (t : Bytes) :
    readField? inner (writeField f ++ t) = some (f, t) := by
  rw [readField?, writeField, List.append_assoc, readText?_write hkey]
  simp only [Option.bind_eq_bind, Option.bind_some, hvalue, Option.pure_def]

/-- The readers of the values one level further in read back every value lower than `v`. -/
def ReadsInside (inner? : Option (Bytes → Option (Value × Bytes))) (v : Value) : Prop :=
  v.height ≠ 0 → ∃ inner, inner? = some inner ∧ ∀ w : Value, w.height < v.height →
    w.breadth < lengthBound → ∀ t, inner (w.write ++ t) = some (w, t)

/-- A value is read back if the values inside it are. -/
theorem readTagged?_write {inner? : Option (Bytes → Option (Value × Bytes))} {v : Value}
    (hin : ReadsInside inner? v) (hb : v.breadth < lengthBound) (t : Bytes) :
    readTagged? inner? (v.write ++ t) = some (v, t) := by
  cases v with
  | nil =>
      -- the only value that is its name alone
      have hname : (Head.str (Bytes.ofText Kind.nil.name).length).Fits := by
        show _ < lengthBound
        decide
      rw [write, readTagged?, writeText, List.append_assoc, Head.read?_write hname]
      simp only [Option.bind_eq_bind, Option.bind_some, Kind.after?, textAfter?_ofText,
        Kind.ofName?_name, Option.pure_def, if_true]
  | int n =>
      rw [write, tagged_append, readTagged?_tagged, readContent?, Head.read?_write (ofInt_fits n)]
      simp only [Option.bind_eq_bind, Option.bind_some, int?_ofInt, int64?_toInt,
        Option.pure_def]
  | bool b =>
      rw [write, tagged_append, readTagged?_tagged, readContent?,
        Head.read?_write (show (Head.bool b).Fits from trivial)]
      rfl
  | str s =>
      have hfits : (Head.str (Bytes.ofText s).length).Fits := by
        rw [Bytes.length_ofText]
        exact hb
      rw [write, tagged_append, readTagged?_tagged, readContent?, writeText, List.append_assoc,
        Head.read?_write hfits]
      simp only [Option.bind_eq_bind, Option.bind_some, textAfter?_ofText, Option.pure_def]
  | float x =>
      have hfits : (Head.float64 x.bits.toNat).Fits := x.bits.toNat_lt
      rw [write, tagged_append, readTagged?_tagged, readContent?, Head.read?_write hfits]
      simp only [float?, Option.bind_eq_bind, Option.bind_some, UInt64.ofNat_toNat,
        Option.pure_def]
  | bytes b =>
      -- an octet string is written as a list, so it takes a level of its own
      obtain ⟨inner, rfl, -⟩ := hin (by rw [height]; decide)
      have hfits : (Head.array b.length).Fits := hb
      rw [write, tagged_append, readTagged?_tagged, readContent?, List.append_assoc,
        Head.read?_write hfits]
      simp only [Option.bind_eq_bind, Option.bind_some]
      rw [readMany_flatMap fun x _ => readOctet?_write x]
      rfl
  | list items =>
      -- the levels are not used up, since a list is one itself; the items are read with what is left
      obtain ⟨inner, rfl, hread⟩ := hin (by rw [height]; exact Nat.succ_ne_zero _)
      obtain ⟨hlen, hitems⟩ := breadth_list_lt_iff.mp hb
      have hfits : (Head.array items.length).Fits := hlen
      rw [write, tagged_append, readTagged?_tagged, readContent?, List.append_assoc,
        Head.read?_write hfits]
      simp only [Option.bind_eq_bind, Option.bind_some]
      rw [readMany_flatMap fun w hw => hread w (height_lt_of_mem_list hw) (hitems w hw)]
      rfl
  | map fields =>
      obtain ⟨inner, rfl, hread⟩ := hin (by rw [height]; exact Nat.succ_ne_zero _)
      obtain ⟨hlen, hfields⟩ := breadth_map_lt_iff.mp hb
      have hfits : (Head.map fields.length).Fits := hlen
      rw [write_map, tagged_append, readTagged?_tagged, readContent?, List.append_assoc,
        Head.read?_write hfits]
      have hfield : ∀ f ∈ fields.toList, ∀ t,
          readField? inner (writeField f ++ t) = some (f, t) := fun f hf =>
        readField?_write (hfields f hf).1 (hread f.2 (height_lt_of_mem_map hf) (hfields f hf).2)
      simp only [Option.bind_eq_bind, Option.bind_some, Fields.length]
      rw [readMany_flatMap hfield]
      -- the fields come in the order of their keys, so they make up the same map again
      simp only [Option.bind_some, Dict.ofList_toList, Option.pure_def]

/-- A value is read back at every height that is not below its own. -/
theorem read?_write {v : Value} {levels : Nat} (hh : v.height ≤ levels)
    (hb : v.breadth < lengthBound) (t : Bytes) : read? levels (v.write ++ t) = some (v, t) := by
  -- on the levels that are left, for every value that is no higher
  induction levels generalizing v t with
  | zero =>
      have hin : ReadsInside none v := fun hne => absurd (Nat.le_zero.mp hh) hne
      exact readTagged?_write hin hb t
  | succ levels ih =>
      have hin : ReadsInside (some (read? levels)) v := fun _ =>
        ⟨read? levels, rfl, fun w hw hwb => ih (by omega) hwb⟩
      exact readTagged?_write hin hb t

/-! ### What cannot be read -/

theorem readTagged?_none {v : Value} (hv : v.height ≠ 0) (hb : v.breadth < lengthBound)
    (t : Bytes) : readTagged? none (v.write ++ t) = none := by
  cases v with
  | bytes b =>
      have hfits : (Head.array b.length).Fits := hb
      rw [write, tagged_append, readTagged?_tagged, readContent?, List.append_assoc,
        Head.read?_write hfits]
      rfl
  | list items =>
      have hfits : (Head.array items.length).Fits := (breadth_list_lt_iff.mp hb).1
      rw [write, tagged_append, readTagged?_tagged, readContent?, List.append_assoc,
        Head.read?_write hfits]
      cases hn : items.length <;> rfl
  | map fields =>
      have hfits : (Head.map fields.length).Fits := (breadth_map_lt_iff.mp hb).1
      rw [write_map, tagged_append, readTagged?_tagged, readContent?, List.append_assoc,
        Head.read?_write hfits]
      rfl
  | _ => exact absurd rfl hv

theorem readTagged?_list_eq_none {inner : Bytes → Option (Value × Bytes)} {items : List Value}
    (hlen : items.length < lengthBound)
    (h : ∀ w ∈ items,
      (∀ t, inner (w.write ++ t) = some (w, t)) ∨ ∀ t, inner (w.write ++ t) = none)
    (hnone : ∃ w ∈ items, ∀ t, inner (w.write ++ t) = none) (t : Bytes) :
    readTagged? (some inner) ((Value.list items).write ++ t) = none := by
  have hfits : (Head.array items.length).Fits := hlen
  rw [write, tagged_append, readTagged?_tagged, readContent?, List.append_assoc,
    Head.read?_write hfits]
  simp only [Option.bind_eq_bind, Option.bind_some]
  rw [readMany_flatMap_eq_none h hnone]
  rfl

theorem readField?_write_eq_none {inner : Bytes → Option (Value × Bytes)} {f : String × Value}
    (hkey : f.1.utf8ByteSize < lengthBound) (hvalue : ∀ t, inner (f.2.write ++ t) = none)
    (t : Bytes) : readField? inner (writeField f ++ t) = none := by
  rw [readField?, writeField, List.append_assoc, readText?_write hkey]
  simp only [Option.bind_eq_bind, Option.bind_some, hvalue, Option.bind_none]

/-- Fields are read back or not as their values are. -/
theorem readField?_write_or {inner : Bytes → Option (Value × Bytes)} {f : String × Value}
    (hkey : f.1.utf8ByteSize < lengthBound)
    (hvalue : (∀ t, inner (f.2.write ++ t) = some (f.2, t)) ∨ ∀ t, inner (f.2.write ++ t) = none) :
    (∀ t, readField? inner (writeField f ++ t) = some (f, t)) ∨
      ∀ t, readField? inner (writeField f ++ t) = none :=
  hvalue.imp (readField?_write hkey) (readField?_write_eq_none hkey)

theorem readTagged?_map_eq_none {inner : Bytes → Option (Value × Bytes)} {fields : Dict Value}
    (hlen : fields.length < lengthBound)
    (hkeys : ∀ f ∈ fields.toList, f.1.utf8ByteSize < lengthBound)
    (h : ∀ f ∈ fields.toList,
      (∀ t, inner (f.2.write ++ t) = some (f.2, t)) ∨ ∀ t, inner (f.2.write ++ t) = none)
    (hnone : ∃ f ∈ fields.toList, ∀ t, inner (f.2.write ++ t) = none) (t : Bytes) :
    readTagged? (some inner) ((Value.map fields).write ++ t) = none := by
  have hfits : (Head.map fields.length).Fits := hlen
  have hfields : ∃ f ∈ fields.toList, ∀ t, readField? inner (writeField f ++ t) = none := by
    obtain ⟨f, hf, hstop⟩ := hnone
    exact ⟨f, hf, readField?_write_eq_none (hkeys f hf) hstop⟩
  rw [write_map, tagged_append, readTagged?_tagged, readContent?, List.append_assoc,
    Head.read?_write hfits]
  simp only [Option.bind_eq_bind, Option.bind_some, Fields.length]
  rw [readMany_flatMap_eq_none (fun f hf => readField?_write_or (hkeys f hf) (h f hf)) hfields]
  rfl

/-- A value is not read back at a height below its own. -/
theorem read?_write_eq_none {v : Value} {levels : Nat} (hh : levels < v.height)
    (hb : v.breadth < lengthBound) (t : Bytes) : read? levels (v.write ++ t) = none := by
  induction levels generalizing v t with
  | zero => exact readTagged?_none (Nat.ne_of_gt hh) hb t
  | succ levels ih =>
      -- a value inside is read back at its height, and not below it
      have hinside {w : Value} (hwb : w.breadth < lengthBound) :
          (∀ t, read? levels (w.write ++ t) = some (w, t)) ∨
            ∀ t, read? levels (w.write ++ t) = none := by
        by_cases hw : w.height ≤ levels
        · exact Or.inl (read?_write hw hwb)
        · exact Or.inr (ih (Nat.lt_of_not_le hw) hwb)
      cases v with
      | list items =>
          obtain ⟨hlen, hitems⟩ := breadth_list_lt_iff.mp hb
          rw [height] at hh
          obtain ⟨w, hw, hlow⟩ := exists_of_lt_heightOfItems (Nat.lt_of_succ_lt_succ hh)
          exact readTagged?_list_eq_none hlen (fun w hw => hinside (hitems w hw))
            ⟨w, hw, ih hlow (hitems w hw)⟩ t
      | map fields =>
          obtain ⟨hlen, hfields⟩ := breadth_map_lt_iff.mp hb
          rw [height] at hh
          obtain ⟨f, hf, hlow⟩ := exists_of_lt_heightOfFields (Nat.lt_of_succ_lt_succ hh)
          exact readTagged?_map_eq_none hlen (fun f hf => (hfields f hf).1)
            (fun f hf => hinside (hfields f hf).2) ⟨f, hf, ih hlow (hfields f hf).2⟩ t
      | bytes b =>
          rw [height] at hh
          omega
      | _ => exact absurd hh (Nat.not_lt_zero _)

/-! ### What is read -/

theorem utf8ByteSize_of_textAfter? {head : Head} {b t : Bytes} {s : String}
    (h : textAfter? head b = some (s, t)) : head.length? = some s.utf8ByteSize := by
  simp only [textAfter?, Option.bind_eq_bind, Option.bind_eq_some_iff, Option.pure_def] at h
  obtain ⟨n, hn, ⟨octets, rest⟩, hsplit, s', htext, hs⟩ := h
  cases hs
  have hlen : octets.length = n := length_of_split? hsplit
  rw [← Bytes.length_ofText, Bytes.ofText_of_text? htext, hlen]
  cases head with
  | str m => exact hn
  | bin m => exact hn
  | _ => cases hn

theorem utf8ByteSize_of_readText? {b t : Bytes} {s : String} (h : readText? b = some (s, t)) :
    s.utf8ByteSize < lengthBound := by
  simp only [readText?, Option.bind_eq_bind, Option.bind_eq_some_iff] at h
  obtain ⟨⟨head, rest⟩, hhead, htext⟩ := h
  exact Head.length_lt_of_read? hhead (utf8ByteSize_of_textAfter? htext)

/-- The readers one level further in read nothing broader than a length. -/
def ReadsNarrow (inner? : Option (Bytes → Option (Value × Bytes))) : Prop :=
  ∀ inner ∈ inner?, ∀ {b v t}, inner b = some (v, t) → v.breadth < lengthBound

theorem breadth_of_readField? {inner : Bytes → Option (Value × Bytes)}
    (hin : ∀ {b v t}, inner b = some (v, t) → v.breadth < lengthBound) {b t : Bytes}
    {f : String × Value} (h : readField? inner b = some (f, t)) :
    f.1.utf8ByteSize < lengthBound ∧ f.2.breadth < lengthBound := by
  simp only [readField?, Option.bind_eq_bind, Option.bind_eq_some_iff, Option.pure_def] at h
  obtain ⟨⟨key, rest⟩, hkey, ⟨v, rest'⟩, hv, hf⟩ := h
  cases hf
  exact ⟨utf8ByteSize_of_readText? hkey, hin hv⟩

/-- As many octets are read one by one as there should be. -/
theorem breadth_of_readOctets {n : Nat} {b t octets : Bytes} (hn : n < lengthBound)
    (h : readMany readOctet? n [] b = some (octets, t)) : (Value.bytes octets).breadth < lengthBound := by
  have hlen := (readMany_nil_inv (P := fun _ => True) (fun _ => trivial) h).1
  rw [breadth, hlen]
  exact hn

/-- Narrow items make up a narrow list, if there are not too many. -/
theorem breadth_of_readItems {inner : Bytes → Option (Value × Bytes)}
    (hin : ∀ {b v t}, inner b = some (v, t) → v.breadth < lengthBound) {n : Nat} {b t : Bytes}
    {items : List Value} (hn : n < lengthBound) (h : readMany inner n [] b = some (items, t)) :
    (Value.list items).breadth < lengthBound := by
  obtain ⟨hlen, hall⟩ := readMany_nil_inv (fun hread => hin hread) h
  exact breadth_list_lt_iff.mpr ⟨hlen ▸ hn, hall⟩

/-- So do fields a map: one that comes again replaces the other, so there are no more than were
read. -/
theorem breadth_of_readFields {inner : Bytes → Option (Value × Bytes)}
    (hin : ∀ {b v t}, inner b = some (v, t) → v.breadth < lengthBound) {n : Nat} {b t : Bytes}
    {fields : List (String × Value)} (hn : n < lengthBound)
    (h : readMany (readField? inner) n [] b = some (fields, t)) :
    (Value.map (Dict.ofList fields)).breadth < lengthBound := by
  obtain ⟨hlen, hall⟩ := readMany_nil_inv (breadth_of_readField? fun hread => hin hread) h
  exact breadth_map_lt_iff.mpr ⟨Nat.lt_of_le_of_lt Dict.length_ofList_le (hlen ▸ hn),
    fun f hf => hall f (Dict.mem_of_mem_ofList hf)⟩

theorem breadth_of_readContent? {inner? : Option (Bytes → Option (Value × Bytes))}
    (hin : ReadsNarrow inner?) {k : Kind} {b t : Bytes} {v : Value}
    (h : readContent? inner? k b = some (v, t)) : v.breadth < lengthBound := by
  simp only [readContent?, Option.bind_eq_bind, Option.bind_eq_some_iff] at h
  obtain ⟨⟨head, rest⟩, hhead, h⟩ := h
  cases k with
  | nil =>
      simp only at h
      split at h
      · cases h
        exact lengthBound_pos
      · cases h
  | int =>
      simp only [Option.bind_eq_some_iff, Option.pure_def] at h
      obtain ⟨_, -, _, -, hv⟩ := h
      cases hv
      exact lengthBound_pos
  | bool =>
      simp only at h
      split at h
      · cases h
        exact lengthBound_pos
      · cases h
  | str =>
      simp only [Option.bind_eq_some_iff, Option.pure_def] at h
      obtain ⟨⟨s, t'⟩, htext, hv⟩ := h
      cases hv
      exact Head.length_lt_of_read? hhead (utf8ByteSize_of_textAfter? htext)
  | float =>
      simp only [Option.bind_eq_some_iff, Option.pure_def] at h
      obtain ⟨_, -, hv⟩ := h
      cases hv
      exact lengthBound_pos
  | bytes =>
      simp only at h
      split at h
      · -- the octets stand together behind their number
        simp only [Option.bind_eq_some_iff, Option.pure_def] at h
        obtain ⟨⟨octets, t'⟩, hsplit, hv⟩ := h
        cases hv
        have hlen : octets.length = _ := length_of_split? hsplit
        rw [breadth, hlen]
        exact Head.length_lt_of_read? hhead rfl
      · -- they are the items of a list, which are small numbers
        simp only [Option.bind_eq_some_iff, Option.pure_def] at h
        obtain ⟨_, -, ⟨octets, t'⟩, hmany, hv⟩ := h
        cases hv
        exact breadth_of_readOctets (Head.length_lt_of_read? hhead rfl) hmany
      · cases h
  | list =>
      simp only at h
      split at h
      · -- an octet string of no octets stands for no items
        cases h
        exact lengthBound_pos
      · simp only [Option.bind_eq_some_iff, Option.pure_def] at h
        obtain ⟨inner, hinner, ⟨items, t'⟩, hmany, hv⟩ := h
        cases hv
        exact breadth_of_readItems (hin inner hinner) (Head.length_lt_of_read? hhead rfl) hmany
      · cases h
  | map =>
      simp only at h
      split at h
      · simp only [Option.bind_eq_some_iff, Option.pure_def] at h
        obtain ⟨inner, hinner, ⟨fields, t'⟩, hmany, hv⟩ := h
        cases hv
        exact breadth_of_readFields (hin inner hinner) (Head.length_lt_of_read? hhead rfl) hmany
      · cases h

theorem breadth_of_readTagged? {inner? : Option (Bytes → Option (Value × Bytes))}
    (hin : ReadsNarrow inner?) {b t : Bytes} {v : Value}
    (h : readTagged? inner? b = some (v, t)) : v.breadth < lengthBound := by
  simp only [readTagged?, Option.bind_eq_bind, Option.bind_eq_some_iff] at h
  obtain ⟨⟨head, rest⟩, -, h⟩ := h
  split at h
  · split at h
    · simp only [Option.bind_eq_some_iff] at h
      obtain ⟨_, -, _, -, hcontent⟩ := h
      exact breadth_of_readContent? hin hcontent
    · cases h
  · simp only [Option.bind_eq_some_iff] at h
    obtain ⟨_, -, hv⟩ := h
    split at hv
    · cases hv
      exact lengthBound_pos
    · cases hv

/-- No value is read that is broader than a length. -/
theorem breadth_of_read? {levels : Nat} {b t : Bytes} {v : Value}
    (h : read? levels b = some (v, t)) : v.breadth < lengthBound := by
  induction levels generalizing b v t with
  | zero => exact breadth_of_readTagged? (fun _ hinner => absurd hinner (Option.not_mem_none _)) h
  | succ levels ih =>
      refine breadth_of_readTagged? (fun inner hinner => ?_) h
      cases hinner
      exact fun hread => ih hread

end Value

namespace SessionData

/-- The greatest length in a session, that of its own map included. -/
def breadth (d : SessionData) : Nat := (Value.map d.values).breadth

/-- The format has a form for the session, and it is not too high to be read. -/
structure Representable (d : SessionData) : Prop where
  height_le : d.height ≤ Value.maxHeight
  breadth_lt : d.breadth < lengthBound

/-- The octets are a form of the session: behind the head of their number the fields stand in some
order. A session has no order of its own. -/
def WrittenAs (d : SessionData) (b : Bytes) : Prop :=
  ∃ fields : List (String × Value), fields.Perm d.toList ∧
    b = (Head.map d.length).write ++ fields.flatMap Value.writeField

/-- The serialized form has the fields in the order of their keys. -/
theorem writtenAs_serialize (d : SessionData) : d.WrittenAs d.serialize := ⟨_, .refl _, rfl⟩

/-- Reading a form of a session comes to reading its fields one after the other. -/
theorem read?_eq_of_fields {fields : List (String × Value)} (hlen : fields.length < lengthBound)
    (t : Bytes) :
    read? ((Head.map fields.length).write ++ fields.flatMap Value.writeField ++ t) =
      (readMany (Value.readField? (Value.read? (Value.maxHeight - 1))) fields.length []
        (fields.flatMap Value.writeField ++ t)).map fun parts => (ofList parts.1, parts.2) := by
  have hfits : (Head.map fields.length).Fits := hlen
  rw [read?, List.append_assoc, Head.read?_write hfits]
  simp only [Option.bind_eq_bind, Option.bind_some, Option.pure_def]
  cases readMany _ _ [] (fields.flatMap Value.writeField ++ t) <;> rfl

/-- A session is read back from the front of what begins with a form of it. -/
theorem read?_of_writtenAs {d : SessionData} {b : Bytes} (hb : d.WrittenAs b)
    (h : d.Representable) (t : Bytes) : read? (b ++ t) = some (d, t) := by
  obtain ⟨fields, hperm, rfl⟩ := hb
  obtain ⟨hlen, hfields⟩ := Value.breadth_map_lt_iff.mp h.breadth_lt
  have hheight : Value.heightOfFields d.values ≤ Value.maxHeight - 1 := by
    have := h.height_le
    rw [height] at this
    omega
  have hfield : ∀ f ∈ fields, ∀ t,
      Value.readField? (Value.read? (Value.maxHeight - 1)) (Value.writeField f ++ t) =
        some (f, t) := by
    intro f hf
    have hf : f ∈ d.values.toList := hperm.mem_iff.mp hf
    exact Value.readField?_write (hfields f hf).1
      (Value.read?_write (Value.heightOfFields_le_iff.mp hheight f hf) (hfields f hf).2)
  have hnumber : d.length = fields.length := hperm.length_eq.symm
  have hlen : fields.length < lengthBound := hnumber ▸ hlen
  rw [hnumber, read?_eq_of_fields hlen, readMany_flatMap hfield, Option.map_some, ofList,
    Dict.ofList_of_perm hperm]

/-- A session that is too high is not read back. -/
theorem read?_of_too_high {d : SessionData} {b : Bytes} (hb : d.WrittenAs b)
    (hh : Value.maxHeight < d.height) (hbreadth : d.breadth < lengthBound) (t : Bytes) :
    read? (b ++ t) = none := by
  obtain ⟨fields, hperm, rfl⟩ := hb
  obtain ⟨hlen, hfields⟩ := Value.breadth_map_lt_iff.mp hbreadth
  rw [height] at hh
  -- the session itself is the first of the levels
  obtain ⟨f, hf, hlow⟩ := Value.exists_of_lt_heightOfFields
    (n := Value.maxHeight - 1) (Nat.lt_of_succ_lt_succ hh)
  have hkeys : ∀ f ∈ fields, f.1.utf8ByteSize < lengthBound := fun f hf =>
    (hfields f (hperm.mem_iff.mp hf)).1
  have hinside : ∀ f ∈ fields,
      (∀ t, Value.read? (Value.maxHeight - 1) (f.2.write ++ t) = some (f.2, t)) ∨
        ∀ t, Value.read? (Value.maxHeight - 1) (f.2.write ++ t) = none := by
    intro f hf
    have hbroad := (hfields f (hperm.mem_iff.mp hf)).2
    by_cases hle : f.2.height ≤ Value.maxHeight - 1
    · exact Or.inl (Value.read?_write hle hbroad)
    · exact Or.inr (Value.read?_write_eq_none (Nat.lt_of_not_le hle) hbroad)
  have hnumber : d.length = fields.length := hperm.length_eq.symm
  have hlen : fields.length < lengthBound := hnumber ▸ hlen
  rw [hnumber, read?_eq_of_fields hlen, readMany_flatMap_eq_none
    (fun f hf => Value.readField?_write_or (hkeys f hf) (hinside f hf))
    ⟨f, hperm.mem_iff.mpr hf, Value.readField?_write_eq_none (hfields f hf).1
      (Value.read?_write_eq_none hlow (hfields f hf).2)⟩]
  rfl

/-- **A representable session is read back from every form of it**, whatever follows. -/
theorem deserialize_of_writtenAs {d : SessionData} {b : Bytes} (hb : d.WrittenAs b)
    (h : d.Representable) (t : Bytes) : deserialize (b ++ t) = .ok d := by
  rw [deserialize, read?_of_writtenAs hb h]

theorem deserialize_serialize {d : SessionData} (h : d.Representable) :
    deserialize d.serialize = .ok d := by
  simpa using deserialize_of_writtenAs d.writtenAs_serialize h []

/-- **What is read is no broader than the format allows.** -/
theorem breadth_of_deserialize {b : Bytes} {d : SessionData} (h : deserialize b = .ok d) :
    d.breadth < lengthBound := by
  rw [deserialize] at h
  split at h
  · rename_i d' t hread
    cases h
    simp only [read?, Option.bind_eq_bind, Option.bind_eq_some_iff] at hread
    obtain ⟨⟨head, rest⟩, hhead, hread⟩ := hread
    simp only at hread
    split at hread
    · simp only [Option.bind_eq_some_iff, Option.pure_def] at hread
      obtain ⟨⟨fields, t'⟩, hmany, hd⟩ := hread
      cases hd
      exact Value.breadth_of_readFields (fun hv => Value.breadth_of_read? hv)
        (Head.length_lt_of_read? hhead rfl) hmany
    · cases hread
  · cases h

/-- The one error of reading. -/
theorem deserialize_error {b : Bytes} {failure : Error} (h : deserialize b = .error failure) :
    failure = .decoding := by
  rw [deserialize] at h
  split at h <;> cases h
  rfl

/-- A serialized session has at least its head. -/
theorem serialize_ne_nil (d : SessionData) : d.serialize ≠ [] := by
  rw [serialize, Head.write]
  split_ifs <;> simp

end SessionData

end WebSession
