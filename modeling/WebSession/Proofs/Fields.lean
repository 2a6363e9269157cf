import WebSession.Fields

/-!
# WebSession.Proofs.Fields

**A map built from a list has no other fields** than those of the list
(`Dict.mem_of_mem_ofList`), and no more of them (`Dict.length_ofList_le`). A map is built back from
its own fields in any order (`Dict.ofList_of_perm`), since it has each key once.
-/

namespace WebSession

variable {α : Type}

namespace Fields

variable {lo : Option String}

/-- Inserting adds nothing but the field itself. -/
theorem mem_toList_insert {key : String} {above : Above lo key} {value : α} {m : Fields α lo}
    {f : String × α} (h : f ∈ (m.insert key above value).toList) :
    f = (key, value) ∨ f ∈ m.toList := by
  induction m with
  | nil => exact Or.inl (by simpa [insert] using h)
  | cons k aboveK v rest ih =>
      rw [toList_cons, List.mem_cons]
      unfold insert at h
      split at h
      · rw [toList_cons, toList_cons, List.mem_cons, List.mem_cons] at h
        exact h
      · split at h
        · rename_i heq
          rw [toList_cons, List.mem_cons] at h
          exact h.imp (fun e => heq ▸ e) Or.inr
        · rw [toList_cons, List.mem_cons] at h
          rcases h with h | h
          · exact Or.inr (Or.inl h)
          · exact (ih h).imp id Or.inr

theorem length_insert_le {key : String} {above : Above lo key} {value : α} {m : Fields α lo} :
    (m.insert key above value).length ≤ m.length + 1 := by
  induction m with
  | nil => simp [insert]
  | cons k aboveK v rest ih =>
      unfold insert
      split
      · simp
      · split
        · simp
        · have := @ih (above_of_not_lt_of_ne ‹_› ‹_›)
          rw [length_cons, length_cons]
          omega

/-! ### Fields and keys -/

/-- Every key of a map lies above its bound. -/
theorem above_of_mem {m : Fields α lo} {f : String × α} (h : f ∈ m.toList) : Above lo f.1 := by
  induction m with
  | nil => cases h
  | cons key above value rest ih =>
      rcases List.mem_cons.mp (toList_cons ▸ h) with rfl | h
      · exact above
      · exact above.trans (ih h)

/-- A map has a field exactly if the key has the value. -/
theorem mem_toList_iff {m : Fields α lo} {f : String × α} :
    f ∈ m.toList ↔ m.get? f.1 = some f.2 := by
  induction m with
  | nil => simp
  | cons key above value rest ih =>
      rw [toList_cons, List.mem_cons, get?_cons, ih]
      by_cases hkey : f.1 = key
      · -- no other field has the key, since the others lie above it
        have hrest : rest.get? key = none := get?_eq_none_of_not_above (not_above_self key)
        simp [hkey, hrest, Prod.ext_iff, eq_comm]
      · simp [hkey, Prod.ext_iff]

/-- No two fields of a map have the same key. -/
theorem nodup_keys (m : Fields α lo) : (m.toList.map Prod.fst).Nodup := by
  induction m with
  | nil => exact List.nodup_nil
  | cons key above value rest ih =>
      rw [toList_cons, List.map_cons, List.nodup_cons]
      refine ⟨fun hmem => ?_, ih⟩
      obtain ⟨f, hf, hkey⟩ := List.mem_map.mp hmem
      have habove : Above (some key) f.1 := above_of_mem hf
      rw [hkey] at habove
      exact not_above_self key habove

/-! ### Some of the fields -/

/-- What lies above what lies above a bound lies above it. -/
theorem above_of_above {lo : Option String} {key : String} (above : Above lo key) (key' : String)
    (h : Above (some key) key') : Above lo key' := above.trans (above_some.mp h)

/-- The fields that a test lets through. -/
def filter {lo : Option String} (keep : String × α → Bool) : Fields α lo → Fields α lo
  | .nil => .nil
  | .cons key above value rest =>
    if keep (key, value) then .cons key above value (rest.filter keep)
    else (rest.filter keep).lower (above_of_above above)

@[simp] theorem toList_filter {keep : String × α → Bool} {m : Fields α lo} :
    (m.filter keep).toList = m.toList.filter keep := by
  induction m with
  | nil => rfl
  | cons key above value rest ih =>
      rw [filter, toList_cons, List.filter_cons]
      split
      · rw [toList_cons, ih]
      · rw [toList_lower, ih]

/-- A key keeps its value if the test lets the two through. -/
theorem get?_filter {keep : String × α → Bool} {m : Fields α lo} {key : String} :
    (m.filter keep).get? key = (m.get? key).filter fun value => keep (key, value) := by
  induction m with
  | nil => rfl
  | cons k above value rest ih =>
      by_cases hk : key = k
      · subst hk
        rw [filter, get?_cons, if_pos rfl, Option.filter_some]
        split
        · rw [get?_cons, if_pos rfl]
        · rw [get?_lower]
          exact get?_eq_none_of_not_above (not_above_self key)
      · rw [filter, get?_cons, if_neg hk, ← ih]
        split
        · rw [get?_cons, if_neg hk]
        · rw [get?_lower]

/-- A key that has no value is not erased. -/
theorem erase_of_get?_none {m : Fields α lo} {key : String} (h : m.get? key = none) :
    m.erase key = m := by
  refine ext_get? fun other => ?_
  by_cases hother : other = key
  · rw [hother, h, get?_erase_self]
  · exact get?_erase_of_ne hother

end Fields

namespace Dict

/-- Going through a list, one gets the map with some of the fields. -/
theorem ofList_filter {keep : String × α → Bool} {m : Dict α} :
    ofList (m.toList.filter keep) = m.filter keep := by
  rw [← Fields.toList_filter, ofList_toList]

theorem toList_pushFront? {key : String} {value : α} {m m' : Dict α}
    (h : pushFront? key value m = some m') : m'.toList = (key, value) :: m.toList := by
  unfold pushFront? at h
  split at h
  · cases h
    rfl
  · split at h
    · cases h
      refine (@Fields.toList_cons α none key trivial value _).trans ?_
      rw [Fields.toList_cons, Fields.toList_cons]
    · cases h

theorem toList_pushAll? {fields : List (String × α)} {m m' : Dict α}
    (h : pushAll? fields m = some m') : m'.toList = fields.reverse ++ m.toList := by
  induction fields generalizing m with
  | nil =>
      cases h
      rfl
  | cons f more ih =>
      rw [pushAll?] at h
      split at h
      · rename_i m1 hpush
        rw [ih h, toList_pushFront? hpush]
        simp
      · cases h

theorem mem_of_mem_foldl_set {fields : List (String × α)} {m : Dict α} {f : String × α}
    (h : f ∈ (fields.foldl (fun m f => m.set f.1 f.2) m).toList) :
    f ∈ fields ∨ f ∈ m.toList := by
  induction fields generalizing m with
  | nil => exact Or.inr h
  | cons g more ih =>
      rcases ih h with h | h
      · exact Or.inl (List.mem_cons_of_mem g h)
      · rcases Fields.mem_toList_insert h with h | h
        · exact Or.inl (h ▸ List.mem_cons_self)
        · exact Or.inr h

theorem length_foldl_set_le {fields : List (String × α)} {m : Dict α} :
    (fields.foldl (fun m f => m.set f.1 f.2) m).length ≤ fields.length + m.length := by
  induction fields generalizing m with
  | nil => simp
  | cons g more ih =>
      have hset : (m.set g.1 g.2).length ≤ m.length + 1 := Fields.length_insert_le
      have := ih (m := m.set g.1 g.2)
      rw [List.foldl_cons, List.length_cons]
      omega

/-- A map built from a list has only fields of the list. -/
theorem mem_of_mem_ofList {fields : List (String × α)} {f : String × α}
    (h : f ∈ (ofList fields).toList) : f ∈ fields := by
  unfold ofList at h
  split at h
  · rename_i m hm
    simpa [toList_pushAll? hm] using h
  · rcases mem_of_mem_foldl_set h with h | h
    · exact h
    · cases h

theorem length_ofList_le {fields : List (String × α)} :
    (ofList fields).length ≤ fields.length := by
  unfold ofList
  split
  · rename_i m hm
    simp [Fields.length, toList_pushAll? hm]
  · exact length_foldl_set_le

theorem get?_foldl_set_of_not_mem {fields : List (String × α)} {m : Dict α} {key : String}
    (h : key ∉ fields.map Prod.fst) :
    (fields.foldl (fun m f => m.set f.1 f.2) m).get? key = m.get? key := by
  induction fields generalizing m with
  | nil => rfl
  | cons g more ih =>
      rw [List.map_cons, List.mem_cons, not_or] at h
      rw [List.foldl_cons, ih h.2, get?_set_of_ne h.1]

theorem get?_foldl_set_of_mem {fields : List (String × α)} {m : Dict α} {f : String × α}
    (hkeys : (fields.map Prod.fst).Nodup) (h : f ∈ fields) :
    (fields.foldl (fun m f => m.set f.1 f.2) m).get? f.1 = some f.2 := by
  induction fields generalizing m with
  | nil => cases h
  | cons g more ih =>
      rw [List.map_cons, List.nodup_cons] at hkeys
      rw [List.foldl_cons]
      rcases List.mem_cons.mp h with rfl | h
      · rw [get?_foldl_set_of_not_mem hkeys.1, get?_set_self]
      · exact ih hkeys.2 h

/-- A list that has no key twice becomes a map with the same fields. -/
theorem mem_ofList_iff {fields : List (String × α)} (hkeys : (fields.map Prod.fst).Nodup)
    {f : String × α} : f ∈ (ofList fields).toList ↔ f ∈ fields := by
  refine ⟨mem_of_mem_ofList, fun h => ?_⟩
  unfold ofList
  split
  · rename_i m hm
    simpa [toList_pushAll? hm] using h
  · exact Fields.mem_toList_iff.mpr (get?_foldl_set_of_mem hkeys h)

/-- Of fields with one key the last counts. -/
theorem get?_ofList_of_key (key : String) (values : List α) :
    (ofList (values.map fun value => (key, value))).get? key = values.getLast? := by
  rcases values.eq_nil_or_concat with rfl | ⟨front, last, rfl⟩
  · rfl
  · rw [List.concat_eq_append, List.getLast?_concat]
    unfold ofList
    split
    · rename_i m hm
      have hlast : (key, last) ∈ m.toList := by
        simp [toList_pushAll? hm]
      exact Fields.mem_toList_iff.mp hlast
    · rw [List.map_append, List.foldl_append]
      exact get?_set_self

/-- **A map is built back from its fields**, in whatever order they come. -/
theorem ofList_of_perm {fields : List (String × α)} {m : Dict α} (h : fields.Perm m.toList) :
    ofList fields = m := by
  have hkeys : (fields.map Prod.fst).Nodup :=
    (h.map Prod.fst).nodup_iff.mpr (Fields.nodup_keys m)
  refine Fields.ext_get? fun key => Option.ext fun value => ?_
  calc (ofList fields).get? key = some value
      ↔ (key, value) ∈ (ofList fields).toList :=
        (Fields.mem_toList_iff (f := (key, value))).symm
    _ ↔ (key, value) ∈ fields := mem_ofList_iff hkeys
    _ ↔ (key, value) ∈ m.toList := h.mem_iff
    _ ↔ m.get? key = some value := Fields.mem_toList_iff (f := (key, value))

end Dict

end WebSession
