/-!
# WebSession.Fields

**Finite maps from text keys**, kept in increasing order of their keys.

Sessions, map values and JSON objects are all such maps. None of them shows the order in
which its keys were written, so a map has one representation only.

Design points:

* The order is part of the type: `Fields α lo` holds fields whose keys lie above the
  bound `lo` and increase strictly. Two maps with the same fields are equal, and no
  operation has an ordering proof to hand on.
* The bound is an index and not a proof field about the entries, so that a type may
  nest inside its own maps (`Value`, `Json`).
* `Fields.toList` is the view in which the operations are described. Keys are compared
  by code point, which is also the order of their UTF-8 octets.
* `Dict.ofList` lets the later of two equal keys win, and gives back the map whose
  fields it is handed (`Dict.ofList_toList`).
-/

namespace WebSession

/-- A key lies above an optional lower bound. -/
def Above : Option String → String → Prop
  | none, _ => True
  | some bound, key => bound < key

/-- Fields with strictly increasing keys, all above the bound `lo`. -/
inductive Fields (α : Type) : Option String → Type where
  | nil {lo : Option String} : Fields α lo
  /-- A field followed by fields of greater keys. -/
  | cons {lo : Option String} (key : String) (above : Above lo key) (value : α)
      (rest : Fields α (some key)) : Fields α lo

/-- A finite map: fields without a lower bound. -/
abbrev Dict (α : Type) := Fields α none

/-- What lies above a key lies above every bound of that key. -/
theorem Above.trans {lo : Option String} {a b : String} (h : Above lo a) (hab : a < b) :
    Above lo b := by
  cases lo with
  | none => trivial
  | some bound => exact String.lt_trans h hab

/-- The keys above a bound are the greater ones. -/
theorem above_some {a b : String} : Above (some a) b ↔ a < b := Iff.rfl

/-- A key other than the bound and not smaller lies above it. -/
theorem above_of_not_lt_of_ne {a b : String} (h : ¬ a < b) (hne : a ≠ b) :
    Above (some b) a := by
  rcases Decidable.em (b < a) with hba | hba
  · exact hba
  · exact absurd (String.le_antisymm (String.not_lt.mp hba) (String.not_lt.mp h)) hne

/-- No key lies above itself. -/
theorem not_above_self (a : String) : ¬ Above (some a) a := String.lt_irrefl a

namespace Fields

variable {α β : Type} {lo : Option String}

/-! ### The view -/

/-- The fields in reverse order in front of a list. -/
def reverseOnto {lo : Option String} : Fields α lo → List (String × α) → List (String × α)
  | .nil, acc => acc
  | .cons key _ value rest, acc => rest.reverseOnto ((key, value) :: acc)

/-- The fields in increasing order of their keys. -/
def toList (m : Fields α lo) : List (String × α) := (m.reverseOnto []).reverse

theorem reverseOnto_eq (m : Fields α lo) (acc : List (String × α)) :
    m.reverseOnto acc = m.toList.reverse ++ acc := by
  induction m generalizing acc with
  | nil => simp [toList, reverseOnto]
  | cons key above value rest ih =>
    rw [toList, reverseOnto, reverseOnto, ih, ih]
    simp

@[simp] theorem toList_nil : (nil : Fields α lo).toList = [] := rfl

@[simp] theorem toList_cons {key : String} {above : Above lo key} {value : α}
    {rest : Fields α (some key)} :
    (cons key above value rest).toList = (key, value) :: rest.toList := by
  rw [toList, reverseOnto, reverseOnto_eq]
  simp

/-- The number of fields. -/
def length (m : Fields α lo) : Nat := m.toList.length

@[simp] theorem length_nil : (nil : Fields α lo).length = 0 := rfl

@[simp] theorem length_cons {key : String} {above : Above lo key} {value : α}
    {rest : Fields α (some key)} : (cons key above value rest).length = rest.length + 1 := by
  simp [length]

/-- The keys in increasing order. -/
def keys (m : Fields α lo) : List String := m.toList.map Prod.fst

/-- There is no field. -/
def isEmpty : Fields α lo → Bool
  | .nil => true
  | .cons .. => false

/-- A value among the fields is smaller than the map that holds it. -/
theorem sizeOf_lt_of_mem {α : Type} [SizeOf α] {lo : Option String} {m : Fields α lo}
    {f : String × α} (h : f ∈ m.toList) : sizeOf f.2 < sizeOf m := by
  induction m with
  | nil => simp at h
  | cons key above value rest ih =>
    rcases List.mem_cons.mp (toList_cons ▸ h) with rfl | h
    · simp only [cons.sizeOf_spec]; omega
    · have := ih h
      simp only [cons.sizeOf_spec]; omega

/-! ### Looking up -/

/-- The value under a key. -/
def get? {lo : Option String} (key : String) : Fields α lo → Option α
  | .nil => none
  | .cons k _ value rest => if key = k then some value else rest.get? key

/-- Whether a key has a value. -/
def contains (key : String) (m : Fields α lo) : Bool := (m.get? key).isSome

@[simp] theorem get?_nil {key : String} : (nil : Fields α lo).get? key = none := rfl

theorem get?_cons {key k : String} {above : Above lo k} {value : α}
    {rest : Fields α (some k)} :
    (cons k above value rest).get? key = if key = k then some value else rest.get? key := rfl

/-- A key at or below the bound has no value. -/
theorem get?_eq_none_of_not_above {key : String} {m : Fields α lo} (h : ¬ Above lo key) :
    m.get? key = none := by
  induction m with
  | nil => rfl
  | cons k above value rest ih =>
    have hne : key ≠ k := fun e => h (e ▸ above)
    rw [get?_cons, if_neg hne]
    exact ih fun hk => h (above.trans hk)

/-! ### Changing -/

/-- Gives a key a value, replacing the one it had. -/
def insert {lo : Option String} (key : String) (above : Above lo key) (value : α) :
    Fields α lo → Fields α lo
  | .nil => .cons key above value .nil
  | .cons k aboveK v rest =>
    if hlt : key < k then .cons key above value (.cons k (above_some.mpr hlt) v rest)
    else if heq : key = k then .cons k aboveK value rest
    else .cons k aboveK v (rest.insert key (above_of_not_lt_of_ne hlt heq) value)

/-- The same fields under a lower bound. -/
def lower {lo lo' : Option String} (h : ∀ key, Above lo key → Above lo' key) :
    Fields α lo → Fields α lo'
  | .nil => .nil
  | .cons key above value rest => .cons key (h key above) value rest

/-- Takes a key's value away. -/
def erase {lo : Option String} (key : String) : Fields α lo → Fields α lo
  | .nil => .nil
  | .cons k above value rest =>
    if key = k then rest.lower fun _ h => above.trans (above_some.mp h)
    else .cons k above value (rest.erase key)

/-- Changes every value. -/
def map {lo : Option String} (f : α → β) : Fields α lo → Fields β lo
  | .nil => .nil
  | .cons key above value rest => .cons key above (f value) (rest.map f)

@[simp] theorem toList_lower {lo' : Option String} {h : ∀ key, Above lo key → Above lo' key}
    {m : Fields α lo} : (m.lower h).toList = m.toList := by
  cases m <;> simp [lower]

@[simp] theorem get?_lower {lo' : Option String} {h : ∀ key, Above lo key → Above lo' key}
    {m : Fields α lo} {key : String} : (m.lower h).get? key = m.get? key := by
  cases m <;> rfl

@[simp] theorem toList_map {f : α → β} {m : Fields α lo} :
    (m.map f).toList = m.toList.map fun kv => (kv.1, f kv.2) := by
  induction m with
  | nil => rfl
  | cons key above value rest ih => simp [map, ih]

@[simp] theorem get?_map {f : α → β} {m : Fields α lo} {key : String} :
    (m.map f).get? key = (m.get? key).map f := by
  induction m with
  | nil => rfl
  | cons k above value rest ih =>
    rw [map, get?_cons, get?_cons, ih]
    split <;> rfl

/-- Looking up the key just inserted gives its value. -/
@[simp] theorem get?_insert_self {key : String} {above : Above lo key} {value : α}
    {m : Fields α lo} : (m.insert key above value).get? key = some value := by
  induction m with
  | nil => simp [insert, get?_cons]
  | cons k aboveK v rest ih =>
    unfold insert
    split
    · simp [get?_cons]
    · split
      · rename_i heq
        rw [get?_cons, if_pos heq]
      · rename_i hne
        rw [get?_cons, if_neg hne, ih]

/-- Inserting a key leaves the values of all others. -/
theorem get?_insert_of_ne {key other : String} {above : Above lo key} {value : α}
    {m : Fields α lo} (hne : other ≠ key) :
    (m.insert key above value).get? other = m.get? other := by
  induction m with
  | nil => simp [insert, get?_cons, hne]
  | cons k aboveK v rest ih =>
    unfold insert
    split
    · rw [get?_cons, if_neg hne]
      rfl
    · split
      · rename_i heq
        rw [get?_cons, get?_cons, if_neg (heq ▸ hne), if_neg (heq ▸ hne)]
      · rw [get?_cons, get?_cons, ih]

/-- An erased key has no value. -/
@[simp] theorem get?_erase_self {key : String} {m : Fields α lo} :
    (m.erase key).get? key = none := by
  induction m with
  | nil => rfl
  | cons k above value rest ih =>
    unfold erase
    split
    · rename_i heq
      rw [get?_lower]
      exact get?_eq_none_of_not_above (heq ▸ not_above_self key)
    · rename_i hne
      rw [get?_cons, if_neg hne, ih]

/-- Erasing a key leaves the values of all others. -/
theorem get?_erase_of_ne {key other : String} {m : Fields α lo} (hne : other ≠ key) :
    (m.erase key).get? other = m.get? other := by
  induction m with
  | nil => rfl
  | cons k above value rest ih =>
    unfold erase
    split
    · rename_i heq
      rw [get?_lower, get?_cons, if_neg (heq ▸ hne)]
    · rw [get?_cons, get?_cons, ih]

/-- Maps in which every key has the same value are equal. -/
theorem ext_get? {m n : Fields α lo} (h : ∀ key, m.get? key = n.get? key) : m = n := by
  induction m with
  | nil =>
    cases n with
    | nil => rfl
    | cons k above value rest =>
      have := h k
      simp [get?_cons] at this
  | cons k above value rest ih =>
    cases n with
    | nil =>
      have := h k
      simp [get?_cons] at this
    | cons k' above' value' rest' =>
      -- the first keys agree: the smaller one of two would be missing in the other map
      have hk : k = k' := by
        rcases Decidable.em (k = k') with e | hne
        · exact e
        · have h1 := h k
          have h2 := h k'
          rw [get?_cons, get?_cons, if_pos rfl, if_neg hne] at h1
          rw [get?_cons, get?_cons, if_neg (Ne.symm hne), if_pos rfl] at h2
          rcases Decidable.em (k' < k) with hlt | hlt
          · rw [get?_eq_none_of_not_above (m := rest) (String.lt_asymm hlt)] at h2
            cases h2
          · rw [get?_eq_none_of_not_above (m := rest') hlt] at h1
            cases h1
      subst hk
      have hv := h k
      rw [get?_cons, get?_cons, if_pos rfl, if_pos rfl] at hv
      cases hv
      -- behind the first key the maps agree too, since it is in neither rest
      have hrest : rest = rest' := by
        apply ih
        intro key
        rcases Decidable.em (key = k) with e | hne
        · rw [e, get?_eq_none_of_not_above (not_above_self k),
            get?_eq_none_of_not_above (not_above_self k)]
        · have := h key
          rwa [get?_cons, get?_cons, if_neg hne, if_neg hne] at this
      rw [hrest]

end Fields

namespace Dict

variable {α : Type}

/-- The map without fields. -/
def empty : Dict α := .nil

/-- Gives a key a value, replacing the one it had. -/
def set (m : Dict α) (key : String) (value : α) : Dict α := Fields.insert key trivial value m

@[simp] theorem get?_set_self {m : Dict α} {key : String} {value : α} :
    (m.set key value).get? key = some value := Fields.get?_insert_self

theorem get?_set_of_ne {m : Dict α} {key other : String} {value : α} (hne : other ≠ key) :
    (m.set key value).get? other = m.get? other := Fields.get?_insert_of_ne hne

/-! ### Building from a list -/

/-- Puts a field in front of all others, if its key is the least. -/
def pushFront? (key : String) (value : α) : Dict α → Option (Dict α)
  | .nil => some (.cons key trivial value .nil)
  | .cons k _ v rest =>
    if h : key < k then some (.cons key trivial value (.cons k (above_some.mpr h) v rest))
    else none

/-- Puts fields of decreasing keys in front of a map, one by one. -/
def pushAll? : List (String × α) → Dict α → Option (Dict α)
  | [], m => some m
  | (key, value) :: more, m =>
    match pushFront? key value m with
    | some m' => pushAll? more m'
    | none => none

/-- The map with the given fields, the later of two equal keys winning. A list that is in
order already is taken over as it stands. -/
def ofList (fields : List (String × α)) : Dict α :=
  match pushAll? fields.reverse .nil with
  | some m => m
  | none => fields.foldl (fun m f => m.set f.1 f.2) .nil

theorem pushAll?_append (a b : List (String × α)) (m : Dict α) :
    pushAll? (a ++ b) m = (pushAll? a m).bind (pushAll? b) := by
  induction a generalizing m with
  | nil => rfl
  | cons f more ih =>
    simp only [List.cons_append, pushAll?]
    cases pushFront? f.1 f.2 m with
    | none => rfl
    | some m' => exact ih m'

theorem pushAll?_toList {lo : Option String} (m : Fields α lo) :
    pushAll? m.toList.reverse .nil = some (m.lower fun _ _ => trivial : Dict α) := by
  induction m with
  | nil => rfl
  | cons key above value rest ih =>
    rw [Fields.toList_cons, List.reverse_cons, pushAll?_append, ih]
    cases rest with
    | nil => rfl
    | cons k h v r =>
      simp only [pushAll?, pushFront?, Fields.lower, dif_pos (above_some.mp h), Option.bind_some]

/-- A map is built back from its own fields. -/
@[simp] theorem ofList_toList (m : Dict α) : ofList m.toList = m := by
  rw [ofList, pushAll?_toList]
  cases m <;> rfl

end Dict

end WebSession
