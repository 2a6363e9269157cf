import WebSession.Json.Reader
import WebSession.Proofs.Fields
import WebSession.Value.Json

/-!
# WebSession.Proofs.Json

**How high the values are that are read** from a JSON text: no higher than the levels that reading
follows, and the height of the embedded texts that it comes to (`height_value?`). The fields of a
text without embedded ones are therefore lower than `Json.maxHeight` (`height_of_readPlain?`); and
session values are as high as the JSON values that they are made of (`height_ofJson`).

Reading follows the levels one by one, and so does the induction. On one level it is a matter of the
reader of the next one what the items of an array and the values of an object are.
-/

namespace WebSession

namespace Json

/-! ### Heights -/

/-- The items of an array are no higher than the greatest height among them. -/
theorem heightOfItems_le_iff {items : List Json} {n : Nat} :
    heightOfItems items ≤ n ↔ ∀ j ∈ items, j.height ≤ n := by
  induction items with
  | nil => simp [heightOfItems]
  | cons j rest ih => rw [heightOfItems, Nat.max_le, ih, List.forall_mem_cons]

/-- The values of an object are no higher than the greatest height among them. -/
theorem heightOfFields_le_iff {lo : Option String} {fields : Fields Json lo} {n : Nat} :
    heightOfFields fields ≤ n ↔ ∀ f ∈ fields.toList, f.2.height ≤ n := by
  induction fields with
  | nil => simp [heightOfFields]
  | cons key above j rest ih =>
      rw [heightOfFields, Nat.max_le, ih, Fields.toList_cons, List.forall_mem_cons]

/-- An object is one level higher than its fields. -/
theorem height_ofFields_le {fields : List (String × Json)} {n : Nat}
    (h : ∀ f ∈ fields, f.2.height ≤ n) : (ofFields fields).height ≤ n + 1 := by
  rw [ofFields, height]
  exact Nat.succ_le_succ (heightOfFields_le_iff.mpr fun f hf => h f (Dict.mem_of_mem_ofList hf))

/-! ### One level -/

variable {value : Reader Json} {whole? : Bytes → Option Json} {bound levels n : Nat} {b rest : Bytes}

/-- A reader gives values that are no higher than a height. -/
def Reader.Within (value : Reader Json) (n : Nat) : Prop :=
  ∀ b j rest, value b = .ok (j, rest) → j.height ≤ n

/-- The items of an array are values of the reader. -/
theorem height_items? (hvalue : Reader.Within value n) {done items : List Json}
    (hdone : ∀ j ∈ done, j.height ≤ n) (h : items? value bound done b = .ok (items, rest)) :
    ∀ j ∈ items, j.height ≤ n := by
  induction bound generalizing done b with
  | zero => cases h
  | succ bound ih =>
      rw [items?] at h
      cases hread : value b with
      | error fault =>
          rw [hread] at h
          cases h
      | ok p =>
          obtain ⟨j, behind⟩ := p
          rw [hread] at h
          have hdone' : ∀ i ∈ j :: done, i.height ≤ n :=
            List.forall_mem_cons.mpr ⟨hvalue b j behind hread, hdone⟩
          dsimp only at h
          split at h
          · exact ih hdone' h
          · cases h
            exact fun i hi => hdone' i (List.mem_reverse.mp hi)
          · cases h

/-- So are the values of the fields of an object. -/
theorem height_fieldsFrom? (hvalue : Reader.Within value n) {texts : Nat} {key : String}
    {done fields : List (String × Json)} (hdone : ∀ f ∈ done, f.2.height ≤ n)
    (h : fieldsFrom? value texts bound done key b = .ok (fields, rest)) :
    ∀ f ∈ fields, f.2.height ≤ n := by
  induction bound generalizing done key b with
  | zero => cases h
  | succ bound ih =>
      rw [fieldsFrom?] at h
      cases hread : value b with
      | error fault =>
          rw [hread] at h
          cases h
      | ok p =>
          obtain ⟨j, behind⟩ := p
          rw [hread] at h
          have hdone' : ∀ f ∈ (key, j) :: done, f.2.height ≤ n :=
            List.forall_mem_cons.mpr ⟨hvalue b j behind hread, hdone⟩
          dsimp only at h
          split at h
          · split at h
            · exact ih hdone' h
            · cases h
          · cases h
            exact fun f hf => hdone' f (List.mem_reverse.mp hf)
          · cases h

theorem height_fields? (hvalue : Reader.Within value n) {fields : List (String × Json)}
    (h : fields? bound value b = .ok (fields, rest)) : ∀ f ∈ fields, f.2.height ≤ n := by
  unfold fields? at h
  split at h
  · cases h
    exact fun f hf => nomatch hf
  · cases hkey : key? bound (skipBlank b) with
    | none =>
        rw [hkey] at h
        cases h
    | some p =>
        rw [hkey] at h
        exact height_fieldsFrom? hvalue (List.forall_mem_nil _) h

/-- An embedded text stands for its value, and any other object is one level higher than its
values. -/
theorem height_object? (hvalue : Reader.Within value n)
    (hwhole : ∀ b j, whole? b = some j → j.height ≤ n + 1) {j : Json}
    (h : object? bound whole? value b = .ok (j, rest)) : j.height ≤ n + 1 := by
  have hfields : ∀ {read : Except Fault (List (String × Json) × Bytes)},
      (∀ fields rest, read = .ok (fields, rest) → ∀ f ∈ fields, f.2.height ≤ n) →
      (read.map fun p => (ofFields p.1, p.2)) = .ok (j, rest) → j.height ≤ n + 1 := by
    intro read hread h
    cases read with
    | error fault => cases h
    | ok p =>
        cases h
        exact height_ofFields_le (hread p.1 p.2 rfl)
  unfold object? at h
  split at h
  · split at h
    · unfold embedded? at h
      rename_i behind _ _
      cases htext : text? bound behind with
      | error fault =>
          rw [htext] at h
          cases h
      | ok p =>
          rw [htext] at h
          dsimp only [bind, Except.bind] at h
          split at h
          · cases h
          · rename_i hsome _
            cases h
            exact hwhole _ _ hsome
          · cases h
    · -- the first key is another one, and the object is read on from behind it
      exact hfields (fun fields rest h => height_fieldsFrom? hvalue (List.forall_mem_nil _) h) h
  · exact hfields (fun fields rest h => height_fields? hvalue h) h

/-- A number has nothing inside. -/
theorem height_number {negative : Bool} {x : Binary64} {j : Json}
    (h : Number.finite? negative x = some j) : j.height = 0 := by
  rw [Number.finite?, Option.dite_none_right_eq_some] at h
  obtain ⟨hfinite, h⟩ := h
  rw [← Option.some.inj h]
  rfl

theorem height_literal {l : Number.Literal} {j : Json} (h : l.value? = some j) : j.height = 0 := by
  unfold Number.Literal.value? at h
  dsimp only at h
  split at h
  · split at h
    · split at h
      · cases h
        rfl
      · exact height_number h
    · cases h
      rfl
  · obtain ⟨x, -, hx⟩ := Option.bind_eq_some_iff.mp h
    exact height_number hx

/-- Nor has a text or a word. -/
theorem height_scalar? {j : Json} (h : scalar? bound b = some (j, rest)) : j.height = 0 := by
  have hmap : ∀ {α : Type} {read : Option α} {f : α → Json × Bytes},
      (∀ a, (f a).1.height = 0) → read.map f = some (j, rest) → j.height = 0 := by
    intro α read f hf h
    obtain ⟨a, -, ha⟩ := Option.map_eq_some_iff.mp h
    rw [← show (f a).1 = j from congrArg Prod.fst ha]
    exact hf a
  unfold scalar? at h
  split at h
  · exact hmap (fun _ => rfl) h
  · exact hmap (fun _ => rfl) h
  · exact hmap (fun _ => rfl) h
  · exact hmap (fun _ => rfl) h
  · obtain ⟨p, -, hp⟩ := Option.bind_eq_some_iff.mp h
    obtain ⟨i, hi, hj⟩ := Option.bind_eq_some_iff.mp hp
    cases hj
    exact height_literal hi

/-- A value is one level higher than those inside it. At the last level nothing is inside. -/
theorem height_valueWith? {inner? : Option (Reader Json)}
    (hinner : ∀ inner, inner? = some inner → Reader.Within inner n)
    (hwhole : ∀ b j, whole? b = some j → j.height ≤ n + 1) {j : Json}
    (h : valueWith? bound whole? inner? b = .ok (j, rest)) :
    j.height ≤ n + 1 ∧ (inner? = none → j.height = 0) := by
  unfold valueWith? at h
  split at h
  · -- an array
    cases inner? with
    | none => cases h
    | some inner =>
        refine ⟨?_, fun hnone => nomatch hnone⟩
        dsimp only [orMalformed, bind, Except.bind] at h
        split at h
        · cases h
          exact Nat.le_add_left 1 n
        · cases hitems : items? inner bound [] _ with
          | error fault =>
              rw [hitems] at h
              cases h
          | ok p =>
              rw [hitems] at h
              cases h
              have hall := height_items? (hinner inner rfl) (List.forall_mem_nil _) hitems
              exact Nat.succ_le_succ (heightOfItems_le_iff.mpr hall)
  · -- an object
    cases inner? with
    | none => cases h
    | some inner =>
        exact ⟨height_object? (hinner inner rfl) hwhole h, fun hnone => nomatch hnone⟩
  · -- a scalar
    cases hscalar : scalar? bound (skipBlank b) with
    | none =>
        rw [hscalar] at h
        cases h
    | some p =>
        rw [hscalar] at h
        cases h
        have hzero := height_scalar? hscalar
        exact ⟨hzero ▸ Nat.zero_le _, fun _ => hzero⟩

/-! ### All levels -/

/-- **A value is no higher than the levels that reading follows**, and the height of the embedded
texts that it comes to. -/
theorem height_value? (hwhole : ∀ b j, whole? b = some j → j.height ≤ n) :
    Reader.Within (value? bound whole? levels) (levels + n) := by
  induction levels with
  | zero =>
      intro b j rest h
      rw [value?] at h
      have hnone : ∀ inner, (none : Option (Reader Json)) = some inner → Reader.Within inner n :=
        fun inner hinner => nomatch hinner
      have hzero := (height_valueWith? hnone
        (fun b j h => Nat.le_succ_of_le (hwhole b j h)) h).2 rfl
      rw [hzero]
      exact Nat.zero_le _
  | succ levels ih =>
      intro b j rest h
      rw [value?] at h
      have hinner : ∀ inner, some (value? bound whole? levels) = some inner →
          Reader.Within inner (levels + n) := by
        intro inner hsome
        cases hsome
        exact ih
      have hheight := (height_valueWith? hinner
        (fun b j h => Nat.le_trans (hwhole b j h) (by omega)) h).1
      omega

/-- Reads an object off the front as it stands, but no embedded text. -/
def readPlain? (b : Bytes) : Except Fault (Dict Json × Bytes) :=
  match skipBlank b with
  | 0x7b :: rest =>
    (fields? (roundsFor b) (value? (roundsFor b) (fun _ => none) (maxHeight - 1)) rest).map
      fun p => (Dict.ofList p.1, p.2)
  | rest => .error (otherShape rest)

/-- **Without embedded texts** the values of an object that is read leave room for the object itself
in the levels that reading follows. -/
theorem height_of_readPlain? {fields : Dict Json} (h : readPlain? b = .ok (fields, rest)) :
    ∀ f ∈ fields.toList, f.2.height ≤ maxHeight - 1 := by
  unfold readPlain? at h
  split at h
  · rename_i behind _
    have hvalue : Reader.Within (value? (roundsFor b) (fun _ => none) (maxHeight - 1))
        (maxHeight - 1) := height_value? (n := 0) fun _ _ hnone => nomatch hnone
    cases hread : fields? (roundsFor b)
        (value? (roundsFor b) (fun _ => none) (maxHeight - 1)) behind with
    | error fault =>
        rw [hread] at h
        cases h
    | ok p =>
        rw [hread] at h
        cases h
        exact fun f hf => height_fields? hvalue hread f (Dict.mem_of_mem_ofList hf)
  · cases h

end Json

/-! ### Session values -/

namespace Value

mutual

/-- **A session value is as high** as the JSON value that it is made of. -/
theorem height_ofJson : (j : Json) → (ofJson j).height = j.height
  | .null => by rw [ofJson]; rfl
  | .bool b => by rw [ofJson]; rfl
  | .int n => by rw [ofJson]; split <;> rfl
  | .float x _ => by rw [ofJson]; rfl
  | .str s => by rw [ofJson]; rfl
  | .array items => by rw [ofJson, height, Json.height, heightOfItems_ofJson items]
  | .object fields => by rw [ofJson, height, Json.height, heightOfFields_ofJson fields]

theorem heightOfItems_ofJson : (items : List Json) →
    heightOfItems (items.map ofJson) = Json.heightOfItems items
  | [] => rfl
  | j :: rest => by
    rw [List.map_cons, heightOfItems, Json.heightOfItems, height_ofJson j, heightOfItems_ofJson rest]

theorem heightOfFields_ofJson {lo : Option String} : (fields : Fields Json lo) →
    heightOfFields (ofJson.ofJsonFields fields) = Json.heightOfFields fields
  | .nil => by rw [ofJson.ofJsonFields]; rfl
  | .cons key above j rest => by
    rw [ofJson.ofJsonFields, heightOfFields, Json.heightOfFields, height_ofJson j,
      heightOfFields_ofJson rest]

end

end Value

end WebSession
