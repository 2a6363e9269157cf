import WebSession.Proofs.Records.Sweep

/-!
# WebSession.Proofs.Records.Conditions

**What stands in the way of a call stays where it is.** Whether a record is added or dropped hangs on
the conditions in its store alone (`add_fst`, `forgiven_remove_fst`): a directory that is missing or
stands in the place of a record, a server that is out of reach or refuses. Of the records that are
there none has a part in it. And no call changes the conditions (`conditions_add`,
`conditions_remove`), so that a call comes to the same whatever calls there were before.
-/

namespace WebSession.Records

variable {id : String}

/-- What stands in the way of calls to a store of each kind. -/
inductive Conditions where
  | memory
  /-- The directory may be missing, and directories may stand in the place of records. -/
  | directory (there : Bool) (blocked : String → Bool)
  | unreachable
  /-- A server that forgets values some time after their age, if ever, or refuses. -/
  | connected (grace? : Option Nat) (refusing : Bool)

/-- What comes of adding a record. -/
def Conditions.adding (id : String) (maxAge : Int) : Conditions → Except Error Unit
  | .memory => .ok ()
  | .directory there blocked =>
    if !SessionId.isValid id then .error .badSessionId
    else if !there then .error (.other (if 0 < maxAge then "read dir" else "open"))
    else if blocked id then .error (.other "open")
    else .ok ()
  | .unreachable => .error Redis.noConnection
  | .connected _ refusing => if refusing then .error (.other "Redis set error") else .ok ()

/-- What comes of removing a record that may be missing. -/
def Conditions.dropping (id : String) : Conditions → Except Error Unit
  | .memory => .ok ()
  | .directory there blocked =>
    if !SessionId.isValid id then .error .badSessionId
    else if there && blocked id then .error (.other "remove")
    else .ok ()
  | .unreachable => .error Redis.noConnection
  | .connected _ refusing => if refusing then .error (.other "Redis delete error") else .ok ()

/-- No directory stands in the place of a record. -/
def Conditions.Free (id : String) : Conditions → Prop
  | .directory _ blocked => blocked id = false
  | _ => True

/-- What dropping a record makes of the answer to a removal. -/
def forgiven : Except Error Unit → Except Error Unit
  | .error .noSession => .ok ()
  | answer => answer

/-! ### In a directory -/

namespace Directory

/-- A directory stands in the place of the record of an id. -/
def blocks (d : Directory) (id : String) : Bool :=
  match d.found? id with
  | some .directory => true
  | _ => false

theorem blocks_iff {d : Directory} : d.blocks id = true ↔ d.found? id = some .directory := by
  unfold blocks
  split <;> simp_all

theorem blocks_eq {d d' : Directory}
    (h : d.found? id = some .directory ↔ d'.found? id = some .directory) :
    d.blocks id = d'.blocks id :=
  Bool.eq_iff_iff.mpr (blocks_iff.trans (h.trans blocks_iff.symm))

theorem add_fst (d : Directory) (now maxAge : Int) (id record : String) :
    (d.add now id record maxAge).1 =
      (Conditions.directory d.entries?.isSome d.blocks).adding id maxAge := by
  obtain ⟨entries?⟩ := d
  cases hid : SessionId.isValid id with
  | false => simp [add, Conditions.adding, hid]
  | true =>
      cases entries? with
      | none => simp [add, Conditions.adding, hid]
      | some entries =>
          have hblocks : blocks ⟨some entries⟩ id = true ↔
              entries.get? (fileName id) = some .directory := blocks_iff
          rw [add_of_some hid]
          cases hwrite : write (swept entries now maxAge) now (fileName id) record with
          | ok written =>
              have hfree : blocks ⟨some entries⟩ id = false := by
                refine Bool.eq_false_iff.mpr fun h => ?_
                rw [write_eq_error_iff.mpr ⟨get?_swept_directory_iff.mpr (hblocks.mp h), rfl⟩]
                  at hwrite
                cases hwrite
              simp [Conditions.adding, hid, hfree]
          | error e =>
              obtain ⟨hentry, rfl⟩ := write_eq_error_iff.mp hwrite
              have hblocked := hblocks.mpr (get?_swept_directory_iff.mp hentry)
              simp [Conditions.adding, hid, hblocked]

theorem forgiven_remove_fst (d : Directory) (id : String) :
    forgiven (d.remove id).1 =
      (Conditions.directory d.entries?.isSome d.blocks).dropping id := by
  obtain ⟨entries?⟩ := d
  cases hid : SessionId.isValid id with
  | false => simp [remove, Conditions.dropping, hid, forgiven]
  | true =>
      cases entries? with
      | none => simp [remove, Conditions.dropping, hid, forgiven]
      | some entries =>
          cases hentry : entries.get? (fileName id) with
          | none => simp [remove, Conditions.dropping, hid, hentry, blocks, found?, forgiven]
          | some entry =>
              cases entry with
              | directory =>
                  simp [remove, Conditions.dropping, hid, hentry, blocks, found?, forgiven]
              | file content modified mode =>
                  simp [remove, Conditions.dropping, hid, hentry, blocks, found?, forgiven]

theorem isSome_entries?_add (d : Directory) (now maxAge : Int) (id record : String) :
    (d.add now id record maxAge).2.entries?.isSome = d.entries?.isSome := by
  obtain ⟨entries?⟩ := d
  cases hid : SessionId.isValid id with
  | false => simp [add, hid]
  | true =>
      cases entries? with
      | none => simp [add, hid]
      | some entries =>
          rw [add_of_some hid]
          split <;> rfl

theorem blocks_add (d : Directory) (now maxAge : Int) (id record : String) :
    (d.add now id record maxAge).2.blocks = d.blocks := by
  funext other
  obtain ⟨entries?⟩ := d
  cases hid : SessionId.isValid id with
  | false => simp [add, hid]
  | true =>
      cases entries? with
      | none => simp [add, hid]
      | some entries =>
          rw [add_of_some hid]
          cases hwrite : write (swept entries now maxAge) now (fileName id) record with
          | error e => exact blocks_eq get?_swept_directory_iff
          | ok written =>
              have hsame : written.get? (fileName other) = some .directory ↔
                  (swept entries now maxAge).get? (fileName other) = some .directory := by
                by_cases hother : other = id
                · subst hother
                  obtain ⟨mode, hget⟩ := get?_of_write hwrite
                  refine iff_of_false (fun h => ?_) fun h => ?_
                  · cases hget.symm.trans h
                  · cases (write_eq_error_iff.mpr ⟨h, rfl⟩).symm.trans hwrite
                · have hname : fileName other ≠ fileName id :=
                    fun h => hother (fileName_injective h)
                  rw [get?_of_write_of_ne hname hwrite]
              exact blocks_eq (hsame.trans get?_swept_directory_iff)

theorem entries?_remove_cases (d : Directory) (id : String) :
    (d.remove id).2 = d ∨ (d.remove id).1 = .ok () ∧ ∃ entries content modified mode,
      d.entries? = some entries ∧ entries.get? (fileName id) = some (.file content modified mode) ∧
        (d.remove id).2 = ⟨some (entries.erase (fileName id))⟩ := by
  unfold remove
  split
  · exact Or.inl rfl
  · split
    · exact Or.inl rfl
    · rename_i entries hentries
      split
      · exact Or.inl rfl
      · exact Or.inl rfl
      · rename_i content modified mode hentry
        exact Or.inr ⟨rfl, entries, content, modified, mode, hentries, hentry, rfl⟩

theorem blocks_remove (d : Directory) (id : String) : (d.remove id).2.blocks = d.blocks := by
  funext other
  by_cases hother : other = id
  · subst hother
    rcases d.entries?_remove_cases other with
      h | ⟨-, entries, content, modified, mode, h, hentry, hd⟩
    · rw [h]
    · simp [blocks, found?, hd, h, hentry]
  · exact blocks_eq (by rw [found?_remove_of_ne hother])

end Directory

/-! ### In any store -/

/-- The conditions in a store. -/
def conditions : Records → Conditions
  | .memory _ => .memory
  | .directory d => .directory d.entries?.isSome d.blocks
  | .redis .unreachable => .unreachable
  | .redis (.connected _ grace? refusing) => .connected grace? refusing

/-- Adding a record fails before anything is done, unless a directory stands in its place. -/
theorem add_of_error {r : Records} {now maxAge : Int} {text : String} {e : Error}
    (hfree : r.conditions.Free id) (h : (r.add now id text maxAge).1 = .error e) :
    (r.add now id text maxAge).2 = r := by
  cases r with
  | memory m => cases h
  | redis server => exact congrArg Records.redis (Redis.get_add_of_error h)
  | directory d =>
      have hblocks : d.blocks id = false := hfree
      obtain ⟨entries?⟩ := d
      cases hid : SessionId.isValid id with
      | false => simp [add, Directory.add, hid]
      | true =>
          cases entries? with
          | none => simp [add, Directory.add, hid]
          | some entries =>
              have hfailed : (Directory.add ⟨some entries⟩ now id text maxAge).1 = .error e := h
              rw [Directory.add_of_some hid] at hfailed
              cases hwrite : Directory.write (Directory.swept entries now maxAge) now
                  (Directory.fileName id) text with
              | ok written =>
                  rw [hwrite] at hfailed
                  cases hfailed
              | error e' =>
                  have hentry := Directory.get?_swept_directory_iff.mp
                    (Directory.write_eq_error_iff.mp hwrite).1
                  have hblocked : Directory.blocks ⟨some entries⟩ id = true :=
                    Directory.blocks_iff.mpr hentry
                  cases hblocks.symm.trans hblocked

/-- **Whether a record is added** hangs on the conditions alone. -/
theorem add_fst (records : Records) (now maxAge : Int) (id record : String) :
    (records.add now id record maxAge).1 = records.conditions.adding id maxAge := by
  cases records with
  | memory m => rfl
  | directory d => exact d.add_fst now maxAge id record
  | redis r =>
      cases r with
      | unreachable => rfl
      | connected leases grace? refusing => cases refusing <;> rfl

/-- **So does whether it is dropped.** -/
theorem forgiven_remove_fst (records : Records) (now : Int) (id : String) :
    forgiven (records.remove now id).1 = records.conditions.dropping id := by
  cases records with
  | memory m =>
      have hgone : forgiven (m.remove id).1 = .ok () := by
        rcases m.remove_succeeds id with h | h <;> rw [h] <;> rfl
      exact hgone
  | directory d => exact d.forgiven_remove_fst id
  | redis r =>
      cases r with
      | unreachable => rfl
      | connected leases grace? refusing =>
          cases refusing with
          | true => rfl
          | false =>
              simp only [remove, Redis.remove, Prod.map]
              split <;> rfl

/-- **No call changes the conditions.** -/
theorem conditions_add (records : Records) (now maxAge : Int) (id record : String) :
    (records.add now id record maxAge).2.conditions = records.conditions := by
  cases records with
  | memory m => rfl
  | directory d =>
      have hadd : ((Records.directory d).add now id record maxAge).2 =
          .directory (d.add now id record maxAge).2 := rfl
      rw [hadd, conditions, conditions, d.isSome_entries?_add, d.blocks_add]
  | redis r =>
      cases r with
      | unreachable => rfl
      | connected leases grace? refusing => cases refusing <;> rfl

theorem conditions_remove (records : Records) (now : Int) (id : String) :
    (records.remove now id).2.conditions = records.conditions := by
  cases records with
  | memory m => rfl
  | directory d =>
      have hremove : ((Records.directory d).remove now id).2 = .directory (d.remove id).2 := rfl
      have hthere : (d.remove id).2.entries?.isSome = d.entries?.isSome := by
        rcases d.entries?_remove_cases id with h | ⟨-, entries, -, -, -, h, -, hd⟩
        · rw [h]
        · rw [hd, h]
          rfl
      rw [hremove, conditions, conditions, hthere, d.blocks_remove]
  | redis r =>
      cases r with
      | unreachable => rfl
      | connected leases grace? refusing => cases refusing <;> rfl

end WebSession.Records
