import WebSession.Proofs.Records

/-!
# WebSession.Proofs.Records.Sweep

**How long a record stays in a directory** (`get_run_of_added`).

A file has no deadline. What ends a record is a later record: adding one with a positive age removes
every record that was not written for longer than *that* age. The age that a record was added with
is asked by nobody.

* A call leaves what stands under another name than that of its record, or sweeps it
  (`under?_step`). So a run leaves it exactly as long as none of its calls sweeps (`under?_run`).
  For records this is `found?_step` and `found?_run`.
* Where all records are added with one age, as a service with one setting does, a record stays for
  its own age (`get_run_of_not_shorter`). Where ages differ it is lost to a shorter one, also if it
  has no limit itself.
-/

namespace WebSession.Records.Directory

/-! ### Names -/

theorem fileName_injective {id id' : String} (h : fileName id = fileName id') : id = id' := by
  have hlist : recordPrefix.toList ++ id.toList = recordPrefix.toList ++ id'.toList := by
    simpa [fileName] using congrArg String.toList h
  exact String.toList_inj.mp (List.append_cancel_left hlist)

theorem isRecordName_fileName (id : String) : isRecordName (fileName id) = true := by
  rw [isRecordName, List.isPrefixOf_iff_prefix, fileName, String.toList_append]
  exact List.prefix_append _ _

/-- The file name of a valid id consists of letters, digits and an underscore. -/
theorem isAlphanum_of_mem_fileName {id : String} (hid : SessionId.isValid id = true) {c : Char}
    (hc : c ∈ (fileName id).toList) : c.isAlphanum = true ∨ c = '_' := by
  rw [fileName, String.toList_append, List.mem_append] at hc
  rcases hc with hc | hc
  · have hsess : recordPrefix.toList = ['s', 'e', 's', 's', '_'] := rfl
    simp only [hsess, List.mem_cons, List.not_mem_nil, or_false] at hc
    rcases hc with rfl | rfl | rfl | rfl | rfl <;> decide
  · rw [SessionId.isValid, Bool.and_eq_true, List.all_eq_true] at hid
    have hdigit : SessionId.isDigit c = true := hid.2 c hc
    simp only [SessionId.isDigit, Bool.or_eq_true, Bool.and_eq_true, decide_eq_true_eq] at hdigit
    refine Or.inl (Bool.or_eq_true_iff.mpr ?_)
    rcases hdigit with ⟨hlow, hhigh⟩ | ⟨hlow, hhigh⟩
    · exact Or.inr (Bool.and_eq_true_iff.mpr ⟨decide_eq_true hlow, decide_eq_true hhigh⟩)
    · have hletter : c ≤ 'z' := Char.le_trans hhigh (by decide)
      exact Or.inl (Bool.or_eq_true_iff.mpr (Or.inr
        (Bool.and_eq_true_iff.mpr ⟨decide_eq_true hlow, decide_eq_true hletter⟩)))

/-! ### One call -/

/-- What stands where the record of an id belongs. -/
def found? (d : Directory) (id : String) : Option Entry :=
  d.entries?.bind (Fields.get? (fileName id))

/-- What stands under a name. -/
def under? (d : Directory) (name : String) : Option Entry := d.entries?.bind (Fields.get? name)

theorem found?_eq_under? {d : Directory} {id : String} : d.found? id = d.under? (fileName id) := rfl

/-- Whether adding a record with an age removes an entry. -/
def sweeps (now maxAge : Int) (entry : Entry) : Bool := 0 < maxAge && isStale now maxAge entry

@[simp] theorem filter_true {o : Option Entry} : o.filter (fun _ => true) = o := by
  cases o <;> rfl

/-- A sweep takes from under a name what it removes, if the name begins like a record's. -/
theorem get?_swept {entries : Dict Entry} {now maxAge : Int} {name : String} :
    (swept entries now maxAge).get? name =
      (entries.get? name).filter fun entry => !(isRecordName name && sweeps now maxAge entry) := by
  unfold swept
  split
  · rename_i hpositive
    simp [sweep, Dict.ofList_filter, Fields.get?_filter, sweeps, hpositive]
  · rename_i hpositive
    simp [sweeps, hpositive]

theorem get?_of_write_of_ne {entries written : Dict Entry} {now : Int} {name other record : String}
    (hne : other ≠ name) (h : write entries now name record = .ok written) :
    written.get? other = entries.get? other := by
  unfold write at h
  split at h
  · cases h
    exact Dict.get?_set_of_ne hne
  · cases h
    exact Dict.get?_set_of_ne hne
  · cases h

/-- Adding a record leaves what stands under another name, unless it sweeps it. -/
theorem under?_add_of_ne {d : Directory} {now maxAge : Int} {id name record : String}
    (hid : SessionId.isValid id = true) (hne : name ≠ fileName id) :
    (d.add now id record maxAge).2.under? name =
      (d.under? name).filter fun entry => !(isRecordName name && sweeps now maxAge entry) := by
  obtain ⟨entries?⟩ := d
  cases entries? with
  | none => simp [add, hid, under?]
  | some entries =>
      rw [add_of_some hid]
      cases hwrite : write (swept entries now maxAge) now (fileName id) record with
      | error e => exact get?_swept
      | ok written => exact (get?_of_write_of_ne hne hwrite).trans get?_swept

theorem under?_remove_of_ne {d : Directory} {id name : String} (hne : name ≠ fileName id) :
    (d.remove id).2.under? name = d.under? name := by
  unfold remove
  split
  · rfl
  · split
    · rfl
    · rename_i entries hentries
      split
      · rfl
      · rfl
      · simp [under?, hentries, Fields.get?_erase_of_ne hne]

/-- Adding a record leaves that of another id, unless it sweeps it. -/
theorem found?_add_of_ne {d : Directory} {now maxAge : Int} {id other record : String}
    (hid : SessionId.isValid id = true) (hne : other ≠ id) :
    (d.add now id record maxAge).2.found? other =
      (d.found? other).filter fun entry => !sweeps now maxAge entry := by
  have hname : fileName other ≠ fileName id := fun h => hne (fileName_injective h)
  rw [found?_eq_under?, under?_add_of_ne hid hname]
  simp [isRecordName_fileName, found?_eq_under?]

theorem found?_remove_of_ne {d : Directory} {id other : String} (hne : other ≠ id) :
    (d.remove id).2.found? other = d.found? other :=
  under?_remove_of_ne fun h => hne (fileName_injective h)

/-! ### Runs -/

/-- A call to the records of a directory. -/
inductive Access where
  | add (id record : String) (maxAge : Int)
  | get (id : String)
  | remove (id : String)

/-- Whether a call writes or removes the record of an id. -/
def Access.changes (id : String) : Access → Bool
  | .add id' _ _ => id' = id
  | .get _ => false
  | .remove id' => id' = id

/-- Whether a call removes an entry that it is not about. -/
def Access.sweeps (now : Int) (entry : Entry) : Access → Bool
  | .add id _ maxAge => SessionId.isValid id && Directory.sweeps now maxAge entry
  | .get _ => false
  | .remove _ => false

/-- The directory after a call at a millisecond. -/
def step (d : Directory) (now : Int) : Access → Directory
  | .add id record maxAge => (d.add now id record maxAge).2
  | .get _ => d
  | .remove id => (d.remove id).2

/-- The directory after some calls, each at its millisecond. -/
def run (d : Directory) : List (Int × Access) → Directory
  | [] => d
  | (now, call) :: more => (d.step now call).run more

/-- **One call** leaves what stands under any name but that of its own record, unless it sweeps
it. -/
theorem under?_step {d : Directory} {now : Int} {call : Access} {name : String}
    (h : ∀ id, call.changes id = true → SessionId.isValid id = true → name ≠ fileName id) :
    (d.step now call).under? name =
      (d.under? name).filter fun entry => !(isRecordName name && call.sweeps now entry) := by
  cases call with
  | add id record maxAge =>
      cases hid : SessionId.isValid id with
      | false => simp [step, add, hid, Access.sweeps]
      | true =>
          have hne : name ≠ fileName id := h id (decide_eq_true rfl) hid
          simpa [step, Access.sweeps, hid] using under?_add_of_ne hid hne
  | get id => simp [step, Access.sweeps]
  | remove id =>
      cases hid : SessionId.isValid id with
      | false => simp [step, remove, hid, Access.sweeps]
      | true =>
          have hne : name ≠ fileName id := h id (decide_eq_true rfl) hid
          simpa [step, Access.sweeps] using under?_remove_of_ne hne

/-- **A run** leaves what stands under a name that is that of no call's record, unless one of the
calls sweeps it. -/
theorem under?_run {d : Directory} {calls : List (Int × Access)} {name : String}
    (h : ∀ call ∈ calls, ∀ id, call.2.changes id = true → SessionId.isValid id = true →
      name ≠ fileName id) :
    (d.run calls).under? name = (d.under? name).filter fun entry =>
      !(isRecordName name && calls.any fun call => call.2.sweeps call.1 entry) := by
  induction calls generalizing d with
  | nil => simp [run]
  | cons call more ih =>
      obtain ⟨now, call⟩ := call
      have hcall := h (now, call) List.mem_cons_self
      rw [run, ih fun call hmem => h call (List.mem_cons_of_mem _ hmem), under?_step hcall,
        Option.filter_filter]
      congr 1
      funext entry
      cases isRecordName name <;> simp

/-- A call that does not change the record of an id is about no file of its name. -/
theorem Access.fileName_ne {call : Access} {id id' : String} (h : call.changes id = false)
    (h' : call.changes id' = true) : fileName id ≠ fileName id' := by
  intro hname
  rw [fileName_injective hname, h'] at h
  cases h

/-- A call leaves what stands under another id, unless it sweeps it. -/
theorem found?_step {d : Directory} {now : Int} {call : Access} {id : String}
    (h : call.changes id = false) :
    (d.step now call).found? id = (d.found? id).filter fun entry => !call.sweeps now entry := by
  rw [found?_eq_under?, under?_step fun _ h' _ => Access.fileName_ne h h']
  simp [isRecordName_fileName, found?_eq_under?]

/-- A run leaves what stands under an id that no call is about, unless one of them sweeps it. -/
theorem found?_run {d : Directory} {calls : List (Int × Access)} {id : String}
    (h : ∀ call ∈ calls, call.2.changes id = false) :
    (d.run calls).found? id =
      (d.found? id).filter fun entry => !calls.any fun call => call.2.sweeps call.1 entry := by
  rw [found?_eq_under?, under?_run fun call hmem _ h' _ => Access.fileName_ne (h call hmem) h']
  simp [isRecordName_fileName, found?_eq_under?]

/-! ### Added records -/

theorem get_of_found? {d : Directory} {id record : String} {modified : Int} {mode : Nat}
    (hid : SessionId.isValid id = true)
    (h : d.found? id = some (.file (Bytes.ofText record) modified mode)) :
    d.get id = .ok record := by
  rw [found?] at h
  simp [get, hid, h]

theorem get_of_found?_none {d : Directory} {id : String} (hid : SessionId.isValid id = true)
    (h : d.found? id = none) : d.get id = .error .noSession := by
  rw [found?] at h
  simp [get, hid, h]

/-- A record that was added has a valid id and stands there with the time of its writing. -/
theorem found?_add_self {d : Directory} {now maxAge : Int} {id record : String}
    (h : (d.add now id record maxAge).1 = .ok ()) :
    SessionId.isValid id = true ∧ ∃ mode, (d.add now id record maxAge).2.found? id =
      some (.file (Bytes.ofText record) now mode) := by
  obtain ⟨entries?⟩ := d
  cases hid : SessionId.isValid id with
  | false => simp [add, hid] at h
  | true =>
      cases entries? with
      | none => simp [add, hid] at h
      | some entries =>
          rw [add_of_some hid] at h ⊢
          cases hwrite : write (swept entries now maxAge) now (fileName id) record with
          | error e => simp [hwrite] at h
          | ok written => exact ⟨rfl, get?_of_write hwrite⟩

/-- Only adding a record sweeps files: those that are older than its own age. -/
theorem Access.sweeps_file_iff {call : Access} {now modified : Int} {content : Bytes} {mode : Nat} :
    call.sweeps now (.file content modified mode) = true ↔
      ∃ id record maxAge, call = .add id record maxAge ∧ SessionId.isValid id = true ∧
        0 < maxAge ∧ modified + 1000 * maxAge < now := by
  cases call with
  | add id record maxAge =>
      simp only [Access.sweeps, Directory.sweeps, isStale, Bool.and_eq_true, decide_eq_true_eq]
      constructor
      · intro h
        obtain ⟨hid, hpositive, hstale⟩ := h
        exact ⟨id, record, maxAge, rfl, hid, hpositive, by omega⟩
      · intro h
        obtain ⟨id', record', maxAge', heq, hid, hpositive, hlate⟩ := h
        cases heq
        exact ⟨hid, hpositive, by omega⟩
  | get id => simp [Access.sweeps]
  | remove id => simp [Access.sweeps]

variable {d : Directory} {now maxAge : Int} {id record : String} {calls : List (Int × Access)}

/-- What a run leaves of an added record: all of it, or nothing once it was swept. -/
theorem found?_run_of_added (hadded : (d.add now id record maxAge).1 = .ok ())
    (hother : ∀ call ∈ calls, call.2.changes id = false) :
    ∃ mode, ((d.add now id record maxAge).2.run calls).found? id =
      if calls.any (fun call => call.2.sweeps call.1 (.file (Bytes.ofText record) now mode)) then
        none
      else some (.file (Bytes.ofText record) now mode) := by
  obtain ⟨mode, hadd⟩ := (found?_add_self hadded).2
  refine ⟨mode, ?_⟩
  rw [found?_run hother, hadd, Option.filter_some]
  cases calls.any _ <;> rfl

theorem get_run_of_late (hadded : (d.add now id record maxAge).1 = .ok ())
    (hother : ∀ call ∈ calls, call.2.changes id = false) {now' maxAge' : Int} {id' record' : String}
    (hcall : (now', .add id' record' maxAge') ∈ calls) (hid' : SessionId.isValid id' = true)
    (hpositive : 0 < maxAge') (hlate : now + 1000 * maxAge' < now') :
    ((d.add now id record maxAge).2.run calls).get id = .error .noSession := by
  obtain ⟨mode, hrun⟩ := found?_run_of_added hadded hother
  rw [if_pos] at hrun
  · exact get_of_found?_none (found?_add_self hadded).1 hrun
  · exact List.any_eq_true.mpr ⟨_, hcall, Access.sweeps_file_iff.mpr
      ⟨id', record', maxAge', rfl, hid', hpositive, hlate⟩⟩

theorem get_run_of_not_late (hadded : (d.add now id record maxAge).1 = .ok ())
    (hother : ∀ call ∈ calls, call.2.changes id = false)
    (hearly : ∀ now' id' record' maxAge', (now', .add id' record' maxAge') ∈ calls →
      SessionId.isValid id' = true → 0 < maxAge' → now' ≤ now + 1000 * maxAge') :
    ((d.add now id record maxAge).2.run calls).get id = .ok record := by
  obtain ⟨mode, hrun⟩ := found?_run_of_added hadded hother
  rw [if_neg] at hrun
  · exact get_of_found? (found?_add_self hadded).1 hrun
  · intro hswept
    obtain ⟨⟨now', call⟩, hcall, hsweeps⟩ := List.any_eq_true.mp hswept
    obtain ⟨id', record', maxAge', rfl, hid', hpositive, hlate⟩ := Access.sweeps_file_iff.mp hsweeps
    exact absurd hlate (Int.not_lt.mpr (hearly now' id' record' maxAge' hcall hid' hpositive))

/-- **Where no record has a shorter age**, each stays for its own: without limit if it has none. -/
theorem get_run_of_not_shorter (hadded : (d.add now id record maxAge).1 = .ok ())
    (hother : ∀ call ∈ calls, call.2.changes id = false)
    (hages : ∀ now' id' record' maxAge', (now', .add id' record' maxAge') ∈ calls →
      0 < maxAge' → 0 < maxAge ∧ maxAge ≤ maxAge')
    (hlive : 0 < maxAge → ∀ call ∈ calls, call.1 ≤ now + 1000 * maxAge) :
    ((d.add now id record maxAge).2.run calls).get id = .ok record := by
  refine get_run_of_not_late hadded hother ?_
  intro now' id' record' maxAge' hcall _ hpositive
  obtain ⟨hlimited, hage⟩ := hages now' id' record' maxAge' hcall hpositive
  have := hlive hlimited _ hcall
  omega

/-- **When an added record is lost.** As long as its id is neither written nor removed, it is gone
as soon as a record of another id was added with a positive age that is shorter than the time since
the record was added. Otherwise it is there. The age that it was added with itself plays no part. -/
theorem get_run_of_added (hadded : (d.add now id record maxAge).1 = .ok ())
    (hother : ∀ call ∈ calls, call.2.changes id = false) :
    ((∃ now' id' record' maxAge', (now', .add id' record' maxAge') ∈ calls ∧
        SessionId.isValid id' = true ∧ 0 < maxAge' ∧ now + 1000 * maxAge' < now') →
      ((d.add now id record maxAge).2.run calls).get id = .error .noSession) ∧
    ((∀ now' id' record' maxAge', (now', .add id' record' maxAge') ∈ calls →
        SessionId.isValid id' = true → 0 < maxAge' → now' ≤ now + 1000 * maxAge') →
      ((d.add now id record maxAge).2.run calls).get id = .ok record) := by
  constructor
  · intro h
    obtain ⟨now', id', record', maxAge', hcall, hid', hpositive, hlate⟩ := h
    exact get_run_of_late hadded hother hcall hid' hpositive hlate
  · exact get_run_of_not_late hadded hother

/-- A record without limit is lost to one that lives for a minute, as soon as it is older. -/
theorem unlimited_record_swept :
    let d : Directory := {}
    let calls : List (Int × Access) := [(60001, .add "bbb222" "new" 60)]
    (d.add 0 "aaa111" "old" 0).1 = .ok () ∧
      ((d.add 0 "aaa111" "old" 0).2.run calls).get "aaa111" = .error .noSession := by
  intro d calls
  have hadded : (d.add 0 "aaa111" "old" 0).1 = .ok () := rfl
  have hother : ∀ call ∈ calls, call.2.changes "aaa111" = false := by decide
  refine ⟨hadded, (get_run_of_added hadded hother).1 ?_⟩
  exact ⟨60001, "bbb222", "new", 60, List.mem_cons_self, by decide, by decide, by decide⟩

end WebSession.Records.Directory
