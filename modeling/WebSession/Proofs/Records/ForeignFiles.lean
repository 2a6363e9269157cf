import WebSession.Proofs.Records.Others

/-!
# WebSession.Proofs.Records.ForeignFiles

**What becomes of files that are no records** (`foreign_after_run`).

A directory of records may have other files in it. Writing, reading and removing go by the name of a
valid id, which is a plain name that no other id has. A sweep goes by less: by how a name begins. So
a foreign file whose name begins like a record's is swept once it is old enough, and all others stay
as they are.
-/

namespace WebSession.Records.Directory

/-! ### Names -/

/-- A name that the record of no id has. -/
def IsForeign (name : String) : Prop := ∀ id, SessionId.isValid id = true → name ≠ fileName id

/-- Foreign are the names that do not begin like a record's, and those that go on with what is no
id. -/
theorem isForeign_iff {name : String} :
    IsForeign name ↔
      isRecordName name = false ∨ ∃ id, name = fileName id ∧ SessionId.isValid id = false := by
  constructor
  · intro h
    cases hname : isRecordName name with
    | false => exact .inl rfl
    | true =>
        rw [isRecordName, List.isPrefixOf_iff_prefix] at hname
        obtain ⟨rest, hrest⟩ := hname
        have hfile : name = fileName (String.ofList rest) := by
          rw [fileName, ← String.toList_inj, String.toList_append, String.toList_ofList, hrest]
        cases hid : SessionId.isValid (String.ofList rest) with
        | true => exact absurd hfile (h _ hid)
        | false => exact .inr ⟨_, hfile, hid⟩
  · rintro (hname | ⟨id, rfl, hid⟩) id' hid' hfile
    · rw [hfile, isRecordName_fileName] at hname
      cases hname
    · rw [fileName_injective hfile, hid'] at hid
      cases hid

/-- The file name of an id is one component of a path: it has no separator, no dot and no NUL. -/
theorem plain_of_mem_fileName {id : String} (hid : SessionId.isValid id = true) {c : Char}
    (hc : c ∈ (fileName id).toList) : c ≠ '/' ∧ c ≠ '.' ∧ c.toNat ≠ 0 := by
  have hword := isAlphanum_of_mem_fileName hid hc
  refine ⟨?_, ?_, ?_⟩
  · rintro rfl
    exact absurd hword (by decide)
  · rintro rfl
    exact absurd hword (by decide)
  · intro hzero
    have hnul : c = Char.ofNat 0 := by rw [← hzero, Char.ofNat_toNat]
    rw [hnul] at hword
    exact absurd hword (by decide)

/-! ### Calls -/

/-- Some call adds a record with a positive age that is shorter than the time since a moment. -/
def Outlived (modified : Int) (calls : List (Int × Access)) : Prop :=
  ∃ now id record maxAge, (now, .add id record maxAge) ∈ calls ∧ SessionId.isValid id = true ∧
    0 < maxAge ∧ modified + 1000 * maxAge < now

theorem any_sweeps_file_iff {calls : List (Int × Access)} (content : Bytes) (modified : Int)
    (mode : Nat) :
    (calls.any fun call => call.2.sweeps call.1 (.file content modified mode)) = true ↔
      Outlived modified calls := by
  rw [List.any_eq_true]
  constructor
  · rintro ⟨⟨now, call⟩, hcall, hsweeps⟩
    obtain ⟨id, record, maxAge, rfl, hage⟩ := Access.sweeps_file_iff.mp hsweeps
    exact ⟨now, id, record, maxAge, hcall, hage⟩
  · rintro ⟨now, id, record, maxAge, hcall, hage⟩
    exact ⟨_, hcall, Access.sweeps_file_iff.mpr ⟨id, record, maxAge, rfl, hage⟩⟩

/-- No call sweeps a directory. -/
theorem any_sweeps_directory {calls : List (Int × Access)} :
    (calls.any fun call => call.2.sweeps call.1 .directory) = false := by
  rw [List.any_eq_false]
  rintro ⟨now, call⟩ -
  cases call <;> simp [Access.sweeps, sweeps, isStale]

/-- **A call for what is no id** is refused and leaves the directory as it is. -/
theorem refused_of_invalid (d : Directory) (now maxAge : Int) {id : String} (record : String)
    (hid : SessionId.isValid id = false) :
    d.add now id record maxAge = (.error .badSessionId, d) ∧ d.get id = .error .badSessionId ∧
      d.remove id = (.error .badSessionId, d) := by
  simp [add, get, remove, hid]

/-- **What calls do to files that are no records.** Whatever is in a directory, whatever calls there
are and whenever:

* under a foreign name nothing appears, directories stay, and a file stays as it is, unless its name
  begins like a record's and a record is added with an age that the file has outlived; then it is
  gone;
* the files of two ids have two names, and the name of a valid id is one component of a path;
* what is read is the file of the id alone;
* a call for what is no id is refused, with nothing changed. -/
theorem foreign_after_run (d : Directory) (calls : List (Int × Access)) :
    (∀ name, IsForeign name →
      (d.under? name = none → (d.run calls).under? name = none) ∧
      (d.under? name = some .directory → (d.run calls).under? name = some .directory) ∧
      ∀ content modified mode, d.under? name = some (.file content modified mode) →
        (isRecordName name = true ∧ Outlived modified calls → (d.run calls).under? name = none) ∧
        (¬ (isRecordName name = true ∧ Outlived modified calls) →
          (d.run calls).under? name = some (.file content modified mode))) ∧
    (∀ id id', fileName id = fileName id' → id = id') ∧
    (∀ id, SessionId.isValid id = true →
      ∀ c ∈ (fileName id).toList, c ≠ '/' ∧ c ≠ '.' ∧ c.toNat ≠ 0) ∧
    (∀ id (d' : Directory), d.under? (fileName id) = d'.under? (fileName id) →
      d.get id = d'.get id) ∧
    ∀ id, SessionId.isValid id = false → ∀ now record maxAge,
      d.add now id record maxAge = (.error .badSessionId, d) ∧ d.get id = .error .badSessionId ∧
        d.remove id = (.error .badSessionId, d) := by
  refine ⟨fun name hname => ?_, fun _ _ => fileName_injective,
    fun _ hid _ => plain_of_mem_fileName hid, fun _ _ => get_congr,
    fun _ hid now record maxAge => refused_of_invalid d now maxAge record hid⟩
  -- no call is about a foreign name, so that it can only be swept
  have hrun : (d.run calls).under? name = (d.under? name).filter fun entry =>
      !(isRecordName name && calls.any fun call => call.2.sweeps call.1 entry) :=
    under?_run fun _ _ id _ hid => hname id hid
  refine ⟨fun hnone => ?_, fun hdirectory => ?_, fun content modified mode hfile => ⟨?_, ?_⟩⟩
  · rw [hrun, hnone, Option.filter_none]
  · rw [hrun, hdirectory, Option.filter_some, any_sweeps_directory]
    simp
  · rintro ⟨hrecord, houtlived⟩
    rw [hrun, hfile, Option.filter_some, hrecord, (any_sweeps_file_iff _ _ _).mpr houtlived]
    rfl
  · intro hkept
    rw [← any_sweeps_file_iff content modified mode, ← Bool.and_eq_true, Bool.not_eq_true] at hkept
    rw [hrun, hfile, Option.filter_some, hkept]
    rfl

/-- A file that nobody added is swept with the records, and one with another name is not. -/
theorem foreign_file_swept :
    let file : Entry := .file (Bytes.ofText "x") 0 0o644
    let d : Directory := ⟨some ((Dict.empty.set "sess_NOT-AN-ID" file).set "other" file)⟩
    let calls : List (Int × Access) := [(60001, .add "bb" "new" 60)]
    (d.run calls).under? "sess_NOT-AN-ID" = none ∧ (d.run calls).under? "other" = some file := by
  intro file d calls
  obtain ⟨hforeign, -⟩ := foreign_after_run d calls
  have houtlived : Outlived 0 calls :=
    ⟨60001, "bb", "new", 60, List.mem_cons_self, by decide, by decide, by decide⟩
  constructor
  · have hname : IsForeign "sess_NOT-AN-ID" :=
      isForeign_iff.mpr (.inr ⟨"NOT-AN-ID", by decide, by decide⟩)
    have hfile : d.under? "sess_NOT-AN-ID" = some file :=
      (Dict.get?_set_of_ne (by decide)).trans Dict.get?_set_self
    exact ((hforeign _ hname).2.2 _ _ _ hfile).1 ⟨by decide, houtlived⟩
  · have hname : IsForeign "other" := isForeign_iff.mpr (.inl (by decide))
    have hfile : d.under? "other" = some file := Dict.get?_set_self
    exact ((hforeign _ hname).2.2 _ _ _ hfile).2 fun h => absurd h.1 (by decide)

end WebSession.Records.Directory
