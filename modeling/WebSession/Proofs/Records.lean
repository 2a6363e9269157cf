import Mathlib.Tactic.SplitIfs
import WebSession.Proofs.Fields
import WebSession.Records

/-!
# WebSession.Proofs.Records

**A store keeps the record of an id**: what was written is read (`get_add_of_ok`), what was removed
is not (`get_remove_of_gone`), and an operation that fails changes nothing that is read
(`get_add_of_error`, `get_remove_of_error`).

Each kind of store has its own lemmas, for one id and whatever the store holds under the others;
the last section puts them together. Records in memory and on a server know the time, so the first
of them asks that the record is read before its deadline.
-/

namespace WebSession.Records

/-! ### In memory -/

namespace Memory

theorem get_add_self {m : Memory} {now now' maxAge : Int} {id record : String}
    (h : ∀ t, deadline? now maxAge = some t → now' < t) :
    (m.add now id record maxAge).get now' id = .ok record := by
  have hlive : Record.isExpired ⟨record, deadline? now maxAge⟩ now' = false := by
    unfold Record.isExpired
    split
    · rename_i t ht
      exact decide_eq_false (Int.not_le.mpr (h t ht))
    · rfl
  rw [get, add, Dict.get?_set_self]
  dsimp only
  rw [hlive]
  rfl

/-- In memory nothing stands in the way of removing. -/
theorem remove_succeeds (m : Memory) (id : String) :
    (m.remove id).1 = .ok () ∨ (m.remove id).1 = .error .noSession := by
  unfold remove
  split
  · exact Or.inl rfl
  · exact Or.inr rfl

theorem get_remove_self {m : Memory} {now : Int} {id : String} :
    (m.remove id).2.get now id = .error .noSession := by
  unfold remove
  split
  · rw [get, Fields.get?_erase_self]
  · rename_i hnone
    have : m.records.get? id = none := by simpa [Fields.contains] using hnone
    rw [get, this]

end Memory

/-! ### In a directory -/

namespace Directory

/-- A sweep leaves the directories. -/
theorem get?_sweep_directory_iff {entries : Dict Entry} {now maxAge : Int} {name : String} :
    (sweep entries now maxAge).get? name = some .directory ↔
      entries.get? name = some .directory := by
  rw [sweep, Dict.ofList_filter, Fields.get?_filter, Option.filter_eq_some_iff]
  constructor
  · exact And.left
  · intro h
    exact ⟨h, by simp [isStale]⟩

/-- Writing fails only where a directory stands, and there nothing is read before or after. -/
theorem write_eq_error_iff {entries : Dict Entry} {now : Int} {name record : String} {e : Error} :
    write entries now name record = .error e ↔
      entries.get? name = some .directory ∧ e = .other "open" := by
  unfold write
  split <;> rename_i h <;> simp [h, eq_comm]

theorem get?_of_write {entries written : Dict Entry} {now : Int} {name record : String}
    (h : write entries now name record = .ok written) :
    ∃ mode, written.get? name = some (.file (Bytes.ofText record) now mode) := by
  unfold write at h
  split at h
  · cases h
    exact ⟨_, Dict.get?_set_self⟩
  · cases h
    exact ⟨_, Dict.get?_set_self⟩
  · cases h

/-- The entries in which a record is written: with a positive age, those left by a sweep. -/
def swept (entries : Dict Entry) (now maxAge : Int) : Dict Entry :=
  if 0 < maxAge then sweep entries now maxAge else entries

theorem get?_swept_directory_iff {entries : Dict Entry} {now maxAge : Int} {name : String} :
    (swept entries now maxAge).get? name = some .directory ↔
      entries.get? name = some .directory := by
  unfold swept
  split
  · exact get?_sweep_directory_iff
  · exact Iff.rfl

/-- What adding does with a valid id in a directory that exists. -/
theorem add_of_some {entries : Dict Entry} {now maxAge : Int} {id record : String}
    (hid : SessionId.isValid id = true) :
    Directory.add ⟨some entries⟩ now id record maxAge =
      match write (swept entries now maxAge) now (fileName id) record with
      | .ok written => (.ok (), ⟨some written⟩)
      | .error e => (.error e, ⟨some (swept entries now maxAge)⟩) := by
  rw [add]
  simp only [hid]
  rfl

theorem get_add_of_ok {d : Directory} {now maxAge : Int} {id record : String}
    (h : (d.add now id record maxAge).1 = .ok ()) :
    (d.add now id record maxAge).2.get id = .ok record := by
  obtain ⟨entries?⟩ := d
  cases hid : SessionId.isValid id with
  | false => simp [add, hid] at h
  | true =>
      cases entries? with
      | none => simp [add, hid] at h
      | some entries =>
          rw [add_of_some hid] at h ⊢
          cases hw : write (swept entries now maxAge) now (fileName id) record with
          | error e => simp [hw] at h
          | ok written =>
              obtain ⟨mode, hget⟩ := get?_of_write hw
              simp [get, hid, hget]

theorem get_add_of_error {d : Directory} {now maxAge : Int} {id record : String} {e : Error}
    (h : (d.add now id record maxAge).1 = .error e) :
    (d.add now id record maxAge).2.get id = d.get id := by
  obtain ⟨entries?⟩ := d
  cases hid : SessionId.isValid id with
  | false => simp [add, hid]
  | true =>
      cases entries? with
      | none => simp [add, hid]
      | some entries =>
          rw [add_of_some hid] at h ⊢
          cases hw : write (swept entries now maxAge) now (fileName id) record with
          | ok written => simp [hw] at h
          | error e' =>
              have hdir := (write_eq_error_iff.mp hw).1
              simp [get, hid, hdir, get?_swept_directory_iff.mp hdir]

theorem get_remove_of_gone {d : Directory} {id : String}
    (h : (d.remove id).1 = .ok () ∨ (d.remove id).1 = .error .noSession) :
    (d.remove id).2.get id = .error .noSession := by
  obtain ⟨entries?⟩ := d
  cases hid : SessionId.isValid id with
  | false => simp [remove, hid] at h
  | true =>
      cases entries? with
      | none => simp [remove, get, hid]
      | some entries =>
          cases hentry : entries.get? (fileName id) with
          | none => simp [remove, get, hid, hentry]
          | some entry =>
              cases entry with
              | directory => simp [remove, hid, hentry] at h
              | file => simp [remove, get, hid, hentry]

/-- Where a record could not be removed, none is read, and nothing changes. -/
theorem get_remove_of_error {d : Directory} {id : String} {e : Error}
    (h : (d.remove id).1 = .error e) : (d.remove id).2 = d ∧ ∃ e', d.get id = .error e' := by
  obtain ⟨entries?⟩ := d
  cases hid : SessionId.isValid id with
  | false => simp [remove, get, hid]
  | true =>
      cases entries? with
      | none => simp [remove, get, hid]
      | some entries =>
          cases hentry : entries.get? (fileName id) with
          | none => simp [remove, get, hid, hentry]
          | some entry =>
              cases entry with
              | directory => simp [remove, get, hid, hentry]
              | file => simp [remove, hid, hentry] at h

/-- Where there is no record to remove, none is read. -/
theorem get_of_remove_noSession {d : Directory} {id : String}
    (h : (d.remove id).1 = .error .noSession) : d.get id = .error .noSession := by
  have hgone := get_remove_of_gone (Or.inr h)
  rwa [(get_remove_of_error h).1] at hgone

end Directory

/-! ### On a key-value server -/

namespace Redis

variable {r : Redis} {now now' maxAge : Int} {id record : String} {e : Error}

/-- What a server is given with a record to write. -/
def lease (grace? : Option Nat) (now maxAge : Int) (record : String) : Lease :=
  ⟨record, if 0 < maxAge then deadline? grace? now maxAge else none⟩

theorem apply_addCommand {grace? : Option Nat} {leases : Dict Lease} :
    (addCommand id record maxAge).apply grace? now leases =
      leases.set (recordKey id) (lease grace? now maxAge record) := by
  unfold addCommand lease
  split <;> rfl

/-- No server forgets a record before a store in memory does. -/
theorem isOver_lease {grace? : Option Nat}
    (h : ∀ t, Memory.deadline? now maxAge = some t → now' < t) :
    (lease grace? now maxAge record).isOver now' = false := by
  unfold lease Lease.isOver deadline?
  split_ifs with hpositive
  · have := h _ (if_pos hpositive)
    cases grace? with
    | none => rfl
    | some grace =>
        have hafter : ¬ now + 1000 * maxAge + grace ≤ now' := by omega
        exact decide_eq_false hafter
  · rfl

theorem get_add_of_ok (h : (r.add now id record maxAge).1 = .ok ())
    (hlive : ∀ t, Memory.deadline? now maxAge = some t → now' < t) :
    (r.add now id record maxAge).2.get now' id = .ok record := by
  cases r with
  | unreachable => cases h
  | connected leases grace? refusing =>
      cases refusing with
      | true => cases h
      | false =>
          rw [add, apply_addCommand, get, value?, Dict.get?_set_self]
          simp only [isOver_lease hlive]
          rfl

theorem get_add_of_error (h : (r.add now id record maxAge).1 = .error e) :
    (r.add now id record maxAge).2 = r := by
  cases r with
  | unreachable => rfl
  | connected leases grace? refusing =>
      cases refusing with
      | true => rfl
      | false => cases h

theorem get_remove_of_gone
    (h : (r.remove now id).1 = .ok () ∨ (r.remove now id).1 = .error .noSession) :
    (r.remove now id).2.get now' id = .error .noSession := by
  cases r with
  | unreachable => simp [remove, noConnection] at h
  | connected leases grace? refusing =>
      cases refusing with
      | true => simp [remove] at h
      | false => simp [remove, get, value?, removeCommand, Command.apply]

theorem get_of_remove_noSession (h : (r.remove now id).1 = .error .noSession) :
    r.get now id = .error .noSession := by
  cases r with
  | unreachable => simp [remove, noConnection] at h
  | connected leases grace? refusing =>
      cases refusing with
      | true => simp [remove] at h
      | false =>
          cases hvalue : value? leases now (recordKey id) with
          | none => simp [get, hvalue]
          | some record => simp [remove, hvalue] at h

theorem get_remove_of_error (h : (r.remove now id).1 = .error e) (he : e ≠ .noSession) :
    (r.remove now id).2 = r ∧ ∃ e', r.get now' id = .error e' := by
  cases r with
  | unreachable => exact ⟨rfl, _, rfl⟩
  | connected leases grace? refusing =>
      cases refusing with
      | true => exact ⟨rfl, _, rfl⟩
      | false =>
          simp only [remove] at h
          split at h
          · cases h
          · cases h
            exact absurd rfl he

end Redis

/-! ### In any store -/

variable {records : Records} {now maxAge : Int} {id record : String} {e : Error}

/-- **What was written is read** until its deadline. -/
theorem get_add_of_ok {now' : Int} (h : (records.add now id record maxAge).1 = .ok ())
    (hlive : ∀ t, Memory.deadline? now maxAge = some t → now' < t) :
    (records.add now id record maxAge).2.get now' id = .ok record := by
  cases records with
  | memory m => exact Memory.get_add_self hlive
  | directory d => exact Directory.get_add_of_ok h
  | redis r => exact Redis.get_add_of_ok h hlive

/-- What could not be written changes nothing that is read. -/
theorem get_add_of_error (h : (records.add now id record maxAge).1 = .error e) (now' : Int) :
    (records.add now id record maxAge).2.get now' id = records.get now' id := by
  cases records with
  | memory m => cases h
  | directory d => exact Directory.get_add_of_error h
  | redis r => exact congrArg (Redis.get · now' id) (Redis.get_add_of_error h)

/-- **What was removed is not read.** -/
theorem get_remove_of_gone
    (h : (records.remove now id).1 = .ok () ∨ (records.remove now id).1 = .error .noSession)
    (now' : Int) : (records.remove now id).2.get now' id = .error .noSession := by
  cases records with
  | memory m => exact Memory.get_remove_self
  | directory d => exact Directory.get_remove_of_gone h
  | redis r => exact Redis.get_remove_of_gone h

/-- Where there is no record to remove, none is read. -/
theorem get_of_remove_noSession (h : (records.remove now id).1 = .error .noSession) :
    records.get now id = .error .noSession := by
  cases records with
  | memory m =>
      have hnone : m.records.get? id = none := by
        cases hget : m.records.get? id with
        | none => rfl
        | some r => simp [Records.remove, Memory.remove, Fields.contains, hget, Prod.map] at h
      simp [Records.get, Memory.get, hnone]
  | directory d => exact Directory.get_of_remove_noSession h
  | redis r => exact Redis.get_of_remove_noSession h

/-- Where a record could not be removed, none is read, and nothing changes. -/
theorem get_remove_of_error (h : (records.remove now id).1 = .error e) (he : e ≠ .noSession)
    (now' : Int) : (records.remove now id).2 = records ∧ ∃ e', records.get now' id = .error e' := by
  cases records with
  | memory m =>
      rcases m.remove_succeeds id with hremove | hremove
      · cases hremove.symm.trans h
      · cases hremove.symm.trans h
        exact absurd rfl he
  | directory d =>
      obtain ⟨hsame, hget⟩ := Directory.get_remove_of_error h
      exact ⟨congrArg Records.directory hsame, hget⟩
  | redis r =>
      obtain ⟨hsame, hget⟩ := Redis.get_remove_of_error h he
      exact ⟨congrArg Records.redis hsame, hget⟩

/-- **Either the record is gone** after a removal, or nothing has changed. -/
theorem get_remove_cases (records : Records) (now : Int) (id : String) (now' : Int) :
    (records.remove now id).2.get now' id = .error .noSession ∨
      (records.remove now id).2 = records := by
  cases hremove : (records.remove now id).1 with
  | ok u => exact Or.inl (get_remove_of_gone (Or.inl hremove) now')
  | error e =>
      by_cases he : e = .noSession
      · subst he
        exact Or.inl (get_remove_of_gone (Or.inr hremove) now')
      · exact Or.inr (get_remove_of_error hremove he now').1

/-- A removal that fails leaves what is read at its moment, which is no record. -/
theorem get_remove_of_failed (h : (records.remove now id).1 = .error e) :
    (records.remove now id).2.get now id = records.get now id ∧
      ∃ e', records.get now id = .error e' := by
  by_cases he : e = .noSession
  · subst he
    have hnone := get_of_remove_noSession h
    exact ⟨(get_remove_of_gone (Or.inr h) now).trans hnone.symm, _, hnone⟩
  · obtain ⟨hsame, hget⟩ := get_remove_of_error h he now
    exact ⟨by rw [hsame], hget⟩

end WebSession.Records
