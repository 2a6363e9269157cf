import WebSession.Proofs.Records.Conditions
import WebSession.Proofs.Records.Others

/-!
# WebSession.Proofs.Records.Slot

**What there is under an id** (`Records.slot`), told alike for stores of every kind: all that can be
read of the record from some moment on (`get_eq_read`), and what a sweep needs to know of it.

* A call about one id changes what there is under another by a sweep at most (`slot_add_of_ne`,
  `slot_remove_of_ne`), and sweeps add up whatever their order (`Slot.sweep_sweep`).
* A call that succeeds leaves nothing of what there was before under its own id (`slot_add_of_ok`,
  `slot_remove_of_gone`). One that fails leaves all of it (`slot_add_of_error`).
-/

namespace WebSession.Records

/-- What there is under an id of a store. -/
inductive Slot where
  /-- There is no record. -/
  | empty
  /-- A text that is there until a deadline, if it has one. -/
  | held (record : String) (deadline? : Option Int)
  /-- A file with its content and the millisecond of its last writing. -/
  | file (content : Bytes) (modified : Int)
  /-- There is no reading here, and no writing. -/
  | fault (e : Error)

namespace Slot

/-- A text with a deadline, if it is still there at a moment. -/
def heldAt (now : Int) (record : String) (deadline? : Option Int) : Slot :=
  if Memory.Record.isExpired ⟨record, deadline?⟩ now then .empty else .held record deadline?

/-- What is read at a moment. -/
def read (now : Int) : Slot → Except Error String
  | .empty => .error .noSession
  | .held record deadline? =>
    if Memory.Record.isExpired ⟨record, deadline?⟩ now then .error .noSession else .ok record
  | .file content _ =>
    match Bytes.text? content with
    | some record => .ok record
    | none => .error (.other "read")
  | .fault e => .error e

/-- A sweep removes files, by the time of their last writing. -/
def sweep (late : Int → Bool) : Slot → Slot
  | .file content modified => if late modified then .empty else .file content modified
  | slot => slot

theorem sweep_heldAt (now : Int) (record : String) (deadline? : Option Int) (late : Int → Bool) :
    (heldAt now record deadline?).sweep late = heldAt now record deadline? := by
  unfold heldAt
  split <;> rfl

/-- Whether a text that was there is read later does not hang on the text. -/
theorem read_heldAt (now : Int) (deadline? : Option Int) (now' : Int) :
    (∀ record, (heldAt now record deadline?).read now' = .ok record) ∨
      ∀ record, (heldAt now record deadline?).read now' = .error .noSession := by
  have hread : ∀ record, (heldAt now record deadline?).read now' =
      if Memory.Record.isExpired ⟨record, deadline?⟩ now then .error .noSession
      else if Memory.Record.isExpired ⟨record, deadline?⟩ now' then .error .noSession
      else .ok record := by
    intro record
    unfold heldAt
    split <;> rfl
  cases hnow : Memory.Record.isExpired ⟨"", deadline?⟩ now with
  | true => exact Or.inr fun record => (hread record).trans (if_pos hnow)
  | false =>
      have hthere := Bool.eq_false_iff.mp hnow
      cases hnow' : Memory.Record.isExpired ⟨"", deadline?⟩ now' with
      | true =>
          exact Or.inr fun record => (hread record).trans ((if_neg hthere).trans (if_pos hnow'))
      | false =>
          exact Or.inl fun record => (hread record).trans
            ((if_neg hthere).trans (if_neg (Bool.eq_false_iff.mp hnow')))

theorem sweep_none (slot : Slot) : slot.sweep (fun _ => false) = slot := by
  cases slot <;> rfl

theorem map_sweep_none (slot? : Option Slot) : slot?.map (·.sweep fun _ => false) = slot? := by
  cases slot? with
  | none => rfl
  | some slot => exact congrArg some slot.sweep_none

/-- **Sweeps add up.** -/
theorem sweep_sweep (slot : Slot) (late late' : Int → Bool) :
    (slot.sweep late).sweep late' = slot.sweep fun modified => late modified || late' modified := by
  cases slot with
  | file content modified =>
      cases hlate : late modified <;> simp [sweep, hlate]
  | _ => rfl

end Slot

/-- Whether a sweep with an age removes a file that was written at a moment. -/
def isLate (now maxAge modified : Int) : Bool := 0 < maxAge && 1000 * maxAge < now - modified

variable {now now' maxAge : Int} {id other record : String} {e : Error}

theorem not_isLate_now (now maxAge : Int) : isLate now maxAge now = false := by
  simp only [isLate, Int.sub_self, Bool.and_eq_false_imp, decide_eq_true_eq, decide_eq_false_iff_not]
  omega

/-! ### In memory -/

namespace Memory

def slot (m : Memory) (now : Int) (id : String) : Slot :=
  match m.records.get? id with
  | some r => .heldAt now r.text r.deadline?
  | none => .empty

theorem get_eq_read {m : Memory} (hle : now ≤ now') : m.get now' id = (m.slot now id).read now' := by
  rw [get, slot]
  cases m.records.get? id with
  | none => rfl
  | some r =>
      cases hexpired : r.isExpired now with
      | true => simp [Slot.read, Slot.heldAt, hexpired, Record.isExpired_mono hexpired hle]
      | false => simp [Slot.read, Slot.heldAt, hexpired]

theorem slot_add_of_ne {m : Memory} (hne : other ≠ id) :
    (m.add now id record maxAge).slot now other = m.slot now other := by
  rw [slot, slot, add, Dict.get?_set_of_ne hne, prune, Dict.ofList_filter, Fields.get?_filter]
  cases m.records.get? other with
  | none => rfl
  | some r => cases hexpired : r.isExpired now <;> simp [Option.filter, Slot.heldAt, hexpired]

theorem slot_remove_of_ne {m : Memory} (hne : other ≠ id) :
    (m.remove id).2.slot now other = m.slot now other := by
  unfold remove
  split
  · rw [slot, slot, Fields.get?_erase_of_ne hne]
  · rfl

end Memory

/-! ### In a directory -/

namespace Directory

def slot (d : Directory) (id : String) : Slot :=
  if SessionId.isValid id then
    match d.found? id with
    | none => .empty
    | some .directory => .fault (.other "read")
    | some (.file content modified _) => .file content modified
  else .fault .badSessionId

theorem get_eq_read {d : Directory} : d.get id = (d.slot id).read now' := by
  rw [get, slot, found?]
  cases hid : SessionId.isValid id with
  | false => rfl
  | true =>
      cases d.entries?.bind (Fields.get? (fileName id)) with
      | none => rfl
      | some entry =>
          cases entry with
          | directory => rfl
          | file content modified mode => rfl

theorem slot_add_of_ne {d : Directory} (hid : SessionId.isValid id = true) (hne : other ≠ id) :
    (d.add now id record maxAge).2.slot other = (d.slot other).sweep (isLate now maxAge) := by
  rw [slot, slot, found?_add_of_ne hid hne]
  cases SessionId.isValid other with
  | false => rfl
  | true =>
      cases d.found? other with
      | none => rfl
      | some entry =>
          cases entry with
          | directory => simp [Option.filter, sweeps, isStale, Slot.sweep]
          | file content modified mode =>
              have hsame : sweeps now maxAge (.file content modified mode) =
                  isLate now maxAge modified := rfl
              cases hlate : isLate now maxAge modified <;>
                simp [Option.filter, hsame, hlate, Slot.sweep]

theorem slot_remove_of_ne {d : Directory} (hne : other ≠ id) :
    (d.remove id).2.slot other = d.slot other := by
  rw [slot, slot, found?_remove_of_ne hne]

theorem slot_add_of_error {d : Directory} (h : (d.add now id record maxAge).1 = .error e) :
    (d.add now id record maxAge).2.slot id = d.slot id ∧
      ∀ late, (d.slot id).sweep late = d.slot id := by
  obtain ⟨entries?⟩ := d
  cases hid : SessionId.isValid id with
  | false => simp [slot, hid, Slot.sweep]
  | true =>
      cases entries? with
      | none => simp [add, slot, found?, hid, Slot.sweep]
      | some entries =>
          rw [add_of_some hid] at h ⊢
          cases hwrite : write (swept entries now maxAge) now (fileName id) record with
          | ok written => simp [hwrite] at h
          | error e' =>
              have hentry := get?_swept_directory_iff.mp (write_eq_error_iff.mp hwrite).1
              simp [slot, found?, hid, hentry, get?_swept_directory_iff.mpr hentry, Slot.sweep]

end Directory

/-! ### On a key-value server -/

namespace Redis

def slot (r : Redis) (now : Int) (id : String) : Slot :=
  match r with
  | .unreachable => .fault noConnection
  | .connected _ _ true => .fault (.other "Redis get error")
  | .connected leases _ false =>
    match leases.get? (recordKey id) with
    | some lease => .heldAt now lease.value lease.until?
    | none => .empty

/-- A value is forgotten as a record in memory is. -/
theorem Lease.isOver_eq (lease : Lease) (now : Int) :
    lease.isOver now = Memory.Record.isExpired ⟨lease.value, lease.until?⟩ now := rfl

theorem get_eq_read {r : Redis} (hle : now ≤ now') : r.get now' id = (r.slot now id).read now' := by
  cases r with
  | unreachable => rfl
  | connected leases grace? refusing =>
      cases refusing with
      | true => rfl
      | false =>
          simp only [get, slot, value?]
          cases leases.get? (recordKey id) with
          | none => rfl
          | some lease =>
              dsimp only
              rw [lease.isOver_eq]
              cases hover : Memory.Record.isExpired ⟨lease.value, lease.until?⟩ now with
              | true =>
                  have hover' := Memory.Record.isExpired_mono hover hle
                  simp [Slot.read, Slot.heldAt, hover, hover']
              | false =>
                  cases hover' : Memory.Record.isExpired ⟨lease.value, lease.until?⟩ now' <;>
                    simp [Slot.read, Slot.heldAt, hover, hover']

theorem slot_add_of_ne {r : Redis} (hne : other ≠ id) :
    (r.add now id record maxAge).2.slot now other = r.slot now other := by
  have hkey : recordKey other ≠ recordKey id := fun hkey => hne (recordKey_injective hkey)
  cases r with
  | unreachable => rfl
  | connected leases grace? refusing =>
      cases refusing with
      | true => rfl
      | false => simp only [add, slot, apply_addCommand, Dict.get?_set_of_ne hkey]

theorem slot_remove_of_ne {r : Redis} (hne : other ≠ id) :
    (r.remove now id).2.slot now' other = r.slot now' other := by
  have hkey : recordKey other ≠ recordKey id := fun hkey => hne (recordKey_injective hkey)
  cases r with
  | unreachable => rfl
  | connected leases grace? refusing =>
      cases refusing with
      | true => rfl
      | false =>
          simp only [remove, slot, removeCommand, Command.apply, Fields.get?_erase_of_ne hkey]

/-- No sweep removes what is on a server. -/
theorem sweep_slot (r : Redis) (late : Int → Bool) : (r.slot now id).sweep late = r.slot now id := by
  unfold slot
  split
  · rfl
  · rfl
  · split
    · exact Slot.sweep_heldAt ..
    · rfl

end Redis

/-! ### In any store -/

/-- What there is under an id at a moment. What is past its deadline is not there. -/
def slot (now : Int) (id : String) : Records → Slot
  | .memory m => m.slot now id
  | .directory d => d.slot id
  | .redis r => r.slot now id

variable {records records' : Records}

/-- **All that is read from some moment on** is told by what there is at that moment. -/
theorem get_eq_read (hle : now ≤ now') : records.get now' id = (records.slot now id).read now' := by
  cases records with
  | memory m => exact Memory.get_eq_read hle
  | directory d => exact Directory.get_eq_read
  | redis r => exact Redis.get_eq_read hle

/-- Adding a record sweeps what there is under another id, or leaves it. -/
theorem slot_add_of_ne (hid : SessionId.isValid id = true) (hne : other ≠ id) :
    (records.add now id record maxAge).2.slot now other =
      (records.slot now other).sweep (isLate now maxAge) := by
  cases records with
  | memory m =>
      have hsweep : (m.slot now other).sweep (isLate now maxAge) = m.slot now other := by
        unfold Memory.slot
        split
        · exact Slot.sweep_heldAt ..
        · rfl
      exact (Memory.slot_add_of_ne hne).trans hsweep.symm
  | directory d => exact Directory.slot_add_of_ne hid hne
  | redis r => exact (Redis.slot_add_of_ne hne).trans (r.sweep_slot _).symm

theorem slot_remove_of_ne (hne : other ≠ id) :
    (records.remove now id).2.slot now' other = records.slot now' other := by
  cases records with
  | memory m => exact Memory.slot_remove_of_ne hne
  | directory d => exact Directory.slot_remove_of_ne hne
  | redis r => exact Redis.slot_remove_of_ne hne

/-! ### Under the id of a call -/

/-- What there is under the id of a record that was just written. -/
def Conditions.written (now maxAge : Int) (record : String) : Conditions → Slot
  | .memory => .heldAt now record (Memory.deadline? now maxAge)
  | .directory _ _ => .file (Bytes.ofText record) now
  | .unreachable => .held record none
  | .connected grace? _ => .heldAt now record (Redis.lease grace? now maxAge record).until?

/-- **A record that was written** is there, whatever was there before. -/
theorem slot_add_of_ok (h : (records.add now id record maxAge).1 = .ok ()) :
    (records.add now id record maxAge).2.slot now id = records.conditions.written now maxAge record := by
  cases records with
  | memory m =>
      simp only [Records.add, slot, Memory.slot, Memory.add, Dict.get?_set_self]
      rfl
  | directory d =>
      obtain ⟨hid, mode, hfound⟩ := Directory.found?_add_self h
      have hadd : ((Records.directory d).add now id record maxAge).2 =
          .directory (d.add now id record maxAge).2 := rfl
      rw [hadd, slot, Directory.slot, if_pos hid, hfound]
      rfl
  | redis r =>
      cases r with
      | unreachable => cases h
      | connected leases grace? refusing =>
          cases refusing with
          | true => cases h
          | false =>
              simp only [Records.add, Prod.map, slot, Redis.slot, Redis.add, Redis.apply_addCommand,
                Dict.get?_set_self]
              rfl

/-- A record that could not be written leaves what was there, which no sweep removes. -/
theorem slot_add_of_error (h : (records.add now id record maxAge).1 = .error e) :
    (records.add now id record maxAge).2.slot now id = records.slot now id ∧
      ∀ late, (records.slot now id).sweep late = records.slot now id := by
  cases records with
  | memory m => cases h
  | directory d => exact Directory.slot_add_of_error h
  | redis r =>
      have hadd : ((Records.redis r).add now id record maxAge).2 = .redis r :=
        congrArg Records.redis (Redis.get_add_of_error h)
      exact ⟨by rw [hadd], r.sweep_slot⟩

theorem slot_of_gone (h : records.Gone id) : records.slot now id = .empty := by
  cases records with
  | memory m => simp only [slot, Memory.slot, gone_memory_iff.mp h]
  | directory d =>
      obtain ⟨hid, hfound⟩ := gone_directory_iff.mp h
      rw [slot, Directory.slot, if_pos hid, hfound]
  | redis r =>
      obtain ⟨leases, grace?, rfl, hlease⟩ := gone_redis_iff.mp h
      simp only [slot, Redis.slot, hlease]

/-- **A record that was removed** is not there. -/
theorem slot_remove_of_gone
    (h : (records.remove now id).1 = .ok () ∨ (records.remove now id).1 = .error .noSession) :
    (records.remove now id).2.slot now' id = .empty :=
  slot_of_gone fun later => get_remove_of_gone h later

theorem gone_of_forgiven {answer : Except Error Unit} (h : (forgiven answer).isOk = true) :
    answer = .ok () ∨ answer = .error .noSession := by
  cases answer with
  | ok u => exact Or.inl rfl
  | error e => cases e <;> first | exact Or.inr rfl | cases h

/-- A removal that fails leaves all records. -/
theorem remove_of_not_forgiven (h : (forgiven (records.remove now id).1).isOk = false) :
    (records.remove now id).2 = records := by
  cases records with
  | memory m =>
      have hgone : (forgiven (m.remove id).1).isOk = true := by
        rcases m.remove_succeeds id with hgone | hgone <;> rw [hgone] <;> rfl
      exact nomatch h.symm.trans hgone
  | directory d =>
      rcases d.entries?_remove_cases id with hkept | ⟨hok, -⟩
      · exact congrArg Records.directory hkept
      · have hgone : (forgiven (d.remove id).1).isOk = true := by rw [hok]; rfl
        exact nomatch h.symm.trans hgone
  | redis r =>
      cases r with
      | unreachable => rfl
      | connected leases grace? refusing =>
          cases refusing with
          | true => rfl
          | false =>
              simp only [remove, Redis.remove, Prod.map] at h
              split at h <;> cases h

namespace Conditions

/-- A sweep leaves what was just written. -/
theorem sweep_written {late : Int → Bool} (hlate : late now = false) (conditions : Conditions)
    (maxAge : Int) (record : String) :
    (conditions.written now maxAge record).sweep late = conditions.written now maxAge record := by
  cases conditions with
  | memory => exact Slot.sweep_heldAt ..
  | directory there blocked =>
      simp only [written, Slot.sweep, hlate]
      rfl
  | unreachable => rfl
  | connected grace? refusing => exact Slot.sweep_heldAt ..

/-- Whether a record that was written is there at a moment does not hang on its text. -/
theorem read_written (conditions : Conditions) (now maxAge now' : Int) :
    (∀ record, (conditions.written now maxAge record).read now' = .ok record) ∨
      ∀ record, (conditions.written now maxAge record).read now' = .error .noSession := by
  cases conditions with
  | memory => exact Slot.read_heldAt ..
  | directory there blocked => exact Or.inl fun record => by simp [written, Slot.read]
  | unreachable => exact Or.inl fun record => rfl
  | connected grace? refusing => exact Slot.read_heldAt ..

end Conditions

end WebSession.Records
