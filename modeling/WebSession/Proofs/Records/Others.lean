import WebSession.Proofs.Records.Sweep

/-!
# WebSession.Proofs.Records.Others

**What calls do to the records of other ids.** In memory nothing that is read changes
(`Memory.get_add_of_ne`, `Memory.get_remove_of_ne`): adding drops what is past its deadline, and that
was hidden before. In stores of every kind a record that is gone stays gone, until one is added
under its id (`gone_add_of_ne`, `gone_remove`), and a record that is there was there before or has
been added (`get_of_get_add`, `get_of_get_remove`).
-/

namespace WebSession.Records

/-! ### In memory -/

namespace Memory

variable {m : Memory} {now now' maxAge : Int} {id other record : String}

/-- What is gone does not come back. -/
theorem Record.isExpired_mono {r : Record} (h : r.isExpired now = true) (hle : now ≤ now') :
    r.isExpired now' = true := by
  unfold isExpired at h ⊢
  split at h
  · simp only [decide_eq_true_eq] at h ⊢
    omega
  · cases h

/-- Adding a record leaves what is read of another id from then on. -/
theorem get_add_of_ne (hne : other ≠ id) (hle : now ≤ now') :
    (m.add now id record maxAge).get now' other = m.get now' other := by
  rw [get, get, add, Dict.get?_set_of_ne hne, prune, Dict.ofList_filter, Fields.get?_filter]
  cases m.records.get? other with
  | none => rfl
  | some r =>
      cases hexpired : r.isExpired now with
      | false => simp [Option.filter, hexpired]
      | true => simp [Option.filter, hexpired, Record.isExpired_mono hexpired hle]

theorem get_remove_of_ne (hne : other ≠ id) : (m.remove id).2.get now other = m.get now other := by
  unfold remove
  split
  · rw [get, get, Fields.get?_erase_of_ne hne]
  · rfl

end Memory

/-! ### Gone records -/

/-- There is no record of an id, at any time. -/
def Gone (id : String) (records : Records) : Prop :=
  ∀ now, records.get now id = .error .noSession

variable {id other record : String} {now maxAge : Int}

/-- A record in memory that is not there at any time has no deadline to come. -/
theorem gone_memory_iff {m : Memory} : Gone id (.memory m) ↔ m.records.get? id = none := by
  constructor
  · intro h
    cases hget : m.records.get? id with
    | none => rfl
    | some r =>
        obtain ⟨text, deadline?⟩ := r
        cases deadline? with
        | none =>
            have := h 0
            simp [Records.get, Memory.get, hget, Memory.Record.isExpired] at this
        | some t =>
            have := h (t - 1)
            have hlive : ¬ t ≤ t - 1 := by omega
            simp [Records.get, Memory.get, hget, Memory.Record.isExpired, hlive] at this
  · intro h now
    simp [Records.get, Memory.get, h]

theorem gone_directory_iff {d : Directory} :
    Gone id (.directory d) ↔ SessionId.isValid id = true ∧ d.found? id = none := by
  constructor
  · intro h
    have hget : d.get id = .error .noSession := h 0
    cases hid : SessionId.isValid id with
    | false => simp [Directory.get, hid] at hget
    | true =>
        refine ⟨rfl, ?_⟩
        cases hfound : d.found? id with
        | none => rfl
        | some entry =>
            rw [Directory.found?] at hfound
            cases entry with
            | directory => simp [Directory.get, hid, hfound] at hget
            | file content modified mode =>
                cases htext : Bytes.text? content <;>
                  simp [Directory.get, hid, hfound, htext] at hget
  · intro h _
    exact Directory.get_of_found?_none h.1 h.2

/-- Every value is there at some moment. -/
theorem Redis.Lease.exists_not_isOver (lease : Redis.Lease) : ∃ now, lease.isOver now = false := by
  obtain ⟨value, until?⟩ := lease
  cases until? with
  | none => exact ⟨0, rfl⟩
  | some t => exact ⟨t - 1, decide_eq_false (by omega)⟩

theorem gone_redis_iff {r : Redis} : Gone id (.redis r) ↔
    ∃ leases grace?, r = .connected leases grace? false ∧
      leases.get? (Redis.recordKey id) = none := by
  constructor
  · intro h
    have hget : ∀ now, r.get now id = .error .noSession := h
    cases r with
    | unreachable => simp [Redis.get, Redis.noConnection] at hget
    | connected leases grace? refusing =>
        cases refusing with
        | true => simp [Redis.get] at hget
        | false =>
            refine ⟨leases, grace?, rfl, ?_⟩
            cases hlease : leases.get? (Redis.recordKey id) with
            | none => rfl
            | some lease =>
                obtain ⟨now, hthere⟩ := lease.exists_not_isOver
                have := hget now
                simp [Redis.get, Redis.value?, hlease, hthere] at this
  · intro h _
    obtain ⟨leases, grace?, rfl, hlease⟩ := h
    simp [Records.get, Redis.get, Redis.value?, hlease]

theorem Redis.recordKey_injective {id id' : String} (h : recordKey id = recordKey id') :
    id = id' :=
  Directory.fileName_injective h

/-- **A record that is gone** is not there again when one is added under another id. -/
theorem gone_add_of_ne {records : Records} (h : records.Gone other) (hne : other ≠ id) :
    (records.add now id record maxAge).2.Gone other := by
  cases records with
  | memory m =>
      refine gone_memory_iff.mpr ?_
      rw [Memory.add, Dict.get?_set_of_ne hne, Memory.prune, Dict.ofList_filter, Fields.get?_filter,
        gone_memory_iff.mp h]
      rfl
  | directory d =>
      obtain ⟨hvalid, hfound⟩ := gone_directory_iff.mp h
      have hadd : (d.add now id record maxAge).2.found? other = none := by
        cases hid : SessionId.isValid id with
        | false => simp [Directory.add, hid, hfound]
        | true => rw [Directory.found?_add_of_ne hid hne, hfound, Option.filter_none]
      exact gone_directory_iff.mpr ⟨hvalid, hadd⟩
  | redis r =>
      obtain ⟨leases, grace?, rfl, hlease⟩ := gone_redis_iff.mp h
      refine gone_redis_iff.mpr ⟨_, _, rfl, ?_⟩
      rw [Redis.apply_addCommand,
        Dict.get?_set_of_ne fun hkey => hne (Redis.recordKey_injective hkey)]
      exact hlease

/-- Nor when adding one under its own id fails. -/
theorem gone_add_of_error {records : Records} (h : records.Gone id) {e : Error}
    (hadd : (records.add now id record maxAge).1 = .error e) :
    (records.add now id record maxAge).2.Gone id := by
  intro now'
  rw [get_add_of_error hadd]
  exact h now'

/-- Removing leaves what is gone. -/
theorem gone_remove {records : Records} (h : records.Gone other) (now : Int) (id : String) :
    (records.remove now id).2.Gone other := by
  by_cases hsame : other = id
  · subst hsame
    intro now'
    rcases get_remove_cases records now other now' with hgone | hsame
    · exact hgone
    · rw [hsame]
      exact h now'
  · cases records with
    | memory m =>
        intro now'
        exact (Memory.get_remove_of_ne hsame).trans (h now')
    | directory d =>
        obtain ⟨hvalid, hfound⟩ := gone_directory_iff.mp h
        exact gone_directory_iff.mpr
          ⟨hvalid, (Directory.found?_remove_of_ne hsame).trans hfound⟩
    | redis r =>
        obtain ⟨leases, grace?, rfl, hlease⟩ := gone_redis_iff.mp h
        have hkey : Redis.recordKey other ≠ Redis.recordKey id :=
          fun hkey => hsame (Redis.recordKey_injective hkey)
        exact gone_redis_iff.mpr ⟨_, _, rfl, (Fields.get?_erase_of_ne hkey).trans hlease⟩

/-! ### Records that are there -/

variable {now' : Int} {text : String}

theorem Directory.get_congr {d d' : Directory} (h : d.found? id = d'.found? id) :
    d.get id = d'.get id := by
  unfold Directory.found? at h
  simp only [Directory.get, h]

/-- A sweep brings nothing to light. -/
theorem Directory.get_of_filter {d d' : Directory} {keep : Directory.Entry → Bool}
    (hfound : d'.found? id = (d.found? id).filter keep) (h : d'.get id = .ok text) :
    d.get id = .ok text := by
  cases hid : SessionId.isValid id with
  | false => simp [Directory.get, hid] at h
  | true =>
      cases hfilter : (d.found? id).filter keep with
      | none =>
          rw [Directory.get_of_found?_none hid (hfound.trans hfilter)] at h
          cases h
      | some entry =>
          have hsame := (Option.filter_eq_some_iff.mp hfilter).1
          rw [← h]
          exact Directory.get_congr (hsame.trans (hfound.trans hfilter).symm)

theorem Memory.get_of_get_add {m : Memory}
    (h : (m.add now id record maxAge).get now' other = .ok text) :
    m.get now' other = .ok text ∨ other = id ∧ text = record := by
  by_cases hother : other = id
  · subst hother
    rw [Memory.get, Memory.add, Dict.get?_set_self] at h
    dsimp only at h
    split at h
    · cases h
    · cases h
      exact Or.inr ⟨rfl, rfl⟩
  · refine Or.inl ?_
    rw [Memory.get, Memory.add, Dict.get?_set_of_ne hother, Memory.prune, Dict.ofList_filter,
      Fields.get?_filter] at h
    cases hget : m.records.get? other with
    | none => simp [hget] at h
    | some r =>
        rw [hget, Option.filter_some] at h
        cases hkept : r.isExpired now with
        | true => simp [hkept] at h
        | false => simpa [Memory.get, hget, hkept] using h

theorem Directory.get_of_get_add {d : Directory}
    (h : (d.add now id record maxAge).2.get other = .ok text) :
    d.get other = .ok text ∨ other = id ∧ text = record := by
  by_cases hother : other = id
  · subst hother
    cases hadd : (d.add now other record maxAge).1 with
    | error e => exact Or.inl ((Directory.get_add_of_error hadd).symm.trans h)
    | ok u =>
        rw [Directory.get_add_of_ok hadd] at h
        cases h
        exact Or.inr ⟨rfl, rfl⟩
  · refine Or.inl ?_
    cases hid : SessionId.isValid id with
    | false =>
        rw [Directory.add, hid] at h
        exact h
    | true => exact Directory.get_of_filter (Directory.found?_add_of_ne hid hother) h

theorem Redis.value?_congr {leases leases' : Dict Redis.Lease} {key : String}
    (h : leases.get? key = leases'.get? key) : value? leases now key = value? leases' now key := by
  rw [value?, value?, h]

theorem Redis.get_add_of_ne {r : Redis} (hne : other ≠ id) :
    (r.add now id record maxAge).2.get now' other = r.get now' other := by
  have hkey : recordKey other ≠ recordKey id := fun hkey => hne (recordKey_injective hkey)
  cases r with
  | unreachable => rfl
  | connected leases grace? refusing =>
      cases refusing with
      | true => rfl
      | false =>
          simp only [add, get, apply_addCommand, value?_congr (Dict.get?_set_of_ne hkey)]

theorem Redis.get_remove_of_ne {r : Redis} (hne : other ≠ id) :
    (r.remove now id).2.get now' other = r.get now' other := by
  have hkey : recordKey other ≠ recordKey id := fun hkey => hne (recordKey_injective hkey)
  cases r with
  | unreachable => rfl
  | connected leases grace? refusing =>
      cases refusing with
      | true => rfl
      | false =>
          simp only [remove, get, removeCommand, Command.apply,
            value?_congr (Fields.get?_erase_of_ne hkey)]

theorem Redis.get_of_get_add {r : Redis}
    (h : (r.add now id record maxAge).2.get now' other = .ok text) :
    r.get now' other = .ok text ∨ other = id ∧ text = record := by
  by_cases hother : other = id
  · subst hother
    cases r with
    | unreachable => exact Or.inl h
    | connected leases grace? refusing =>
        cases refusing with
        | true => exact Or.inl h
        | false =>
            rw [add, apply_addCommand, get, value?, Dict.get?_set_self] at h
            cases hover : (lease grace? now maxAge record).isOver now' with
            | true => simp [hover] at h
            | false =>
                simp only [hover] at h
                cases h
                exact Or.inr ⟨rfl, rfl⟩
  · exact Or.inl ((Redis.get_add_of_ne hother).symm.trans h)

/-- Removing a record leaves what is read of another id. -/
theorem get_remove_of_ne {records : Records} (hne : other ≠ id) :
    (records.remove now id).2.get now' other = records.get now' other := by
  cases records with
  | memory m => exact Memory.get_remove_of_ne hne
  | directory d => exact Directory.get_congr (Directory.found?_remove_of_ne hne)
  | redis r => exact Redis.get_remove_of_ne hne

/-- So does adding one, where nothing is swept. -/
theorem get_add_of_ne {records : Records} (hkind : ∀ d, records ≠ .directory d) (hne : other ≠ id) :
    (records.add now id record maxAge).2.get now other = records.get now other := by
  cases records with
  | memory m => exact Memory.get_add_of_ne hne (Int.le_refl now)
  | directory d => exact absurd rfl (hkind d)
  | redis r => exact Redis.get_add_of_ne hne

/-- **What is read after adding** was there before, or it is what was added. -/
theorem get_of_get_add {records : Records}
    (h : (records.add now id record maxAge).2.get now' other = .ok text) :
    records.get now' other = .ok text ∨ other = id ∧ text = record := by
  cases records with
  | memory m => exact Memory.get_of_get_add h
  | directory d => exact Directory.get_of_get_add h
  | redis r => exact Redis.get_of_get_add h

/-- **What is read after removing** was there before. -/
theorem get_of_get_remove {records : Records}
    (h : (records.remove now id).2.get now' other = .ok text) :
    records.get now' other = .ok text := by
  by_cases hother : other = id
  · subst hother
    rcases get_remove_cases records now other now' with hgone | hsame
    · rw [hgone] at h
      cases h
    · rwa [hsame] at h
  · exact (get_remove_of_ne hother).symm.trans h

end WebSession.Records
