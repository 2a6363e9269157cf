import WebSession.Proofs.Plan
import WebSession.Proofs.Records

/-!
# WebSession.Proofs.World

**Who answers holds the record of an id** (`Responder.Holds`): a reader sees what was written or
removed last, and neither random octets nor a failing call change that.

The conditions are about one id of one store and about records of one age, so that a store may do
as it likes with all others. The world meets them while its clock stays between two moments that
no deadline of the record separates (`World.holds`).
-/

namespace WebSession

variable {σ : Type}

/-- What is read of the record of an id. -/
def Responder.record (respond : Responder σ) (store id : String) (s : σ) : Except Error String :=
  (respond (.get store id) s).1

/-- While a condition lasts, the responder holds the record of an id: reading it changes nothing,
and it is what was last written, or removed, with success. -/
structure Responder.Holds (respond : Responder σ) (ok : σ → Prop) (store id : String)
    (maxAge : Int) : Prop where
  keeps : respond.Keeps ok
  get_same : ∀ {s}, ok s → (respond (.get store id) s).2 = s
  record_random : ∀ {s} (count : Nat), ok s →
    respond.record store id (respond (.random count) s).2 = respond.record store id s
  add_keeps : ∀ {s} (text : String), ok s → ok (respond (.add store id text maxAge) s).2
  record_add_of_ok : ∀ {s} {text : String}, ok s →
    (respond (.add store id text maxAge) s).1 = .ok () →
      respond.record store id (respond (.add store id text maxAge) s).2 = .ok text
  record_add_of_error : ∀ {s} {text : String} {e : Error}, ok s →
    (respond (.add store id text maxAge) s).1 = .error e →
      respond.record store id (respond (.add store id text maxAge) s).2 =
        respond.record store id s
  remove_keeps : ∀ {s}, ok s → ok (respond (.remove store id) s).2
  record_remove_of_gone : ∀ {s}, ok s →
    (respond (.remove store id) s).1 = .ok () ∨
      (respond (.remove store id) s).1 = .error .noSession →
    respond.record store id (respond (.remove store id) s).2 = .error .noSession
  record_remove_of_error : ∀ {s} {e : Error}, ok s →
    (respond (.remove store id) s).1 = .error e →
      respond.record store id (respond (.remove store id) s).2 = respond.record store id s ∧
        ∃ e', respond.record store id s = .error e'

/-- Drawing leaves whatever is said of the record alone. -/
theorem Responder.Holds.keeps_record {respond : Responder σ} {ok : σ → Prop} {store id : String}
    {maxAge : Int} (h : respond.Holds ok store id maxAge) (about : Except Error String → Prop) :
    respond.Keeps fun s => ok s ∧ about (respond.record store id s) := by
  intro s count hs
  refine ⟨h.keeps s count hs.1, ?_⟩
  rw [h.record_random count hs.1]
  exact hs.2

/-- Another condition that all calls keep may be added. -/
theorem Responder.Holds.and {respond : Responder σ} {ok more : σ → Prop} {store id : String}
    {maxAge : Int} (h : respond.Holds ok store id maxAge)
    (hrandom : ∀ {s} count, more s → more (respond (.random count) s).2)
    (hadd : ∀ {s} text, more s → more (respond (.add store id text maxAge) s).2)
    (hremove : ∀ {s}, more s → more (respond (.remove store id) s).2) :
    respond.Holds (fun s => ok s ∧ more s) store id maxAge where
  keeps := fun s count hs => ⟨h.keeps s count hs.1, hrandom count hs.2⟩
  get_same := fun hs => h.get_same hs.1
  record_random := fun count hs => h.record_random count hs.1
  add_keeps := fun text hs => ⟨h.add_keeps text hs.1, hadd text hs.2⟩
  record_add_of_ok := fun hs => h.record_add_of_ok hs.1
  record_add_of_error := fun hs => h.record_add_of_error hs.1
  remove_keeps := fun hs => ⟨h.remove_keeps hs.1, hremove hs.2⟩
  record_remove_of_gone := fun hs => h.record_remove_of_gone hs.1
  record_remove_of_error := fun hs => h.record_remove_of_error hs.1

/-- The responder also gives random octets and answers every call for the record as it should. -/
structure Responder.Works (respond : Responder σ) (ok : σ → Prop) (store id : String)
    (maxAge : Int) : Prop extends respond.Holds ok store id maxAge where
  random : ∀ {s} (count : Nat), ok s → ∃ octets, (respond (.random count) s).1 = some octets
  add_works : ∀ {s} (text : String), ok s → (respond (.add store id text maxAge) s).1 = .ok ()
  remove_works : ∀ {s}, ok s → (respond (.remove store id) s).1 = .ok () ∨
    (respond (.remove store id) s).1 = .error .noSession

/-! ### Steady records -/

namespace Records

/-- Between two moments nothing happens to the record of an id by itself. -/
def Steady (first last : Int) (id : String) (records : Records) : Prop :=
  ∀ now, first ≤ now → now ≤ last → records.get now id = records.get first id

/-- Records written between two moments outlive the second. -/
def Outlives (first last maxAge : Int) : Prop :=
  ∀ now, first ≤ now → now ≤ last → ∀ t, Memory.deadline? now maxAge = some t → last < t

variable {first last now maxAge : Int} {id record : String} {records : Records}

/-- At one moment, records outlive that moment. -/
theorem outlives_now (h : now < Memory.lastMoment) : Outlives now now maxAge := by
  intro now' hfirst hlast t ht
  have hnow : now' = now := Int.le_antisymm hlast hfirst
  have hpos : (0 : Int) < Memory.lastMoment := by decide
  unfold Memory.deadline? at ht
  split at ht
  · cases ht
    omega
  · cases ht

theorem steady_add (h : records.Steady first last id) (hlive : Outlives first last maxAge)
    (hfirst : first ≤ now) (hlast : now ≤ last) :
    (records.add now id record maxAge).2.Steady first last id := by
  intro now' hfirst' hlast'
  cases hadd : (records.add now id record maxAge).1 with
  | error e =>
      rw [get_add_of_error hadd, get_add_of_error hadd]
      exact h now' hfirst' hlast'
  | ok _ =>
      have hdeadline := hlive now hfirst hlast
      rw [get_add_of_ok hadd fun t ht => Int.lt_of_le_of_lt hlast' (hdeadline t ht),
        get_add_of_ok hadd fun t ht =>
          Int.lt_of_le_of_lt (Int.le_trans hfirst hlast) (hdeadline t ht)]

theorem steady_remove (h : records.Steady first last id) :
    (records.remove now id).2.Steady first last id := by
  intro now' hfirst' hlast'
  cases hremove : (records.remove now id).1 with
  | error e =>
      by_cases he : e = .noSession
      · subst he
        rw [get_remove_of_gone (Or.inr hremove), get_remove_of_gone (Or.inr hremove)]
      · rw [(get_remove_of_error hremove he now').1]
        exact h now' hfirst' hlast'
  | ok _ => rw [get_remove_of_gone (Or.inl hremove), get_remove_of_gone (Or.inl hremove)]

/-! ### Working stores -/

/-- Nothing stands in the way of the calls for the record of an id. -/
def Works (id : String) : Records → Prop
  | .memory _ => True
  | .directory d => ∃ entries, d.entries? = some entries ∧
      entries.get? (Directory.fileName id) ≠ some .directory
  | .redis r => ∃ leases grace?, r = .connected leases grace? false

theorem works_add (hid : SessionId.isValid id = true) (h : records.Works id) (now maxAge : Int)
    (record : String) :
    (records.add now id record maxAge).1 = .ok () ∧
      (records.add now id record maxAge).2.Works id := by
  cases records with
  | memory m => exact ⟨rfl, trivial⟩
  | directory d =>
      obtain ⟨entries?⟩ := d
      obtain ⟨entries, rfl, hentry⟩ := h
      simp only [Records.add, Directory.add_of_some hid]
      cases hw : Directory.write (Directory.swept entries now maxAge) now (Directory.fileName id)
        record with
      | error e =>
          exact absurd (Directory.get?_swept_directory_iff.mp
            (Directory.write_eq_error_iff.mp hw).1) hentry
      | ok written =>
          obtain ⟨mode, hget⟩ := Directory.get?_of_write hw
          refine ⟨rfl, written, rfl, ?_⟩
          rw [hget]
          simp
  | redis r =>
      obtain ⟨leases, grace?, rfl⟩ := h
      exact ⟨rfl, _, _, rfl⟩

theorem works_remove (hid : SessionId.isValid id = true) (h : records.Works id) (now : Int) :
    ((records.remove now id).1 = .ok () ∨ (records.remove now id).1 = .error .noSession) ∧
      (records.remove now id).2.Works id := by
  cases records with
  | memory m => exact ⟨m.remove_succeeds id, trivial⟩
  | directory d =>
      obtain ⟨entries?⟩ := d
      obtain ⟨entries, rfl, hentry⟩ := h
      cases hget : entries.get? (Directory.fileName id) with
      | none =>
          simp only [Records.remove, Directory.remove, hid, hget]
          refine ⟨Or.inr rfl, entries, rfl, ?_⟩
          rw [hget]
          simp
      | some entry =>
          cases entry with
          | directory => exact absurd hget hentry
          | file content modified mode =>
              simp only [Records.remove, Directory.remove, hid, hget]
              refine ⟨Or.inl rfl, _, rfl, ?_⟩
              rw [Fields.get?_erase_self]
              simp
  | redis r =>
      obtain ⟨leases, grace?, rfl⟩ := h
      simp only [Records.remove, Redis.remove]
      split
      · exact ⟨Or.inl rfl, _, _, rfl⟩
      · exact ⟨Or.inr rfl, _, _, rfl⟩

end Records

/-! ### The world -/

namespace World

/-- The clock is between two moments, and the record of an id is steady. -/
structure Steady (first last : Int) (store id : String) (w : World) : Prop where
  first_le : first ≤ w.now
  le_last : w.now ≤ last
  steady : ∀ records, w.records.get? store = some records → records.Steady first last id

variable {first last maxAge : Int} {store id : String} {w : World}

theorem respond_add_of_none (h : w.records.get? store = none) (record : String) (maxAge : Int) :
    World.respond (.add store id record maxAge) w = (.error .noStore, w) := by
  simp only [World.respond, h]

theorem respond_add_of_some {records : Records} (h : w.records.get? store = some records)
    (record : String) (maxAge : Int) :
    World.respond (.add store id record maxAge) w =
      ((records.add w.now id record maxAge).1,
        w.withRecords store (records.add w.now id record maxAge).2) := by
  simp only [World.respond, h]

theorem respond_remove_of_none (h : w.records.get? store = none) :
    World.respond (.remove store id) w = (.error .noStore, w) := by
  simp only [World.respond, h]

theorem respond_remove_of_some {records : Records} (h : w.records.get? store = some records) :
    World.respond (.remove store id) w =
      ((records.remove w.now id).1, w.withRecords store (records.remove w.now id).2) := by
  simp only [World.respond, h]

/-- A call to add a record is refused, or there is no store for it, or the store answers. -/
theorem refusing_add_cases (refuse? : Call → Option Error) (w : World) (store id record : String)
    (maxAge : Int) :
    (∃ e, refuse? (.add store id record maxAge) = some e ∧
      respond.refusing refuse? (.add store id record maxAge) w = (.error e, w)) ∨
    respond.refusing refuse? (.add store id record maxAge) w = (.error .noStore, w) ∨
    ∃ r, w.records.get? store = some r ∧
      respond.refusing refuse? (.add store id record maxAge) w =
        ((r.add w.now id record maxAge).1,
          w.withRecords store (r.add w.now id record maxAge).2) := by
  unfold Responder.refusing
  cases refuse? (.add store id record maxAge) with
  | some e => exact .inl ⟨e, rfl, rfl⟩
  | none =>
      cases hr : w.records.get? store with
      | none => exact .inr (.inl (respond_add_of_none hr record maxAge))
      | some r => exact .inr (.inr ⟨r, rfl, respond_add_of_some hr record maxAge⟩)

/-- So is a call to remove one. -/
theorem refusing_remove_cases (refuse? : Call → Option Error) (w : World) (store id : String) :
    (∃ e, refuse? (.remove store id) = some e ∧
      respond.refusing refuse? (.remove store id) w = (.error e, w)) ∨
    respond.refusing refuse? (.remove store id) w = (.error .noStore, w) ∨
    ∃ r, w.records.get? store = some r ∧
      respond.refusing refuse? (.remove store id) w =
        ((r.remove w.now id).1, w.withRecords store (r.remove w.now id).2) := by
  unfold Responder.refusing
  cases refuse? (.remove store id) with
  | some e => exact .inl ⟨e, rfl, rfl⟩
  | none =>
      cases hr : w.records.get? store with
      | none => exact .inr (.inl (respond_remove_of_none hr))
      | some r => exact .inr (.inr ⟨r, rfl, respond_remove_of_some hr⟩)

theorem record_of_none (h : w.records.get? store = none) :
    Responder.record World.respond store id w = .error .noStore := by
  simp only [Responder.record, World.respond, h]

theorem record_of_some {records : Records} (h : w.records.get? store = some records) :
    Responder.record World.respond store id w = records.get w.now id := by
  simp only [Responder.record, World.respond, h]

@[simp] theorem record_withRecords {records : Records} :
    Responder.record World.respond store id (w.withRecords store records) =
      records.get w.now id := by
  have hstore : (w.withRecords store records).records.get? store = some records :=
    Dict.get?_set_self
  rw [record_of_some hstore]
  rfl

theorem Steady.withRecords (h : w.Steady first last store id) {records : Records}
    (hr : records.Steady first last id) :
    (w.withRecords store records).Steady first last store id where
  first_le := h.first_le
  le_last := h.le_last
  steady := by
    intro records' h'
    rw [World.withRecords, Dict.get?_set_self] at h'
    cases h'
    exact hr

/-- There are random octets and a store, and nothing stands in the way of its calls for the record
of an id. -/
structure Works (store id : String) (w : World) : Prop where
  supplied : w.entropy.broken = false
  works : ∃ records, w.records.get? store = some records ∧ records.Works id

theorem Works.withRecords (h : w.Works store id) {records : Records} (hworks : records.Works id) :
    (w.withRecords store records).Works store id where
  supplied := h.supplied
  works := ⟨records, Dict.get?_set_self, hworks⟩

/-- The clock shows another moment of a time. -/
def Passes (first last : Int) (w w' : World) : Prop :=
  ∃ now, first ≤ now ∧ now ≤ last ∧ w' = { w with now := now }

/-- At one moment every record is steady. -/
theorem steady_now (w : World) (store id : String) : w.Steady w.now w.now store id where
  first_le := Int.le_refl _
  le_last := Int.le_refl _
  steady := by
    intro records _ now hfirst hlast
    rw [Int.le_antisymm hlast hfirst]

/-- The world in which there is but one record, in memory and without a deadline. -/
def single (now : Int) (store id record : String) : World where
  now := now
  entropy := { octet := fun _ => 0 }
  records := Dict.empty.set store (.memory ⟨Dict.empty.set id ⟨record, none⟩⟩)

theorem record_single (now : Int) (store id record : String) :
    Responder.record World.respond store id (single now store id record) = .ok record := by
  rw [record_of_some Dict.get?_set_self]
  simp only [Records.get, Records.Memory.get, Dict.get?_set_self]
  rfl

/-- **The world holds the record of an id** while it is steady, if records outlive that time. -/
theorem holds (hlive : Records.Outlives first last maxAge) :
    Responder.Holds World.respond (Steady first last store id) store id maxAge where
  keeps := fun _ _ h => ⟨h.first_le, h.le_last, h.steady⟩
  -- reading changes nothing, and drawing octets changes no record
  get_same := by
    intro w h
    simp only [World.respond]
    split <;> rfl
  record_random := by
    intro w count h
    simp only [Responder.record, World.respond]
    split <;> rfl
  -- adding: where there are no records under the name the call is refused and all stays
  add_keeps := by
    intro w record h
    cases hstore : w.records.get? store with
    | none =>
        rw [respond_add_of_none hstore]
        exact h
    | some records =>
        rw [respond_add_of_some hstore]
        exact h.withRecords (Records.steady_add (h.steady _ hstore) hlive h.first_le h.le_last)
  record_add_of_ok := by
    intro w record h hadd
    cases hstore : w.records.get? store with
    | none =>
        rw [respond_add_of_none hstore] at hadd
        cases hadd
    | some records =>
        rw [respond_add_of_some hstore] at hadd ⊢
        rw [record_withRecords]
        -- the new record outlives the moment of the call, so it is read from now on
        exact Records.get_add_of_ok hadd fun t ht =>
          Int.lt_of_le_of_lt h.le_last (hlive _ h.first_le h.le_last t ht)
  record_add_of_error := by
    intro w record e h hadd
    cases hstore : w.records.get? store with
    | none => rw [respond_add_of_none hstore]
    | some records =>
        rw [respond_add_of_some hstore] at hadd ⊢
        rw [record_withRecords, record_of_some hstore]
        exact Records.get_add_of_error hadd _
  -- removing: what is gone stays gone, and what could not be removed is read as before
  remove_keeps := by
    intro w h
    cases hstore : w.records.get? store with
    | none =>
        rw [respond_remove_of_none hstore]
        exact h
    | some records =>
        rw [respond_remove_of_some hstore]
        exact h.withRecords (Records.steady_remove (h.steady _ hstore))
  record_remove_of_gone := by
    intro w h hremove
    cases hstore : w.records.get? store with
    | none =>
        rw [respond_remove_of_none hstore] at hremove
        simp at hremove
    | some records =>
        rw [respond_remove_of_some hstore] at hremove ⊢
        rw [record_withRecords]
        exact Records.get_remove_of_gone hremove _
  record_remove_of_error := by
    intro w e h hremove
    cases hstore : w.records.get? store with
    | none =>
        rw [respond_remove_of_none hstore]
        exact ⟨rfl, _, record_of_none hstore⟩
    | some records =>
        rw [respond_remove_of_some hstore] at hremove ⊢
        rw [record_withRecords, record_of_some hstore]
        exact Records.get_remove_of_failed hremove

/-- **The world also answers** the calls for the record of a valid id, if its store works. -/
theorem works (hlive : Records.Outlives first last maxAge) (hid : SessionId.isValid id = true) :
    Responder.Works World.respond (fun w => w.Steady first last store id ∧ w.Works store id)
      store id maxAge where
  toHolds := by
    refine (holds hlive).and ?_ ?_ ?_
    · intro w count h
      exact ⟨World.supplies.keeps w count h.supplied, h.works⟩
    · intro w record h
      obtain ⟨records, hstore, hworks⟩ := h.works
      rw [respond_add_of_some hstore]
      exact h.withRecords (Records.works_add hid hworks w.now maxAge record).2
    · intro w h
      obtain ⟨records, hstore, hworks⟩ := h.works
      rw [respond_remove_of_some hstore]
      exact h.withRecords (Records.works_remove hid hworks w.now).2
  random := fun count h => World.supplies.random count h.2.supplied
  add_works := by
    intro w record h
    obtain ⟨records, hstore, hworks⟩ := h.2.works
    rw [respond_add_of_some hstore]
    exact (Records.works_add hid hworks w.now maxAge record).1
  remove_works := by
    intro w h
    obtain ⟨records, hstore, hworks⟩ := h.2.works
    rw [respond_remove_of_some hstore]
    exact (Records.works_remove hid hworks w.now).1

/-- Time passes without a change to a steady record. -/
theorem steady_of_passes {w' : World} (hp : Passes first last w w')
    (h : w.Steady first last store id ∧ w.Works store id) :
    (w'.Steady first last store id ∧ w'.Works store id) ∧
      Responder.record World.respond store id w' = Responder.record World.respond store id w := by
  obtain ⟨now, hfirst, hlast, rfl⟩ := hp
  obtain ⟨records, hstore, hworks⟩ := h.2.works
  refine ⟨⟨⟨hfirst, hlast, h.1.steady⟩, h.2.supplied, records, hstore, hworks⟩, ?_⟩
  have hsteady := h.1.steady records hstore
  rw [record_of_some hstore, record_of_some (w := { w with now := now }) hstore,
    hsteady now hfirst hlast, hsteady w.now h.1.first_le h.1.le_last]

end World

end WebSession
