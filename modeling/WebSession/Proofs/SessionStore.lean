import WebSession.Proofs.Encoder
import WebSession.Proofs.World
import WebSession.SessionStore

/-!
# WebSession.Proofs.SessionStore

**What a server-side session does to the records**: loading makes one call and changes nothing
(`load_eq`), and saving makes one call besides its draws: it removes the record of a session that
holds its id alone (`save_eq_remove`) and writes that of any other (`calls_save_add`).
-/

namespace WebSession

open Plan

/-! ### Sessions that hold their id alone -/

namespace SessionData

/-- A session with an id and no other field holds its id alone. -/
theorem eq_ofId {d : SessionData} {id : String} (hid : d.id? = some id) (hlen : d.length ≤ 1) :
    d = ofId id := by
  obtain ⟨v, hget, htext⟩ := Option.bind_eq_some_iff.mp hid
  obtain ⟨values⟩ := d
  cases values with
  | nil => cases hget
  | cons key above value rest =>
      cases rest with
      | cons key' above' value' rest' =>
          simp only [length, Fields.length_cons] at hlen
          omega
      | nil =>
          have hfield : (if idKey = key then some value else none) = some v := hget
          split at hfield
          · rename_i hkey
            subst hkey
            cases hfield
            cases v <;> cases htext
            rfl
          · cases hfield

@[simp] theorem toList_ofId (id : String) : (ofId id).values.toList = [(idKey, .str id)] :=
  Fields.toList_cons

/-- A valid id is short enough for the format. -/
theorem representable_ofId {id : String} (hid : SessionId.isValid id = true) :
    (ofId id).Representable where
  height_le := by
    show 1 ≤ 1023
    omega
  breadth_lt := by
    simp only [SessionId.isValid, Bool.and_eq_true, decide_eq_true_eq] at hid
    refine Value.breadth_map_lt_iff.mpr ⟨?_, ?_⟩
    · rw [Fields.length, toList_ofId]
      exact (by decide : 1 < MessagePack.lengthBound)
    · intro f hf
      rw [toList_ofId, List.mem_singleton] at hf
      subst hf
      have hkey : idKey.utf8ByteSize < MessagePack.lengthBound := by decide
      exact ⟨hkey, Nat.lt_of_le_of_lt hid.1.2 (by decide)⟩

end SessionData

namespace SessionStore

variable {σ : Type} {s : SessionStore} {records key id : String} {jar : Cookie.Jar} {now : Int}

/-! ### Loading -/

/-- What a record shows: the session in it, if it has the id, or else the id alone. -/
def shown (s : SessionStore) (key : String) (now : Int) (id : String)
    (record : Except Error String) : SessionData :=
  s.preferRecord key now (SessionData.ofId id) id record

theorem shown_of_decode {text : String} {d : SessionData}
    (h : Encoders.decode s.encoders key now text = .ok d) (hid : d.id? = some id) :
    s.shown key now id (.ok text) = d := by
  simp only [shown, preferRecord, h, if_pos hid]

/-- What is shown is the id alone, or what a record with the id says. -/
theorem shown_cases (s : SessionStore) (key : String) (now : Int) (id : String)
    (record : Except Error String) :
    s.shown key now id record = SessionData.ofId id ∨
      ∃ text d, record = .ok text ∧ Encoders.decode s.encoders key now text = .ok d ∧
        d.id? = some id ∧ s.shown key now id record = d := by
  cases record with
  | error e => exact Or.inl rfl
  | ok text =>
      cases hd : Encoders.decode s.encoders key now text with
      | error e =>
          refine Or.inl ?_
          simp only [shown, preferRecord, hd]
      | ok d =>
          by_cases hid : d.id? = some id
          · exact Or.inr ⟨text, d, rfl, hd, hid, shown_of_decode hd hid⟩
          · refine Or.inl ?_
            simp only [shown, preferRecord, hd, if_neg hid]

/-- What is shown has the id. -/
theorem id?_shown (s : SessionStore) (key : String) (now : Int) (id : String)
    (record : Except Error String) : (s.shown key now id record).id? = some id := by
  rcases shown_cases s key now id record with h | ⟨text, d, -, -, hid, h⟩
  · rw [h, SessionData.id?_ofId]
  · rw [h, hid]

/-- What is shown is no broader than the format allows. -/
theorem breadth_shown (hid : SessionId.isValid id = true) (key : String) (now : Int)
    (record : Except Error String) :
    (s.shown key now id record).breadth < MessagePack.lengthBound := by
  rcases shown_cases s key now id record with h | ⟨text, d, -, hd, -, h⟩
  · rw [h]
    exact (SessionData.representable_ofId hid).breadth_lt
  · rw [h]
    obtain ⟨e, -, hd⟩ := Encoders.exists_of_decode hd
    exact Encoder.breadth_of_decode hd

/-- The cookie with a name holds a valid id and nothing else. -/
structure HoldsId (s : SessionStore) (jar : Cookie.Jar) (key : String) (now : Int) (id : String) :
    Prop where
  readCookie : s.readCookie jar key now = .ok (SessionData.ofId id)
  isValid : SessionId.isValid id = true

theorem readCookie_of_get? {text : String} (h : jar.get? key = some text) :
    s.readCookie jar key now = Encoders.decode s.encoders key now text := by
  rw [readCookie, h]

theorem kind_ne_cookie (hk : s.kind = .serverSide records) : s.kind ≠ .cookie := by
  rw [hk]
  exact StoreKind.noConfusion

theorem validate_of_isValid (h : SessionId.isValid id = true) : SessionId.validate id = .ok () := by
  rw [SessionId.validate, if_pos h]

/-- **Loading** reads the record of the id in the cookie. -/
theorem load_eq (hk : s.kind = .serverSide records) (hc : s.HoldsId jar key now id) :
    s.load jar key now =
      .ask (.get records id) fun record => .done (s.shown key now id record) := by
  simp only [load, load?, hk, loadRecord, hc.readCookie, SessionData.id?_ofId,
    validate_of_isValid hc.isValid]
  rfl

theorem run_load {respond : Responder σ} (hk : s.kind = .serverSide records)
    (hc : s.HoldsId jar key now id) (t : σ) :
    (s.load jar key now).run respond t =
      (s.shown key now id (respond.record records id t), (respond (.get records id) t).2) := by
  rw [load_eq hk hc]
  rfl

/-! ### Saving -/

/-- Setting a cookie only draws. -/
theorem quiet_setCookie (s : SessionStore) (jar : Cookie.Jar) (key : String) (now : Int)
    (d : SessionData) (config : SessionConfig) :
    (s.setCookie jar key now d config).run.Quiet fun _ => True := by
  refine (Encoders.quiet_encode s.encoders key now d).bind ?_
  intro result _
  cases result with
  | error e => exact Quiet.done trivial
  | ok text => exact Quiet.done trivial

/-- A session is saved by writing its record first and its cookie then. -/
theorem save_eq {info : SessionInfo} (hk : s.kind = .serverSide records)
    (hid : info.data.id? = some id) (hv : SessionId.isValid id = true) :
    (s.save jar key now info).run =
      (s.writeRecord records key now id info).run >>= fun written =>
        match written with
        | .ok () => (s.setCookie jar key now (SessionData.ofId id) info.config).run
        | .error e => .done (.error e) := by
  simp only [save, hk, saveRecord, hid, validate_of_isValid hv]
  rw [ExceptT.run_bind]
  congr 1
  funext written
  cases written <;> rfl

/-- What follows on the record only draws. -/
theorem quiet_after_record (s : SessionStore) (jar : Cookie.Jar) (key : String) (now : Int)
    (d : SessionData) (config : SessionConfig) (written : Except Error Unit) :
    Quiet (fun _ => True) (match written with
      | .ok () => (s.setCookie jar key now d config).run
      | .error e => .done (.error e)) := by
  cases written with
  | ok _ => exact quiet_setCookie s jar key now d config
  | error e => exact Quiet.done trivial

/-- **Saving removes** the record of a session that is to end or holds its id alone, before it does
anything else. -/
theorem save_eq_remove (jar : Cookie.Jar) (key : String) (now : Int) (info : SessionInfo)
    (hk : s.kind = .serverSide records) (hid : info.data.id? = some id)
    (hv : SessionId.isValid id = true)
    (hdrop : info.config.maxAge < 0 ∨ info.data.length ≤ 1) :
    ∃ next, (s.save jar key now info).run = .ask (.remove records id) next ∧
      ∀ answer, (next answer).Quiet fun _ => True := by
  rw [save_eq hk hid hv, writeRecord, if_pos hdrop]
  refine ⟨_, rfl, fun answer => ?_⟩
  refine Quiet.bind (P := fun _ => True) ?_ fun written _ =>
    quiet_after_record s jar key now _ _ written
  cases answer with
  | error e => cases e <;> exact Quiet.done trivial
  | ok _ => exact Quiet.done trivial

/-- **Saving writes** the record of any other session, if the first encoder has a key. -/
theorem calls_save_add (jar : Cookie.Jar) (key : String) (now : Int) {e : Encoder}
    {more : List Encoder} {info : SessionInfo}
    (hk : s.kind = .serverSide records) (hid : info.data.id? = some id)
    (hv : SessionId.isValid id = true)
    (hkeep : ¬ (info.config.maxAge < 0 ∨ info.data.length ≤ 1))
    (he : s.encoders = e :: more) (hkeyed : e.authenticate?.isSome = true) :
    (s.save jar key now info).run.Calls fun call => ∃ text,
      call = .add records id text info.config.maxAge ∧ e.Writes key now info.data text := by
  rw [save_eq hk hid hv, writeRecord, if_neg hkeep, he]
  refine Calls.bind ?_ (quiet_after_record s jar key now _ _)
  refine (Encoder.draws_encode hkeyed key now info.data).bind_calls ?_ ?_
  · intro result hresult
    obtain ⟨text, rfl, hwrites⟩ := hresult
    exact Calls.call ⟨text, rfl, hwrites⟩ fun answer => Quiet.done trivial
  · intro result hresult
    exact (Encoder.quiet_of_failed hresult).mono fun _ _ => trivial

/-- Without a key for the first encoder nothing is written, and saving fails at once. -/
theorem save_of_not_keyed {info : SessionInfo} (hk : s.kind = .serverSide records)
    (hid : info.data.id? = some id) (hv : SessionId.isValid id = true)
    (hkeep : ¬ (info.config.maxAge < 0 ∨ info.data.length ≤ 1))
    (hkeyed : ∀ e more, s.encoders = e :: more → e.authenticate? = none) :
    (s.save jar key now info).run = .done (.error .missingHash) := by
  rw [save_eq hk hid hv, writeRecord, if_neg hkeep]
  cases he : s.encoders with
  | nil => rfl
  | cons e more =>
      rw [Encoders.encode, Encoder.encode, hkeyed e more he]
      rfl

/-! ### Reading back -/

/-- The store reads back whatever it writes of a session. -/
def Rereads (s : SessionStore) (key : String) (now : Int) (d : SessionData) : Prop :=
  ∀ e more text, s.encoders = e :: more → e.Writes key now d text →
    Encoders.decode s.encoders key now text = .ok d

/-- A record that shows a session is rewritten so that it can be read, if the limits of the first
encoder allow for it and the session is not too high. Only foreign records are: an octet string can
stand one level further in than it is written. -/
theorem rereads_shown (hid : SessionId.isValid id = true) {record : Except Error String}
    (hheight : (s.shown key now id record).height ≤ Value.maxHeight)
    (hadmits : ∀ e more, s.encoders = e :: more → e.Admits now now) :
    s.Rereads key now (s.shown key now id record) := by
  intro e more text he hwrites
  rw [he]
  exact Encoders.decode_of_first (Encoder.decode_of_writes_of_admits hwrites (hadmits e more he)
    ⟨hheight, breadth_shown hid key now record⟩)

end SessionStore

end WebSession
