import WebSession.Proofs.Plan.Makes
import WebSession.Proofs.SessionStore

/-!
# WebSession.Proofs.SessionStore.Calls

**Which calls an operation on a session makes.** Loading reads one record at most: that of the valid
id in the cookie (`makes_load`). Saving writes or removes the record of the session's own valid id,
and no other (`makes_save`).
-/

namespace WebSession

open Plan

/-- The id whose record a call is about. -/
def Call.id? : Call → Option String
  | .random _ => none
  | .add _ id _ _ => some id
  | .get _ id => some id
  | .remove _ id => some id

namespace SessionStore

variable {s : SessionStore} {jar : Cookie.Jar} {key records id : String} {now : Int}

/-! ### Loading -/

/-- A call that loading a session makes. -/
inductive LoadCall (s : SessionStore) (jar : Cookie.Jar) (key : String) (now : Int) :
    Call → Prop where
  /-- The record of the id in the cookie is read. -/
  | get {records id : String} {d : SessionData} : s.kind = .serverSide records →
      s.readCookie jar key now = .ok d → d.id? = some id → SessionId.isValid id = true →
      LoadCall s jar key now (.get records id)

/-- A cookie store loads what is in the cookie. -/
theorem load_of_cookie (hk : s.kind = .cookie) (jar : Cookie.Jar) (key : String) (now : Int) :
    s.load jar key now = .done ((s.readCookie jar key now).toOption.getD .empty) := by
  simp only [load, load?, hk]
  cases s.readCookie jar key now <;> rfl

/-- A server-side store reads the record of a valid id in the cookie. -/
theorem load_of_read (hk : s.kind = .serverSide records) {d : SessionData}
    (hread : s.readCookie jar key now = .ok d) (hid : d.id? = some id)
    (hv : SessionId.isValid id = true) :
    s.load jar key now =
      .ask (.get records id) fun record => .done (s.preferRecord key now d id record) := by
  simp only [load, load?, hk, loadRecord, hread, hid, validate_of_isValid hv]
  rfl

/-- It loads nothing if there is none. -/
theorem load_cases (hk : s.kind = .serverSide records) (jar : Cookie.Jar) (key : String)
    (now : Int) :
    s.load jar key now = .done .empty ∨
      ∃ d id, s.readCookie jar key now = .ok d ∧ d.id? = some id ∧ SessionId.isValid id = true ∧
        s.load jar key now =
          .ask (.get records id) fun record => .done (s.preferRecord key now d id record) := by
  cases hread : s.readCookie jar key now with
  | error e =>
      refine Or.inl ?_
      simp only [load, load?, hk, loadRecord, hread]
      rfl
  | ok d =>
      cases hid : d.id? with
      | none =>
          refine Or.inl ?_
          simp only [load, load?, hk, loadRecord, hread, hid]
          rfl
      | some id =>
          cases hv : SessionId.isValid id with
          | false =>
              refine Or.inl ?_
              simp only [load, load?, hk, loadRecord, hread, hid, SessionId.validate, hv]
              rfl
          | true => exact Or.inr ⟨d, id, rfl, hid, hv, load_of_read hk hread hid hv⟩

/-- **Loading** reads the record of the id in the cookie, if it calls for anything. -/
theorem makes_load (s : SessionStore) (jar : Cookie.Jar) (key : String) (now : Int) :
    (s.load jar key now).Makes (s.LoadCall jar key now) := by
  cases hk : s.kind with
  | cookie =>
      rw [load_of_cookie hk]
      exact .done _
  | serverSide records =>
      rcases load_cases hk jar key now with h | ⟨d, id, hread, hid, hv, h⟩
      · rw [h]
        exact .done _
      · rw [h]
        exact .ask (.get hk hread hid hv) fun record => .done _

/-- A record that is preferred to the cookie has the id of the cookie. -/
theorem id?_preferRecord {d : SessionData} (hid : d.id? = some id) (s : SessionStore)
    (key : String) (now : Int) (record : Except Error String) :
    (s.preferRecord key now d id record).id? = some id := by
  unfold preferRecord
  split
  · exact hid
  · split
    · split
      · assumption
      · exact hid
    · exact hid

/-- **The id of a loaded session** is the one in the cookie. In a server-side store it is valid. -/
theorem exists_of_id?_load {σ : Type} {respond : Responder σ} {t : σ}
    (h : ((s.load jar key now).run respond t).1.id? = some id) :
    ∃ d, s.readCookie jar key now = .ok d ∧ d.id? = some id ∧
      (s.kind ≠ .cookie → SessionId.isValid id = true) := by
  cases hk : s.kind with
  | cookie =>
      rw [load_of_cookie hk] at h
      cases hread : s.readCookie jar key now with
      | error e =>
          rw [hread] at h
          cases h
      | ok d =>
          rw [hread] at h
          exact ⟨d, rfl, h, fun hcookie => absurd rfl hcookie⟩
  | serverSide records =>
      rcases load_cases hk jar key now with hload | ⟨d, id', hread, hid, hv, hload⟩
      · rw [hload] at h
        cases h
      · rw [hload, run_ask, run_done, id?_preferRecord hid] at h
        cases h
        exact ⟨d, hread, hid, fun _ => hv⟩

/-! ### Saving -/

/-- A call that saving a session makes. -/
inductive SaveCall (s : SessionStore) (info : SessionInfo) : Call → Prop where
  /-- Random octets are drawn. -/
  | random (count : Nat) : SaveCall s info (.random count)
  /-- The record of the session is written. -/
  | add {records id text : String} : s.kind = .serverSide records → info.data.id? = some id →
      SessionId.isValid id = true → SaveCall s info (.add records id text info.config.maxAge)
  /-- The record of the session is removed. -/
  | remove {records id : String} : s.kind = .serverSide records → info.data.id? = some id →
      SessionId.isValid id = true → SaveCall s info (.remove records id)

/-- **Saving** writes or removes the record of the session's own id, besides drawing. -/
theorem makes_save (s : SessionStore) (jar : Cookie.Jar) (key : String) (now : Int)
    (info : SessionInfo) : (s.save jar key now info).run.Makes (s.SaveCall info) := by
  cases hk : s.kind with
  | cookie =>
      rw [save, hk]
      exact (s.quiet_setCookie ..).makes .random
  | serverSide records =>
      cases hid : info.data.id? with
      | none =>
          simp only [save, hk, saveRecord, hid]
          exact .done _
      | some id =>
          cases hv : SessionId.isValid id with
          | false =>
              simp only [save, hk, saveRecord, hid, SessionId.validate, hv]
              exact .done _
          | true =>
              rw [save_eq hk hid hv]
              refine Makes.bind ?_ fun written =>
                (quiet_after_record s jar key now _ _ written).makes .random
              rw [writeRecord]
              split
              · refine .ask (.remove hk hid hv) fun removed => ?_
                cases removed with
                | ok _ => exact .done _
                | error e => cases e <;> exact .done _
              · refine ((Encoders.quiet_encode ..).makes .random).bind fun record => ?_
                cases record with
                | ok text => exact .ask (.add hk hid hv) fun written => .done _
                | error e => exact .done _

end SessionStore

end WebSession
