import WebSession.Proofs.SessionStore.Serving

/-!
# WebSession.Proofs.SessionStore.SavedText

**Saving a session makes a text, whatever the jar** (`run_save_eq`). Setting the cookie to it comes
last and calls for nothing, so that all a jar can do to a request it does when the session is loaded.

A text is made where there is something to carry, the whole session or its id
(`exists_run_savedText`), and else nothing happens (`savedText_of_not_carries`).
-/

namespace WebSession

namespace SessionStore

variable {s : SessionStore} {jar : Cookie.Jar} {key records id : String} {now : Int}
  {info : SessionInfo}

/-- The text to which saving a session sets its cookie. -/
def savedText (s : SessionStore) (key : String) (now : Int) (info : SessionInfo) :
    ExceptT Error Plan String :=
  match s.kind with
  | .cookie => Encoders.encode s.encoders key now info.data
  | .serverSide records =>
    match info.data.id? with
    | none => throw .notInitialized
    | some id =>
      match SessionId.validate id with
      | .error e => throw e
      | .ok () => do
        s.writeRecord records key now id info
        Encoders.encode s.encoders key now (SessionData.ofId id)

theorem save_eq_savedText (s : SessionStore) (jar : Cookie.Jar) (key : String) (now : Int)
    (info : SessionInfo) :
    s.save jar key now info =
      s.savedText key now info >>= fun text =>
        pure (jar.add (Cookie.ofSession key text info.config)) := by
  cases hk : s.kind with
  | cookie => simp only [save, savedText, hk, setCookie]
  | serverSide records =>
      cases hid : info.data.id? with
      | none =>
          simp only [save, savedText, hk, saveRecord, hid]
          rfl
      | some id =>
          cases hv : SessionId.validate id with
          | error e =>
              simp only [save, savedText, hk, saveRecord, hid, hv]
              rfl
          | ok u =>
              simp only [save, savedText, hk, saveRecord, hid, hv, setCookie, bind_assoc]

/-- **Saving** makes a text and sets the cookie to it. -/
theorem run_save_eq (s : SessionStore) (jar : Cookie.Jar) (key : String) (now : Int)
    (info : SessionInfo) :
    (s.save jar key now info).run = (s.savedText key now info).run >>= fun made =>
      .done (made.map fun text => jar.add (Cookie.ofSession key text info.config)) := by
  rw [save_eq_savedText, ExceptT.run_bind]
  congr 1
  funext made
  cases made <;> rfl

/-! ### When there is a text -/

/-- There is something to set the cookie to: the whole session, or its id. -/
def Carries (s : SessionStore) (d : SessionData) : Prop := s.kind = .cookie ∨ d.id? ≠ none

/-- Without an id a server-side store makes no text, and calls for nothing. -/
theorem savedText_of_not_carries (h : ¬ s.Carries info.data) (key : String) (now : Int) :
    (s.savedText key now info).run = .done (.error .notInitialized) := by
  obtain ⟨hkind, hid⟩ := not_or.mp h
  have hid : info.data.id? = none := not_not.mp hid
  cases hk : s.kind with
  | cookie => exact absurd hk hkind
  | serverSide records =>
      simp only [savedText, hk, hid]
      rfl

/-- The text of a session with a valid id comes after its record. -/
theorem run_savedText_of_id (hk : s.kind = .serverSide records) (hid : info.data.id? = some id)
    (hvalid : SessionId.isValid id = true) :
    (s.savedText key now info).run =
      (s.writeRecord records key now id info).run >>= fun written =>
        match written with
        | .ok () => (Encoders.encode s.encoders key now (SessionData.ofId id)).run
        | .error e => .done (.error e) := by
  simp only [savedText, hk, hid, validate_of_isValid hvalid]
  rw [ExceptT.run_bind]
  congr 1
  funext written
  cases written <;> rfl

/-- **The text of a server-side session** is one of its id, and of nothing else. -/
theorem exists_of_run_savedText {σ : Type} {respond : Responder σ} {t : σ} {text : String}
    (hk : s.kind = .serverSide records)
    (h : ((s.savedText key now info).run.run respond t).1 = .ok text) :
    ∃ id, info.data.id? = some id ∧ SessionId.isValid id = true ∧
      s.Writes key now (.ofId id) text := by
  cases hid : info.data.id? with
  | none =>
      simp only [savedText, hk, hid] at h
      cases h
  | some id =>
      cases hvalid : SessionId.isValid id with
      | false =>
          simp only [savedText, hk, hid, SessionId.validate, hvalid] at h
          cases h
      | true =>
          refine ⟨id, rfl, hvalid, ?_⟩
          rw [run_savedText_of_id hk hid hvalid, Plan.run_bind] at h
          split at h
          · exact writes_of_encode h
          · cases h

section

variable {w : World} (hs : s.Signs) (hw : w.entropy.broken = false)

include hs hw

/-- A record is written or removed if no call fails. -/
theorem exists_run_writeRecord
    (hrun : (s.writeRecord records key now id info).run.Unfailing World.respond w) :
    ∃ w', (s.writeRecord records key now id info).run.run World.respond w = (.ok (), w') := by
  unfold writeRecord at hrun ⊢
  split
  · rename_i hdrop
    rw [if_pos hdrop] at hrun
    exact ⟨_, run_dropRecord hrun.1⟩
  · rename_i hkeep
    rw [if_neg hkeep, ExceptT.run_bind, Plan.unfailing_bind] at hrun
    obtain ⟨record, w₁, hencode, -, -⟩ := exists_run_encode hs hw key now info.data
    rw [hencode] at hrun
    have hadded : (World.respond (.add records id record info.config.maxAge) w₁).1 = .ok () :=
      hrun.2.1
    rw [ExceptT.run_bind, Plan.run_bind, hencode]
    exact ⟨_, Prod.ext hadded rfl⟩

/-- **A text is made** if there is something to carry and no call fails. -/
theorem exists_run_savedText (hcarries : s.Carries info.data)
    (hvalid : ∀ id, s.kind ≠ .cookie → info.data.id? = some id → SessionId.isValid id = true)
    (hrun : (s.savedText key now info).run.Unfailing World.respond w) :
    ∃ text w', (s.savedText key now info).run.run World.respond w = (.ok text, w') ∧
      w'.entropy.broken = false ∧ ∃ d, s.Writes key now d text := by
  cases hk : s.kind with
  | cookie =>
      obtain ⟨text, w', hencode, hencodes, -⟩ := exists_run_encode hs hw key now info.data
      have hbroken := (World.follows_run hencode).broken_eq.trans hw
      refine ⟨text, w', ?_, hbroken, _, hencodes.writes⟩
      simp only [savedText, hk]
      exact hencode
  | serverSide records =>
      have hkind := kind_ne_cookie hk
      obtain ⟨id, hid⟩ := Option.ne_none_iff_exists'.mp (hcarries.resolve_left hkind)
      rw [run_savedText_of_id hk hid (hvalid id hkind hid), Plan.unfailing_bind] at hrun
      obtain ⟨w₁, hwritten⟩ := exists_run_writeRecord hs hw hrun.1
      obtain ⟨text, w', hencode, hencodes, -⟩ := exists_run_encode hs
        ((World.follows_run hwritten).broken_eq.trans hw) key now (SessionData.ofId id)
      have hbroken := (World.follows_run hencode).broken_eq.trans
        ((World.follows_run hwritten).broken_eq.trans hw)
      refine ⟨text, w', ?_, hbroken, _, hencodes.writes⟩
      rw [run_savedText_of_id hk hid (hvalid id hkind hid), Plan.run_bind, hwritten]
      exact hencode

end

end SessionStore

end WebSession
