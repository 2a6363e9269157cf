import WebSession.Proofs.Plan.Coupled
import WebSession.Proofs.SessionStore.SavedText

/-!
# WebSession.Proofs.SessionStore.SameReading

**What was drawn for a text is not read from it** (`coupled_encode`): two texts that are written of
one session in the same second are read alike at every time, though they differ in counters and salts.
So loading (`coupled_load`) and saving (`coupled_savedText`) in two worlds are coupled, if these read
the records of the session alike.

A session that is higher than the format allows is not read by the encoder that wrote it. One with
another key may then try to decrypt what it cannot, and what it makes of it hangs on the octets drawn.
So such sessions are left out where there are several encoders and the first of them has a cipher
(`Determines`).
-/

namespace WebSession

open Plan

namespace SessionStore

variable {s : SessionStore} {pairs : List KeyPair} {jar jar' : Cookie.Jar}
  {key records id text text' : String} {made now : Int} {d d' : SessionData} {info : SessionInfo}
  {ids : String → Prop}

/-! ### Texts -/

/-- At every time two texts are read as the same session, or neither is read. -/
def ReadAlike (s : SessionStore) (key text text' : String) : Prop :=
  ∀ now, (Encoders.decode s.encoders key now text).toOption =
    (Encoders.decode s.encoders key now text').toOption

/-- It is enough that what is read of one text is read of the other. -/
theorem readAlike_of_imp
    (h : ∀ now d, Encoders.decode s.encoders key now text = .ok d →
      Encoders.decode s.encoders key now text' = .ok d)
    (h' : ∀ now d, Encoders.decode s.encoders key now text' = .ok d →
      Encoders.decode s.encoders key now text = .ok d) : s.ReadAlike key text text' := by
  intro now
  cases hread : Encoders.decode s.encoders key now text with
  | ok d => rw [h now d hread]
  | error e =>
      cases hread' : Encoders.decode s.encoders key now text' with
      | ok d => cases (h' now d hread').symm.trans hread
      | error e' => rfl

section

variable (h : s.Keyed pairs) (htext : s.Writes key made d text) (htext' : s.Writes key made d text')
  (hmade : Range.isInt64 made = true)

include h htext htext' hmade

/-- If one text of a session is read, so is any other of the same second that is short enough. -/
theorem decode_of_decode (hshort : s.kind = .cookie → text'.utf8ByteSize ≤ cookieMaxLength)
    (hd : d.Representable) (hread : Encoders.decode s.encoders key now text = .ok d') :
    Encoders.decode s.encoders key now text' = .ok d' := by
  have hsame : d' = d := eq_of_decode_of_writes h.2 h.2 htext hd hmade hread
  subst hsame
  by_cases hold : made = 0 ∨ made < now - SessionConfig.defaultMaxAge
  · exact absurd hread (not_decode_of_writes h htext hmade hold d')
  · obtain ⟨hzero, hage⟩ := not_or.mp hold
    exact decode_of_writes h htext' hd hmade hzero (by omega) hshort

variable (hk : s.kind = .serverSide records)

include hk

/-- **Texts of a session that fits the format** are read alike. -/
theorem readAlike_of_writes (hd : d.Representable) : s.ReadAlike key text text' := by
  have hshort : ∀ text : String, s.kind = .cookie → text.utf8ByteSize ≤ cookieMaxLength :=
    fun _ hcookie => absurd hcookie (kind_ne_cookie hk)
  exact readAlike_of_imp
    (fun _ _ => decode_of_decode h htext htext' hmade (hshort text') hd)
    fun _ _ => decode_of_decode h htext' htext hmade (hshort text) hd

/-- A single encoder reads its texts alike, whatever the session. -/
theorem readAlike_of_single {e : Encoder} (he : s.encoders = [e]) : s.ReadAlike key text text' := by
  obtain ⟨pair, e₀, more, he₀, hpair⟩ := h.exists_encoder
  cases he.symm.trans he₀
  have hunlimited : e.maxLength = 0 := by
    obtain ⟨block?, rfl⟩ := KeyPair.encoder_eq hpair
    simp only [SessionStore.maxLength, hk]
  have hclock : e.clock = id := by
    obtain ⟨block?, rfl⟩ := KeyPair.encoder_eq hpair
    rfl
  have hdecode : ∀ text now, s.Writes key made d text → e.decode key now text =
      e.checkAge (e.clock made) (e.clock now) >>= fun _ =>
        SessionData.deserialize d.serialize := by
    rintro text now ⟨e', more', he', hwrites⟩
    cases he.symm.trans he'
    rw [Encoder.decode_of_writes hwrites (by rw [hclock]; exact hmade),
      if_neg fun hlong => hlong.1 hunlimited]
  intro now
  simp only [he, Encoders.decode, Encoders.decode.go, hdecode text now htext,
    hdecode text' now htext']

end

/-! ### Writing -/

/-- How the texts of a session are read does not hang on what is drawn for them: it fits the format,
or there is one encoder, or the first has no cipher. -/
def Determines (s : SessionStore) (d : SessionData) : Prop :=
  d.Representable ∨ ∀ e more, s.encoders = e :: more → more = [] ∨ e.block? = none

/-- What is looked at in the records of the store: some ids, and how the texts under them are read. -/
def view (s : SessionStore) (key records : String) (ids : String → Prop) : View where
  store := records
  ids := ids
  same := s.ReadAlike key

/-- Both attempts make a text of a session, and the two are read alike. -/
def Twins (s : SessionStore) (key : String) (made : Int) (d : SessionData)
    (encoded encoded' : Except Error String) : Prop :=
  ∃ text text', encoded = .ok text ∧ encoded' = .ok text' ∧ s.Writes key made d text ∧
    s.Writes key made d text' ∧ s.ReadAlike key text text'

/-- **Two texts of one session** are read alike. -/
theorem coupled_encode (h : s.Keyed pairs) (hk : s.kind = .serverSide records) (v : View)
    (hnow : Range.isInt64 now = true) (hd : s.Determines d) :
    (Encoders.encode s.encoders key now d).run.Coupled v (s.Twins key now d)
      (Encoders.encode s.encoders key now d).run := by
  obtain ⟨pair, e, more, he, hpair⟩ := h.exists_encoder
  have hkey := KeyPair.isSome_authenticate? hpair
  have htwins : ∀ (encoded encoded' : Except Error String),
      (∀ text text', s.Writes key now d text → s.Writes key now d text' →
        s.ReadAlike key text text') →
      (∃ text, encoded = .ok text ∧ e.Writes key now d text) →
      (∃ text, encoded' = .ok text ∧ e.Writes key now d text) →
        s.Twins key now d encoded encoded' := by
    rintro _ _ halike ⟨text, rfl, hwrites⟩ ⟨text', rfl, hwrites'⟩
    have htext : s.Writes key now d text := ⟨e, more, he, hwrites⟩
    have htext' : s.Writes key now d text' := ⟨e, more, he, hwrites'⟩
    exact ⟨text, text', rfl, rfl, htext, htext', halike _ _ htext htext'⟩
  rcases hd with hd | hd
  · rw [he]
    exact (Encoder.draws_encode hkey key now d).coupled (Encoder.draws_encode hkey key now d)
      fun _ _ => htwins _ _ fun _ _ htext htext' =>
        readAlike_of_writes h htext htext' hnow hk hd
  · rcases hd e more he with rfl | hblock
    · rw [he]
      exact (Encoder.draws_encode hkey key now d).coupled (Encoder.draws_encode hkey key now d)
        fun _ _ => htwins _ _ fun _ _ htext htext' =>
          readAlike_of_single h htext htext' hnow hk he
    · -- without a cipher nothing is drawn
      obtain ⟨authenticate, hauthenticate⟩ := Option.isSome_iff_exists.mp hkey
      have hwrites := Encoder.writes_plain hauthenticate hblock key now d
      have htext : s.Writes key now d _ := ⟨e, more, he, hwrites⟩
      rw [he, Encoders.encode, Encoder.encode_of_plain hauthenticate hblock]
      exact .done ⟨_, _, rfl, rfl, htext, htext, fun _ => rfl⟩

/-! ### Loading -/

/-- Jars that are read alike load alike. -/
theorem load_congr (h : (s.readCookie jar key now).toOption = (s.readCookie jar' key now).toOption) :
    s.load jar key now = s.load jar' key now := by
  cases hread : s.readCookie jar key now with
  | error e =>
      cases hread' : s.readCookie jar' key now with
      | error e' => rw [load_of_unread hread, load_of_unread hread']
      | ok d' =>
          rw [hread, hread'] at h
          cases h
  | ok d =>
      cases hread' : s.readCookie jar' key now with
      | error e' =>
          rw [hread, hread'] at h
          cases h
      | ok d' =>
          rw [hread, hread'] at h
          cases h
          simp only [load, load?, loadRecord, hread, hread']

/-- Records that tell the same are preferred to a cookie alike. -/
theorem preferRecord_congr {record record' : Except Error String}
    (h : (s.view key records ids).Tells record record') (d : SessionData) (id : String) :
    s.preferRecord key now d id record = s.preferRecord key now d id record' := by
  cases record with
  | error e =>
      cases record' with
      | error e' => rfl
      | ok text' => cases h
  | ok text =>
      cases record' with
      | error e' => cases h
      | ok text' =>
          have hprefer : ∀ text, s.preferRecord key now d id (.ok text) =
              match (Encoders.decode s.encoders key now text).toOption with
              | some d' => if d'.id? = some id then d' else d
              | none => d := by
            intro text
            simp only [preferRecord]
            cases Encoders.decode s.encoders key now text <;> rfl
          rw [hprefer, hprefer, h now]

/-- **A session is loaded alike** where its record tells the same. -/
theorem coupled_load (hk : s.kind = .serverSide records)
    (hids : ∀ d id, s.readCookie jar key now = .ok d → d.id? = some id → ids id) :
    (s.load jar key now).Coupled (s.view key records ids) Eq (s.load jar key now) := by
  rcases load_cases hk jar key now with h | ⟨d, id, hread, hid, -, h⟩
  · rw [h]
    exact .done rfl
  · rw [h]
    exact .get (v := s.view key records ids) (hids d id hread hid) fun record record' htells =>
      .done (preferRecord_congr htells d id)

/-! ### Saving -/

theorem coupled_dropRecord (hid : ids id) :
    (dropRecord records id).run.Coupled (s.view key records ids) (fun dropped dropped' =>
      dropped = .ok () ∧ dropped' = .ok ()) (dropRecord records id).run := by
  refine .remove (v := s.view key records ids) hid fun removed removed' h h' => ?_
  rcases h with rfl | rfl <;> rcases h' with rfl | rfl <;> exact .done ⟨rfl, rfl⟩

section

variable (h : s.Keyed pairs) (hk : s.kind = .serverSide records) (hnow : Range.isInt64 now = true)
  (hid : ids id) (hd : s.Determines info.data)

include h hk hnow hid hd

theorem coupled_writeRecord :
    (s.writeRecord records key now id info).run.Coupled (s.view key records ids)
      (fun written written' => written = .ok () ∧ written' = .ok ())
      (s.writeRecord records key now id info).run := by
  unfold writeRecord
  split
  · exact coupled_dropRecord hid
  · rw [ExceptT.run_bind]
    refine (coupled_encode h hk _ hnow hd).bind ?_
    rintro _ _ ⟨text, text', rfl, rfl, -, -, halike⟩
    exact .add (v := s.view key records ids) hid halike (.done ⟨rfl, rfl⟩)

/-- **A session is saved alike**: the record tells the same, and so does the cookie, of the id. -/
theorem coupled_savedText (hinfo : info.data.id? = some id) (hvalid : SessionId.isValid id = true) :
    (s.savedText key now info).run.Coupled (s.view key records ids) (s.Twins key now (.ofId id))
      (s.savedText key now info).run := by
  rw [run_savedText_of_id hk hinfo hvalid]
  refine (coupled_writeRecord h hk hnow hid hd).bind ?_
  rintro _ _ ⟨rfl, rfl⟩
  exact coupled_encode h hk _ hnow (Or.inl (SessionData.representable_ofId hvalid))

end

end SessionStore

end WebSession
