import WebSession.Proofs.Encoder.Size
import WebSession.Proofs.Serialized.Length
import WebSession.Proofs.SessionStore.SameReading

/-!
# WebSession.Proofs.SessionStore.SameText

**Two texts that a store makes of one session in one second** have the same size, and so they are read
alike by the encoder that made them (`decode_eq_of_isText`).

Where the store tries its other encoders as well, they are read alike of every session in a cookie
(`readAlike_of_isText`): one that the format cannot hold is too long for a cookie, and is read by none
of them. Records have no limit, so that there it takes the condition of `Determines`.
-/

namespace WebSession

open Plan

namespace SessionStore

variable {s : SessionStore} {pairs : List KeyPair} {key text text' : String} {made : Int}
  {d : SessionData}

/-- The text is one that the store makes of a session, however its calls are answered. -/
def IsText (s : SessionStore) (key : String) (made : Int) (d : SessionData) (text : String) : Prop :=
  ∃ (σ : Type) (respond : Responder σ) (t : σ),
    ((Encoders.encode s.encoders key made d).run.run respond t).1 = .ok text

theorem IsText.writes (h : s.IsText key made d text) : s.Writes key made d text := by
  obtain ⟨σ, respond, t, h⟩ := h
  exact writes_of_encode h

theorem IsText.size_eq (h : s.IsText key made d text) {e : Encoder} {more : List Encoder}
    (he : s.encoders = e :: more) : text.utf8ByteSize = e.textSize made d := by
  obtain ⟨σ, respond, t, h⟩ := h
  rw [he] at h
  exact (e.quiet_encode_size key made d).good_run respond t text h

theorem decode_eq_of_isText (h : s.IsText key made d text) (h' : s.IsText key made d text')
    {e : Encoder} {more : List Encoder} (he : s.encoders = e :: more) (now : Int) :
    e.decode key now text = e.decode key now text' := by
  obtain ⟨e₁, more₁, he₁, hwrites⟩ := h.writes
  obtain ⟨e₂, more₂, he₂, hwrites'⟩ := h'.writes
  cases he.symm.trans he₁
  cases he.symm.trans he₂
  exact Encoder.decode_eq_of_writes hwrites hwrites' ((h.size_eq he).trans (h'.size_eq he).symm) now

/-- Without a cipher there is but one text. -/
theorem eq_of_isText_of_plain (h : s.IsText key made d text) (h' : s.IsText key made d text')
    {e : Encoder} {more : List Encoder} (he : s.encoders = e :: more) (hblock : e.block? = none) :
    text = text' := by
  obtain ⟨e₀, more₀, he₀, authenticate, -, hauthenticate, -⟩ := h.writes
  cases he.symm.trans he₀
  have hplain : ∀ text, s.IsText key made d text → text = Encoder.signed authenticate key
      (Base64Url.encode d.serialize) (Numeral.text (e.clock made)) := by
    rintro text ⟨σ, respond, t, hrun⟩
    rw [he, Encoders.encode, Encoder.run_encode_of_plain hauthenticate hblock] at hrun
    exact (Except.ok.inj hrun).symm
  exact (hplain text h).trans (hplain text' h').symm

section

variable (hkeyed : s.Keyed pairs) (hmade : Range.isInt64 made = true)
  (h : s.IsText key made d text) (h' : s.IsText key made d text')

include hkeyed hmade h

/-- What is read of a cookie is short enough. -/
theorem short_of_decode (hk : s.kind = .cookie) {now : Int} {d' : SessionData}
    (hread : Encoders.decode s.encoders key now text = .ok d') :
    text.utf8ByteSize ≤ cookieMaxLength := by
  obtain ⟨e, more, he, hwrites⟩ := h.writes
  obtain ⟨pair, e₀, more₀, he₀, hpair⟩ := hkeyed.exists_encoder
  cases he.symm.trans he₀
  have hclock : e.clock = id := by
    obtain ⟨block?, rfl⟩ := KeyPair.encoder_eq hpair
    rfl
  obtain ⟨e', he', hread'⟩ := Encoders.exists_of_decode hread
  obtain ⟨pair', -, hpair'⟩ := KeyPair.exists_of_mem_encoders hkeyed.2 he'
  obtain ⟨hlength, -⟩ := KeyPair.limits_of_decode hpair' hwrites
    (by rw [hclock]; exact hmade) hread'
  have hmax : s.maxLength = cookieMaxLength := by rw [maxLength, hk]
  rw [hmax] at hlength
  exact hlength.resolve_left (by decide)

/-- What the format cannot hold is too long for a cookie. -/
theorem representable_of_decode_cookie (hk : s.kind = .cookie) {now : Int} {d' : SessionData}
    (hread : Encoders.decode s.encoders key now text = .ok d') : d.Representable := by
  obtain ⟨e, more, he, -⟩ := h.writes
  by_contra hd
  have hlong := SessionData.lt_length_serialize hd
  have hsize := e.length_add_le_textSize made d
  have hlimit := short_of_decode hkeyed hmade h hk hread
  rw [h.size_eq he, cookieMaxLength] at hlimit
  rw [Value.maxHeight] at hlong
  omega

include h'

/-- If one text of a session that fits the format is read, so is any other of the same second. -/
theorem decode_of_isText (hd : d.Representable) {now : Int} {d' : SessionData}
    (hread : Encoders.decode s.encoders key now text = .ok d') :
    Encoders.decode s.encoders key now text' = .ok d' := by
  obtain ⟨e, more, he, -⟩ := h.writes
  refine decode_of_decode hkeyed h.writes h'.writes hmade (fun hk => ?_) hd hread
  rw [h'.size_eq he, ← h.size_eq he]
  exact short_of_decode hkeyed hmade h hk hread

/-- **Texts of one session of the same second** are read alike. -/
theorem readAlike_of_isText (hd : s.Determines d ∨ s.kind = .cookie) :
    s.ReadAlike key text text' := by
  rcases hd with (hd | hsingle) | hk
  · exact readAlike_of_imp (fun _ _ => decode_of_isText hkeyed hmade h h' hd)
      fun _ _ => decode_of_isText hkeyed hmade h' h hd
  · obtain ⟨e, more, he, -⟩ := h.writes
    rcases hsingle e more he with rfl | hblock
    · -- no other encoder is asked
      intro now
      simp only [he, Encoders.decode, Encoders.decode.go, decode_eq_of_isText h h' he now]
    · rw [eq_of_isText_of_plain h h' he hblock]
      exact fun _ => rfl
  · -- what is read of a cookie fits the format, since it is short
    exact readAlike_of_imp
      (fun _ _ hread => decode_of_isText hkeyed hmade h h'
        (representable_of_decode_cookie hkeyed hmade h hk hread) hread)
      fun _ _ hread => decode_of_isText hkeyed hmade h' h
        (representable_of_decode_cookie hkeyed hmade h' hk hread) hread

end

/-! ### Cookies -/

/-- What the cookie of a session carries: the whole session, or its id alone. -/
def carried (s : SessionStore) (d : SessionData) : SessionData :=
  match s.kind, d.id? with
  | .serverSide _, some id => .ofId id
  | _, _ => d

/-- **The text of a cookie** is one of what it carries. -/
theorem isText_of_savedText {σ : Type} {respond : Responder σ} {t : σ} {now : Int}
    {info : SessionInfo} (h : ((s.savedText key now info).run.run respond t).1 = .ok text) :
    s.IsText key now (s.carried info.data) text ∧
      (s.Determines (s.carried info.data) ∨ s.kind = .cookie) := by
  cases hk : s.kind with
  | cookie =>
      simp only [savedText, hk] at h
      simp only [carried, hk]
      exact ⟨⟨σ, respond, t, h⟩, Or.inr trivial⟩
  | serverSide records =>
      obtain ⟨id, hid, hvalid, -⟩ := exists_of_run_savedText hk h
      rw [run_savedText_of_id hk hid hvalid, Plan.run_bind] at h
      simp only [carried, hk, hid]
      refine ⟨?_, Or.inl (Or.inl (SessionData.representable_ofId hvalid))⟩
      split at h
      · exact ⟨σ, respond, _, h⟩
      · cases h

end SessionStore

end WebSession
