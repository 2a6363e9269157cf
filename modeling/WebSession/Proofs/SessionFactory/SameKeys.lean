import WebSession.Proofs.SessionFactory

/-!
# WebSession.Proofs.SessionFactory.SameKeys

**Stores with the same keys read the same texts** (`decode_eq_of_same_pairs`). Their encoders differ in
the limit on the length alone, and of a text that is within the limits of both stores each encoder of
one makes what the encoder in its place makes of it in the other, the errors included.

Which pairs of keys are accepted does not hang on the store either (`exists_encoders_iff`).
-/

namespace WebSession

/-! ### Pairs that are accepted -/

namespace KeyPair

variable {pair : KeyPair} {pairs : List KeyPair} {maxLength : Nat} {encoders : List Encoder}

/-- There is an authentication key, and if there is an encryption key the cipher knows its length. -/
structure Accepted (pair : KeyPair) : Prop where
  hashKey_ne_nil : pair.hashKey ≠ []
  known : ∀ key ∈ pair.blockKey?, key.length = 16 ∨ key.length = 24 ∨ key.length = 32

/-- An accepted pair has an encoder, and no other pair has one. -/
theorem exists_encoder_iff (pair : KeyPair) (maxLength : Nat) :
    (∃ e, pair.encoder maxLength = .ok e) ↔ pair.Accepted := by
  constructor
  · rintro ⟨e, h⟩
    obtain ⟨hkey, cipherKey?, hcipher, -⟩ := encoder_eq_ok_iff.mp h
    refine ⟨hkey, fun key hblock => ?_⟩
    rw [← hcipher] at hblock
    obtain ⟨cipher, -, rfl⟩ := Option.map_eq_some_iff.mp hblock
    exact cipher.known
  · rintro ⟨hkey, hknown⟩
    cases hblock : pair.blockKey? with
    | none => exact ⟨_, encoder_eq_ok_iff.mpr ⟨hkey, none, hblock.symm, rfl⟩⟩
    | some key =>
        exact ⟨_, encoder_eq_ok_iff.mpr ⟨hkey, some ⟨key, hknown key hblock⟩, hblock.symm, rfl⟩⟩

theorem encoders_cons_of {e : Encoder} (h : pair.encoder maxLength = .ok e)
    (hmore : KeyPair.encoders pairs maxLength = .ok encoders) :
    KeyPair.encoders (pair :: pairs) maxLength = .ok (e :: encoders) := by
  unfold KeyPair.encoders at hmore ⊢
  rw [List.mapM_cons, h, hmore]
  rfl

/-- **Encoders are made** of accepted pairs, and of these alone. -/
theorem exists_encoders_iff (pairs : List KeyPair) (maxLength : Nat) :
    (∃ encoders, KeyPair.encoders pairs maxLength = .ok encoders) ↔
      ∀ pair ∈ pairs, pair.Accepted := by
  induction pairs with
  | nil => exact iff_of_true ⟨[], rfl⟩ fun _ h => nomatch h
  | cons pair pairs ih =>
      rw [List.forall_mem_cons, ← ih, ← exists_encoder_iff pair maxLength]
      constructor
      · rintro ⟨encoders, h⟩
        obtain ⟨e, more, -, he, hmore⟩ := encoders_cons h
        exact ⟨⟨e, he⟩, more, hmore⟩
      · rintro ⟨⟨e, he⟩, more, hmore⟩
        exact ⟨_, encoders_cons_of he hmore⟩

/-- Another limit on the length of texts changes nothing else of the encoders. -/
theorem encoders_withLength (h : KeyPair.encoders pairs maxLength = .ok encoders)
    (maxLength' : Nat) :
    KeyPair.encoders pairs maxLength' =
      .ok (encoders.map fun e => { e with maxLength := maxLength' }) := by
  induction pairs generalizing encoders with
  | nil =>
      cases h
      rfl
  | cons pair pairs ih =>
      obtain ⟨e, more, rfl, he, hmore⟩ := encoders_cons h
      exact encoders_cons_of (encoder_withLength he maxLength') (ih hmore)

theorem maxLength_of_mem_encoders (h : KeyPair.encoders pairs maxLength = .ok encoders)
    {e : Encoder} (he : e ∈ encoders) : e.maxLength = maxLength := by
  obtain ⟨pair, -, hpair⟩ := exists_of_mem_encoders h he
  obtain ⟨block?, rfl⟩ := encoder_eq hpair
  rfl

end KeyPair

/-! ### Reading within the limits -/

variable {key text : String} {now : Int}

/-- A text is not longer than a limit, zero for none. -/
def Fits (maxLength : Nat) (text : String) : Prop :=
  maxLength = 0 ∨ text.utf8ByteSize ≤ maxLength

/-- Another limit makes no difference to texts that are within both. -/
theorem Encoder.decode_withLength {e : Encoder} {maxLength : Nat} (h : Fits e.maxLength text)
    (h' : Fits maxLength text) :
    { e with maxLength := maxLength }.decode key now text = e.decode key now text := by
  have hlong : ¬ (e.maxLength ≠ 0 ∧ e.maxLength < text.utf8ByteSize) := by
    unfold Fits at h
    omega
  have hlong' : ¬ (maxLength ≠ 0 ∧ maxLength < text.utf8ByteSize) := by
    unfold Fits at h'
    omega
  cases he : e.authenticate? with
  | none => simp only [decode, he]
  | some authenticate =>
      simp only [decode, he]
      rw [if_neg hlong, if_neg hlong']
      rfl

theorem Encoders.decode_withLength {encoders : List Encoder} {maxLength : Nat}
    (h : ∀ e ∈ encoders, Fits e.maxLength text) (h' : Fits maxLength text) :
    decode (encoders.map fun e => { e with maxLength := maxLength }) key now text =
      decode encoders key now text := by
  rw [decode, decode]
  generalize Error.missingHash = failure
  induction encoders generalizing failure with
  | nil => rfl
  | cons e more ih =>
      obtain ⟨hfits, hmore⟩ := List.forall_mem_cons.mp h
      rw [List.map_cons, decode.go, decode.go, Encoder.decode_withLength hfits h']
      cases e.decode key now text with
      | ok d => rfl
      | error failure => exact ih hmore failure

/-- **Stores with the same keys read alike** what is within the limits of both. -/
theorem SessionStore.decode_eq_of_same_pairs {s s' : SessionStore} {pairs : List KeyPair}
    (h : KeyPair.encoders pairs s.maxLength = .ok s.encoders)
    (h' : KeyPair.encoders pairs s'.maxLength = .ok s'.encoders) (hfits : Fits s.maxLength text)
    (hfits' : Fits s'.maxLength text) :
    Encoders.decode s.encoders key now text = Encoders.decode s'.encoders key now text := by
  have hsame := KeyPair.encoders_withLength h s'.maxLength
  rw [h'] at hsame
  rw [Except.ok.inj hsame]
  refine (Encoders.decode_withLength (fun e he => ?_) hfits').symm
  rw [KeyPair.maxLength_of_mem_encoders h he]
  exact hfits

end WebSession
