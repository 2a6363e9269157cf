import WebSession.Proofs.Encoder
import WebSession.SessionFactory

/-!
# WebSession.Proofs.SessionFactory

**The encoders of key pairs** all have a key and the same limits: none on their youth, the default
age, and the length of their store (`KeyPair.encoder_eq`). Keys that are set become the encoders of
the store (`SessionFactory.store_of_setStoreKeys`).
-/

namespace WebSession

/-- The key with the given octets, if there is one. -/
theorem CipherKey.ofBytes_eq_ok_iff {b : Bytes} {key : CipherKey} :
    ofBytes b = .ok key ↔ key.octets = b := by
  unfold ofBytes
  constructor
  · intro h
    split at h
    · cases h
      rfl
    · cases h
  · rintro rfl
    rw [dif_pos key.known]

namespace KeyPair

/-- **The encoder of a pair** has the authentication key, the cipher of the encryption key if there is
one, the default age and the length limit. -/
theorem encoder_eq_ok_iff {pair : KeyPair} {maxLength : Nat} {e : Encoder} :
    pair.encoder maxLength = .ok e ↔ pair.hashKey ≠ [] ∧
      ∃ cipherKey? : Option CipherKey, cipherKey?.map CipherKey.octets = pair.blockKey? ∧
        e = { Encoder.ofKeys pair.hashKey cipherKey? with
          maxAge := SessionConfig.defaultMaxAge
          maxLength := maxLength } := by
  unfold encoder
  by_cases hkey : pair.hashKey = []
  · simp [hkey]
  · rw [if_neg (by simpa using hkey)]
    cases hblock : pair.blockKey? with
    | none =>
        simp only [Option.map_eq_none_iff, exists_eq_left, ne_eq, hkey, not_false_iff, true_and]
        exact ⟨fun h => (Except.ok.inj h).symm, fun h => congrArg Except.ok h.symm⟩
    | some key =>
        simp only [ne_eq, hkey, not_false_iff, true_and, Option.map_eq_some_iff]
        constructor
        · intro h
          cases hcipher : CipherKey.ofBytes key with
          | error failure =>
              rw [hcipher] at h
              cases h
          | ok cipher =>
              rw [hcipher] at h
              cases h
              exact ⟨some cipher, ⟨cipher, rfl, CipherKey.ofBytes_eq_ok_iff.mp hcipher⟩, rfl⟩
        · rintro ⟨cipherKey?, ⟨cipher, rfl, hoctets⟩, rfl⟩
          rw [CipherKey.ofBytes_eq_ok_iff.mpr hoctets]
          rfl

/-- What a pair makes of a length limit. -/
theorem encoder_eq {pair : KeyPair} {maxLength : Nat} {e : Encoder}
    (h : pair.encoder maxLength = .ok e) :
    ∃ block?, e =
      { authenticate? := some (Sha256.authenticate pair.hashKey)
        block? := block?
        maxAge := SessionConfig.defaultMaxAge
        maxLength := maxLength } := by
  obtain ⟨-, cipherKey?, -, rfl⟩ := encoder_eq_ok_iff.mp h
  exact ⟨_, rfl⟩

/-- Another limit on the length of texts changes nothing else of the encoder. -/
theorem encoder_withLength {pair : KeyPair} {maxLength : Nat} {e : Encoder}
    (h : pair.encoder maxLength = .ok e) (maxLength' : Nat) :
    pair.encoder maxLength' = .ok { e with maxLength := maxLength' } := by
  obtain ⟨hkey, cipherKey?, hcipher, rfl⟩ := encoder_eq_ok_iff.mp h
  exact encoder_eq_ok_iff.mpr ⟨hkey, cipherKey?, hcipher, rfl⟩

/-- The encoder encrypts if there is an encryption key. -/
theorem isSome_block?_encoder {pair : KeyPair} {maxLength : Nat} {e : Encoder}
    (h : pair.encoder maxLength = .ok e) : e.block?.isSome = pair.blockKey?.isSome := by
  obtain ⟨-, cipherKey?, hcipher, rfl⟩ := encoder_eq_ok_iff.mp h
  rw [← hcipher, Option.isSome_map]
  exact Option.isSome_map

/-- The first pair makes the first encoder. -/
theorem encoders_cons {pair : KeyPair} {pairs : List KeyPair} {maxLength : Nat}
    {encoders : List Encoder} (h : KeyPair.encoders (pair :: pairs) maxLength = .ok encoders) :
    ∃ e more, encoders = e :: more ∧ pair.encoder maxLength = .ok e ∧
      KeyPair.encoders pairs maxLength = .ok more := by
  unfold KeyPair.encoders at h
  rw [List.mapM_cons] at h
  cases he : pair.encoder maxLength with
  | error failure =>
      rw [he] at h
      cases h
  | ok e =>
      rw [he] at h
      cases hmore : pairs.mapM (fun pair => pair.encoder maxLength) with
      | error failure =>
          simp only [hmore] at h
          cases h
      | ok more =>
          simp only [hmore] at h
          cases h
          exact ⟨e, more, rfl, rfl, hmore⟩

/-- Every encoder is that of a pair. -/
theorem exists_of_mem_encoders {pairs : List KeyPair} {maxLength : Nat} {encoders : List Encoder}
    (h : KeyPair.encoders pairs maxLength = .ok encoders) {e : Encoder} (he : e ∈ encoders) :
    ∃ pair ∈ pairs, pair.encoder maxLength = .ok e := by
  induction pairs generalizing encoders with
  | nil =>
      cases h
      cases he
  | cons pair pairs ih =>
      obtain ⟨first, more, rfl, hpair, hmore⟩ := encoders_cons h
      rcases List.mem_cons.mp he with rfl | he
      · exact ⟨pair, List.mem_cons_self, hpair⟩
      · obtain ⟨pair', hmem, hpair'⟩ := ih hmore he
        exact ⟨pair', List.mem_cons_of_mem _ hmem, hpair'⟩

/-- An encoder of a pair reads for the default age what it writes at any second but the first. -/
theorem admits {pair : KeyPair} {e : Encoder} (h : pair.encoder 0 = .ok e) {made now : Int}
    (hmade : Range.isInt64 made = true) (hzero : made ≠ 0)
    (hage : now ≤ made + SessionConfig.defaultMaxAge) : e.Admits made now := by
  obtain ⟨block?, rfl⟩ := encoder_eq h
  refine ⟨rfl, hmade, hzero, fun hlimit => absurd rfl hlimit, fun _ => ?_⟩
  show now - SessionConfig.defaultMaxAge ≤ made
  omega

/-- An encoder of a pair reads for the default age whatever is short enough. -/
theorem passes {pair : KeyPair} {maxLength : Nat} {e : Encoder}
    (h : pair.encoder maxLength = .ok e) {made now : Int} (hmade : Range.isInt64 made = true)
    (hzero : made ≠ 0) (hage : now ≤ made + SessionConfig.defaultMaxAge) {text : String}
    (hlength : maxLength = 0 ∨ text.utf8ByteSize ≤ maxLength) : e.Passes made now text := by
  obtain ⟨block?, rfl⟩ := encoder_eq h
  have hyoung : ¬ made < now - SessionConfig.defaultMaxAge := by omega
  refine ⟨?_, hmade, ?_⟩
  · show ¬ (maxLength ≠ 0 ∧ maxLength < text.utf8ByteSize)
    omega
  · simp [Encoder.checkAge, hzero, hyoung]

/-- What an encoder of a pair reads is short enough, has a time and is not older than the default
age, whoever wrote it. -/
theorem limits_of_decode {pair : KeyPair} {maxLength : Nat} {e writer : Encoder}
    (h : pair.encoder maxLength = .ok e) {key text : String} {made now : Int} {d d' : SessionData}
    (hwrites : writer.Writes key made d text) (hmade : Range.isInt64 (writer.clock made) = true)
    (hread : e.decode key now text = .ok d') :
    (maxLength = 0 ∨ text.utf8ByteSize ≤ maxLength) ∧ writer.clock made ≠ 0 ∧
      now ≤ writer.clock made + SessionConfig.defaultMaxAge := by
  obtain ⟨authenticate, payload, -, hpayload, rfl, -⟩ := hwrites
  obtain ⟨block?, rfl⟩ := encoder_eq h
  cases hverified : Encoder.verified? (Sha256.authenticate pair.hashKey) key
      (Encoder.signed authenticate key payload (Numeral.text (writer.clock made))) with
  | none =>
      rw [Encoder.decode_of_not_verified rfl hverified] at hread
      split at hread <;> cases hread
  | some content =>
      -- the parts of a signed text are found again, so the time is that of the writer
      obtain ⟨payload', timestamp⟩ := content
      obtain ⟨hpayload', htimestamp, hsigned⟩ := Encoder.verified?_eq_some_iff.mp hverified
      obtain ⟨-, rfl⟩ := Encoder.signed_injective hpayload (Numeral.bar_not_mem_text _) hpayload'
        htimestamp hsigned
      rw [Encoder.decode_of_verified rfl hverified, Encoder.secondsOf_text hmade] at hread
      split at hread
      · cases hread
      · rename_i hlength
        have hlength : maxLength = 0 ∨ (Encoder.signed authenticate key payload
            (Numeral.text (writer.clock made))).utf8ByteSize ≤ maxLength := by
          simp only at hlength
          omega
        by_cases hzero : writer.clock made = 0
        · simp only [Encoder.checkAge, if_pos hzero] at hread
          cases hread
        · by_cases hold : writer.clock made < now - SessionConfig.defaultMaxAge
          · have hage : SessionConfig.defaultMaxAge ≠ 0 := by decide
            simp [Encoder.checkAge, hzero, hage, hold] at hread
            cases hread
          · exact ⟨hlength, hzero, by omega⟩

/-- An encoder of a pair reads nothing that has no time or is older than the default age, whoever
wrote it. -/
theorem decode_of_old {pair : KeyPair} {maxLength : Nat} {e writer : Encoder}
    (h : pair.encoder maxLength = .ok e) {key text : String} {made now : Int} {d : SessionData}
    (hwrites : writer.Writes key made d text) (hmade : Range.isInt64 (writer.clock made) = true)
    (hold : writer.clock made = 0 ∨ writer.clock made < now - SessionConfig.defaultMaxAge)
    (d' : SessionData) :
    e.decode key now text ≠ .ok d' := by
  intro hread
  obtain ⟨-, hzero, hage⟩ := limits_of_decode h hwrites hmade hread
  rcases hold with hnone | hold
  · exact hzero hnone
  · omega

theorem isSome_authenticate? {pair : KeyPair} {maxLength : Nat} {e : Encoder}
    (h : pair.encoder maxLength = .ok e) : e.authenticate?.isSome = true := by
  obtain ⟨block?, rfl⟩ := encoder_eq h
  rfl

end KeyPair

namespace SessionFactory

variable {f f' : SessionFactory} {name : String} {pairs : List KeyPair} {s : SessionStore}

theorem store_eq_ok_iff : f.store name = .ok s ↔ f.stores.get? name = some s := by
  unfold store
  cases f.stores.get? name <;> simp

/-- **Setting keys** gives a store that there is the encoders of the pairs, if these are accepted. -/
theorem setStoreKeys_eq_ok_iff :
    f.setStoreKeys name pairs = .ok f' ↔ ∃ s encoders, f.store name = .ok s ∧
      KeyPair.encoders pairs s.maxLength = .ok encoders ∧
      f' = f.setStore name { s with encoders := encoders } := by
  unfold setStoreKeys
  constructor
  · intro h
    cases hs : f.store name with
    | error e =>
        rw [hs] at h
        cases h
    | ok s =>
        cases hencoders : KeyPair.encoders pairs s.maxLength with
        | error e =>
            simp only [hs, bind, Except.bind, hencoders] at h
            cases h
        | ok encoders =>
            simp only [hs, bind, Except.bind, hencoders] at h
            cases h
            exact ⟨s, encoders, rfl, hencoders, rfl⟩
  · rintro ⟨s, encoders, hs, hencoders, rfl⟩
    simp only [hs, bind, Except.bind, hencoders]
    rfl

/-- The store that keys were set for is what it was but for its encoders, which are those of the
pairs. -/
theorem store_setStoreKeys_iff (h : f.setStoreKeys name pairs = .ok f') :
    f'.store name = .ok s ↔ ∃ s₀, f.store name = .ok s₀ ∧ s.kind = s₀.kind ∧
      KeyPair.encoders pairs s.maxLength = .ok s.encoders := by
  obtain ⟨s₀, encoders, hs₀, hencoders, rfl⟩ := setStoreKeys_eq_ok_iff.mp h
  rw [store_eq_ok_iff, setStore, Dict.get?_set_self, Option.some_inj]
  constructor
  · rintro rfl
    exact ⟨s₀, hs₀, rfl, hencoders⟩
  · rintro ⟨s₁, hs₁, hkind, hencoders'⟩
    cases hs₀.symm.trans hs₁
    rw [SessionStore.maxLength, hkind] at hencoders'
    cases hencoders.symm.trans hencoders'
    rw [← hkind]

/-- Keys that are accepted become the encoders of the store, which is what it was apart from that. -/
theorem store_of_setStoreKeys {s' : SessionStore} (h : f.setStoreKeys name pairs = .ok f')
    (hs' : f'.store name = .ok s') :
    ∃ s, f.store name = .ok s ∧ s'.kind = s.kind ∧
      KeyPair.encoders pairs s.maxLength = .ok s'.encoders := by
  obtain ⟨s, hs, hkind, hencoders⟩ := (store_setStoreKeys_iff h).mp hs'
  rw [SessionStore.maxLength, hkind] at hencoders
  exact ⟨s, hs, hkind, hencoders⟩

/-- The other stores are what they were. -/
theorem store_setStoreKeys_of_ne {other : String} (h : f.setStoreKeys name pairs = .ok f')
    (hne : other ≠ name) : f'.store other = f.store other := by
  obtain ⟨s, encoders, -, -, rfl⟩ := setStoreKeys_eq_ok_iff.mp h
  rw [store, setStore, Dict.get?_set_of_ne hne, store]

end SessionFactory

end WebSession
