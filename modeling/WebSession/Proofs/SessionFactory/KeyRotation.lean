import WebSession.Proofs.SessionFactory
import WebSession.World

/-!
# WebSession.Proofs.SessionFactory.KeyRotation

**What becomes of a session when only the encryption key is changed** (`decode_after_rotation`).

The new pair verifies what the old one signed, since both have the same authentication key. So it is
the first to open the payload, with the wrong cipher or with none. The code covers the encrypted
octets, not the session, and nothing tells a wrong plain text from a right one but the format. What
the new pair can read as a session is taken for the session; only what it cannot read is left to the
old pair.

* One octet is enough to be read: a plain text that begins with the head of an empty map is an empty
  session, whatever follows (`deserialize_empty_map`).
* Where the new pair has no cipher, the plain text begins with the initial counter. So one in 256
  sessions is lost, whatever it holds.
-/

namespace WebSession

/-! ### Wrong plain texts -/

/-- The head of an empty map is an empty session. -/
theorem SessionData.deserialize_empty_map (rest : Bytes) :
    deserialize (0x80 :: rest) = .ok empty := rfl

namespace Encoder

/-- What the encoder takes for the plain text of sealed octets. -/
def unsealed (e : Encoder) (octets : Bytes) : Except Error Bytes :=
  match e.block? with
  | none => .ok octets
  | some block => CounterMode.decrypt block octets

theorem opened_eq (e : Encoder) (octets : Bytes) :
    e.opened (Base64Url.encode octets) = e.unsealed octets >>= SessionData.deserialize := by
  unfold unsealed
  cases hblock : e.block? with
  | none => rw [opened_of_plain hblock]; rfl
  | some block => rw [opened_of_block hblock]

/-- A text is made of the octets that were sealed for it. -/
theorem exists_sealed_of_encode {σ : Type} {respond : Responder σ} {s : σ} {e : Encoder}
    {authenticate : Bytes → Sha256.Digest} (he : e.authenticate? = some authenticate) {key : String}
    {now : Int} {d : SessionData} {text : String}
    (h : ((e.encode key now d).run.run respond s).1 = .ok text) :
    ∃ octets, ((e.sealed d.serialize).run.run respond s).1 = .ok octets ∧
      text = signed authenticate key (Base64Url.encode octets) (Numeral.text (e.clock now)) := by
  simp only [encode, he, ExceptT.run_bind] at h
  rw [Plan.run_bind] at h
  cases hsealed : ((e.sealed d.serialize).run.run respond s).1 with
  | error failure =>
      rw [hsealed] at h
      cases h
  | ok octets =>
      rw [hsealed] at h
      cases h
      exact ⟨octets, rfl, rfl⟩

/-- With a cipher the sealed octets begin with the counter, which was drawn first. -/
theorem exists_sealed_cons {e : Encoder} {block : Block → Block} (he : e.block? = some block)
    {w : World} (hw : w.entropy.broken = false) (plain : Bytes) :
    ∃ rest, ((e.sealed plain).run.run World.respond w).1 =
      .ok (w.entropy.octet w.entropy.position :: rest) := by
  have hsealed : ∃ counter salt : Block, counter[0] = w.entropy.octet w.entropy.position ∧
      ((e.sealed plain).run.run World.respond w).1 =
        .ok (CounterMode.encrypt block counter salt plain) := by
    obtain ⟨now, ⟨octet, position, broken⟩, records⟩ := w
    cases hw
    simp only [sealed, he]
    exact ⟨_, _, Vector.getElem_ofFn _, rfl⟩
  obtain ⟨counter, salt, hfirst, hsealed⟩ := hsealed
  have hcounter : counter.toList = counter[0] :: counter.toList.drop 1 :=
    List.drop_eq_getElem_cons (i := 0) (by simp)
  rw [hsealed, CounterMode.encrypt, hcounter, hfirst]
  exact ⟨_, rfl⟩

/-- Within its limits an encoder reads the octets that were sealed, whoever signed them with its
authentication function. -/
theorem decode_signed {e : Encoder} {authenticate : Bytes → Sha256.Digest}
    (he : e.authenticate? = some authenticate) {key text : String} {octets : Bytes} {made now : Int}
    (htext : text =
      signed authenticate key (Base64Url.encode octets) (Numeral.text (e.clock made)))
    (h : e.Passes made now text) :
    e.decode key now text = e.unsealed octets >>= SessionData.deserialize := by
  have hverified : verified? authenticate key text =
      some (Base64Url.encode octets, Numeral.text (e.clock made)) := by
    rw [htext]
    exact verified?_signed (Base64Url.bar_not_mem_encode octets) (Numeral.bar_not_mem_text _)
  rw [decode_of_verified he hverified, if_neg h.short_enough, secondsOf_text h.isInt64, h.checkAge,
    opened_eq]
  rfl

end Encoder

namespace Encoders

/-- The second of two encoders reads what the first cannot. -/
theorem decode_pair (n o : Encoder) (key : String) (now : Int) (text : String) :
    decode [n, o] key now text =
      match n.decode key now text with
      | .ok d => .ok d
      | .error _ => o.decode key now text := by
  simp only [decode, decode.go]
  cases n.decode key now text with
  | ok d => rfl
  | error _ => cases o.decode key now text <;> rfl

/-- **An encoder in front of the one that wrote a text**, and that differs from it in its cipher
alone, is the first to read what was sealed. -/
theorem decode_of_encode_second {σ : Type} {respond : Responder σ} {t : σ} {n o : Encoder}
    (hdiffer : n = { o with block? := n.block? }) {authenticate : Bytes → Sha256.Digest}
    (ho : o.authenticate? = some authenticate) {key text : String} {d : SessionData}
    (hd : d.Representable) {made now : Int}
    (htext : ((o.encode key made d).run.run respond t).1 = .ok text) (h : o.Passes made now text) :
    ∃ octets, ((o.sealed d.serialize).run.run respond t).1 = .ok octets ∧
      decode [n, o] key now text =
        match n.unsealed octets >>= SessionData.deserialize with
        | .ok d' => .ok d'
        | .error _ => .ok d := by
  obtain ⟨octets, hsealed, hsigned⟩ := Encoder.exists_sealed_of_encode ho htext
  have hread : o.decode key now text = .ok d :=
    Encoder.decode_of_writes_of_passes (Encoder.writes_of_encode htext) h hd
  have hmisread : n.decode key now text = n.unsealed octets >>= SessionData.deserialize := by
    have hauthenticate : n.authenticate? = some authenticate := by rw [hdiffer]; exact ho
    have hclock : n.clock = o.clock := by rw [hdiffer]
    have hpasses : n.Passes made now text := by
      rw [hdiffer]
      exact ⟨h.short_enough, h.isInt64, h.checkAge⟩
    rw [← hclock] at hsigned
    exact Encoder.decode_signed hauthenticate hsigned hpasses
  exact ⟨octets, hsealed, by rw [decode_pair, hmisread, hread]⟩

end Encoders

/-! ### Keys of a store -/

namespace KeyPair

theorem encoders_one {pair : KeyPair} {maxLength : Nat} {encoders : List Encoder}
    (h : KeyPair.encoders [pair] maxLength = .ok encoders) :
    ∃ e, encoders = [e] ∧ pair.encoder maxLength = .ok e := by
  obtain ⟨e, more, rfl, he, hmore⟩ := encoders_cons h
  cases hmore
  exact ⟨e, rfl, he⟩

/-- Pairs with one authentication key differ in their ciphers alone. -/
theorem encoder_eq_of_hashKey_eq {new old : KeyPair} (hhash : new.hashKey = old.hashKey)
    {maxLength : Nat} {n o : Encoder} (hn : new.encoder maxLength = .ok n)
    (ho : old.encoder maxLength = .ok o) : n = { o with block? := n.block? } := by
  obtain ⟨block?, rfl⟩ := encoder_eq hn
  obtain ⟨block?', rfl⟩ := encoder_eq ho
  rw [hhash]

end KeyPair

/-! ### Changing the encryption key -/

namespace SessionFactory

/-- **What is read after the encryption key was changed.** A text that was made with the old keys
alone is never refused. It is read as the session it was made of if the new pair makes no session of
the octets that were sealed; if it does, it is read as that one, an empty session for instance. -/
theorem decode_after_rotation {σ : Type} {respond : Responder σ} {t : σ}
    {f before after : SessionFactory} {name : String} {new old : KeyPair} {s s' : SessionStore}
    (hhash : new.hashKey = old.hashKey) (hbefore : f.setStoreKeys name [old] = .ok before)
    (hafter : f.setStoreKeys name [new, old] = .ok after) (hs : before.store name = .ok s)
    (hs' : after.store name = .ok s') {key text : String} {d : SessionData} (hd : d.Representable)
    {made now : Int} (hmade : Range.isInt64 made = true) (hzero : made ≠ 0)
    (hage : now ≤ made + SessionConfig.defaultMaxAge)
    (htext : ((Encoders.encode s.encoders key made d).run.run respond t).1 = .ok text)
    (hlength : s.maxLength = 0 ∨ text.utf8ByteSize ≤ s.maxLength) :
    ∃ n o octets, s.encoders = [o] ∧ s'.encoders = [n, o] ∧
      ((o.sealed d.serialize).run.run respond t).1 = .ok octets ∧
      Encoders.decode s'.encoders key now text =
        (match n.unsealed octets >>= SessionData.deserialize with
        | .ok d' => .ok d'
        | .error _ => .ok d) ∧
      ∀ rest, n.unsealed octets = .ok (0x80 :: rest) →
        Encoders.decode s'.encoders key now text = .ok .empty := by
  obtain ⟨s₀, hs₀, hkind, hold⟩ := store_of_setStoreKeys hbefore hs
  obtain ⟨s₁, hs₁, -, hboth⟩ := store_of_setStoreKeys hafter hs'
  -- both factories come from one, so the store is the same but for its encoders
  rw [hs₀] at hs₁
  cases hs₁
  obtain ⟨o, hencoders, ho⟩ := KeyPair.encoders_one hold
  obtain ⟨n, more, hencoders', hn, hmore⟩ := KeyPair.encoders_cons hboth
  obtain ⟨o', rfl, ho'⟩ := KeyPair.encoders_one hmore
  rw [ho] at ho'
  cases ho'
  -- the authentication keys agree, so the new encoder is the old one with another cipher
  have hdiffer := KeyPair.encoder_eq_of_hashKey_eq hhash hn ho
  obtain ⟨block?, hdefault⟩ := KeyPair.encoder_eq ho
  have hpasses : o.Passes made now text := by
    rw [SessionStore.maxLength, hkind] at hlength
    exact KeyPair.passes ho hmade hzero hage hlength
  rw [hencoders] at htext
  have hauthenticate : o.authenticate? = some (Sha256.authenticate old.hashKey) := by rw [hdefault]
  obtain ⟨octets, hsealed, hdecode⟩ :=
    Encoders.decode_of_encode_second hdiffer hauthenticate hd htext hpasses
  rw [← hencoders'] at hdecode
  refine ⟨n, o, octets, hencoders, hencoders', hsealed, hdecode, ?_⟩
  intro rest hplain
  have hread : n.unsealed octets >>= SessionData.deserialize = .ok .empty := by
    rw [hplain]
    exact SessionData.deserialize_empty_map rest
  rw [hdecode, hread]

/-! ### A lost session -/

/-- A store in memory that has no keys yet. -/
def unkeyed : SessionFactory where
  stores := Dict.empty.set "memory" { kind := .serverSide "memory" }

/-- Encryption is given up while a session is kept whose initial counter begins with the head of an
empty map: it is read as an empty session. -/
theorem session_lost_by_rotation :
    let old : KeyPair := { hashKey := [1, 2], blockKey? := some (List.replicate 16 0) }
    let new : KeyPair := { hashKey := [1, 2] }
    let w : World := { now := 100000, entropy := { octet := fun _ => 0x80 } }
    let d := (SessionData.ofId "ab").insert "user" (.str "ann")
    ∃ before after s s' text, unkeyed.setStoreKeys "memory" [old] = .ok before ∧
      unkeyed.setStoreKeys "memory" [new, old] = .ok after ∧
      before.store "memory" = .ok s ∧ after.store "memory" = .ok s' ∧
      ((Encoders.encode s.encoders "s" 100 d).run.run World.respond w).1 = .ok text ∧
      Encoders.decode s'.encoders "s" 100 text = .ok .empty ∧ d.get? "user" = some (.str "ann") := by
  intro old new w d
  let o : Encoder :=
    { Encoder.ofKeys [1, 2] (some ⟨List.replicate 16 0, by decide⟩) with
      maxAge := SessionConfig.defaultMaxAge }
  let n : Encoder := { Encoder.ofKeys [1, 2] none with maxAge := SessionConfig.defaultMaxAge }
  let store (encoders : List Encoder) : SessionStore :=
    { kind := .serverSide "memory", encoders := encoders }
  have hbefore : unkeyed.setStoreKeys "memory" [old] =
      .ok (unkeyed.setStore "memory" (store [o])) := rfl
  have hafter : unkeyed.setStoreKeys "memory" [new, old] =
      .ok (unkeyed.setStore "memory" (store [n, o])) := rfl
  have hd : d.Representable := ⟨by decide, by decide⟩
  obtain ⟨⟨text, hrun, -⟩, -⟩ := Plan.run_of_draws World.supplies
    (Encoder.draws_encode (e := o) rfl "s" 100 d) (s := w) rfl
  obtain ⟨n', o', octets, ho, hn, hsealed, -, hempty⟩ :=
    @decode_after_rotation _ _ _ _ _ _ _ new old (store [o]) (store [n, o]) rfl hbefore hafter rfl
      rfl "s" text d hd 100 100 (by decide) (by decide) (by decide) hrun (Or.inl rfl)
  cases ho
  cases hn
  obtain ⟨rest, hfirst⟩ := Encoder.exists_sealed_cons (e := o) rfl (w := w) rfl d.serialize
  have hoctets := Except.ok.inj (hsealed.symm.trans hfirst)
  subst hoctets
  exact ⟨_, _, _, _, text, hbefore, hafter, rfl, rfl, hrun, hempty rest rfl, rfl⟩

end SessionFactory

end WebSession
