import WebSession.Proofs.Encoder

/-!
# WebSession.Proofs.Encoder.Authenticity

**There is one text for each content** (`one_text_per_content`): without a limit on its length, a
text is refused for its authentication unless it is the signed text of a payload and a timestamp,
and then it is the only text that has this payload and this timestamp.

Time and payload are looked at behind the code alone (`decode_eq_authentication_iff`), so whoever
cannot make a code learns nothing of either.
-/

namespace WebSession.Encoder

variable {authenticate : Bytes → Sha256.Digest} {key : String}

/-- A verified text is not refused for its authentication. -/
theorem read_ne_authentication {e : Encoder} {timestamp now : Int} {payload : String} :
    (e.checkAge timestamp now >>= fun _ => e.opened payload) ≠ .error .authentication := by
  cases hage : e.checkAge timestamp now with
  | error failure =>
      intro h
      cases h
      rcases checkAge_error hage with h | h | h <;> cases h
  | ok _ =>
      intro h
      rcases opened_error h with h | h <;> cases h

/-- The error of authentication tells that a text is not verified, and nothing else. -/
theorem decode_eq_authentication_iff {e : Encoder} (he : e.authenticate? = some authenticate)
    (hl : e.maxLength = 0) {now : Int} {text : String} :
    e.decode key now text = .error .authentication ↔ verified? authenticate key text = none := by
  cases hverified : verified? authenticate key text with
  | none =>
      rw [decode_of_not_verified he hverified, if_neg (fun h => h.1 hl)]
      simp
  | some content =>
      obtain ⟨payload, timestamp⟩ := content
      rw [decode_of_verified he hverified, if_neg (fun h => h.1 hl)]
      simp only [reduceCtorEq, iff_false]
      exact read_ne_authentication

/-- What else than authentication a text is refused for. -/
theorem decode_error {e : Encoder} (he : e.authenticate? = some authenticate)
    (hl : e.maxLength = 0) {now : Int} {text : String} {failure : Error}
    (h : e.decode key now text = .error failure) :
    failure ∈ [.authentication, .badTimestamp, .newTimestamp, .oldTimestamp, .decoding,
      .decryption] := by
  cases hverified : verified? authenticate key text with
  | none =>
      rw [decode_of_not_verified he hverified, if_neg (fun h => h.1 hl)] at h
      cases h
      simp
  | some content =>
      obtain ⟨payload, timestamp⟩ := content
      rw [decode_of_verified he hverified, if_neg (fun h => h.1 hl)] at h
      cases hage : e.checkAge (secondsOf timestamp) (e.clock now) with
      | error failure' =>
          rw [hage] at h
          cases h
          rcases checkAge_error hage with rfl | rfl | rfl <;> simp
      | ok _ =>
          rw [hage] at h
          rcases opened_error h with rfl | rfl <;> simp

/-- A text that is verified is made of a payload, a timestamp and their code. -/
theorem joined_of_verified {text payload timestamp : String}
    (h : verified? authenticate key text = some (payload, timestamp)) :
    Base64Url.decode text = some (Bytes.ofText (joined payload timestamp
      (Base64Url.encode (authenticate (message key payload timestamp)).toList))) := by
  obtain ⟨-, -, rfl⟩ := verified?_eq_some_iff.mp h
  rw [signed_eq, Base64Url.decode_encode]

/-- A text that can be read as a payload and a timestamp alone, and is not the signed text of
them, is not verified. -/
theorem verified?_eq_none_of_ne_signed {text p t : String} (hp : '|' ∉ p.toList)
    (ht : '|' ∉ t.toList) (hne : text ≠ signed authenticate key p t)
    (hcarries : ∀ octets whole, Base64Url.decode text = some octets →
      Bytes.text? octets = some whole → ∃ rest, whole = joined p t rest) :
    verified? authenticate key text = none := by
  cases hverified : verified? authenticate key text with
  | none => rfl
  | some content =>
      obtain ⟨p', t'⟩ := content
      obtain ⟨hp', ht', htext⟩ := verified?_eq_some_iff.mp hverified
      obtain ⟨rest, hwhole⟩ :=
        hcarries _ _ (joined_of_verified hverified) (Bytes.text?_ofText _)
      obtain ⟨rfl, rfl, -⟩ := joined_injective hp' ht' hp ht hwhole
      exact absurd htext hne

/-- **One text for each content.** Without a limit on its length a text is not refused for its
authentication exactly if it is the signed text of a payload and a timestamp without bars;
different contents have different texts. Any other text that can only be read as the same payload
and timestamp is refused for its authentication, whatever the spelling of its code, and so is any
text with a wrong code, whatever its timestamp and its payload are. -/
theorem one_text_per_content {e : Encoder} (he : e.authenticate? = some authenticate)
    (hl : e.maxLength = 0) (key : String) (now : Int) :
    (∀ text, e.decode key now text ≠ .error .authentication ↔
      ∃ p t, '|' ∉ p.toList ∧ '|' ∉ t.toList ∧ text = signed authenticate key p t) ∧
    (∀ p t p' t', '|' ∉ p.toList → '|' ∉ t.toList → '|' ∉ p'.toList → '|' ∉ t'.toList →
      signed authenticate key p t = signed authenticate key p' t' → p = p' ∧ t = t') ∧
    (∀ text failure, e.decode key now text = .error failure →
      failure ∈ [.authentication, .badTimestamp, .newTimestamp, .oldTimestamp, .decoding,
        .decryption]) ∧
    (∀ p t text, '|' ∉ p.toList → '|' ∉ t.toList → text ≠ signed authenticate key p t →
      (∀ octets whole, Base64Url.decode text = some octets → Bytes.text? octets = some whole →
        ∃ rest, whole = joined p t rest) →
      e.decode key now text = .error .authentication) ∧
    (∀ p t code text, '|' ∉ p.toList → '|' ∉ t.toList →
      Base64Url.decode text = some (Bytes.ofText (joined p t code)) →
      Base64Url.decode code ≠ some (authenticate (message key p t)).toList →
      e.decode key now text = .error .authentication) := by
  refine ⟨?_, ?_, ?_, ?_, ?_⟩
  · intro text
    rw [ne_eq, decode_eq_authentication_iff he hl, ← ne_eq, Option.ne_none_iff_exists']
    constructor
    · intro h
      obtain ⟨⟨p, t⟩, hverified⟩ := h
      exact ⟨p, t, verified?_eq_some_iff.mp hverified⟩
    · intro h
      obtain ⟨p, t, hsigned⟩ := h
      exact ⟨(p, t), verified?_eq_some_iff.mpr hsigned⟩
  · intro p t p' t' hp ht hp' ht' h
    exact signed_injective hp ht hp' ht' h
  · intro text failure h
    exact decode_error he hl h
  · intro p t text hp ht hne hcarries
    rw [decode_eq_authentication_iff he hl]
    exact verified?_eq_none_of_ne_signed hp ht hne hcarries
  · intro p t code text hp ht htext hcode
    rw [decode_eq_authentication_iff he hl]
    -- the text is not the signed one, since its code is another, and it carries this content
    refine verified?_eq_none_of_ne_signed hp ht ?_ ?_
    · intro hsigned
      rw [hsigned, signed_eq, Base64Url.decode_encode, Option.some.injEq] at htext
      obtain ⟨-, -, rfl⟩ := joined_injective hp ht hp ht (Bytes.ofText_injective htext)
      exact hcode (Base64Url.decode_encode _)
    · intro octets whole hoctets hwhole
      rw [htext] at hoctets
      cases hoctets
      rw [Bytes.text?_ofText] at hwhole
      cases hwhole
      exact ⟨code, rfl⟩

/-- A message whose code was cut off, for an encoder with an HMAC. -/
theorem cut_text_refused :
    let e : Encoder := { authenticate? := some (Sha256.authenticate [1, 2]) }
    e.decode "s" 100 (Base64Url.encode (Bytes.ofText "gA|90|")) = .error .authentication := by
  intro e
  obtain ⟨-, -, -, -, hcode⟩ := one_text_per_content (e := e) rfl rfl "s" 100
  refine hcode "gA" "90" "" _ (by decide) (by decide) (Base64Url.decode_encode _) ?_
  intro h
  have := congrArg (Option.map List.length) h
  simp at this
  exact absurd this (by decide)

end WebSession.Encoder
