import WebSession.Proofs.Encoder.Authenticity

/-!
# WebSession.Proofs.Encoder.KeyBinding

**A signed text belongs to its session key** (`accepted_under_two_keys`): whoever gets a text past
the codes of two session keys holds two different messages with one code.

The session key stands in front of the message and is not escaped, so it may hold bars or be the
beginning of another key. The message is unambiguous all the same, because the parts behind it,
whatever text they were split from, hold no bar (`message_injective`): the last two bars of a
message are the ones it was joined with.
-/

namespace WebSession.Encoder

/-! ### Messages -/

/-- Behind its last bar a text is known, and so is what stands in front of it. -/
theorem append_bar_inj {front front' back back' : List Char} (hback : '|' ∉ back)
    (hback' : '|' ∉ back') (h : front ++ '|' :: back = front' ++ '|' :: back') :
    front = front' ∧ back = back' := by
  -- read backwards, the last bar is the first one
  have hspan (front : List Char) {back : List Char} (hback : '|' ∉ back) :
      (back.reverse ++ '|' :: front.reverse).span (· ≠ '|') =
        (back.reverse, '|' :: front.reverse) :=
    span_bar_eq_iff.mpr ⟨by simpa using hback, rfl, rfl⟩
  have hreverse : back.reverse ++ '|' :: front.reverse = back'.reverse ++ '|' :: front'.reverse := by
    simpa using congrArg List.reverse h
  have hparts := hspan front hback
  rw [hreverse, hspan front' hback'] at hparts
  simp only [Prod.mk.injEq, List.cons.injEq, List.reverse_inj, true_and] at hparts
  exact ⟨hparts.2.symm, hparts.1.symm⟩

/-- **A message tells its session key**, its payload and its timestamp, if neither of the latter
holds a bar. -/
theorem message_injective {k k' p p' t t' : String} (hp : '|' ∉ p.toList) (ht : '|' ∉ t.toList)
    (hp' : '|' ∉ p'.toList) (ht' : '|' ∉ t'.toList) (h : message k p t = message k' p' t') :
    k = k' ∧ p = p' ∧ t = t' := by
  have hmessage : (k.toList ++ '|' :: p.toList) ++ '|' :: t.toList =
      (k'.toList ++ '|' :: p'.toList) ++ '|' :: t'.toList := by
    simpa using congrArg String.toList (Bytes.ofText_injective h)
  obtain ⟨hfront, hlast⟩ := append_bar_inj ht ht' hmessage
  obtain ⟨hkey, hmiddle⟩ := append_bar_inj hp hp' hfront
  exact ⟨String.toList_inj.mp hkey, String.toList_inj.mp hmiddle, String.toList_inj.mp hlast⟩

theorem message_ne_of_key_ne {k k' p t : String} (hp : '|' ∉ p.toList) (ht : '|' ∉ t.toList)
    (hne : k ≠ k') : message k p t ≠ message k' p t := by
  intro h
  exact hne (message_injective hp ht hp ht h).1

/-! ### Codes -/

variable {authenticate : Bytes → Sha256.Digest}

/-- A text that is verified under one key is verified under another exactly if the codes of the two
messages agree. -/
theorem isSome_verified?_iff {k k' text p t : String}
    (h : verified? authenticate k text = some (p, t)) :
    (verified? authenticate k' text).isSome ↔
      authenticate (message k p t) = authenticate (message k' p t) := by
  obtain ⟨hp, ht, rfl⟩ := verified?_eq_some_iff.mp h
  constructor
  · intro hsome
    obtain ⟨⟨p', t'⟩, hverified⟩ := Option.isSome_iff_exists.mp hsome
    obtain ⟨hp', ht', htext⟩ := verified?_eq_some_iff.mp hverified
    rw [signed_eq, signed_eq] at htext
    obtain ⟨rfl, rfl, hcode⟩ := joined_injective hp ht hp' ht'
      (Bytes.ofText_injective (Base64Url.encode_injective htext))
    exact Vector.toList_inj.mp (Base64Url.encode_injective hcode)
  · intro hcode
    have hsigned : signed authenticate k p t = signed authenticate k' p t := by
      rw [signed_eq, signed_eq, hcode]
    rw [hsigned, verified?_signed hp ht]
    rfl

/-- An encoder does not refuse what it wrote for its authentication. -/
theorem verified?_of_writes {e : Encoder} {key text : String} {made : Int} {d : SessionData}
    (he : e.authenticate? = some authenticate) (h : e.Writes key made d text) :
    ∃ p t, verified? authenticate key text = some (p, t) := by
  obtain ⟨authenticate', p, he', hp, rfl, -⟩ := h
  rw [he] at he'
  cases he'
  exact ⟨p, _, verified?_signed hp (Numeral.bar_not_mem_text (e.clock made))⟩

/-! ### Two session keys -/

/-- **A text is bound to its session key.** If a text is refused for its authentication under
neither of two session keys, by encoders with one authentication function, then the messages that
its own payload and timestamp make with the two keys are different and have the same code. For no
two keys, and no two texts that are split into their parts, two different triples of key, payload
and timestamp make one message. What one encoder writes for one key the other refuses under another
key, unless those two messages share their code. -/
theorem accepted_under_two_keys {σ : Type} {e₁ e₂ : Encoder}
    (h₁ : e₁.authenticate? = some authenticate) (h₂ : e₂.authenticate? = some authenticate)
    (hl₁ : e₁.maxLength = 0) (hl₂ : e₂.maxLength = 0) {k₁ k₂ : String} (hne : k₁ ≠ k₂)
    (now₁ now₂ : Int) :
    (∀ text, e₁.decode k₁ now₁ text ≠ .error .authentication →
      e₂.decode k₂ now₂ text ≠ .error .authentication →
      ∃ p t, verified? authenticate k₁ text = some (p, t) ∧ message k₁ p t ≠ message k₂ p t ∧
        authenticate (message k₁ p t) = authenticate (message k₂ p t)) ∧
    (∀ k k' p p' t t' code code' cs cs', parts? cs = some (p, t, code) →
      parts? cs' = some (p', t', code') → message k p t = message k' p' t' →
      k = k' ∧ p = p' ∧ t = t') ∧
    (∀ (respond : Responder σ) (s : σ) made d text,
      ((e₁.encode k₁ made d).run.run respond s).1 = .ok text →
      ∃ p t, verified? authenticate k₁ text = some (p, t) ∧ message k₁ p t ≠ message k₂ p t ∧
        (authenticate (message k₁ p t) ≠ authenticate (message k₂ p t) →
          e₂.decode k₂ now₂ text = .error .authentication)) := by
  have hdiffer : ∀ {text p t}, verified? authenticate k₁ text = some (p, t) →
      message k₁ p t ≠ message k₂ p t := by
    intro text p t hverified
    obtain ⟨hp, ht, -⟩ := verified?_eq_some_iff.mp hverified
    exact message_ne_of_key_ne hp ht hne
  refine ⟨?_, ?_, ?_⟩
  · intro text haccepted₁ haccepted₂
    rw [ne_eq, decode_eq_authentication_iff h₁ hl₁, ← ne_eq, Option.ne_none_iff_exists']
      at haccepted₁
    rw [ne_eq, decode_eq_authentication_iff h₂ hl₂, ← ne_eq, Option.ne_none_iff_isSome]
      at haccepted₂
    obtain ⟨⟨p, t⟩, hverified⟩ := haccepted₁
    exact ⟨p, t, hverified, hdiffer hverified, (isSome_verified?_iff hverified).mp haccepted₂⟩
  · intro k k' p p' t t' code code' cs cs' hparts hparts' hmessage
    rw [← String.toList_ofList (l := cs)] at hparts
    rw [← String.toList_ofList (l := cs')] at hparts'
    obtain ⟨hp, ht, -⟩ := parts?_eq_some_iff.mp hparts
    obtain ⟨hp', ht', -⟩ := parts?_eq_some_iff.mp hparts'
    exact message_injective hp ht hp' ht' hmessage
  · intro respond s made d text hencode
    obtain ⟨p, t, hverified⟩ := verified?_of_writes h₁ (writes_of_encode hencode)
    refine ⟨p, t, hverified, hdiffer hverified, fun hcode => ?_⟩
    rw [decode_eq_authentication_iff h₂ hl₂, ← Option.not_isSome_iff_eq_none,
      isSome_verified?_iff hverified]
    exact hcode

/-- A code that is the same for all messages: what was signed for one key is accepted under another
that begins with it and a bar. -/
theorem one_code_for_two_keys :
    let e : Encoder := { authenticate? := some fun _ => Vector.replicate 32 0 }
    let text := signed (fun _ => Vector.replicate 32 0) "s" "gA" "90"
    e.decode "s" 100 text ≠ .error .authentication ∧
      e.decode "s|gA" 100 text ≠ .error .authentication ∧
      ∃ p t, verified? (fun _ => Vector.replicate 32 0) "s" text = some (p, t) ∧
        message "s" p t ≠ message "s|gA" p t := by
  intro e text
  have haccepted : ∀ key, e.decode key 100 text ≠ .error .authentication := by
    intro key
    have hverified : verified? (fun _ => Vector.replicate 32 0) key text = some ("gA", "90") :=
      verified?_signed (by decide) (by decide)
    rw [ne_eq, decode_eq_authentication_iff (e := e) rfl rfl, hverified]
    exact Option.some_ne_none _
  obtain ⟨htwice, -⟩ :=
    @accepted_under_two_keys _ World e e rfl rfl rfl rfl "s" "s|gA" (by decide) 100 100
  obtain ⟨p, t, hverified, hdiffer, -⟩ := htwice text (haccepted "s") (haccepted "s|gA")
  exact ⟨haccepted "s", haccepted "s|gA", p, t, hverified, hdiffer⟩

end WebSession.Encoder
