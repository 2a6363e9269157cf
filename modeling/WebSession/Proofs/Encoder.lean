import Mathlib.Data.List.TakeDrop
import Mathlib.Data.List.TakeWhile
import WebSession.Encoder
import WebSession.Proofs.Base64Url
import WebSession.Proofs.CounterMode
import WebSession.Proofs.Numeral
import WebSession.Proofs.Plan
import WebSession.Proofs.Serialized

/-!
# WebSession.Proofs.Encoder

**What is in a signed text**: a text is verified with a payload and a timestamp exactly if it is
the signed text of the two (`verified?_eq_some_iff`).

Joining with bars and splitting at the first two are inverse to each other as long as neither
payload nor timestamp holds a bar (`parts?_eq_some_iff`), and both layers of base 64 are
canonical, so nothing about the spelling of a text is left open.
-/

namespace WebSession.Encoder

/-! ### Parts -/

/-- A text that is split at its first bar. -/
theorem span_bar_eq_iff {cs front rest : List Char} {c : Char} :
    cs.span (· ≠ '|') = (front, c :: rest) ↔ '|' ∉ front ∧ c = '|' ∧ cs = front ++ '|' :: rest := by
  rw [List.span_eq_takeWhile_dropWhile, Prod.mk.injEq]
  constructor
  · intro h
    obtain ⟨hfront, hrest⟩ := h
    have hbar : '|' ∉ front := by
      intro hmem
      rw [← hfront] at hmem
      exact absurd (List.mem_takeWhile_imp hmem) (by decide)
    have hc : c = '|' := by
      have := List.head?_dropWhile_not (fun c => decide (c ≠ '|')) cs
      rw [hrest] at this
      simpa using this
    refine ⟨hbar, hc, ?_⟩
    rw [← hc, ← hfront, ← hrest, List.takeWhile_append_dropWhile]
  · intro h
    obtain ⟨hbar, rfl, rfl⟩ := h
    have hall : ∀ c ∈ front, decide (c ≠ '|') = true := by
      intro c hc
      exact decide_eq_true fun h => hbar (h ▸ hc)
    rw [List.takeWhile_append_of_pos hall, List.dropWhile_append_of_pos hall]
    simp

/-- The octets that a signed text is the base 64 of. -/
def joined (payload timestamp code : String) : String := payload ++ "|" ++ timestamp ++ "|" ++ code

theorem toList_joined (payload timestamp code : String) :
    (joined payload timestamp code).toList =
      payload.toList ++ '|' :: (timestamp.toList ++ '|' :: code.toList) := by
  simp [joined]

/-- **Splitting at the first two bars undoes joining**, and nothing else is split. -/
theorem parts?_eq_some_iff {text payload timestamp code : String} :
    parts? text.toList = some (payload, timestamp, code) ↔
      '|' ∉ payload.toList ∧ '|' ∉ timestamp.toList ∧ text = joined payload timestamp code := by
  rw [← String.toList_inj, toList_joined]
  constructor
  · intro h
    rw [parts?] at h
    split at h
    · cases h
    · rename_i front c rest hfront
      obtain ⟨hpayload, -, htext⟩ := span_bar_eq_iff.mp hfront
      split at h
      · cases h
      · rename_i middle c' code' hmiddle
        obtain ⟨htimestamp, -, hrest⟩ := span_bar_eq_iff.mp hmiddle
        cases h
        simp only [String.toList_ofList]
        exact ⟨hpayload, htimestamp, by rw [htext, hrest]⟩
  · intro h
    obtain ⟨hpayload, htimestamp, htext⟩ := h
    rw [parts?, htext, span_bar_eq_iff.mpr ⟨hpayload, rfl, rfl⟩]
    dsimp only
    rw [span_bar_eq_iff.mpr ⟨htimestamp, rfl, rfl⟩]
    simp only [String.ofList_toList]

/-- What was joined is known from the joined text. -/
theorem joined_injective {p p' t t' c c' : String} (hp : '|' ∉ p.toList) (ht : '|' ∉ t.toList)
    (hp' : '|' ∉ p'.toList) (ht' : '|' ∉ t'.toList) (h : joined p t c = joined p' t' c') :
    p = p' ∧ t = t' ∧ c = c' := by
  have hparts := parts?_eq_some_iff.mpr ⟨hp, ht, h.symm⟩
  rw [parts?_eq_some_iff.mpr ⟨hp', ht', rfl⟩] at hparts
  cases hparts
  exact ⟨rfl, rfl, rfl⟩

/-! ### Signed texts -/

variable {authenticate : Bytes → Sha256.Digest} {key : String}

theorem signed_eq (authenticate : Bytes → Sha256.Digest) (key payload timestamp : String) :
    signed authenticate key payload timestamp =
      Base64Url.encode (Bytes.ofText (joined payload timestamp
        (Base64Url.encode (authenticate (message key payload timestamp)).toList))) := rfl

/-- **A signed text tells its payload and its timestamp**, whoever signed it. -/
theorem signed_injective {authenticate' : Bytes → Sha256.Digest} {key' p p' t t' : String}
    (hp : '|' ∉ p.toList) (ht : '|' ∉ t.toList) (hp' : '|' ∉ p'.toList) (ht' : '|' ∉ t'.toList)
    (h : signed authenticate key p t = signed authenticate' key' p' t') : p = p' ∧ t = t' := by
  rw [signed_eq, signed_eq] at h
  have hjoined := Bytes.ofText_injective (Base64Url.encode_injective h)
  obtain ⟨hpayload, htimestamp, -⟩ := joined_injective hp ht hp' ht' hjoined
  exact ⟨hpayload, htimestamp⟩

/-- **A text is verified exactly if it is signed**: its payload and its timestamp hold no bar, and
it is the one text that is made of them. -/
theorem verified?_eq_some_iff {text payload timestamp : String} :
    verified? authenticate key text = some (payload, timestamp) ↔
      '|' ∉ payload.toList ∧ '|' ∉ timestamp.toList ∧
        text = signed authenticate key payload timestamp := by
  constructor
  · intro h
    simp only [verified?, Option.bind_eq_bind, Option.bind_eq_some_iff] at h
    obtain ⟨octets, hoctets, inner, hinner, ⟨p, t, c⟩, hparts, code, hcode, h⟩ := h
    split at h
    · rename_i hmac
      cases h
      obtain ⟨hp, ht, hjoined⟩ := parts?_eq_some_iff.mp hparts
      refine ⟨hp, ht, ?_⟩
      -- both layers are canonical, so reading them leaves one text
      rw [signed_eq, ← hmac, ← Base64Url.decode_eq_some_iff.mp hcode, ← hjoined,
        Bytes.ofText_of_text? hinner]
      exact Base64Url.decode_eq_some_iff.mp hoctets
    · cases h
  · intro h
    obtain ⟨hp, ht, rfl⟩ := h
    rw [signed_eq]
    simp only [verified?, Base64Url.decode_encode, Option.bind_eq_bind, Option.bind_some,
      Bytes.text?_ofText, parts?_eq_some_iff.mpr ⟨hp, ht, rfl⟩, if_true]

theorem verified?_signed {payload timestamp : String} (hp : '|' ∉ payload.toList)
    (ht : '|' ∉ timestamp.toList) :
    verified? authenticate key (signed authenticate key payload timestamp) =
      some (payload, timestamp) := verified?_eq_some_iff.mpr ⟨hp, ht, rfl⟩

/-! ### Payloads -/

theorem opened_of_plain {e : Encoder} (he : e.block? = none) (octets : Bytes) :
    e.opened (Base64Url.encode octets) = SessionData.deserialize octets := by
  simp only [opened, Base64Url.decode_encode, he]
  rfl

theorem opened_of_block {e : Encoder} {block : Block → Block} (he : e.block? = some block)
    (octets : Bytes) :
    e.opened (Base64Url.encode octets) =
      CounterMode.decrypt block octets >>= SessionData.deserialize := by
  simp only [opened, Base64Url.decode_encode, he]
  rfl

/-- Opening a payload is reading some octets, or it fails before. -/
theorem opened_cases (e : Encoder) (payload : String) :
    e.opened payload = .error .decoding ∨ e.opened payload = .error .decryption ∨
      ∃ plain, e.opened payload = SessionData.deserialize plain := by
  cases hoctets : Base64Url.decode payload with
  | none =>
      simp only [opened, hoctets]
      exact Or.inl rfl
  | some octets =>
      rw [Base64Url.decode_eq_some_iff.mp hoctets]
      cases hblock : e.block? with
      | none => exact Or.inr (Or.inr ⟨octets, opened_of_plain hblock octets⟩)
      | some block =>
          rw [opened_of_block hblock]
          cases hplain : CounterMode.decrypt block octets with
          | ok plain => exact Or.inr (Or.inr ⟨plain, rfl⟩)
          | error failure =>
              rw [CounterMode.decrypt_error block hplain]
              exact Or.inr (Or.inl rfl)

/-- The errors of a payload. -/
theorem opened_error {e : Encoder} {payload : String} {failure : Error}
    (h : e.opened payload = .error failure) : failure = .decoding ∨ failure = .decryption := by
  rcases opened_cases e payload with hdecoding | hdecryption | ⟨plain, hplain⟩
  · rw [hdecoding] at h
    cases h
    exact Or.inl rfl
  · rw [hdecryption] at h
    cases h
    exact Or.inr rfl
  · rw [hplain] at h
    exact Or.inl (SessionData.deserialize_error h)

/-- What is opened is no broader than the format allows. -/
theorem breadth_of_opened {e : Encoder} {payload : String} {d : SessionData}
    (h : e.opened payload = .ok d) : d.breadth < MessagePack.lengthBound := by
  rcases opened_cases e payload with hdecoding | hdecryption | ⟨plain, hplain⟩
  · rw [hdecoding] at h
    cases h
  · rw [hdecryption] at h
    cases h
  · rw [hplain] at h
    exact SessionData.breadth_of_deserialize h

/-! ### Writing -/

open Plan

/-- The result of an attempt that failed. -/
def Failed {α : Type} (r : Except Error α) : Prop := ∃ failure, r = .error failure

theorem quiet_of_failed {α β : Type} {r : Except Error α} (h : Failed r)
    {f : α → ExceptT Error Plan β} : Quiet Failed (ExceptT.bindCont f r) := by
  obtain ⟨failure, rfl⟩ := h
  exact Quiet.done ⟨failure, rfl⟩

theorem draws_draw (count : Nat) :
    (draw count).run.Draws (fun r => ∃ octets, r = .ok octets) Failed := by
  refine Draws.draw (fun octets => ?_) ?_
  · exact Draws.done ⟨octets, rfl⟩
  · exact Quiet.done ⟨_, rfl⟩

/-- A world whose stream is not broken gives the next octets of it. -/
theorem run_draw {w : World} (hw : w.entropy.broken = false) (count : Nat) :
    (draw count).run.run World.respond w =
      (.ok (Vector.ofFn fun i => w.entropy.octet (w.entropy.position + i.val)),
        { w with entropy := { w.entropy with position := w.entropy.position + count } }) := by
  obtain ⟨now, ⟨octet, position, broken⟩, records⟩ := w
  cases hw
  rfl

/-- The octets are what the encoder may seal a plain text in: the plain text as it is, or an encrypted
form of it. -/
def Seals (e : Encoder) (plain octets : Bytes) : Prop :=
  match e.block? with
  | none => octets = plain
  | some block => ∃ counter salt, octets = CounterMode.encrypt block counter salt plain

theorem draws_sealed (e : Encoder) (plain : Bytes) :
    (e.sealed plain).run.Draws (fun r => ∃ octets, r = .ok octets ∧ e.Seals plain octets) Failed := by
  unfold sealed Seals
  cases e.block? with
  | none => exact Draws.done ⟨plain, rfl, rfl⟩
  | some block =>
      refine (draws_draw _).bind ?_ fun r hr => quiet_of_failed hr
      intro drawn hdrawn
      obtain ⟨counter, rfl⟩ := hdrawn
      refine (draws_draw _).bind ?_ fun r hr => quiet_of_failed hr
      intro drawn hdrawn
      obtain ⟨salt, rfl⟩ := hdrawn
      exact Draws.done ⟨_, rfl, counter, salt, rfl⟩

/-- What is sealed is opened again, and then read as a session. -/
theorem Seals.opened_eq {e : Encoder} {d : SessionData} {octets : Bytes}
    (h : e.Seals d.serialize octets) :
    e.opened (Base64Url.encode octets) = SessionData.deserialize d.serialize := by
  unfold Seals at h
  cases hblock : e.block? with
  | none =>
      rw [hblock] at h
      obtain rfl : octets = d.serialize := h
      exact opened_of_plain hblock _
  | some block =>
      rw [hblock] at h
      obtain ⟨counter, salt, rfl⟩ := h
      rw [opened_of_block hblock, CounterMode.decrypt_encrypt block counter salt d.serialize_ne_nil]
      rfl

/-- The text is one that the encoder may compose of a session at a time: the signed text of octets that
it seals the session in. -/
def Composes (e : Encoder) (key : String) (now : Int) (d : SessionData) (text : String) : Prop :=
  ∃ authenticate octets, e.authenticate? = some authenticate ∧ e.Seals d.serialize octets ∧
    text = signed authenticate key (Base64Url.encode octets) (Numeral.text (e.clock now))

/-- The text is one that the encoder may write of a session at a time: the signed text of a payload
that it opens again, and of the time. -/
def Writes (e : Encoder) (key : String) (now : Int) (d : SessionData) (text : String) : Prop :=
  ∃ authenticate payload, e.authenticate? = some authenticate ∧ '|' ∉ payload.toList ∧
    text = signed authenticate key payload (Numeral.text (e.clock now)) ∧
      e.opened payload = SessionData.deserialize d.serialize

/-- What is composed of a session can be opened again. -/
theorem Composes.writes {e : Encoder} {key text : String} {now : Int} {d : SessionData}
    (h : e.Composes key now d text) : e.Writes key now d text := by
  obtain ⟨authenticate, octets, he, hseals, rfl⟩ := h
  exact ⟨authenticate, _, he, Base64Url.bar_not_mem_encode _, rfl, hseals.opened_eq⟩

/-- Without a cipher, the payload is the base 64 of the serialized session. -/
theorem writes_plain {e : Encoder} {authenticate : Bytes → Sha256.Digest}
    (he : e.authenticate? = some authenticate) (hblock : e.block? = none) (key : String) (now : Int)
    (d : SessionData) :
    e.Writes key now d (signed authenticate key (Base64Url.encode d.serialize)
      (Numeral.text (e.clock now))) :=
  ⟨authenticate, _, he, Base64Url.bar_not_mem_encode _, rfl, opened_of_plain hblock _⟩

/-- This is the text, and nothing is drawn for it. -/
theorem encode_of_plain {e : Encoder} {authenticate : Bytes → Sha256.Digest}
    (he : e.authenticate? = some authenticate) (hblock : e.block? = none) (key : String) (now : Int)
    (d : SessionData) :
    (e.encode key now d).run = .done (.ok (signed authenticate key (Base64Url.encode d.serialize)
      (Numeral.text (e.clock now)))) := by
  rw [encode, he]
  simp only [sealed, hblock]
  rfl

theorem run_encode_of_plain {σ : Type} {respond : Responder σ} {t : σ} {e : Encoder}
    {authenticate : Bytes → Sha256.Digest} (he : e.authenticate? = some authenticate)
    (hblock : e.block? = none) {key : String} {now : Int} {d : SessionData} :
    (e.encode key now d).run.run respond t =
      (.ok (signed authenticate key (Base64Url.encode d.serialize) (Numeral.text (e.clock now))),
        t) := by
  rw [encode_of_plain he hblock, run_done]

/-- **What an encoder makes** is composed of the session, if it has a key. -/
theorem draws_encode_composes {e : Encoder} (he : e.authenticate?.isSome) (key : String) (now : Int)
    (d : SessionData) :
    (e.encode key now d).run.Draws (fun r => ∃ text, r = .ok text ∧ e.Composes key now d text)
      Failed := by
  obtain ⟨authenticate, he⟩ := Option.isSome_iff_exists.mp he
  rw [encode, he]
  refine (draws_sealed e d.serialize).bind ?_ fun r hr => quiet_of_failed hr
  intro sealed hsealed
  obtain ⟨octets, rfl, hseals⟩ := hsealed
  exact Draws.done ⟨_, rfl, authenticate, octets, he, hseals, rfl⟩

theorem draws_encode {e : Encoder} (he : e.authenticate?.isSome) (key : String) (now : Int)
    (d : SessionData) :
    (e.encode key now d).run.Draws (fun r => ∃ text, r = .ok text ∧ e.Writes key now d text)
      Failed :=
  (draws_encode_composes he key now d).mono fun _ ⟨text, hr, hcomposes⟩ =>
    ⟨text, hr, hcomposes.writes⟩

/-- Whatever octets are given, a text that comes out is composed of the session. -/
theorem quiet_encode_composes (e : Encoder) (key : String) (now : Int) (d : SessionData) :
    (e.encode key now d).run.Quiet fun encoded =>
      ∀ text, encoded = .ok text → e.Composes key now d text := by
  cases he : e.authenticate? with
  | none =>
      rw [encode, he]
      exact Quiet.done fun _ h => nomatch h
  | some authenticate =>
      have hkeyed : e.authenticate?.isSome = true := by rw [he]; rfl
      refine (draws_encode_composes hkeyed key now d).quiet.mono fun encoded h text htext => ?_
      rcases h with ⟨text', rfl, hcomposes⟩ | ⟨failure, rfl⟩
      · cases htext
        exact hcomposes
      · cases htext

theorem quiet_encode_writes (e : Encoder) (key : String) (now : Int) (d : SessionData) :
    (e.encode key now d).run.Quiet fun encoded =>
      ∀ text, encoded = .ok text → e.Writes key now d text :=
  (e.quiet_encode_composes key now d).mono fun _ h text htext => (h text htext).writes

theorem writes_of_encode {σ : Type} {respond : Responder σ} {s : σ} {e : Encoder} {key : String}
    {now : Int} {d : SessionData} {text : String}
    (h : ((e.encode key now d).run.run respond s).1 = .ok text) : e.Writes key now d text :=
  (e.quiet_encode_writes key now d).good_run respond s text h

/-! ### Reading -/

/-- A verified text is read as its timestamp and its payload allow. -/
theorem decode_of_verified {e : Encoder} (he : e.authenticate? = some authenticate) {text : String}
    {payload timestamp : String}
    (h : verified? authenticate key text = some (payload, timestamp)) (now : Int) :
    e.decode key now text =
      if e.maxLength ≠ 0 ∧ e.maxLength < text.utf8ByteSize then .error .maxLength
      else e.checkAge (secondsOf timestamp) (e.clock now) >>= fun _ => e.opened payload := by
  rw [decode, he]
  dsimp only
  rw [h]

/-- A text that is not verified is not read, unless it is refused for its length before. -/
theorem decode_of_not_verified {e : Encoder} (he : e.authenticate? = some authenticate)
    {text : String} (h : verified? authenticate key text = none) (now : Int) :
    e.decode key now text =
      if e.maxLength ≠ 0 ∧ e.maxLength < text.utf8ByteSize then .error .maxLength
      else .error .authentication := by
  rw [decode, he]
  dsimp only
  rw [h]

theorem breadth_of_decode {e : Encoder} {now : Int} {text : String} {d : SessionData}
    (h : e.decode key now text = .ok d) : d.breadth < MessagePack.lengthBound := by
  cases he : e.authenticate? with
  | none =>
      rw [decode, he] at h
      cases h
  | some authenticate =>
      cases hverified : verified? authenticate key text with
      | none =>
          rw [decode_of_not_verified he hverified] at h
          split at h <;> cases h
      | some content =>
          obtain ⟨payload, timestamp⟩ := content
          rw [decode_of_verified he hverified] at h
          split at h
          · cases h
          · cases hage : e.checkAge (secondsOf timestamp) (e.clock now) with
            | error failure =>
                rw [hage] at h
                cases h
            | ok _ =>
                rw [hage] at h
                exact breadth_of_opened h

theorem secondsOf_text {t : Int} (ht : Range.isInt64 t = true) :
    secondsOf (Numeral.text t) = t := by
  rw [secondsOf, Numeral.int64?_text ht, Option.getD_some]

/-- What an encoder wrote is verified, and its timestamp is the time of writing. -/
theorem decode_of_writes {e : Encoder} {made : Int} {d : SessionData} {text : String}
    (h : e.Writes key made d text) (ht : Range.isInt64 (e.clock made) = true) (now : Int) :
    e.decode key now text =
      if e.maxLength ≠ 0 ∧ e.maxLength < text.utf8ByteSize then .error .maxLength
      else e.checkAge (e.clock made) (e.clock now) >>= fun _ =>
        SessionData.deserialize d.serialize := by
  obtain ⟨authenticate, payload, he, hp, rfl, hopened⟩ := h
  have hverified : verified? authenticate key
      (signed authenticate key payload (Numeral.text (e.clock made))) =
        some (payload, Numeral.text (e.clock made)) :=
    verified?_signed hp (Numeral.bar_not_mem_text (e.clock made))
  rw [decode_of_verified he hverified, secondsOf_text ht, hopened]

/-- The errors of an age. -/
theorem checkAge_error {e : Encoder} {timestamp now : Int} {failure : Error}
    (h : e.checkAge timestamp now = .error failure) :
    failure = .badTimestamp ∨ failure = .newTimestamp ∨ failure = .oldTimestamp := by
  unfold checkAge at h
  split_ifs at h <;> cases h <;> simp

/-- A text oversteps none of the limits of the encoder. -/
structure Passes (e : Encoder) (made now : Int) (text : String) : Prop where
  short_enough : ¬ (e.maxLength ≠ 0 ∧ e.maxLength < text.utf8ByteSize)
  isInt64 : Range.isInt64 (e.clock made) = true
  checkAge : e.checkAge (e.clock made) (e.clock now) = .ok ()

/-- Within all limits a representable session is read back. -/
theorem decode_of_writes_of_passes {e : Encoder} {made now : Int} {d : SessionData} {text : String}
    (h : e.Writes key made d text) (hlimits : e.Passes made now text) (hd : d.Representable) :
    e.decode key now text = .ok d := by
  rw [decode_of_writes h hlimits.isInt64, if_neg hlimits.short_enough, hlimits.checkAge,
    SessionData.deserialize_serialize hd]
  rfl

/-- What the encoder writes at one time oversteps none of its limits at another. -/
structure Admits (e : Encoder) (made now : Int) : Prop where
  unlimited : e.maxLength = 0
  isInt64 : Range.isInt64 (e.clock made) = true
  ne_zero : e.clock made ≠ 0
  old_enough : e.minAge ≠ 0 → e.clock made ≤ e.clock now - e.minAge
  young_enough : e.maxAge ≠ 0 → e.clock now - e.maxAge ≤ e.clock made

theorem checkAge_of_admits {e : Encoder} {made now : Int} (h : e.Admits made now) :
    e.checkAge (e.clock made) (e.clock now) = .ok () := by
  rw [checkAge, if_neg h.ne_zero, if_neg, if_neg]
  · intro hold
    exact absurd (h.young_enough hold.1) (Int.not_le.mpr hold.2)
  · intro hnew
    exact absurd (h.old_enough hnew.1) (Int.not_le.mpr hnew.2)

theorem decode_of_writes_of_admits {e : Encoder} {made now : Int} {d : SessionData} {text : String}
    (h : e.Writes key made d text) (hlimits : e.Admits made now) (hd : d.Representable) :
    e.decode key now text = .ok d :=
  decode_of_writes_of_passes h
    ⟨fun h => h.1 hlimits.unlimited, hlimits.isInt64, checkAge_of_admits hlimits⟩ hd

end WebSession.Encoder

/-! ### Several encoders -/

namespace WebSession.Encoders

open Plan

/-- Whatever the encoders are, writing only draws. -/
theorem quiet_encode (encoders : List Encoder) (key : String) (now : Int) (d : SessionData) :
    (encode encoders key now d).run.Quiet fun _ => True := by
  cases encoders with
  | nil => exact Quiet.done trivial
  | cons e more => exact (e.quiet_encode_writes key now d).mono fun _ _ => trivial

/-- What the first encoder reads is read. -/
theorem decode_of_first {e : Encoder} {more : List Encoder} {key text : String} {now : Int}
    {d : SessionData} (h : e.decode key now text = .ok d) :
    decode (e :: more) key now text = .ok d := by
  rw [decode, decode.go, h]

/-- What is read is read by one of the encoders. -/
theorem exists_of_decode {encoders : List Encoder} {key text : String} {now : Int}
    {d : SessionData} (h : decode encoders key now text = .ok d) :
    ∃ e ∈ encoders, e.decode key now text = .ok d := by
  rw [decode] at h
  generalize Error.missingHash = failure at h
  induction encoders generalizing failure with
  | nil => cases h
  | cons e more ih =>
      rw [decode.go] at h
      split at h
      · rename_i d' hd
        cases h
        exact ⟨e, List.mem_cons_self, hd⟩
      · obtain ⟨e', he', hd⟩ := ih _ h
        exact ⟨e', List.mem_cons_of_mem _ he', hd⟩

end WebSession.Encoders
