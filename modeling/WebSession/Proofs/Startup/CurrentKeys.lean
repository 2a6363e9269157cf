import WebSession.Proofs.Service.Composing
import WebSession.Proofs.Startup

/-!
# WebSession.Proofs.Startup.CurrentKeys

**Which keys a service writes with** (`writes_with_first_keys`): the current ones, if there is a
current secret that signs. If there is none the service starts with the previous keys alone, and then
it writes with these: the current secret for encryption counts for nothing
(`unencrypted_without_secret`).
-/

namespace WebSession

/-! ### Texts of a pair -/

namespace KeyPair

variable {pair : KeyPair} {maxLength : Nat} {e : Encoder} {key text : String} {now : Int}
  {d : SessionData}

/-- The octets are what a pair may seal a plain text in: encrypted with its encryption key, if it has
one. -/
def Seals (pair : KeyPair) (plain octets : Bytes) : Prop :=
  match pair.blockKey? with
  | none => octets = plain
  | some blockKey => ∃ cipher : CipherKey, cipher.octets = blockKey ∧
      ∃ counter salt, octets = CounterMode.encrypt cipher.encryptBlock counter salt plain

/-- The text is one that a pair may compose of a session at a time: sealed, and signed with its
authentication key. -/
def Composes (pair : KeyPair) (key : String) (now : Int) (d : SessionData) (text : String) : Prop :=
  ∃ octets, pair.Seals d.serialize octets ∧
    text = Encoder.signed (Sha256.authenticate pair.hashKey) key (Base64Url.encode octets)
      (Numeral.text now)

/-- What the encoder of a pair composes, the pair composes. -/
theorem composes_of_encoder (h : pair.encoder maxLength = .ok e)
    (htext : e.Composes key now d text) : pair.Composes key now d text := by
  obtain ⟨-, cipherKey?, hcipher, rfl⟩ := encoder_eq_ok_iff.mp h
  obtain ⟨authenticate, octets, hauthenticate, hseals, rfl⟩ := htext
  obtain rfl : Sha256.authenticate pair.hashKey = authenticate := Option.some.inj hauthenticate
  refine ⟨octets, ?_, rfl⟩
  unfold Seals
  rw [← hcipher]
  cases cipherKey? with
  | none => exact hseals
  | some cipher =>
      obtain ⟨counter, salt, hoctets⟩ := hseals
      exact ⟨cipher, rfl, counter, salt, hoctets⟩

end KeyPair

namespace Startup

open Service

variable {m : Machine} {a : Arguments} {f : SessionFactory} {pair : KeyPair}
  {pairs : List KeyPair}

/-! ### Writing -/

/-- The first encoder of every store is that of a pair. -/
def MakesFirst (f : SessionFactory) (pair : KeyPair) : Prop :=
  ∀ name s, f.store name = .ok s →
    ∃ e more, s.encoders = e :: more ∧ pair.encoder s.maxLength = .ok e

/-- A service writes with a pair of keys: the pair makes the first encoder of every store, and every
record and every cookie that a request writes is a text that the pair composes, whoever answers the
request's calls. -/
structure WritesWith (f : SessionFactory) (pair : KeyPair) : Prop where
  encoders : MakesFirst f pair
  records : ∀ (σ : Type) (t : Turn σ) store id record maxAge,
    .add store id record maxAge ∈ t.calls f → ∃ d, pair.Composes sessionKey t.now d record
  cookies : ∀ (σ : Type) (t : Turn σ), ∀ header ∈ (t.response f).cookies,
    ∃ d text config, pair.Composes sessionKey t.now d text ∧
      header = (Cookie.ofSession sessionKey text config).text

/-- The pair that makes the first encoders composes what the service composes. -/
theorem MakesFirst.composes (h : MakesFirst f pair) {now : Int} {text : String}
    (htext : Composed f now text) : ∃ d, pair.Composes sessionKey now d text := by
  obtain ⟨name, s, hs, e, more, d, he, hcomposes⟩ := htext
  obtain ⟨e', more', he', hpair⟩ := h name s hs
  cases he.symm.trans he'
  exact ⟨d, KeyPair.composes_of_encoder hpair hcomposes⟩

/-- **The first pair writes**, in all stores. -/
theorem writesWith_of_first (h : factory m a = .ok f)
    (hpairs : keyPairs a = pair :: pairs) : WritesWith f pair := by
  have hfirst : MakesFirst f pair := by
    intro name s hs
    have hencoders := ((store_factory_iff h).mp hs).2.2
    rw [hpairs] at hencoders
    obtain ⟨e, more, he, hpair, -⟩ := KeyPair.encoders_cons hencoders
    exact ⟨e, more, he, hpair⟩
  refine ⟨hfirst, fun σ t store id record maxAge hadd => ?_, fun σ t header hheader => ?_⟩
  · exact hfirst.composes (Turn.composed_of_add hadd)
  · obtain ⟨text, config, hcomposed, heq⟩ := Turn.composed_of_header hheader
    obtain ⟨d, hcomposes⟩ := hfirst.composes hcomposed
    exact ⟨d, text, config, hcomposes, heq⟩

/-! ### The first pair -/

theorem keyPairs_of_current (h : a.secretKey.reveal ≠ "") :
    keyPairs a = pairOf a.secretKey a.encryptionKey ::
      generation a.previousSecretKey a.previousEncryptionKey := by
  rw [keyPairs, generation_eq, if_neg h, List.singleton_append]

theorem keyPairs_of_previous (h : a.secretKey.reveal = "") (hpairs : keyPairs a ≠ []) :
    keyPairs a = [pairOf a.previousSecretKey a.previousEncryptionKey] := by
  rw [keyPairs, generation_eq, if_pos h, List.nil_append, generation_eq] at hpairs ⊢
  split_ifs at hpairs ⊢
  · exact absurd rfl hpairs
  · rfl

/-- **The keys that a service writes with.** A service that starts with a current secret for signing
writes with this secret and the current one for encryption, and one that starts without it with the
previous ones: they make the first encoder of every store, and they sign and encrypt every record and
every cookie. -/
theorem writes_with_first_keys (h : factory m a = .ok f) :
    (a.secretKey.reveal ≠ "" → WritesWith f (pairOf a.secretKey a.encryptionKey)) ∧
      (a.secretKey.reveal = "" →
        WritesWith f (pairOf a.previousSecretKey a.previousEncryptionKey)) := by
  refine ⟨fun hcurrent => ?_, fun hnone => ?_⟩
  · exact writesWith_of_first h (keyPairs_of_current hcurrent)
  · obtain ⟨-, hpairs, -⟩ := factory_eq_ok_iff.mp h
    exact writesWith_of_first h (keyPairs_of_previous hnone hpairs)

/-- Arguments with a current secret for encryption and a previous one for signing. -/
def lapsedArguments : Arguments where
  encryptionKey := ⟨"0123456789abcdef"⟩
  previousSecretKey := ⟨"old"⟩

/-- Without a current secret for signing a service does not encrypt, though there is a key to encrypt
with: it writes with the previous secret and not with what is current. With such a secret it does. -/
theorem unencrypted_without_secret :
    (∃ f, factory bareMachine lapsedArguments = .ok f ∧
      WritesWith f { hashKey := Bytes.ofText "old", blockKey? := none } ∧
        ¬ WritesWith f (pairOf lapsedArguments.secretKey lapsedArguments.encryptionKey)) ∧
    ∃ f, factory bareMachine { lapsedArguments with secretKey := ⟨"new"⟩ } = .ok f ∧
      WritesWith f (pairOf ⟨"new"⟩ ⟨"0123456789abcdef"⟩) := by
  have hencrypts : lapsedArguments.encryptionKey.Encrypts := .inr (.inl (by decide))
  constructor
  · obtain ⟨f, hf⟩ := (exists_factory_iff_usable bareMachine lapsedArguments).mpr
      ⟨⟨by decide, .inl rfl⟩, .inr (by decide), fun _ => hencrypts, fun _ => .inl rfl⟩
    refine ⟨f, hf, (writes_with_first_keys hf).2 rfl, fun hcurrent => ?_⟩
    -- no encoder has an empty authentication key
    obtain ⟨s, hs, -⟩ := exists_store hf .cookie
    obtain ⟨e, more, -, he⟩ := hcurrent.encoders _ s hs
    exact (KeyPair.encoder_eq_ok_iff.mp he).1 rfl
  · obtain ⟨f, hf⟩ := (exists_factory_iff_usable bareMachine
      { lapsedArguments with secretKey := ⟨"new"⟩ }).mpr
      ⟨⟨by decide, .inl rfl⟩, .inl (by decide), fun _ => hencrypts, fun _ => .inl rfl⟩
    exact ⟨f, hf, (writes_with_first_keys hf).1 (by decide)⟩

end Startup

end WebSession
