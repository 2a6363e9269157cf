import WebSession.Proofs.Cookie
import WebSession.Proofs.Encoder

/-!
# WebSession.Proofs.Encoder.Size

**How long a signed text is** (`quiet_encode_size`) hangs on the lengths of the serialized session and
of the timestamp, and on whether there is a cipher. What is drawn for it plays no part.

So two texts that an encoder writes of one session in the same second are read alike by it, at every
time (`decode_eq_of_writes`): they are both too long or neither is, and behind the code that is right for
either there is the same session.
-/

namespace WebSession

open Plan

/-! ### Sizes -/

/-- A text of characters that take one octet each has as many octets as characters. -/
theorem Bytes.utf8ByteSize_of_ascii {s : String} (h : ∀ c ∈ s.toList, c.utf8Size = 1) :
    s.utf8ByteSize = s.toList.length := by
  rw [← Bytes.length_ofText, Bytes.ofText_eq_flatMap]
  generalize s.toList = cs at h
  induction cs with
  | nil => rfl
  | cons c rest ih =>
      rw [List.flatMap_cons, List.length_append, String.length_utf8EncodeChar,
        h c List.mem_cons_self, ih fun c hc => h c (List.mem_cons_of_mem _ hc), List.length_cons,
        Nat.add_comm]

namespace Base64Url

/-- The number of characters for a number of octets. -/
def size (n : Nat) : Nat := (4 * n + 2) / 3

theorem length_writeOnto : ∀ (front : List Char) (b : Bytes),
    (writeOnto front b).length = front.length + size b.length
  | _, [] => rfl
  | _, [_] => by simp [writeOnto, size]
  | _, [_, _] => by simp [writeOnto, size]
  | front, a :: b :: c :: rest => by
      rw [writeOnto, length_writeOnto]
      simp only [List.length_cons, size]
      omega

theorem utf8Size_of_digit? {c : Char} (h : (digit? c).isSome) : c.utf8Size = 1 := by
  obtain ⟨n, hn⟩ := Option.isSome_iff_exists.mp h
  obtain ⟨hlt, rfl⟩ := digit_of_digit? hn
  have hall : ∀ n < 64, (digit n).utf8Size = 1 := by decide
  exact hall n hlt

theorem utf8ByteSize_encode (b : Bytes) : (encode b).utf8ByteSize = size b.length := by
  rw [Bytes.utf8ByteSize_of_ascii fun c hc => utf8Size_of_digit? (digit?_isSome_of_mem hc),
    toList_encode, List.length_reverse, length_writeOnto]
  exact Nat.zero_add _

end Base64Url

namespace Encoder

variable {e : Encoder} {key : String} {now : Int} {d : SessionData}

/-- The number of octets of a payload. A cipher puts a counter and a salt in front. -/
def sealedLength (e : Encoder) (length : Nat) : Nat :=
  match e.block? with
  | none => length
  | some _ => CounterMode.blockSize + (CounterMode.blockSize + length)

/-- The number of octets of the signed text of a session. -/
def textSize (e : Encoder) (now : Int) (d : SessionData) : Nat :=
  Base64Url.size (Base64Url.size (e.sealedLength d.serialize.length) + 1 +
    (Numeral.text (e.clock now)).utf8ByteSize + 1 + Base64Url.size 32)

theorem utf8ByteSize_signed (authenticate : Bytes → Sha256.Digest) (key payload timestamp : String) :
    (signed authenticate key payload timestamp).utf8ByteSize =
      Base64Url.size (payload.utf8ByteSize + 1 + timestamp.utf8ByteSize + 1 + Base64Url.size 32) := by
  have hcode : ∀ code : Sha256.Digest,
      (Base64Url.encode code.toList).utf8ByteSize = Base64Url.size 32 := by
    intro code
    rw [Base64Url.utf8ByteSize_encode, Vector.length_toList]
  rw [signed, Base64Url.utf8ByteSize_encode, Bytes.length_ofText]
  simp only [String.utf8ByteSize_append, hcode]
  rfl

/-- Whatever is drawn for it, so many octets are sealed. -/
theorem Seals.length_eq {plain octets : Bytes} (h : e.Seals plain octets) :
    octets.length = e.sealedLength plain.length := by
  unfold Seals at h
  unfold sealedLength
  cases hblock : e.block? with
  | none =>
      rw [hblock] at h
      exact congrArg List.length h
  | some block =>
      rw [hblock] at h
      obtain ⟨counter, salt, rfl⟩ := h
      exact CounterMode.length_encrypt block counter salt plain

/-- **The size of a text**, however octets are drawn. -/
theorem quiet_encode_size (e : Encoder) (key : String) (now : Int) (d : SessionData) :
    (e.encode key now d).run.Quiet fun encoded =>
      ∀ text, encoded = .ok text → text.utf8ByteSize = e.textSize now d := by
  refine (e.quiet_encode_composes key now d).mono fun encoded h text htext => ?_
  obtain ⟨authenticate, octets, -, hseals, rfl⟩ := h text htext
  rw [utf8ByteSize_signed, Base64Url.utf8ByteSize_encode, hseals.length_eq, textSize]

/-- A text is longer than the session in it, for the bars and the code alone. -/
theorem length_add_le_textSize (e : Encoder) (now : Int) (d : SessionData) :
    d.serialize.length + 45 ≤ e.textSize now d := by
  have hsealed : d.serialize.length ≤ e.sealedLength d.serialize.length := by
    unfold sealedLength
    split <;> omega
  simp only [textSize, Base64Url.size]
  omega

/-- **Texts of one session of the same second** are read alike by the encoder that wrote them. -/
theorem decode_eq_of_writes {text text' : String} (h : e.Writes key now d text)
    (h' : e.Writes key now d text') (hsize : text.utf8ByteSize = text'.utf8ByteSize)
    (later : Int) : e.decode key later text = e.decode key later text' := by
  obtain ⟨authenticate, payload, he, hp, rfl, hopened⟩ := h
  obtain ⟨authenticate', payload', he', hp', rfl, hopened'⟩ := h'
  cases he.symm.trans he'
  have hbar := Numeral.bar_not_mem_text (e.clock now)
  rw [decode_of_verified he (verified?_signed hp hbar), decode_of_verified he (verified?_signed hp' hbar),
    hsize, hopened, hopened']

end Encoder

end WebSession
