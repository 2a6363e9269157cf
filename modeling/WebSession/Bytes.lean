/-!
# WebSession.Bytes

**Octet strings**: what is serialized, encrypted, signed and stored.

Design points:

* An octet string is a plain `List UInt8`, so every statement about a codec is a
  statement about lists. `ByteArray` appears only here, where text is turned into
  octets and back.
* `Bytes.text?` inverts `Bytes.ofText` on the whole of its image and refuses
  everything that is not well-formed UTF-8.
* `Bytes.hex` and `Bytes.ofHex?` use lower-case digits, two for each octet.
-/

namespace WebSession

/-- An octet string. -/
abbrev Bytes := List UInt8

namespace Bytes

/-! ### Text -/

/-- The UTF-8 octets of a text. -/
def ofText (s : String) : Bytes := s.toByteArray.data.toList

/-- The text with the given UTF-8 octets, if they are well formed. -/
def text? (b : Bytes) : Option String := String.fromUTF8? ⟨b.toArray⟩

/-- Reading back the octets of a text gives that text. -/
@[simp] theorem text?_ofText (s : String) : text? (ofText s) = some s := by
  have h : (⟨(ofText s).toArray⟩ : ByteArray) = s.toByteArray := by
    simp [ofText]
  simp only [text?, h, String.fromUTF8?]
  simp [s.isValidUTF8, String.fromUTF8]

/-- Only the octets of a text are read as that text. -/
theorem ofText_of_text? {b : Bytes} {s : String} (h : text? b = some s) : ofText s = b := by
  simp only [text?, String.fromUTF8?] at h
  split at h
  · cases h
    simp [ofText, String.fromUTF8]
  · cases h

/-- Different texts have different octets. -/
theorem ofText_injective {s t : String} (h : ofText s = ofText t) : s = t := by
  simpa using congrArg text? h

/-- The octets of a text are as many as its UTF-8 size. -/
theorem length_ofText (s : String) : (ofText s).length = s.utf8ByteSize := by
  rw [ofText, Array.length_toList]
  rfl

/-! ### Hexadecimal -/

/-- The lower-case hexadecimal digit of a number below sixteen. -/
def hexDigit (n : Nat) : Char :=
  if n < 10 then Char.ofNat (48 + n) else Char.ofNat (87 + n)

/-- The two hexadecimal digits of an octet, the high one first. -/
def hexPair (b : UInt8) : List Char := [hexDigit (b.toNat / 16), hexDigit (b.toNat % 16)]

/-- The hexadecimal text of an octet string. -/
def hex (b : Bytes) : String := String.ofList (b.flatMap hexPair)

/-- The value of a hexadecimal digit of either case. -/
def hexValue? (c : Char) : Option Nat :=
  if '0' ≤ c ∧ c ≤ '9' then some (c.toNat - 48)
  else if 'a' ≤ c ∧ c ≤ 'f' then some (c.toNat - 87)
  else if 'A' ≤ c ∧ c ≤ 'F' then some (c.toNat - 55)
  else none

/-! ### Numbers -/

/-- The last `width` octets of a number, the most significant one first. -/
def bigEndian (width : Nat) (n : Nat) : Bytes :=
  (List.range width).map fun i => UInt8.ofNat (n >>> (8 * (width - 1 - i)))

@[simp] theorem length_bigEndian (width n : Nat) : (bigEndian width n).length = width := by
  simp [bigEndian]

/-- How many octet strings of a length there are, which is how many numbers they tell apart. -/
def count (width : Nat) : Nat := 1 <<< (8 * width)

/-- The number whose octets, the most significant one first, are given. -/
def toNat (b : Bytes) : Nat := b.foldl (fun n x => 256 * n + x.toNat) 0

end Bytes

end WebSession
