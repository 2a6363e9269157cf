import WebSession.Percent
import WebSession.Proofs.Bytes

/-!
# WebSession.Proofs.Percent

**Percent-encoded text is decoded to itself** (`Percent.decode_encode`), whichever octets stand for
themselves, as long as these are of ASCII and the percent sign is not among them.

The reader goes through octets and the writer makes characters, so each encoded octet is first taken
to the octets of its characters (`ofText_encode`). The reader then makes one step for it
(`decodeOnto_encodeOctet`).
-/

namespace WebSession.Percent

/-! ### Octets that stand for themselves -/

theorem decodeOnto_of_ne {x : UInt8} (hx : x ≠ 0x25) (done rest : Bytes) :
    decodeOnto done (x :: rest) = decodeOnto (x :: done) rest := by
  rw [decodeOnto]
  rintro _ _ _ rfl
  exact absurd rfl hx

theorem decodeOnto_of_not_mem {b done : Bytes} (h : 0x25 ∉ b) :
    decodeOnto done b = b.reverse ++ done := by
  induction b generalizing done with
  | nil =>
      rw [decodeOnto]
      rfl
  | cons x rest ih =>
      have hx : x ≠ 0x25 := fun e => h (e ▸ List.mem_cons_self)
      rw [decodeOnto_of_ne hx, ih fun hmem => h (List.mem_cons_of_mem x hmem)]
      simp

/-- Without a percent sign there is nothing to decode. -/
theorem decode_of_not_mem {b : Bytes} (h : 0x25 ∉ b) : decode b = b := by
  rw [decode, decodeOnto_of_not_mem h, List.append_nil, List.reverse_reverse]

/-! ### Octets that are encoded -/

variable {isPlain : UInt8 → Bool}

theorem ofText_encode (s : String) :
    Bytes.ofText (encode isPlain s) = (Bytes.ofText s).flatMap fun b =>
      (encodeOctet isPlain b).flatMap String.utf8EncodeChar := by
  rw [encode, Bytes.ofText_eq_flatMap, String.toList_ofList, List.flatMap_assoc]

/-- The digits of a half are read back. -/
theorem exists_octet_digit {n : Nat} (h : n < 16) :
    ∃ x, String.utf8EncodeChar (digit n) = [x] ∧
      Bytes.hexValue? (Char.ofNat x.toNat) = some n := by
  have all : ∀ n ∈ List.range 16,
      String.utf8EncodeChar (digit n) = [UInt8.ofNat (digit n).toNat] ∧
        Bytes.hexValue? (Char.ofNat (UInt8.ofNat (digit n).toNat).toNat) = some n := by decide
  exact ⟨_, all n (List.mem_range.mpr h)⟩

theorem toNat_ofNat_octet (b : UInt8) : (Char.ofNat b.toNat).toNat = b.toNat := by
  have hlt : b.toNat < 256 := b.toNat_lt
  rw [Char.ofNat, dif_pos (Or.inl (by omega))]
  rfl

theorem utf8EncodeChar_octet {b : UInt8} (h : b < 0x80) :
    String.utf8EncodeChar (Char.ofNat b.toNat) = [b] := by
  have hlt : b.toNat < 128 := UInt8.lt_iff_toNat_lt.mp h
  have hval : (Char.ofNat b.toNat).val.toNat = b.toNat := toNat_ofNat_octet b
  rw [String.utf8EncodeChar, hval, if_pos (by omega), UInt8.ofNat_toNat]

section

variable (hpercent : isPlain 0x25 = false) (hascii : ∀ b, isPlain b = true → b < 0x80)

include hpercent hascii

/-- **One octet** is read back, whatever comes behind it. -/
theorem decodeOnto_encodeOctet (b : UInt8) (done rest : Bytes) :
    decodeOnto done ((encodeOctet isPlain b).flatMap String.utf8EncodeChar ++ rest) =
      decodeOnto (b :: done) rest := by
  rw [encodeOctet]
  split
  · rename_i hplain
    have hne : b ≠ 0x25 := by
      rintro rfl
      rw [hpercent] at hplain
      cases hplain
    rw [List.flatMap_singleton, utf8EncodeChar_octet (hascii b hplain)]
    exact decodeOnto_of_ne hne done rest
  · have hb : b.toNat < 256 := b.toNat_lt
    obtain ⟨high, hhigh, hhighValue⟩ := exists_octet_digit (by omega : b.toNat / 16 < 16)
    obtain ⟨low, hlow, hlowValue⟩ := exists_octet_digit (by omega : b.toNat % 16 < 16)
    have hsign : String.utf8EncodeChar '%' = [0x25] := by decide
    simp only [List.flatMap_cons, List.flatMap_nil, hsign, hhigh, hlow, List.cons_append,
      List.nil_append]
    rw [decodeOnto, hhighValue, hlowValue]
    dsimp only
    rw [Nat.div_add_mod, UInt8.ofNat_toNat]

/-- **What was encoded is decoded to itself.** -/
theorem decode_encode (s : String) : decode (Bytes.ofText (encode isPlain s)) = Bytes.ofText s := by
  have hread : ∀ b done : Bytes,
      decodeOnto done (b.flatMap fun x => (encodeOctet isPlain x).flatMap String.utf8EncodeChar) =
        b.reverse ++ done := by
    intro b
    induction b with
    | nil =>
        intro done
        rw [List.flatMap_nil, decodeOnto]
        rfl
    | cons x rest ih =>
        intro done
        rw [List.flatMap_cons, decodeOnto_encodeOctet hpercent hascii, ih]
        simp
  rw [decode, ofText_encode, hread, List.append_nil, List.reverse_reverse]

end

end WebSession.Percent
