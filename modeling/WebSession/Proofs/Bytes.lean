import Mathlib.Data.List.Induction
import WebSession.Bytes

/-!
# WebSession.Proofs.Bytes

**Texts and numbers as octets**: a text has the octets of its characters (`ofText_eq_flatMap`), and a
big-endian form keeps a number modulo the count of its octets (`toNat_bigEndian`).
-/

namespace WebSession.Bytes

/-- A number below 256 is the number of its octet. -/
theorem octet_toNat {n : Nat} (h : n < 256) : (UInt8.ofNat n).toNat = n :=
  UInt8.toNat_ofNat_of_lt' h

/-- An octet is the octet of its number. -/
theorem octet_eq {x : UInt8} {n : Nat} (h : n = x.toNat) : UInt8.ofNat n = x := by
  rw [h, UInt8.ofNat_toNat]

/-- Only an empty text has no octets. -/
theorem ofText_ne_nil_iff {text : String} : ofText text ≠ [] ↔ text ≠ "" := by
  rw [ne_eq, ← List.length_eq_zero_iff, length_ofText, String.utf8ByteSize_eq_zero_iff]

/-- The octets of a text are those of its characters. -/
theorem ofText_eq_flatMap (s : String) : ofText s = s.toList.flatMap String.utf8EncodeChar := by
  rw [ofText, ← String.utf8Encode_toList, List.utf8Encode]
  simp

/-- A text has as many octets as characters at least. -/
theorem length_toList_le_utf8ByteSize (s : String) : s.toList.length ≤ s.utf8ByteSize := by
  rw [← length_ofText, ofText_eq_flatMap]
  induction s.toList with
  | nil => exact Nat.le_refl 0
  | cons c rest ih =>
      have hc := c.utf8Size_pos
      rw [List.flatMap_cons, List.length_append, List.length_cons, String.length_utf8EncodeChar]
      omega

/-! ### Big-endian numbers -/

theorem toNat_append (a b : Bytes) : toNat (a ++ b) = b.foldl (fun n x => 256 * n + x.toNat)
    (toNat a) := by
  rw [toNat, List.foldl_append]
  rfl

/-- One octet more in front is the next octet of the number. -/
theorem bigEndian_succ (width n : Nat) :
    bigEndian (width + 1) n = bigEndian width (n >>> 8) ++ [UInt8.ofNat n] := by
  rw [bigEndian, List.range_succ, List.map_append, List.map_singleton]
  congr 1
  · rw [bigEndian]
    apply List.map_congr_left
    intro i hi
    have hlt := List.mem_range.mp hi
    rw [← Nat.shiftRight_add]
    congr 2
    omega
  · simp

theorem count_succ (width : Nat) : count (width + 1) = 256 * count width := by
  simp only [count, Nat.one_shiftLeft, Nat.mul_add, Nat.pow_add]
  exact Nat.mul_comm ..

/-- The number of a big-endian form, for octets that are enough or too few. -/
theorem toNat_bigEndian (width n : Nat) : toNat (bigEndian width n) = n % count width := by
  induction width generalizing n with
  | zero => simp [bigEndian, toNat, count, Nat.mod_one]
  | succ width ih =>
      rw [bigEndian_succ, toNat_append, ih, List.foldl_cons, List.foldl_nil,
        UInt8.toNat_ofNat', count_succ, Nat.mod_mul, show n >>> 8 = n / 256 from
          Nat.shiftRight_eq_div_pow n 8]
      omega

/-- Octets are the digits of a number below their count. -/
theorem toNat_lt_count (b : Bytes) : toNat b < count b.length := by
  induction b using List.reverseRecOn with
  | nil => decide
  | append_singleton b x ih =>
      have hx := x.toNat_lt
      rw [toNat_append, List.foldl_cons, List.foldl_nil, List.length_append,
        List.length_singleton, count_succ]
      omega

end WebSession.Bytes
