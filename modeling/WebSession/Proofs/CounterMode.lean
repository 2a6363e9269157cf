import Mathlib.Tactic.SplitIfs
import WebSession.CounterMode

/-!
# WebSession.Proofs.CounterMode

**What is encrypted is decrypted** (`decrypt_encrypt`), whatever the block function, the
initial counter and the salt are.

Combining with the encrypted counters does not change how many octets there are, so both
directions use the same counters, and combining twice changes nothing (`apply_apply`).
-/

namespace WebSession.CounterMode

variable (block : Block → Block)

/-- So many blocks have so many times the octets of one. -/
theorem length_flatMap_range (f : Nat → Block) (n : Nat) :
    ((List.range n).flatMap fun i => (f i).toList).length = blockSize * n := by
  induction n with
  | zero => rfl
  | succ n ih =>
      rw [List.range_succ, List.flatMap_append, List.length_append, ih, List.flatMap_singleton,
        Vector.length_toList]
      exact (Nat.mul_succ blockSize n).symm

/-- There are encrypted counters for all octets. -/
theorem le_length_keystream (counter length : Nat) :
    length ≤ (keystream block counter length).length := by
  rw [keystream, length_flatMap_range fun i => block (counterBlock (counter + i))]
  simp only [blockSize]
  omega

@[simp] theorem length_apply (counter data : Bytes) :
    (apply block counter data).length = data.length := by
  rw [apply, List.length_zipWith]
  exact Nat.min_eq_left (le_length_keystream block _ _)

/-- Encrypting puts a counter and a salt in front. -/
theorem length_encrypt (counter salt : Block) (text : Bytes) :
    (encrypt block counter salt text).length = blockSize + (blockSize + text.length) := by
  have hlength : ∀ b : Block, b.toList.length = blockSize := fun b => Vector.length_toList
  rw [encrypt, List.length_append, length_apply, List.length_append, hlength, hlength]

/-- Combining octets twice with enough others gives them back. -/
theorem zipWith_xor_xor : ∀ {data others : Bytes}, data.length ≤ others.length →
    List.zipWith (· ^^^ ·) (List.zipWith (· ^^^ ·) data others) others = data
  | [], _, _ => rfl
  | _ :: _, [], h => absurd h (by simp)
  | x :: data, y :: others, h => by
      rw [List.zipWith_cons_cons, List.zipWith_cons_cons,
        zipWith_xor_xor (Nat.le_of_succ_le_succ h), UInt8.xor_assoc, UInt8.xor_self,
        UInt8.xor_zero]

/-- Combining with the encrypted counters twice changes nothing. -/
@[simp] theorem apply_apply (counter data : Bytes) :
    apply block counter (apply block counter data) = data := by
  rw [apply, length_apply, apply]
  exact zipWith_xor_xor (le_length_keystream block _ _)

/-- **What is encrypted is decrypted**, unless there is nothing to encrypt. -/
theorem decrypt_encrypt (counter salt : Block) {text : Bytes} (h : text ≠ []) :
    decrypt block (encrypt block counter salt text) = .ok text := by
  have hsplit : (encrypt block counter salt text).splitAt blockSize =
      (counter.toList, apply block counter.toList (salt.toList ++ text)) := by
    rw [encrypt, List.splitAt_eq]
    have hlen : counter.toList.length = blockSize := Vector.length_toList
    rw [List.take_left' hlen, List.drop_left' hlen]
  have hrest : (apply block counter.toList (salt.toList ++ text)).isEmpty = false := by
    rw [List.isEmpty_eq_false_iff, ← List.length_pos_iff, length_apply, List.length_append,
      Vector.length_toList]
    omega
  have htext : (salt.toList ++ text).drop blockSize = text :=
    List.drop_left' Vector.length_toList
  rw [decrypt, hsplit]
  dsimp only
  rw [hrest, apply_apply, htext, List.isEmpty_eq_false_iff.mpr h]
  rfl

/-- The one error of decryption. -/
theorem decrypt_error {data : Bytes} {failure : Error} (h : decrypt block data = .error failure) :
    failure = .decryption := by
  unfold decrypt at h
  dsimp only at h
  split_ifs at h <;> cases h <;> rfl

end WebSession.CounterMode
