import WebSession.Proofs.Bytes
import WebSession.Proofs.CounterMode

/-!
# WebSession.Proofs.CounterMode.BothWays

**Encrypting and decrypting undo each other** (`encrypt_decrypt_inverse`), whatever the block function is:
what is encrypted is decrypted, and what is decrypted is encrypted to the same octets again, with the
counter in front of them and the salt that they hold.

How octets are combined is told octet by octet (`getElem?_apply`). A place hangs on its own number
alone, so that nothing has to line up where the salt ends or where the last block is cut off. What can
be decrypted is told by its length (`decrypt_eq`).
-/

namespace WebSession.CounterMode

variable (block : Block → Block)

/-! ### Counters -/

/-- A block is the number that it counts. There are as many as numbers of 128 bits, and the counter
wraps around behind the greatest one. -/
theorem toNat_counterBlock (n : Nat) : Bytes.toNat (counterBlock n).toList = n % Bytes.count 16 :=
  Bytes.toNat_bigEndian blockSize n

/-- Among the octets of blocks, each is found in the block of its place. -/
theorem getElem?_flatMap_range (f : Nat → Block) {n i : Nat} (hi : i < blockSize * n) :
    ((List.range n).flatMap fun k => (f k).toList)[i]? = some (Aes.octetAt (f (i / blockSize)) i) := by
  induction n with
  | zero => exact absurd hi (Nat.not_lt_zero i)
  | succ n ih =>
      rw [List.range_succ, List.flatMap_append, List.flatMap_singleton]
      have hlength := length_flatMap_range f n
      by_cases hfront : i < blockSize * n
      · rw [List.getElem?_append_left (by rw [hlength]; exact hfront), ih hfront]
      · -- the place is in the last block
        have hlast : i - blockSize * n < blockSize := by
          rw [Nat.mul_succ] at hi
          omega
        have hblock : i / blockSize = n := by
          simp only [blockSize] at hfront hi ⊢
          omega
        have hplace : i - blockSize * n = i % 16 := by
          simp only [blockSize] at hfront hi ⊢
          omega
        rw [List.getElem?_append_right (by rw [hlength]; omega), hlength, hblock, hplace]
        exact Vector.getElem?_toList.trans (Vector.getElem?_eq_getElem (Nat.mod_lt i (by decide)))

/-- **An octet is combined** with the one at its place in the encrypted counter of its block. -/
theorem getElem?_apply (counter data : Bytes) (i : Nat) :
    (apply block counter data)[i]? = data[i]?.map fun x =>
      x ^^^ Aes.octetAt (block (counterBlock (counter.toNat + i / blockSize))) i := by
  by_cases hi : i < data.length
  · have hkey : (keystream block counter.toNat data.length)[i]? = some
        (Aes.octetAt (block (counterBlock (counter.toNat + i / blockSize))) i) := by
      refine getElem?_flatMap_range (fun k => block (counterBlock (counter.toNat + k))) ?_
      simp only [blockSize]
      omega
    rw [apply, List.getElem?_zipWith, hkey, List.getElem?_eq_getElem hi]
    rfl
  · rw [List.getElem?_eq_none (by rw [length_apply]; omega), List.getElem?_eq_none (by omega)]
    rfl

/-! ### Decrypting -/

/-- The salt that encrypted octets hold. -/
def saltOf (data : Bytes) : Bytes :=
  (apply block (data.take blockSize) (data.drop blockSize)).take blockSize

/-- **Decrypting**: what does not reach beyond the salt is refused, and of all else the text behind
the salt is given. -/
theorem decrypt_eq (data : Bytes) :
    decrypt block data =
      if data.length ≤ 32 then .error .decryption
      else .ok ((apply block (data.take blockSize) (data.drop blockSize)).drop blockSize) := by
  have hrest : (data.drop blockSize).isEmpty = true ↔ data.length ≤ 16 := by
    rw [List.isEmpty_iff, List.drop_eq_nil_iff]
    rfl
  have htext : ((apply block (data.take blockSize) (data.drop blockSize)).drop
      blockSize).isEmpty = true ↔ data.length ≤ 32 := by
    rw [List.isEmpty_iff, List.drop_eq_nil_iff, length_apply, List.length_drop]
    simp only [blockSize]
    omega
  rw [decrypt, List.splitAt_eq]
  dsimp only
  by_cases hshort : data.length ≤ 16
  · rw [if_pos (hrest.mpr hshort), if_pos (by omega)]
  · rw [if_neg (mt hrest.mp hshort)]
    by_cases hsalt : data.length ≤ 32
    · rw [if_pos (htext.mpr hsalt), if_pos hsalt]
    · rw [if_neg (mt htext.mp hsalt), if_neg hsalt]

theorem decrypt_eq_error_iff (data : Bytes) :
    decrypt block data = .error .decryption ↔ data.length ≤ 32 := by
  rw [decrypt_eq]
  split <;> simp [*]

/-- So many octets are a block. -/
theorem exists_block {b : Bytes} (h : b.length = blockSize) : ∃ s : Block, s.toList = b :=
  ⟨⟨b.toArray, h⟩, rfl⟩

/-- **What is decrypted is encrypted again** to the same octets. -/
theorem encrypt_decrypt {data text : Bytes} {counter salt : Block}
    (hcounter : counter.toList = data.take blockSize) (hsalt : salt.toList = saltOf block data)
    (h : decrypt block data = .ok text) : encrypt block counter salt text = data := by
  rw [decrypt_eq] at h
  split at h
  · cases h
  · cases h
    rw [encrypt, hcounter, hsalt, saltOf, List.take_append_drop, apply_apply,
      List.take_append_drop]

/-- **Encrypting and decrypting undo each other.** An encrypted form has the counter and, behind it,
the salt and the text, each octet combined with the one at its place in the encrypted counters, which
are big-endian numbers and wrap around. It is two blocks longer than the text, which it is decrypted to
unless there is none. Octets are refused if they are two blocks or fewer; all others are the encrypted
form of what they are decrypted to, with the counter in front of them and the salt that they hold. -/
theorem encrypt_decrypt_inverse :
    (∀ n : Nat, Bytes.toNat (counterBlock n).toList = n % Bytes.count 16) ∧
    (∀ (counter salt : Block) (text : Bytes),
      (encrypt block counter salt text).length = 32 + text.length ∧
      (encrypt block counter salt text).take 16 = counter.toList ∧
      (∀ i : Nat, (encrypt block counter salt text)[16 + i]? = (salt.toList ++ text)[i]?.map fun x =>
        x ^^^ Aes.octetAt (block (counterBlock (Bytes.toNat counter.toList + i / 16))) i) ∧
      decrypt block (encrypt block counter salt text) =
        if text = [] then .error .decryption else .ok text) ∧
    ∀ data : Bytes,
      (decrypt block data = .error .decryption ↔ data.length ≤ 32) ∧
      (data.length ≤ 32 ∨ ∃ (counter salt : Block) (text : Bytes),
        counter.toList = data.take 16 ∧ salt.toList = saltOf block data ∧
        decrypt block data = .ok text ∧ encrypt block counter salt text = data) := by
  refine ⟨toNat_counterBlock, fun counter salt text => ?_,
    fun data => ⟨decrypt_eq_error_iff block data, ?_⟩⟩
  · have hcounter : counter.toList.length = 16 := Vector.length_toList
    have hlength : (encrypt block counter salt text).length = 32 + text.length := by
      rw [length_encrypt, ← Nat.add_assoc]
      rfl
    refine ⟨hlength, List.take_left' hcounter, fun i => ?_, ?_⟩
    · rw [encrypt, List.getElem?_append_right (by omega), hcounter, Nat.add_sub_cancel_left]
      exact getElem?_apply block _ _ i
    · split
      · rename_i hnone
        rw [decrypt_eq_error_iff, hlength, hnone]
        exact Nat.le_refl 32
      · rename_i hsome
        exact decrypt_encrypt block counter salt hsome
  · by_cases hshort : data.length ≤ 32
    · exact .inl hshort
    · have hdecrypt := decrypt_eq block data
      rw [if_neg hshort] at hdecrypt
      obtain ⟨counter, hcounter⟩ := exists_block (b := data.take blockSize) (by
        rw [List.length_take]
        simp only [blockSize]
        omega)
      obtain ⟨salt, hsalt⟩ := exists_block (b := saltOf block data) (by
        rw [saltOf, List.length_take, length_apply, List.length_drop]
        simp only [blockSize]
        omega)
      exact .inr ⟨counter, salt, _, hcounter, hsalt, hdecrypt,
        encrypt_decrypt block hcounter hsalt hdecrypt⟩

end WebSession.CounterMode
