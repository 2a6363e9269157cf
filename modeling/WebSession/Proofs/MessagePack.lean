import Mathlib.Tactic.SplitIfs
import WebSession.MessagePack
import WebSession.Proofs.Bytes

/-!
# WebSession.Proofs.MessagePack

**Heads, texts and repetitions are read back as they were written**, whatever follows them
(`Head.read?_write`, `readText?_write`, `readMany_flatMap`).

A head can be written if its number fits the octets that the format has for it
(`Head.Fits`): a length those of thirty-two bits, a whole number those of sixty-four.
-/

namespace WebSession.MessagePack

/-- The lengths that a head can tell: those of thirty-two bits. -/
def lengthBound : Nat := 0x100000000

theorem lengthBound_pos : 0 < lengthBound := by decide

theorem length_of_split? {n : Nat} {b : Bytes} {parts : Bytes × Bytes}
    (h : split? n b = some parts) : parts.1.length = n := by
  simp only [split?] at h
  split at h
  · rename_i hlen
    cases h
    exact hlen
  · cases h

namespace Head

/-- The format has a form for the head. -/
def Fits : Head → Prop
  | .nil | .bool _ => True
  | .unsigned n | .float64 n => n < 0x10000000000000000
  | .signed n => -0x8000000000000000 ≤ n ∧ n < 0
  | .float32 n | .str n | .bin n | .array n | .map n => n < lengthBound

/-! ### Numbers behind a marker -/

/-- A number that fits its octets is read from them. -/
theorem sized_bigEndian {width n : Nat} (make : Nat → Head) (t : Bytes)
    (h : n < Bytes.count width) :
    sized width (make ·.toNat) (Bytes.bigEndian width n ++ t) = some (make n, t) := by
  have hsplit := split?_append (Bytes.bigEndian width n) t
  rw [Bytes.length_bigEndian] at hsplit
  rw [sized, hsplit, Option.map_some, Bytes.toNat_bigEndian, Nat.mod_eq_of_lt h]

/-- The two's complement of a number of so many octets is that of the number alone. -/
theorem signedOf_signedOctets {width : Nat} {n : Int} (hlo : -(Bytes.count width : Int) ≤ 2 * n)
    (hhi : 2 * n < Bytes.count width) : signedOf (signedOctets width n) = n := by
  have hpos : 0 < Bytes.count width := by
    rw [Bytes.count, Nat.one_shiftLeft]
    exact Nat.two_pow_pos _
  have hmod : 0 ≤ n.emod (Bytes.count width) := Int.emod_nonneg _ (by omega)
  have hlt : n.emod (Bytes.count width) < Bytes.count width := Int.emod_lt_of_pos _ (by omega)
  rw [signedOf, signedOctets, Bytes.length_bigEndian, Bytes.toNat_bigEndian,
    Nat.mod_eq_of_lt (by omega), Int.toNat_of_nonneg hmod]
  show Int.bmod (n % _) _ = n
  rw [Int.emod_bmod, Int.bmod_eq_of_le_mul_two (by omega) (by omega)]

theorem sized_signedOctets {width : Nat} {n : Int} (t : Bytes)
    (hlo : -(Bytes.count width : Int) ≤ 2 * n) (hhi : 2 * n < Bytes.count width) :
    sized width (.signed <| signedOf ·) (signedOctets width n ++ t) = some (.signed n, t) := by
  have hsplit := split?_append (signedOctets width n) t
  rw [show (signedOctets width n).length = width from Bytes.length_bigEndian ..] at hsplit
  rw [sized, hsplit, Option.map_some, signedOf_signedOctets hlo hhi]

/-! ### Markers -/

/-- The marker of a small number, a short text, list or map. -/
theorem read?_marker {m : Nat} (t : Bytes) (h : m < 0xc0) :
    read? (UInt8.ofNat m :: t) = some
      (if m < 0x80 then .unsigned m
       else if m < 0x90 then .map (m - 0x80)
       else if m < 0xa0 then .array (m - 0x90)
       else .str (m - 0xa0), t) := by
  have hm : (UInt8.ofNat m).toNat = m := Bytes.octet_toNat (by omega)
  unfold read?
  simp only [hm]
  split_ifs <;> rfl

/-- The marker of a small negative number. -/
theorem read?_negative {n : Int} (t : Bytes) (hlo : -0x20 ≤ n) (hhi : n < 0) :
    read? (signedOctets 1 n ++ t) = some (.signed n, t) := by
  have hoctets : signedOctets 1 n = [UInt8.ofNat (n + 0x100).toNat] := by
    have hmod : n.emod (Bytes.count 1) = n + 0x100 := by
      show n % 256 = _
      omega
    rw [signedOctets, hmod]
    rfl
  have hm : (UInt8.ofNat (n + 0x100).toNat).toNat = (n + 0x100).toNat :=
    Bytes.octet_toNat (by omega)
  rw [hoctets, List.singleton_append]
  -- the marker is at least 0xe0, behind all other short forms
  unfold read?
  simp only [hm]
  rw [if_neg (by omega), if_neg (by omega), if_neg (by omega), if_neg (by omega),
    if_pos (by omega)]
  congr 3
  omega

/-- **A head is read back as it was written**, whatever follows it. -/
theorem read?_write {head : Head} (h : head.Fits) (t : Bytes) :
    read? (head.write ++ t) = some (head, t) := by
  cases head with
  | nil => rfl
  | bool b => cases b <;> rfl
  | unsigned n =>
      -- the marker is the number itself, or it tells in how many octets the number follows
      simp only [Fits] at h
      simp only [write]
      split_ifs with h1 h2 h3 h4
      · rw [List.singleton_append, read?_marker t (by omega), if_pos h1]
      · exact sized_bigEndian .unsigned t h2
      · exact sized_bigEndian .unsigned t h3
      · exact sized_bigEndian .unsigned t h4
      · exact sized_bigEndian .unsigned t h
  | signed n =>
      -- numbers from -32 on are markers, and others follow in two's complement
      obtain ⟨hlo, hhi⟩ : -0x8000000000000000 ≤ n ∧ n < 0 := h
      simp only [write]
      split_ifs with h1 h2 h3 h4
      · exact read?_negative t h1 hhi
      · exact sized_signedOctets t (by show -(256 : Int) ≤ _; omega)
          (by show _ < (256 : Int); omega)
      · exact sized_signedOctets t (by show -(65536 : Int) ≤ _; omega)
          (by show _ < (65536 : Int); omega)
      · exact sized_signedOctets t (by show -(4294967296 : Int) ≤ _; omega)
          (by show _ < (4294967296 : Int); omega)
      · exact sized_signedOctets t (by show -(18446744073709551616 : Int) ≤ _; omega)
          (by show _ < (18446744073709551616 : Int); omega)
  | float32 n => exact sized_bigEndian .float32 t h
  | float64 n => exact sized_bigEndian .float64 t h
  | str n =>
      simp only [write]
      split_ifs with h1 h2 h3
      · -- a short length is part of the marker
        rw [List.singleton_append, read?_marker t (by omega), if_neg (by omega),
          if_neg (by omega), if_neg (by omega), Nat.add_sub_cancel_left]
      · exact sized_bigEndian .str t h2
      · exact sized_bigEndian .str t h3
      · exact sized_bigEndian .str t h
  | bin n =>
      simp only [write]
      split_ifs with h1 h2
      · exact sized_bigEndian .bin t h1
      · exact sized_bigEndian .bin t h2
      · exact sized_bigEndian .bin t h
  | array n =>
      simp only [write]
      split_ifs with h1 h2
      · rw [List.singleton_append, read?_marker t (by omega), if_neg (by omega),
          if_neg (by omega), if_pos (by omega), Nat.add_sub_cancel_left]
      · exact sized_bigEndian .array t h2
      · exact sized_bigEndian .array t h
  | map n =>
      simp only [write]
      split_ifs with h1 h2
      · rw [List.singleton_append, read?_marker t (by omega), if_neg (by omega),
          if_pos (by omega), Nat.add_sub_cancel_left]
      · exact sized_bigEndian .map t h2
      · exact sized_bigEndian .map t h

/-! ### Lengths that are read -/

/-- The length that a head announces. -/
def length? : Head → Option Nat
  | .str n | .bin n | .array n | .map n => some n
  | _ => none

theorem sized_inv {width : Nat} {make : Bytes → Head} {b t : Bytes} {head : Head}
    (h : sized width make b = some (head, t)) :
    ∃ octets : Bytes, octets.length = width ∧ head = make octets := by
  obtain ⟨parts, hsplit, hhead⟩ := Option.map_eq_some_iff.mp h
  cases hhead
  exact ⟨parts.1, length_of_split? hsplit, rfl⟩

/-- The number of at most four octets is a length. -/
theorem toNat_lt_lengthBound {b : Bytes} {width : Nat} (h : b.length = width)
    (hw : width ≤ 4) : b.toNat < lengthBound := by
  have hlt := Bytes.toNat_lt_count b
  have hle : Bytes.count b.length ≤ Bytes.count 4 := by
    rw [Bytes.count, Bytes.count, Nat.one_shiftLeft, Nat.one_shiftLeft]
    exact Nat.pow_le_pow_right (by decide) (by omega)
  exact Nat.lt_of_lt_of_le hlt hle

/-- A head that a number of at most four octets completes announces no length beyond the
bound, if it announces that number. -/
theorem length_lt_of_sized {width : Nat} {make : Nat → Head} {b t : Bytes} {head : Head} {n : Nat}
    (h : sized width (make ·.toNat) b = some (head, t)) (hn : head.length? = some n)
    (hmake : ∀ m, (make m).length? = some m) (hw : width ≤ 4) : n < lengthBound := by
  obtain ⟨octets, hlen, rfl⟩ := sized_inv h
  rw [hmake, Option.some.injEq] at hn
  exact hn ▸ toNat_lt_lengthBound hlen hw

/-- A head that announces nothing is completed. -/
theorem length?_of_sized {width : Nat} {make : Bytes → Head} {b t : Bytes} {head : Head}
    (h : sized width make b = some (head, t)) (hmake : ∀ octets, (make octets).length? = none) :
    head.length? = none := by
  obtain ⟨octets, -, rfl⟩ := sized_inv h
  exact hmake octets

/-- No length that is read is beyond the bound. -/
theorem length_lt_of_read? {b t : Bytes} {head : Head} {n : Nat}
    (h : read? b = some (head, t)) (hn : head.length? = some n) : n < lengthBound := by
  have hne : head.length? ≠ none := by
    rw [hn]
    exact Option.some_ne_none n
  cases b with
  | nil => cases h
  | cons marker rest =>
      have hm := marker.toNat_lt
      have hbound : lengthBound = 0x100000000 := rfl
      unfold read? at h
      simp only at h
      split_ifs at h
      · cases h
        cases hn
      · cases h
        simp only [length?, Option.some.injEq] at hn
        omega
      · cases h
        simp only [length?, Option.some.injEq] at hn
        omega
      · cases h
        simp only [length?, Option.some.injEq] at hn
        omega
      · cases h
        cases hn
      -- lengths have at most four octets behind their markers, numbers announce nothing
      split at h
      any_goals exact length_lt_of_sized h hn (fun _ => rfl) (by decide)
      any_goals exact absurd (length?_of_sized h fun _ => rfl) hne
      all_goals cases h
      all_goals cases hn

end Head

/-! ### Texts and repetitions -/

theorem textAfter?_ofText (s : String) (t : Bytes) :
    textAfter? (.str (Bytes.ofText s).length) (Bytes.ofText s ++ t) = some (s, t) := by
  simp [textAfter?, Head.textLength?]

/-- **A text is read back as it was written**, whatever follows it. -/
theorem readText?_write {s : String} (h : s.utf8ByteSize < lengthBound) (t : Bytes) :
    readText? (writeText s ++ t) = some (s, t) := by
  have hfits : (Head.str (Bytes.ofText s).length).Fits := by
    rw [Bytes.length_ofText]
    exact h
  rw [readText?, writeText, List.append_assoc, Head.read?_write hfits]
  exact textAfter?_ofText s t

/-- Items are read back in order, if every one of them is. -/
theorem readMany_flatMap {α : Type} {read : Bytes → Option (α × Bytes)} {write : α → Bytes}
    {items : List α} (h : ∀ x ∈ items, ∀ t, read (write x ++ t) = some (x, t)) (t : Bytes) :
    readMany read items.length [] (items.flatMap write ++ t) = some (items, t) := by
  -- reading accumulates, so the induction is for every list of items read before
  suffices hdone : ∀ done, readMany read items.length done (items.flatMap write ++ t) =
      some (done.reverse ++ items, t) from hdone []
  induction items with
  | nil =>
      intro done
      rw [List.append_nil]
      rfl
  | cons x rest ih =>
      intro done
      rw [List.flatMap_cons, List.append_assoc, List.length_cons, readMany,
        h x List.mem_cons_self]
      dsimp only
      rw [ih (fun y hy => h y (List.mem_cons_of_mem x hy)), List.reverse_cons, List.append_assoc]
      rfl

/-- Reading stops at an item that cannot be read, if all others can. -/
theorem readMany_flatMap_eq_none {α : Type} {read : Bytes → Option (α × Bytes)}
    {write : α → Bytes} {items : List α}
    (h : ∀ x ∈ items, (∀ t, read (write x ++ t) = some (x, t)) ∨ ∀ t, read (write x ++ t) = none)
    (hnone : ∃ x ∈ items, ∀ t, read (write x ++ t) = none) (done : List α) (t : Bytes) :
    readMany read items.length done (items.flatMap write ++ t) = none := by
  induction items generalizing done with
  | nil =>
      obtain ⟨x, hx, -⟩ := hnone
      cases hx
  | cons x rest ih =>
      rw [List.flatMap_cons, List.append_assoc, List.length_cons, readMany]
      rcases h x List.mem_cons_self with hread | hread
      -- the item that stops reading is a later one, since it is not both read and not read
      · rw [hread]
        obtain ⟨y, hy, hstop⟩ := hnone
        rcases List.mem_cons.mp hy with rfl | hy
        · have := (hread []).symm.trans (hstop [])
          cases this
        · exact ih (fun z hz => h z (List.mem_cons_of_mem x hz)) ⟨y, hy, hstop⟩ _
      · rw [hread]

/-- All that was read has what every item that is read has, and there is enough of it. -/
theorem readMany_inv {α : Type} {P : α → Prop} {read : Bytes → Option (α × Bytes)}
    (hread : ∀ {b x t}, read b = some (x, t) → P x) {n : Nat} {done xs : List α} {b t : Bytes}
    (h : readMany read n done b = some (xs, t)) :
    xs.length = done.length + n ∧ ((∀ x ∈ done, P x) → ∀ x ∈ xs, P x) := by
  induction n generalizing done b with
  | zero =>
      cases h
      simp
  | succ n ih =>
      rw [readMany] at h
      split at h
      · rename_i x rest hx
        obtain ⟨hlen, hall⟩ := ih h
        refine ⟨by rw [hlen, List.length_cons]; omega, fun hdone => hall ?_⟩
        rw [List.forall_mem_cons]
        exact ⟨hread hx, hdone⟩
      · cases h

theorem readMany_nil_inv {α : Type} {P : α → Prop} {read : Bytes → Option (α × Bytes)}
    (hread : ∀ {b x t}, read b = some (x, t) → P x) {n : Nat} {xs : List α} {b t : Bytes}
    (h : readMany read n [] b = some (xs, t)) : xs.length = n ∧ ∀ x ∈ xs, P x := by
  obtain ⟨hlen, hall⟩ := readMany_inv hread h
  rw [List.length_nil, Nat.zero_add] at hlen
  exact ⟨hlen, hall (List.forall_mem_nil _)⟩

end WebSession.MessagePack
