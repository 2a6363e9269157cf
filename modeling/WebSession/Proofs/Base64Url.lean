import WebSession.Base64Url
import WebSession.Proofs.Bytes

/-!
# WebSession.Proofs.Base64Url

**Base 64 is canonical**: an octet string has exactly one text, and reading takes that text
alone (`decode_eq_some_iff`).

Both directions go three octets, or four characters, at a time. The accumulating loops are
first related to their own results from an empty start (`writeOnto_eq`, `readOnto_eq`), and
then one group is split off the front (`encode_group`, `decodeChars_group`).
-/

namespace WebSession.Base64Url

/-! ### Digits -/

/-- A six-bit number is read back from its character. -/
theorem digit?_digit {n : Nat} (h : n < 64) : digit? (digit n) = some n := by
  have all : ∀ n ∈ List.range 64, digit? (digit n) = some n := by decide
  exact all n (List.mem_range.mpr h)

/-- A character with a code between two others is found from its code. -/
theorem toNat_mem_of_le {a b c : Char} (h : a ≤ c ∧ c ≤ b) :
    a.toNat ≤ c.toNat ∧ c.toNat ≤ b.toNat :=
  ⟨UInt32.le_iff_toNat_le.mp h.1, UInt32.le_iff_toNat_le.mp h.2⟩

/-- Only the character of a number is read as that number. -/
theorem digit_of_digit? {c : Char} {n : Nat} (h : digit? c = some n) :
    n < 64 ∧ digit n = c := by
  unfold digit? at h
  -- the three ranges of the alphabet
  split at h
  · rename_i hc
    have hn := toNat_mem_of_le hc
    simp only [Char.reduceToNat, Option.some.injEq] at hn h
    refine ⟨by omega, ?_⟩
    rw [digit, if_pos (by omega), show 65 + n = c.toNat by omega, Char.ofNat_toNat]
  split at h
  · rename_i hc
    have hn := toNat_mem_of_le hc
    simp only [Char.reduceToNat, Option.some.injEq] at hn h
    refine ⟨by omega, ?_⟩
    rw [digit, if_neg (by omega), if_pos (by omega), show 71 + n = c.toNat by omega,
      Char.ofNat_toNat]
  split at h
  · rename_i hc
    have hn := toNat_mem_of_le hc
    simp only [Char.reduceToNat, Option.some.injEq] at hn h
    refine ⟨by omega, ?_⟩
    rw [digit, if_neg (by omega), if_neg (by omega), if_pos (by omega),
      show n - 4 = c.toNat by omega, Char.ofNat_toNat]
  -- its two single characters
  split at h
  · rename_i hc
    cases h
    exact ⟨by decide, hc.symm⟩
  split at h
  · rename_i hc
    cases h
    exact ⟨by decide, hc.symm⟩
  · cases h

/-! ### Groups -/

theorem writeOnto_eq : ∀ (b : Bytes) (done : List Char),
    writeOnto done b = writeOnto [] b ++ done
  | [], _ => rfl
  | [_], _ => rfl
  | [_, _], _ => rfl
  | a :: b :: c :: rest, done => by
      rw [writeOnto, writeOnto, writeOnto_eq rest, writeOnto_eq rest [_, _, _, _],
        List.append_assoc]
      rfl

theorem toList_encode (b : Bytes) : (encode b).toList = (writeOnto [] b).reverse := by
  rw [encode, String.toList_ofList]

/-- Three octets become four characters in front of those of the other octets. -/
theorem encode_group (a b c : UInt8) (rest : Bytes) :
    (encode (a :: b :: c :: rest)).toList =
      digit (a.toNat / 4) :: digit (a.toNat % 4 * 16 + b.toNat / 16)
        :: digit (b.toNat % 16 * 4 + c.toNat / 64) :: digit (c.toNat % 64)
        :: (encode rest).toList := by
  rw [toList_encode, toList_encode, writeOnto, writeOnto_eq rest, List.reverse_append]
  rfl

theorem readOnto_eq : ∀ (cs : List Char) (done : Bytes),
    readOnto done cs = (readOnto [] cs).map (· ++ done)
  | [], _ => rfl
  | [_], _ => rfl
  | [_, _], _ => by
      simp only [readOnto]
      repeat' split
      all_goals rfl
  | [_, _, _], _ => by
      simp only [readOnto]
      repeat' split
      all_goals rfl
  | c0 :: c1 :: c2 :: c3 :: rest, done => by
      simp only [readOnto]
      split
      · rw [readOnto_eq rest, readOnto_eq rest [_, _, _], Option.map_map]
        congr 1
        funext octets
        simp
      · rfl

/-- Four characters of the alphabet become three octets in front of those of the others. -/
theorem decodeChars_group {c0 c1 c2 c3 : Char} {d0 d1 d2 d3 : Nat} (rest : List Char)
    (h0 : digit? c0 = some d0) (h1 : digit? c1 = some d1) (h2 : digit? c2 = some d2)
    (h3 : digit? c3 = some d3) :
    decodeChars (c0 :: c1 :: c2 :: c3 :: rest) = (decodeChars rest).map fun b =>
      UInt8.ofNat (d0 * 4 + d1 / 16) :: UInt8.ofNat (d1 % 16 * 16 + d2 / 4)
        :: UInt8.ofNat (d2 % 4 * 64 + d3) :: b := by
  rw [decodeChars, decodeChars, readOnto, h0, h1, h2, h3]
  dsimp only
  rw [readOnto_eq rest, Option.map_map, Option.map_map]
  congr 1
  funext octets
  simp

/-! ### Reading what was written -/

theorem decodeChars_encode : ∀ b : Bytes, decodeChars (encode b).toList = some b
  | [] => rfl
  | [a] => by
      have ha := a.toNat_lt
      rw [toList_encode, decodeChars]
      simp only [writeOnto, List.reverse_cons, List.reverse_nil, List.nil_append,
        List.cons_append, readOnto]
      rw [digit?_digit (by omega), digit?_digit (by omega)]
      dsimp only
      rw [if_pos (by omega), Bytes.octet_eq (x := a) (by omega)]
      rfl
  | [a, b] => by
      have ha := a.toNat_lt
      have hb := b.toNat_lt
      rw [toList_encode, decodeChars]
      simp only [writeOnto, List.reverse_cons, List.reverse_nil, List.nil_append,
        List.cons_append, readOnto]
      rw [digit?_digit (by omega), digit?_digit (by omega), digit?_digit (by omega)]
      dsimp only
      rw [if_pos (by omega), Bytes.octet_eq (x := b) (by omega), Bytes.octet_eq (x := a) (by omega)]
      rfl
  | a :: b :: c :: rest => by
      have ha := a.toNat_lt
      have hb := b.toNat_lt
      have hc := c.toNat_lt
      rw [encode_group, decodeChars_group _ (digit?_digit (by omega)) (digit?_digit (by omega))
        (digit?_digit (by omega)) (digit?_digit (by omega)), decodeChars_encode rest,
        Option.map_some, Bytes.octet_eq (x := a) (by omega), Bytes.octet_eq (x := b) (by omega),
        Bytes.octet_eq (x := c) (by omega)]

/-- **An octet string is read back from its text.** -/
@[simp] theorem decode_encode (b : Bytes) : decode (encode b) = some b := decodeChars_encode b

/-- Different octet strings have different texts. -/
theorem encode_injective {a b : Bytes} (h : encode a = encode b) : a = b := by
  have := congrArg decode h
  simpa using this

/-- The text of any octets has two characters at least. -/
theorem two_le_length_toList_encode {b : Bytes} (h : b ≠ []) : 2 ≤ (encode b).toList.length := by
  match b, h with
  | [a], _ => simp [toList_encode, writeOnto]
  | [a, b], _ => simp [toList_encode, writeOnto]
  | a :: b :: c :: rest, _ => simp [encode_group]

/-! ### Writing what was read -/

/-- Four digits make three octets, each of which is made of two digits. -/
theorem octet_toNat_first {d0 d1 : Nat} (h0 : d0 < 64) (h1 : d1 < 64) :
    (UInt8.ofNat (d0 * 4 + d1 / 16)).toNat = d0 * 4 + d1 / 16 :=
  Bytes.octet_toNat (by omega)

theorem octet_toNat_second {d1 d2 : Nat} (h2 : d2 < 64) :
    (UInt8.ofNat (d1 % 16 * 16 + d2 / 4)).toNat = d1 % 16 * 16 + d2 / 4 :=
  Bytes.octet_toNat (by omega)

theorem octet_toNat_third {d2 d3 : Nat} (h3 : d3 < 64) :
    (UInt8.ofNat (d2 % 4 * 64 + d3)).toNat = d2 % 4 * 64 + d3 :=
  Bytes.octet_toNat (by omega)

/-- The text of octets that were read is the text that was read: spare bits and other spellings
are refused, so nothing but the written form is left. -/
theorem toList_encode_of_decodeChars : ∀ {cs : List Char} {b : Bytes},
    decodeChars cs = some b → (encode b).toList = cs
  | [], b, h => by
      cases h
      rfl
  | [_], _, h => by cases h
  | [c0, c1], b, h => by
      simp only [decodeChars, readOnto] at h
      split at h
      · rename_i d0 d1 h0 h1
        obtain ⟨hd0, rfl⟩ := digit_of_digit? h0
        obtain ⟨hd1, rfl⟩ := digit_of_digit? h1
        -- four spare bits, which have to be zero as they are written
        split at h
        · rename_i hspare
          cases h
          rw [toList_encode]
          simp only [List.reverse_cons, List.reverse_nil, List.nil_append, writeOnto,
            octet_toNat_first hd0 hd1, List.cons_append, List.cons.injEq, and_true]
          exact ⟨by congr 1; omega, by congr 1; omega⟩
        · cases h
      · cases h
  | [c0, c1, c2], b, h => by
      simp only [decodeChars, readOnto] at h
      split at h
      · rename_i d0 d1 d2 h0 h1 h2
        obtain ⟨hd0, rfl⟩ := digit_of_digit? h0
        obtain ⟨hd1, rfl⟩ := digit_of_digit? h1
        obtain ⟨hd2, rfl⟩ := digit_of_digit? h2
        -- two spare bits
        split at h
        · rename_i hspare
          cases h
          rw [toList_encode]
          simp only [List.reverse_cons, List.reverse_nil, List.nil_append, writeOnto,
            octet_toNat_first hd0 hd1, octet_toNat_second hd2, List.cons_append, List.cons.injEq,
            and_true]
          exact ⟨by congr 1; omega, by congr 1; omega, by congr 1; omega⟩
        · cases h
      · cases h
  | c0 :: c1 :: c2 :: c3 :: rest, b, h => by
      -- a whole group has no spare bits, and the induction is on what follows it
      cases h0 : digit? c0 with
      | none => simp [decodeChars, readOnto, h0] at h
      | some d0 =>
      cases h1 : digit? c1 with
      | none => simp [decodeChars, readOnto, h1] at h
      | some d1 =>
      cases h2 : digit? c2 with
      | none => simp [decodeChars, readOnto, h2] at h
      | some d2 =>
      cases h3 : digit? c3 with
      | none => simp [decodeChars, readOnto, h3] at h
      | some d3 =>
      rw [decodeChars_group rest h0 h1 h2 h3] at h
      obtain ⟨octets, hrest, rfl⟩ := Option.map_eq_some_iff.mp h
      obtain ⟨hd0, rfl⟩ := digit_of_digit? h0
      obtain ⟨hd1, rfl⟩ := digit_of_digit? h1
      obtain ⟨hd2, rfl⟩ := digit_of_digit? h2
      obtain ⟨hd3, rfl⟩ := digit_of_digit? h3
      rw [encode_group, toList_encode_of_decodeChars hrest, octet_toNat_first hd0 hd1,
        octet_toNat_second hd2, octet_toNat_third hd3]
      simp only [List.cons.injEq, and_true]
      exact ⟨by congr 1; omega, by congr 1; omega, by congr 1; omega, by congr 1; omega⟩

/-- **Canonicity.** A text is read as an octet string exactly if it is the text of that string. -/
theorem decode_eq_some_iff {text : String} {b : Bytes} :
    decode text = some b ↔ text = encode b := by
  constructor
  · intro h
    rw [← String.toList_inj, toList_encode_of_decodeChars h]
  · intro h
    rw [h]
    exact decode_encode b

/-! ### The alphabet -/

/-- Every character of a written text is in the alphabet. -/
theorem digit?_isSome_of_mem : ∀ {b : Bytes} {c : Char},
    c ∈ (encode b).toList → (digit? c).isSome
  | [], _, h => by cases h
  | [a], c, h => by
      have ha := a.toNat_lt
      simp only [toList_encode, writeOnto, List.mem_reverse, List.mem_cons, List.not_mem_nil,
        or_false] at h
      rcases h with rfl | rfl <;> rw [digit?_digit (by omega)] <;> rfl
  | [a, b], c, h => by
      have ha := a.toNat_lt
      have hb := b.toNat_lt
      simp only [toList_encode, writeOnto, List.mem_reverse, List.mem_cons, List.not_mem_nil,
        or_false] at h
      rcases h with rfl | rfl | rfl <;> rw [digit?_digit (by omega)] <;> rfl
  | a :: b :: c :: rest, _, h => by
      have ha := a.toNat_lt
      have hb := b.toNat_lt
      have hc := c.toNat_lt
      simp only [encode_group, List.mem_cons] at h
      rcases h with rfl | rfl | rfl | rfl | h
      · rw [digit?_digit (by omega)]; rfl
      · rw [digit?_digit (by omega)]; rfl
      · rw [digit?_digit (by omega)]; rfl
      · rw [digit?_digit (by omega)]; rfl
      · exact digit?_isSome_of_mem h

/-- Every character of a written text stands for a number. -/
theorem exists_digit_of_mem_encode {b : Bytes} {c : Char} (h : c ∈ (encode b).toList) :
    ∃ n ∈ List.range 64, digit n = c := by
  obtain ⟨n, hn⟩ := Option.isSome_iff_exists.mp (digit?_isSome_of_mem h)
  obtain ⟨hlt, hdigit⟩ := digit_of_digit? hn
  exact ⟨n, List.mem_range.mpr hlt, hdigit⟩

/-- Only letters, digits, hyphens and underscores are written. -/
theorem isAlphanum_of_mem_encode {b : Bytes} {c : Char} (h : c ∈ (encode b).toList) :
    c.isAlphanum = true ∨ c = '-' ∨ c = '_' := by
  have all : ∀ n ∈ List.range 64,
      (digit n).isAlphanum = true ∨ digit n = '-' ∨ digit n = '_' := by decide
  obtain ⟨n, hn, rfl⟩ := exists_digit_of_mem_encode h
  exact all n hn

/-- No bar is written. -/
theorem bar_not_mem_encode (b : Bytes) : '|' ∉ (encode b).toList := by
  intro h
  have := digit?_isSome_of_mem h
  exact absurd this (by decide)

end WebSession.Base64Url
