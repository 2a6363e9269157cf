import WebSession.Numeral

/-!
# WebSession.Proofs.Numeral

**A numeral is read back as its number** (`int?_text`), the least number of sixty-four bits
included, and no numeral holds a bar.
-/

namespace WebSession.Numeral

theorem ofDigits_toDigits (n : Nat) : ofDigits (Nat.toDigits 10 n) = n :=
  Nat.ofDigitChars_ten_toDigits

theorem isDigit_of_mem_toDigits {n : Nat} {c : Char} (h : c ∈ Nat.toDigits 10 n) :
    isDigit c = true := by
  have hc := Nat.isDigit_of_mem_toDigits (by decide) (by decide) h
  simp only [Char.isDigit, Bool.and_eq_true, decide_eq_true_eq] at hc
  simp only [isDigit, Bool.and_eq_true, decide_eq_true_eq]
  exact hc

theorem toList_text (n : Int) :
    (text n).toList = (if n < 0 then ['-'] else []) ++ Nat.toDigits 10 n.natAbs := by
  unfold text
  split
  · rw [String.toList_append, Nat.toList_repr]
    rfl
  · rw [Nat.toList_repr]
    rfl

/-- Digits behind a minus sign are the number below zero. -/
theorem int?_of_toList_minus {s : String} {cs : List Char} (h : s.toList = '-' :: cs)
    (hne : cs ≠ []) (hd : cs.all isDigit = true) : int? s = some (-(ofDigits cs : Int)) := by
  unfold int?
  rw [h]
  simp [hne, hd]

/-- Digits without a sign are their number. -/
theorem int?_of_toList_digits {s : String} {cs : List Char} (h : s.toList = cs)
    (hne : cs ≠ []) (hd : cs.all isDigit = true) : int? s = some (ofDigits cs : Int) := by
  obtain ⟨c, rest, rfl⟩ := List.exists_cons_of_ne_nil hne
  -- the first character is a digit, so it is taken for no sign
  have hc : isDigit c = true := List.all_eq_true.mp hd c List.mem_cons_self
  have hminus : c ≠ '-' := by
    rintro rfl
    exact absurd hc (by decide)
  have hplus : c ≠ '+' := by
    rintro rfl
    exact absurd hc (by decide)
  unfold int?
  rw [h]
  split
  rename_i negative digits hsign
  split at hsign
  · rename_i heq
    exact absurd (List.cons.inj heq).1 hminus
  · rename_i heq
    exact absurd (List.cons.inj heq).1 hplus
  · cases hsign
    simp [hd]

/-- **A numeral is read back as its number.** -/
theorem int?_text (n : Int) : int? (text n) = some n := by
  have hd : (Nat.toDigits 10 n.natAbs).all isDigit = true :=
    List.all_eq_true.mpr fun c hc => isDigit_of_mem_toDigits hc
  by_cases hn : n < 0
  · have h := toList_text n
    rw [if_pos hn, List.singleton_append] at h
    rw [int?_of_toList_minus h Nat.toDigits_ne_nil hd, ofDigits_toDigits]
    congr 1
    omega
  · have h := toList_text n
    rw [if_neg hn, List.nil_append] at h
    rw [int?_of_toList_digits h Nat.toDigits_ne_nil hd, ofDigits_toDigits]
    congr 1
    omega

/-- A number of sixty-four bits is read back from its numeral. -/
theorem int64?_text {n : Int} (h : Range.isInt64 n = true) : int64? (text n) = some n := by
  rw [int64?, int?_text, Option.filter_some, if_pos h]

/-- No numeral holds a bar. -/
theorem bar_not_mem_text (n : Int) : '|' ∉ (text n).toList := by
  rw [toList_text, List.mem_append]
  intro h
  rcases h with hsign | hdigit
  · split at hsign
    · exact absurd (List.mem_singleton.mp hsign) (by decide)
    · cases hsign
  · exact absurd (isDigit_of_mem_toDigits hdigit) (by decide)

end WebSession.Numeral
