import Mathlib.Data.List.TakeWhile
import WebSession.Proofs.Cookie

/-!
# WebSession.Proofs.Cookie.Setting

**The header that sets a cookie** has its name and value in front of the first semicolon, whatever
these are (`front_text`): once encoded they are tokens, in which nothing separates
(`isToken_of_mem_percentEncode`). It is a header if path and domain can stand in one
(`isHeaderText_text`).

The texts in base 64 need no encoding (`percentEncode_encode`).
-/

namespace WebSession.Cookie

/-! ### Names and values -/

/-- The characters of visible ASCII that separate tokens. -/
def separators : List Char := "()<>@,;:\\\"/[]?=\x7b\x7d".toList

/-- The characters of a token. -/
def isToken (c : Char) : Bool := '!' ≤ c && c ≤ '~' && !separators.contains c

theorem isToken_iff {c : Char} : isToken c = true ↔ '!' ≤ c ∧ c ≤ '~' ∧ c ∉ separators := by
  simp [isToken, and_assoc]

theorem isInert_of_isToken {c : Char} (h : isToken c = true) : isInert c = true := by
  obtain ⟨hlow, hhigh, hseparates⟩ := isToken_iff.mp h
  refine isInert_iff.mpr ⟨hlow, hhigh, ?_, ?_⟩
  · rintro rfl
    exact hseparates (by decide)
  · rintro rfl
    exact hseparates (by decide)

/-- What stands for itself separates nothing. -/
theorem isToken_of_isPlain {b : UInt8} (h : isPlain b = true) :
    isToken (Char.ofNat b.toNat) = true := by
  have encoded : separators.all (fun c => !isPlain (UInt8.ofNat c.toNat)) = true := by decide
  have hnat : (Char.ofNat b.toNat).val.toNat = b.toNat := Percent.toNat_ofNat_octet b
  have hbounds : 32 < b.toNat ∧ b.toNat < 127 := by
    rw [isPlain, Bool.and_eq_true, Bool.and_eq_true, decide_eq_true_eq, decide_eq_true_eq] at h
    exact ⟨UInt8.lt_iff_toNat_lt.mp h.1.1, UInt8.lt_iff_toNat_lt.mp h.1.2⟩
  refine isToken_iff.mpr ⟨UInt32.le_iff_toNat_le.mpr ?_, UInt32.le_iff_toNat_le.mpr ?_, fun hmem => ?_⟩
  · rw [hnat]
    exact hbounds.1
  · rw [hnat]
    exact Nat.le_of_lt_succ hbounds.2
  · have hencoded := List.all_eq_true.mp encoded _ hmem
    rw [Percent.toNat_ofNat_octet, UInt8.ofNat_toNat, h] at hencoded
    cases hencoded

/-- **What is encoded is a token.** -/
theorem isToken_of_mem_percentEncode {s : String} {c : Char} (h : c ∈ (percentEncode s).toList) :
    isToken c = true := by
  have digits : ∀ n ∈ List.range 16, isToken (Percent.digit n) = true := by decide
  rw [percentEncode, Percent.encode, String.toList_ofList, List.mem_flatMap] at h
  obtain ⟨b, -, hc⟩ := h
  have hb : b.toNat < 256 := b.toNat_lt
  rw [Percent.encodeOctet] at hc
  split at hc
  · rename_i hplain
    rw [List.mem_singleton.mp hc]
    exact isToken_of_isPlain hplain
  · simp only [List.mem_cons, List.not_mem_nil, or_false] at hc
    rcases hc with rfl | rfl | rfl
    · decide
    · exact digits _ (List.mem_range.mpr (by omega))
    · exact digits _ (List.mem_range.mpr (by omega))

theorem isInert_of_mem_percentEncode {s : String} {c : Char}
    (h : c ∈ (percentEncode s).toList) : isInert c = true :=
  isInert_of_isToken (isToken_of_mem_percentEncode h)

/-- A text in base 64 is encoded as itself. -/
theorem percentEncode_encode (b : Bytes) :
    percentEncode (Base64Url.encode b) = Base64Url.encode b := by
  have all : ∀ n ∈ List.range 64, (String.utf8EncodeChar (Base64Url.digit n)).flatMap
      (Percent.encodeOctet isPlain) = [Base64Url.digit n] := by decide
  have hplain : ∀ c ∈ (Base64Url.encode b).toList,
      (String.utf8EncodeChar c).flatMap (Percent.encodeOctet isPlain) = [c] := by
    intro c hc
    obtain ⟨n, hn, rfl⟩ := Base64Url.exists_digit_of_mem_encode hc
    exact all n hn
  rw [percentEncode, Percent.encode, Bytes.ofText_eq_flatMap, List.flatMap_assoc,
    List.flatMap_congr hplain, List.flatMap_singleton', String.ofList_toList]

/-! ### Headers -/

theorem isHeaderText_append (a b : String) :
    isHeaderText (a ++ b) = (isHeaderText a && isHeaderText b) := by
  simp [isHeaderText]

theorem isHeaderText_of_isInert {s : String} (h : ∀ c ∈ s.toList, isInert c = true) :
    isHeaderText s = true := by
  refine List.all_eq_true.mpr fun c hc => ?_
  obtain ⟨hlow, hhigh, -⟩ := isInert_iff.mp (h c hc)
  have hblank : ' ' ≤ c := Char.le_trans (by decide) hlow
  have hdelete : c ≠ '\x7f' := by
    rintro rfl
    exact absurd hhigh (by decide)
  simp [hblank, hdelete]

theorem isHeaderText_percentEncode (s : String) : isHeaderText (percentEncode s) = true :=
  isHeaderText_of_isInert fun _ => isInert_of_mem_percentEncode

theorem isHeaderText_repr (n : Nat) : isHeaderText (Nat.repr n) = true := by
  refine List.all_eq_true.mpr fun c hc => ?_
  rw [Nat.toList_repr] at hc
  have hdigit := Nat.isDigit_of_mem_toDigits (by decide) (by decide) hc
  simp only [Char.isDigit, Bool.and_eq_true, decide_eq_true_eq] at hdigit
  have hblank : ' ' ≤ c := Char.le_trans (by decide : ' ' ≤ '0') hdigit.1
  have hdelete : c ≠ '\x7f' := by
    rintro rfl
    exact absurd hdigit.2 (by decide)
  simp [hblank, hdelete]

theorem isHeaderText_intercalate {l : List String} (h : ∀ s ∈ l, isHeaderText s = true) :
    isHeaderText ("; ".intercalate l) = true :=
  List.all_eq_true.mpr (forall_mem_intercalate (by decide) (by decide) fun s hs =>
    List.all_eq_true.mp (h s hs))

theorem isHeaderText_of_mem_attributes {c : Cookie} {part : String}
    (hpath : ∀ p, c.path = some p → isHeaderText p = true)
    (hdomain : ∀ d, c.bareDomain? = some d → isHeaderText d = true) (h : part ∈ c.attributes) :
    isHeaderText part = true := by
  simp only [attributes, List.mem_append, Option.mem_toList, Option.map_eq_some_iff,
    List.mem_ite_nil_right, List.mem_singleton] at h
  rcases h with (((⟨-, rfl⟩ | ⟨-, rfl⟩) | ⟨p, hp, rfl⟩) | ⟨d, hd, rfl⟩) | ⟨n, -, rfl⟩
  · decide
  · decide
  · rw [isHeaderText_append, hpath p hp]
    decide
  · rw [isHeaderText_append, hdomain d hd]
    decide
  · rw [isHeaderText_append, isHeaderText_repr]
    decide

/-- Without the dot that leads it a domain still can stand in a header. -/
theorem isHeaderText_bareDomain? {name value domain : String} {config : SessionConfig}
    (h : isHeaderText config.domain = true)
    (hbare : (ofSession name value config).bareDomain? = some domain) :
    isHeaderText domain = true := by
  simp only [bareDomain?, ofSession, Option.map_eq_some_iff] at hbare
  obtain ⟨d, hd, rfl⟩ := hbare
  split at hd
  · cases hd
  · cases hd
    split
    · rename_i cs hdot
      rw [isHeaderText, hdot] at h
      rw [isHeaderText, String.toList_ofList]
      exact (Bool.and_eq_true_iff.mp h).2
    · exact h

/-- **The header of a session cookie** can be sent if path and domain can stand in a header. -/
theorem isHeaderText_text {config : SessionConfig} (hpath : isHeaderText config.path = true)
    (hdomain : isHeaderText config.domain = true) (name value : String) :
    isHeaderText (ofSession name value config).text = true := by
  refine isHeaderText_intercalate fun part hpart => ?_
  rcases List.mem_cons.mp hpart with rfl | hpart
  · rw [isHeaderText_append, isHeaderText_append, isHeaderText_percentEncode,
      isHeaderText_percentEncode]
    decide
  · refine isHeaderText_of_mem_attributes ?_ ?_ hpart
    · intro p hp
      cases hp
      exact hpath
    · intro d hd
      exact isHeaderText_bareDomain? hdomain hd

/-- Whether there is such a header is not a matter of the value. -/
theorem isHeaderText_text_congr (name value value' : String) (config : SessionConfig) :
    isHeaderText (ofSession name value config).text =
      isHeaderText (ofSession name value' config).text := by
  have hsame : (ofSession name value config).attributes = (ofSession name value' config).attributes :=
    rfl
  rw [text, text, ← hsame]
  cases (ofSession name value config).attributes with
  | nil =>
      simp only [String.intercalate_singleton, isHeaderText_append, ofSession,
        isHeaderText_percentEncode]
  | cons first more =>
      simp only [String.intercalate_cons_cons, isHeaderText_append, ofSession,
        isHeaderText_percentEncode]

/-! ### What stands in front -/

/-- What stands in a header in front of its first semicolon. -/
def front (header : String) : String := String.ofList (header.toList.takeWhile (· ≠ ';'))

/-- The name and value of a cookie as they are sent. -/
def part (name value : String) : String := percentEncode name ++ "=" ++ percentEncode value

theorem toList_part (name value : String) :
    (part name value).toList = (percentEncode name).toList ++ '=' :: (percentEncode value).toList := by
  simp [part]

/-- The characters of such a part. -/
theorem mem_part {name value : String} {c : Char} (h : c ∈ (part name value).toList) :
    isInert c = true ∨ c = '=' := by
  rw [toList_part, List.mem_append, List.mem_cons] at h
  rcases h with h | h | h
  · exact Or.inl (isInert_of_mem_percentEncode h)
  · exact Or.inr h
  · exact Or.inl (isInert_of_mem_percentEncode h)

theorem semicolon_not_mem_part {name value : String} {c : Char} (h : c ∈ (part name value).toList) :
    c ≠ ';' := by
  rcases mem_part h with hinert | rfl
  · exact (isInert_iff.mp hinert).2.2.1
  · decide

/-- **No name or value ends early** in the header that sets a cookie. -/
theorem front_text (c : Cookie) : front c.text = part c.name c.value := by
  have hpart : ∀ d ∈ (part c.name c.value).toList, decide (d ≠ ';') = true := fun d hd =>
    decide_eq_true (semicolon_not_mem_part hd)
  have htext : c.text = "; ".intercalate (part c.name c.value :: c.attributes) := rfl
  rw [htext, front]
  cases c.attributes with
  | nil => rw [String.intercalate_singleton, List.takeWhile_eq_self_iff.mpr hpart,
      String.ofList_toList]
  | cons first more =>
      rw [String.intercalate_cons_cons, String.append_assoc, String.toList_append,
        List.takeWhile_append_of_pos hpart]
      simp

end WebSession.Cookie
