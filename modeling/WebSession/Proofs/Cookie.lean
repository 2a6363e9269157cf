import Mathlib.Data.List.Basic
import Mathlib.Data.List.TakeDrop
import WebSession.Cookie.Jar
import WebSession.Proofs.Base64Url
import WebSession.Proofs.Fields
import WebSession.Proofs.Percent

/-!
# WebSession.Proofs.Cookie

**A header of cookies is read part by part** (`parseHeader_intercalate`): where no part holds the
semicolon, the parts joined by semicolons are read as each of them is alone.

A part with one equals sign and no blanks is read as what both sides of the sign decode to
(`pair?_of_inert`). Bare texts decode to themselves, so that a bare cookie is read as it stands
(`parseHeader_bare`). The texts that encoders make are bare (`isBare_of_mem_encode`).
-/

namespace WebSession

namespace Cookie

/-! ### Texts without a meaning in a header -/

/-- The characters at which no name or value ends. -/
def isInert (c : Char) : Bool := '!' ≤ c && c ≤ '~' && c ≠ ';' && c ≠ '='

theorem isInert_iff {c : Char} : isInert c = true ↔ '!' ≤ c ∧ c ≤ '~' ∧ c ≠ ';' ∧ c ≠ '=' := by
  simp [isInert, and_assoc]

theorem isVisible_of_isInert {c : Char} (h : isInert c = true) : isVisible c = true := by
  obtain ⟨hlow, hhigh, -⟩ := isInert_iff.mp h
  have hblank : ' ' ≤ c := Char.le_trans (by decide) hlow
  simp [isVisible, hblank, hhigh]

theorem not_isBlank {c : Char} (h : isInert c = true) : isBlank c = false := by
  obtain ⟨hlow, -⟩ := isInert_iff.mp h
  have hblank : c ≠ ' ' := by
    rintro rfl
    exact absurd hlow (by decide)
  have htab : c ≠ '\t' := by
    rintro rfl
    exact absurd hlow (by decide)
  simp [isBlank, hblank, htab]

section

variable {cs vs : List Char}

theorem dropWhile_isBlank (h : ∀ c ∈ cs, isInert c = true) : cs.dropWhile isBlank = cs := by
  cases cs with
  | nil => rfl
  | cons c rest =>
      rw [List.dropWhile_cons, not_isBlank (h c List.mem_cons_self)]
      rfl

/-- There are no blanks to drop. -/
theorem trim_of_inert (h : ∀ c ∈ cs, isInert c = true) : trim cs = cs := by
  have hreverse : ∀ c ∈ cs.reverse, isInert c = true := fun c hc => h c (List.mem_reverse.mp hc)
  rw [trim, dropWhile_isBlank h, dropWhile_isBlank hreverse, List.reverse_reverse]

/-- An inert name ends at the equals sign. -/
theorem span_of_inert (h : ∀ c ∈ cs, isInert c = true) (rest : List Char) :
    (cs ++ '=' :: rest).span (· ≠ '=') = (cs, '=' :: rest) := by
  have hall : ∀ c ∈ cs, decide (c ≠ '=') = true := fun c hc =>
    decide_eq_true (isInert_iff.mp (h c hc)).2.2.2
  rw [List.span_eq_takeWhile_dropWhile, List.takeWhile_append_of_pos hall,
    List.dropWhile_append_of_pos hall]
  simp

/-- **A part** is read as what stands on both sides of its equals sign. -/
theorem pair?_of_inert (hname : ∀ c ∈ cs, isInert c = true) (hne : cs ≠ [])
    (hvalue : ∀ c ∈ vs, isInert c = true) {name value : String}
    (hdecodedName : decoded? cs = some name) (hdecodedValue : decoded? vs = some value) :
    pair? (cs ++ '=' :: vs) = some (name, value) := by
  have hempty : cs.isEmpty = false := List.isEmpty_eq_false_iff.mpr hne
  rw [pair?, span_of_inert hname]
  simp only [trim_of_inert hname, trim_of_inert hvalue, hempty, hdecodedName, hdecodedValue]
  rfl

/-- A blank in front of a part makes no difference. -/
theorem pair?_blank (part : List Char) : pair? (' ' :: part) = pair? part := by
  have htrim : ∀ cs, trim (' ' :: cs) = trim cs := fun cs => rfl
  have hspan : (' ' :: part).span (· ≠ '=') =
      (' ' :: (part.span (· ≠ '=')).1, (part.span (· ≠ '=')).2) := by
    rw [List.span_eq_takeWhile_dropWhile, List.span_eq_takeWhile_dropWhile]
    rfl
  rw [pair?, pair?, hspan]
  cases part.span (· ≠ '=') with
  | mk name rest =>
      cases rest with
      | nil => rfl
      | cons c value => simp only [htrim]

end

/-! ### Parts -/

/-- What holds of the characters of all parts and of those between them holds of the whole. -/
theorem forall_mem_intercalate {good : Char → Prop} (hsemicolon : good ';') (hblank : good ' ')
    {parts : List String} (h : ∀ part ∈ parts, ∀ c ∈ part.toList, good c) :
    ∀ c ∈ ("; ".intercalate parts).toList, good c := by
  induction parts with
  | nil => simp
  | cons part more ih =>
      have hmore := ih fun part hpart => h part (List.mem_cons_of_mem _ hpart)
      cases more with
      | nil =>
          rw [String.intercalate_singleton]
          exact h part List.mem_cons_self
      | cons next more =>
          intro c hc
          rw [String.intercalate_cons_cons, String.toList_append, String.toList_append,
            List.mem_append, List.mem_append] at hc
          rcases hc with (hc | hc) | hc
          · exact h part List.mem_cons_self c hc
          · rcases (by simpa using hc : c = ';' ∨ c = ' ') with rfl | rfl
            · exact hsemicolon
            · exact hblank
          · exact hmore c hc

/-- Without a semicolon in them, the parts are found again. -/
theorem filterMap_splitParts_intercalate {parts : List String}
    (h : ∀ part ∈ parts, ∀ c ∈ part.toList, c ≠ ';') :
    (splitParts ("; ".intercalate parts).toList).filterMap pair? =
      parts.filterMap fun part => pair? part.toList := by
  induction parts with
  | nil => rfl
  | cons part more ih =>
      have hpart : ∀ c ∈ part.toList, decide (c = ';') = false := fun c hc =>
        decide_eq_false (h part List.mem_cons_self c hc)
      have hmore := ih fun part hpart => h part (List.mem_cons_of_mem _ hpart)
      cases more with
      | nil => rw [String.intercalate_singleton, splitParts, List.splitOnP_eq_singleton hpart,
          List.filterMap_cons, List.filterMap_nil, List.filterMap_cons, List.filterMap_nil]
      | cons next more =>
          -- the blank that stands between two parts is put in front of the second
          have hlist : ("; ".intercalate (part :: next :: more)).toList =
              part.toList ++ ';' :: ' ' :: ("; ".intercalate (next :: more)).toList := by
            rw [String.intercalate_cons_cons]
            simp
          have hhead : ∀ l : List (List Char),
              (l.modifyHead (List.cons ' ')).filterMap pair? = l.filterMap pair? := by
            intro l
            cases l with
            | nil => rfl
            | cons first rest =>
                rw [List.modifyHead_cons, List.filterMap_cons, List.filterMap_cons, pair?_blank]
          rw [hlist, splitParts, List.splitOnP_append_cons_of_forall_mem hpart _ (by decide),
            List.splitOnP_cons_eq_if_modifyHead, if_neg (by decide), List.filterMap_cons, hhead,
            List.filterMap_cons]
          rw [splitParts] at hmore
          rw [hmore]

/-- **A header is read part by part.** -/
theorem parseHeader_intercalate {parts : List String}
    (hvisible : ∀ part ∈ parts, ∀ c ∈ part.toList, isVisible c = true)
    (hsplit : ∀ part ∈ parts, ∀ c ∈ part.toList, c ≠ ';') :
    parseHeader ("; ".intercalate parts) = parts.filterMap fun part => pair? part.toList := by
  have hall : ("; ".intercalate parts).toList.all isVisible = true :=
    List.all_eq_true.mpr (forall_mem_intercalate (by decide) (by decide) hvisible)
  rw [parseHeader, if_pos hall, filterMap_splitParts_intercalate hsplit]

/-! ### Bare texts -/

/-- The characters that stand for themselves everywhere in a header. -/
def isBare (c : Char) : Bool :=
  '!' ≤ c && c ≤ '~' && c ≠ ';' && c ≠ '=' && c ≠ '%'

theorem isBare_iff {c : Char} :
    isBare c = true ↔ '!' ≤ c ∧ c ≤ '~' ∧ c ≠ ';' ∧ c ≠ '=' ∧ c ≠ '%' := by
  simp [isBare, and_assoc]

theorem isInert_of_isBare {c : Char} (h : isBare c = true) : isInert c = true := by
  obtain ⟨hlow, hhigh, hsemicolon, hequals, -⟩ := isBare_iff.mp h
  exact isInert_iff.mpr ⟨hlow, hhigh, hsemicolon, hequals⟩

variable {cs : List Char}

theorem percent_not_mem (h : ∀ c ∈ cs, isBare c = true) :
    0x25 ∉ Bytes.ofText (String.ofList cs) := by
  rw [Bytes.ofText_eq_flatMap, String.toList_ofList, List.mem_flatMap]
  intro hcode
  obtain ⟨c, hc, hmem⟩ := hcode
  obtain ⟨-, hhigh, -, -, hpercent⟩ := isBare_iff.mp (h c hc)
  have hsize : c.utf8Size = 1 := Char.utf8Size_eq_one_iff.mpr
    (UInt32.le_trans hhigh (by decide))
  rw [String.utf8EncodeChar_eq_singleton hsize, List.mem_singleton] at hmem
  have hle : c.toNat ≤ 126 := UInt32.le_iff_toNat_le.mp hhigh
  have hoctet : 37 = c.toNat % 256 := congrArg UInt8.toNat hmem
  refine hpercent ?_
  rw [← Char.ofNat_toNat c, show c.toNat = 37 by omega]

/-- Bare characters are the text of themselves. -/
theorem decoded?_bare (h : ∀ c ∈ cs, isBare c = true) : decoded? cs = some (String.ofList cs) := by
  rw [decoded?, Percent.decode_of_not_mem (percent_not_mem h), Bytes.text?_ofText]

variable {name value : String}

theorem pair?_bare (hname : ∀ c ∈ name.toList, isBare c = true) (hne : name ≠ "")
    (hvalue : ∀ c ∈ value.toList, isBare c = true) :
    pair? (name.toList ++ '=' :: value.toList) = some (name, value) := by
  refine pair?_of_inert (fun c hc => isInert_of_isBare (hname c hc)) (by simpa using hne)
    (fun c hc => isInert_of_isBare (hvalue c hc)) ?_ ?_
  · rw [decoded?_bare hname, String.ofList_toList]
  · rw [decoded?_bare hvalue, String.ofList_toList]

/-- **A bare cookie is read as it stands.** -/
theorem parseHeader_bare (hname : ∀ c ∈ name.toList, isBare c = true) (hne : name ≠ "")
    (hvalue : ∀ c ∈ value.toList, isBare c = true) :
    parseHeader (name ++ "=" ++ value) = [(name, value)] := by
  have hlist : (name ++ "=" ++ value).toList = name.toList ++ '=' :: value.toList := by simp
  have hmem : ∀ c ∈ (name ++ "=" ++ value).toList, isInert c = true ∨ c = '=' := by
    intro c hc
    rw [hlist, List.mem_append, List.mem_cons] at hc
    rcases hc with hc | hc | hc
    · exact Or.inl (isInert_of_isBare (hname c hc))
    · exact Or.inr hc
    · exact Or.inl (isInert_of_isBare (hvalue c hc))
  have hvisible : ∀ c ∈ (name ++ "=" ++ value).toList, isVisible c = true := by
    intro c hc
    rcases hmem c hc with hinert | rfl
    · exact isVisible_of_isInert hinert
    · decide
  have hsplit : ∀ c ∈ (name ++ "=" ++ value).toList, c ≠ ';' := by
    intro c hc
    rcases hmem c hc with hinert | rfl
    · exact (isInert_iff.mp hinert).2.2.1
    · decide
  have hparts := parseHeader_intercalate (List.forall_mem_singleton.mpr hvisible)
    (List.forall_mem_singleton.mpr hsplit)
  rw [String.intercalate_singleton, List.filterMap_cons, hlist, pair?_bare hname hne hvalue]
    at hparts
  exact hparts

/-- Of bare cookies with one name, each in a header of its own, a jar holds the last. -/
theorem Jar.get?_ofHeaders_bare_all (hname : ∀ c ∈ name.toList, isBare c = true) (hne : name ≠ "")
    {values : List String} (hvalues : ∀ value ∈ values, ∀ c ∈ value.toList, isBare c = true) :
    (Jar.ofHeaders (values.map fun value => name ++ "=" ++ value)).get? name = values.getLast? := by
  have hparse : (values.map fun value => name ++ "=" ++ value).flatMap parseHeader =
      values.map fun value => (name, value) := by
    rw [List.flatMap_map, List.flatMap_congr fun value hvalue =>
      parseHeader_bare hname hne (hvalues value hvalue), List.map_eq_flatMap]
  rw [ofHeaders, hparse]
  exact Dict.get?_ofList_of_key name values

/-- A jar made of a bare cookie holds it. -/
theorem Jar.get?_ofHeaders_bare (hname : ∀ c ∈ name.toList, isBare c = true) (hne : name ≠ "")
    (hvalue : ∀ c ∈ value.toList, isBare c = true) :
    (Jar.ofHeaders [name ++ "=" ++ value]).get? name = some value :=
  get?_ofHeaders_bare_all hname hne fun _ h => List.mem_singleton.mp h ▸ hvalue

/-- The texts in base 64 are bare. -/
theorem isBare_of_mem_encode {b : Bytes} {c : Char} (h : c ∈ (Base64Url.encode b).toList) :
    isBare c = true := by
  have all : ∀ n ∈ List.range 64, isBare (Base64Url.digit n) = true := by decide
  obtain ⟨n, hn, rfl⟩ := Base64Url.exists_digit_of_mem_encode h
  exact all n hn

end Cookie

end WebSession
