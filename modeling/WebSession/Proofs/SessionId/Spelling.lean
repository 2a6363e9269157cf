import WebSession.Proofs.Base64Url
import WebSession.Proofs.Records.Sweep
import WebSession.Proofs.SessionId

/-!
# WebSession.Proofs.SessionId.Spelling

**Session ids spell octets** (`ids_spell_octets`): making an id and checking one go by the same form.

An id is made octet by octet and checked digit by digit, so both are taken to the digits. Those of
octets are known by what they are read as (`Spells`), which tells the octets (`Spells.unique`). In the
other direction the digits of a text are taken two by two (`exists_flatMap_hexPair`), which is where
the length has to be even. The limit on the length is one of the check alone.
-/

namespace WebSession

/-! ### Digits -/

theorem Bytes.hexValue?_hexDigit {n : Nat} (h : n < 16) : hexValue? (hexDigit n) = some n := by
  have all : ∀ n ∈ List.range 16, hexValue? (hexDigit n) = some n := by decide
  exact all n (List.mem_range.mpr h)

namespace SessionId

theorem isDigit_iff {c : Char} :
    isDigit c = true ↔ (48 ≤ c.toNat ∧ c.toNat ≤ 57) ∨ (97 ≤ c.toNat ∧ c.toNat ≤ 102) := by
  simp only [isDigit, Bool.or_eq_true, Bool.and_eq_true, decide_eq_true_eq]
  exact Iff.rfl

/-- A digit is that of a number below sixteen. -/
theorem exists_of_isDigit {c : Char} (h : isDigit c = true) : ∃ n < 16, Bytes.hexDigit n = c := by
  rcases isDigit_iff.mp h with hc | hc
  · refine ⟨c.toNat - 48, by omega, ?_⟩
    rw [Bytes.hexDigit, if_pos (by omega), show 48 + (c.toNat - 48) = c.toNat by omega,
      Char.ofNat_toNat]
  · refine ⟨c.toNat - 87, by omega, ?_⟩
    rw [Bytes.hexDigit, if_neg (by omega), show 87 + (c.toNat - 87) = c.toNat by omega,
      Char.ofNat_toNat]

/-- The octet is that of a digit, `0` to `9` or `a` to `f`. -/
def isDigitOctet (b : UInt8) : Bool := (0x30 ≤ b && b ≤ 0x39) || (0x61 ≤ b && b ≤ 0x66)

theorem isDigitOctet_iff {b : UInt8} :
    isDigitOctet b = true ↔ (48 ≤ b.toNat ∧ b.toNat ≤ 57) ∨ (97 ≤ b.toNat ∧ b.toNat ≤ 102) := by
  simp only [isDigitOctet, Bool.or_eq_true, Bool.and_eq_true, decide_eq_true_eq]
  exact Iff.rfl

/-- The first octet of a character beyond ASCII lies beyond it too. -/
theorem exists_lead_octet {c : Char} (h : 127 < c.toNat) :
    ∃ n, 128 ≤ n ∧ n < 256 ∧ UInt8.ofNat n ∈ String.utf8EncodeChar c := by
  have hval : c.val.toNat = c.toNat := rfl
  rw [String.utf8EncodeChar, hval, if_neg (by omega)]
  split
  · exact ⟨_, by omega, by omega, List.mem_cons_self⟩
  · split
    · exact ⟨_, by omega, by omega, List.mem_cons_self⟩
    · exact ⟨_, by omega, by omega, List.mem_cons_self⟩

/-- **A character is a digit** if its octets are those of digits. -/
theorem isDigit_iff_octets {c : Char} :
    isDigit c = true ↔ ∀ b ∈ String.utf8EncodeChar c, isDigitOctet b = true := by
  by_cases hascii : c.toNat ≤ 127
  · have hval : c.val.toNat = c.toNat := rfl
    rw [isDigit_iff, String.utf8EncodeChar, hval, if_pos hascii]
    simp only [List.mem_singleton, forall_eq, isDigitOctet_iff]
    rw [Bytes.octet_toNat (by omega : c.toNat < 256)]
  · refine iff_of_false (by rw [isDigit_iff]; omega) fun hall => ?_
    obtain ⟨n, hlow, hhigh, hmem⟩ := exists_lead_octet (by omega : 127 < c.toNat)
    have hdigit := isDigitOctet_iff.mp (hall _ hmem)
    rw [Bytes.octet_toNat hhigh] at hdigit
    omega

/-! ### Octets and their digits -/

/-- The halves of octets, the high one of each first. -/
def halves (octets : Bytes) : List Nat := octets.flatMap fun x => [x.toNat / 16, x.toNat % 16]

/-- The text has two lower-case digits for each octet, in the order of the octets: the digit of its
high half and that of its low half. -/
structure Spells (octets : Bytes) (id : String) : Prop where
  length_eq : id.length = 2 * octets.length
  lower : ∀ c ∈ id.toList, isDigit c = true
  digits_eq : id.toList.map Bytes.hexValue? = (halves octets).map some

theorem halves_injective {a b : Bytes} (h : halves a = halves b) : a = b := by
  induction a generalizing b with
  | nil =>
      cases b with
      | nil => rfl
      | cons y b => cases h
  | cons x a ih =>
      cases b with
      | nil => cases h
      | cons y b =>
          simp only [halves, List.flatMap_cons, List.cons_append, List.nil_append,
            List.cons.injEq] at h
          obtain ⟨hhigh, hlow, hrest⟩ := h
          have hxy : x.toNat = y.toNat := by omega
          rw [UInt8.toNat_inj.mp hxy, ih hrest]

/-- **A text spells one octet string** at most. -/
theorem Spells.unique {a b : Bytes} {id : String} (ha : Spells a id) (hb : Spells b id) : a = b := by
  have hsome : (halves a).map some = (halves b).map some := ha.digits_eq.symm.trans hb.digits_eq
  exact halves_injective (List.map_injective_iff.mpr (fun _ _ => Option.some.inj) hsome)

/-- Octets are spelled by their text. -/
theorem spells_hex (octets : Bytes) : Spells octets (Bytes.hex octets) where
  length_eq := by
    rw [← String.length_toList, Bytes.hex, String.toList_ofList, List.length_flatMap]
    simp [Bytes.hexPair, Nat.mul_comm]
  lower := fun c hc => Bytes.isDigit_of_mem_hex hc
  digits_eq := by
    rw [Bytes.hex, String.toList_ofList, halves, List.map_flatMap, List.map_flatMap]
    refine List.flatMap_congr fun x _ => ?_
    have hx : x.toNat < 256 := x.toNat_lt
    simp only [Bytes.hexPair, List.map_cons, List.map_nil]
    rw [Bytes.hexValue?_hexDigit (by omega), Bytes.hexValue?_hexDigit (by omega)]

/-- Digits taken two by two are those of octets. -/
theorem exists_flatMap_hexPair : ∀ {cs : List Char}, (∀ c ∈ cs, isDigit c = true) →
    2 ∣ cs.length → ∃ octets : Bytes, octets.flatMap Bytes.hexPair = cs
  | [], _, _ => ⟨[], rfl⟩
  | [_], _, heven => by simp at heven
  | c :: c' :: rest, hdigits, heven => by
      obtain ⟨high, hhigh, rfl⟩ := exists_of_isDigit (hdigits c (by simp))
      obtain ⟨low, hlow, rfl⟩ := exists_of_isDigit (hdigits c' (by simp))
      have hrest : 2 ∣ rest.length := by
        simp only [List.length_cons] at heven
        omega
      obtain ⟨octets, rfl⟩ := exists_flatMap_hexPair
        (fun c hc => hdigits c (List.mem_cons_of_mem _ (List.mem_cons_of_mem _ hc))) hrest
      refine ⟨UInt8.ofNat (16 * high + low) :: octets, ?_⟩
      have hoctet := Bytes.octet_toNat (by omega : 16 * high + low < 256)
      rw [List.flatMap_cons, Bytes.hexPair, hoctet, show (16 * high + low) / 16 = high by omega,
        show (16 * high + low) % 16 = low by omega]
      rfl

/-! ### Checking -/

theorem isValid_iff {id : String} :
    isValid id = true ↔ id ≠ "" ∧ id.utf8ByteSize ≤ 128 ∧ ∀ c ∈ id.toList, isDigit c = true := by
  rw [isValid, Bool.and_eq_true, Bool.and_eq_true, decide_eq_true_eq, decide_eq_true_eq,
    List.all_eq_true, and_assoc, Nat.pos_iff_ne_zero, ne_eq, String.utf8ByteSize_eq_zero_iff]
  exact Iff.rfl

/-- **Checking** has two results. -/
theorem validate_eq (id : String) :
    validate id = if isValid id then .ok () else .error .badSessionId := rfl

theorem validate_eq_ok_iff {id : String} : validate id = .ok () ↔ isValid id = true := by
  rw [validate_eq]
  cases isValid id <;> simp

theorem validate_eq_error_iff {id : String} :
    validate id = .error .badSessionId ↔ isValid id = false := by
  rw [validate_eq]
  cases isValid id <;> simp

/-- An id of octets is valid unless they are none or more than sixty-four. -/
theorem isValid_hex_iff {octets : Bytes} (hne : octets ≠ []) :
    isValid (Bytes.hex octets) = true ↔ octets.length ≤ 64 := by
  rw [isValid_iff, ne_eq, ← String.utf8ByteSize_eq_zero_iff, Bytes.utf8ByteSize_hex]
  have hpos := List.length_pos_of_ne_nil hne
  constructor
  · rintro ⟨-, hsize, -⟩
    omega
  · intro hlength
    exact ⟨by omega, by omega, fun c hc => Bytes.isDigit_of_mem_hex hc⟩

/-- **What is no id**, told by the octets of the text. -/
theorem isValid_eq_false_iff {id : String} :
    isValid id = false ↔
      id = "" ∨ 128 < id.utf8ByteSize ∨ ∃ b ∈ Bytes.ofText id, isDigitOctet b = false := by
  have hdigits : (∀ c ∈ id.toList, isDigit c = true) ↔
      ∀ b ∈ Bytes.ofText id, isDigitOctet b = true := by
    simp only [isDigit_iff_octets, Bytes.ofText_eq_flatMap, List.mem_flatMap]
    constructor
    · rintro h b ⟨c, hc, hb⟩
      exact h c hc b hb
    · intro h c hc b hb
      exact h b ⟨c, hc, hb⟩
  rw [← Bool.not_eq_true, isValid_iff, hdigits]
  simp only [not_and_or, ne_eq, not_not, Nat.not_le, not_forall, Bool.not_eq_true, exists_prop]

/-! ### Making -/

/-- Gives the octets to whoever asks for so many, and answers nothing else. -/
def giving (octets : Bytes) : Responder Unit
  | .random count, _ => (if h : octets.length = count then some ⟨octets.toArray, h⟩ else none, ())
  | .add .., _ => (.ok (), ())
  | .get .., _ => (.error .noSession, ())
  | .remove .., _ => (.ok (), ())

/-- What generating an id makes of random octets. -/
def generated (octets : Bytes) : Except Error String :=
  ((generate octets.length).run.run (giving octets) ()).1

variable {σ : Type} {respond : Responder σ} {t : σ}

/-- Nothing is asked for to make an id of no octets. -/
theorem run_generate_zero (respond : Responder σ) (t : σ) :
    (generate 0).run.run respond t = (.error .badIdLength, t) := rfl

/-- **Whoever gives the octets**, the id is their text. -/
theorem run_generate_of_given {count : Nat} (hne : count ≠ 0) {octets : Vector UInt8 count}
    (hgiven : (respond (.random count) t).1 = some octets) :
    ((generate count).run.run respond t).1 = .ok (Bytes.hex octets.toList) := by
  have hdraw : ((Encoder.draw count).run.run respond t).1 = .ok octets := by
    show ((Plan.random count >>= _ : Plan _).run respond t).1 = _
    rw [Plan.random, Plan.ask_bind, Plan.run_ask, hgiven]
    rfl
  rw [generate, if_neg hne, ExceptT.run_bind, Plan.run_bind, hdraw]
  rfl

theorem generated_nil : generated [] = .error .badIdLength := rfl

theorem generated_of_ne_nil {octets : Bytes} (hne : octets ≠ []) :
    generated octets = .ok (Bytes.hex octets) := by
  have hgiven : (giving octets (.random octets.length) ()).1 = some ⟨octets.toArray, rfl⟩ := by
    simp [giving]
  exact run_generate_of_given (by simpa using hne) hgiven

theorem generated_eq_ok_iff {octets : Bytes} {id : String} :
    generated octets = .ok id ↔ octets ≠ [] ∧ Bytes.hex octets = id := by
  by_cases hne : octets = []
  · subst hne
    rw [generated_nil]
    simp
  · rw [generated_of_ne_nil hne]
    simp [hne]

/-- **An id of even length** is the text of some octets. -/
theorem exists_generated {id : String} (hvalid : isValid id = true) (heven : 2 ∣ id.length) :
    ∃ octets, generated octets = .ok id := by
  obtain ⟨hne, -, hdigits⟩ := isValid_iff.mp hvalid
  rw [← String.length_toList] at heven
  obtain ⟨octets, hoctets⟩ := exists_flatMap_hexPair hdigits heven
  have hhex : Bytes.hex octets = id := by rw [Bytes.hex, hoctets, String.ofList_toList]
  refine ⟨octets, generated_eq_ok_iff.mpr ⟨?_, hhex⟩⟩
  rintro rfl
  exact hne hhex.symm

/-- **Making and checking session ids agree.**

* Of no octets no id is made, and none are asked for. Of any others, whoever gives them, the id is
  what spells them: two lower-case hexadecimal digits for each.
* Different octets make different ids.
* An id that was made is accepted if it was made of at most sixty-four octets.
* What is accepted and has an even length is made of just one octet string.
* What is empty, longer than 128 octets or holds an octet that is no digit is refused, and nothing
  else is.
* The file name of what is accepted has no separator and no dot. -/
theorem ids_spell_octets :
    (∀ {σ : Type} (respond : Responder σ) (t : σ),
      (generate 0).run.run respond t = (.error .badIdLength, t) ∧
      ∀ {count : Nat} (octets : Vector UInt8 count),
        (respond (.random count) t).1 = some octets →
          ((generate count).run.run respond t).1 = generated octets.toList) ∧
    (∀ octets, octets ≠ [] → ∃ id, generated octets = .ok id ∧ Spells octets id ∧
      (validate id = .ok () ↔ octets.length ≤ 64)) ∧
    (∀ octets octets' id, generated octets = .ok id → generated octets' = .ok id →
      octets = octets') ∧
    (∀ id, validate id = .ok () → 2 ∣ id.length → ∃! octets, generated octets = .ok id) ∧
    (∀ id, validate id = .ok () ∨ validate id = .error .badSessionId) ∧
    (∀ id, validate id = .error .badSessionId ↔
      id = "" ∨ 128 < id.utf8ByteSize ∨ ∃ b ∈ Bytes.ofText id, isDigitOctet b = false) ∧
    ∀ id, validate id = .ok () →
      ∀ c ∈ (Records.Directory.fileName id).toList, c ≠ '/' ∧ c ≠ '\\' ∧ c ≠ '.' := by
  have hunique : ∀ octets octets' id, generated octets = .ok id → generated octets' = .ok id →
      octets = octets' := by
    intro octets octets' id h h'
    obtain ⟨-, rfl⟩ := generated_eq_ok_iff.mp h
    obtain ⟨-, hsame⟩ := generated_eq_ok_iff.mp h'
    exact (spells_hex octets).unique (hsame ▸ spells_hex octets')
  refine ⟨fun respond t => ⟨run_generate_zero respond t, ?_⟩, ?_, hunique, ?_, ?_, ?_, ?_⟩
  · -- the id that is made is what spells the octets that were given
    intro count octets hgiven
    by_cases hne : count = 0
    · subst hne
      have hempty : octets = #v[] := Vector.eq_empty
      rw [run_generate_zero, hempty]
      rfl
    · rw [run_generate_of_given hne hgiven, generated_of_ne_nil]
      intro hnil
      exact hne (by simpa using congrArg List.length hnil)
  · intro octets hne
    exact ⟨_, generated_of_ne_nil hne, spells_hex octets,
      validate_eq_ok_iff.trans (isValid_hex_iff hne)⟩
  · -- pairs of digits can be read back, so there are such octets, and no others
    intro id hvalid heven
    obtain ⟨octets, hoctets⟩ := exists_generated (validate_eq_ok_iff.mp hvalid) heven
    exact ⟨octets, hoctets, fun octets' h => hunique _ _ _ h hoctets⟩
  · intro id
    rw [validate_eq]
    cases isValid id <;> simp
  · intro id
    rw [validate_eq_error_iff, isValid_eq_false_iff]
  · intro id hvalid c hc
    -- a file name is made of word characters, and these three are none
    have hword := Records.Directory.isAlphanum_of_mem_fileName (validate_eq_ok_iff.mp hvalid) hc
    refine ⟨?_, ?_, ?_⟩ <;> (rintro rfl; exact absurd hword (by decide))

end SessionId

end WebSession
