import Mathlib.Data.List.Forall2
import WebSession.Proofs.SessionFactory.SameKeys

/-!
# WebSession.Proofs.SessionFactory.InPlace

**Keys are set altogether or not at all** (`set_keys_all_or_none`).

A factory that is configured in place could be left half changed by an error in the middle of its
keys. Setting keys is therefore told here as a program on the factory (`assignKeys`), which makes one
encoder after the other and may stop at any of them. Making encoders leaves the factory as it is
(`run_makeEncoders`), and it is given them only when all are made (`run_assignKeys`).

Which error there is goes by the first pair that is bad (`encoders_eq_error_iff`).
-/

namespace WebSession

/-! ### Bad pairs -/

namespace KeyPair

variable {pair : KeyPair} {pairs : List KeyPair} {maxLength : Nat} {encoders : List Encoder}
  {e : Error}

/-- What is wrong with a pair: its authentication key is empty, or else the cipher does not know the
length of its encryption key. -/
inductive Fault (pair : KeyPair) : Error → Prop where
  | noHashKey : pair.hashKey = [] → Fault pair .missingHashKey
  | unknownLength {key : Bytes} : pair.hashKey ≠ [] → pair.blockKey? = some key →
      ¬ (key.length = 16 ∨ key.length = 24 ∨ key.length = 32) →
        Fault pair (.invalidKeyLength key.length)

/-- An accepted pair has no fault, and any other has one. -/
theorem exists_fault_iff : (∃ e, pair.Fault e) ↔ ¬ pair.Accepted := by
  constructor
  · rintro ⟨e, hfault⟩ haccepted
    cases hfault with
    | noHashKey hkey => exact haccepted.hashKey_ne_nil hkey
    | unknownLength _ hblock hlength => exact hlength (haccepted.known _ hblock)
  · intro hnot
    by_cases hkey : pair.hashKey = []
    · exact ⟨_, .noHashKey hkey⟩
    · by_contra hnone
      refine hnot ⟨hkey, fun key hblock => ?_⟩
      by_contra hlength
      exact hnone ⟨_, .unknownLength hkey hblock hlength⟩

/-- **A pair that has no encoder** is refused for its fault. -/
theorem encoder_eq_error_iff (maxLength : Nat) : pair.encoder maxLength = .error e ↔ pair.Fault e := by
  unfold encoder
  by_cases hkey : pair.hashKey = []
  · rw [if_pos (by simpa using hkey)]
    constructor
    · intro h
      cases h
      exact .noHashKey hkey
    · rintro (_ | ⟨hne, -, -⟩)
      · rfl
      · exact absurd hkey hne
  · rw [if_neg (by simpa using hkey)]
    constructor
    · intro h
      cases hblock : pair.blockKey? with
      | none =>
          rw [hblock] at h
          cases h
      | some key =>
          by_cases hlength : key.length = 16 ∨ key.length = 24 ∨ key.length = 32
          · simp only [hblock, CipherKey.ofBytes, dif_pos hlength] at h
            cases h
          · simp only [hblock, CipherKey.ofBytes, dif_neg hlength] at h
            cases h
            exact .unknownLength hkey hblock hlength
    · rintro (hnil | ⟨-, hblock, hlength⟩)
      · exact absurd hnil hkey
      · simp only [hblock, CipherKey.ofBytes, dif_neg hlength]
        rfl

/-- The error is that of the first pair that has a fault. -/
def FirstFault (pairs : List KeyPair) (e : Error) : Prop :=
  ∃ before bad behind, pairs = before ++ bad :: behind ∧ (∀ pair ∈ before, pair.Accepted) ∧
    bad.Fault e

theorem not_firstFault_nil : ¬ FirstFault [] e := by
  rintro ⟨before, bad, behind, hpairs, -⟩
  cases before <;> cases hpairs

theorem firstFault_cons :
    FirstFault (pair :: pairs) e ↔ pair.Fault e ∨ pair.Accepted ∧ FirstFault pairs e := by
  constructor
  · rintro ⟨before, bad, behind, hpairs, haccepted, hfault⟩
    cases before with
    | nil =>
        cases hpairs
        exact Or.inl hfault
    | cons first before =>
        cases hpairs
        rw [List.forall_mem_cons] at haccepted
        exact Or.inr ⟨haccepted.1, before, bad, behind, rfl, haccepted.2, hfault⟩
  · rintro (hfault | ⟨hfirst, before, bad, behind, rfl, haccepted, hfault⟩)
    · exact ⟨[], pair, pairs, rfl, by simp, hfault⟩
    · exact ⟨pair :: before, bad, behind, rfl, List.forall_mem_cons.mpr ⟨hfirst, haccepted⟩, hfault⟩

/-- There is a first fault if some pair is bad. -/
theorem exists_firstFault_iff : (∃ e, FirstFault pairs e) ↔ ∃ pair ∈ pairs, ¬ pair.Accepted := by
  induction pairs with
  | nil => simp [not_firstFault_nil]
  | cons pair pairs ih =>
      simp only [firstFault_cons, exists_or, exists_and_left, exists_fault_iff, ih,
        List.exists_mem_cons_iff]
      by_cases haccepted : pair.Accepted <;> simp [haccepted]

/-- **The error of pairs** is that of the first bad one. -/
theorem encoders_eq_error_iff (maxLength : Nat) :
    KeyPair.encoders pairs maxLength = .error e ↔ FirstFault pairs e := by
  induction pairs with
  | nil => exact iff_of_false (fun h => nomatch h) not_firstFault_nil
  | cons pair pairs ih =>
      rw [firstFault_cons, ← ih, ← encoder_eq_error_iff maxLength,
        ← exists_encoder_iff pair maxLength]
      unfold KeyPair.encoders
      rw [List.mapM_cons]
      cases he : pair.encoder maxLength with
      | error e' => simp [bind, Except.bind]
      | ok made =>
          cases hmore : pairs.mapM fun pair => pair.encoder maxLength with
          | error e' => simp [bind, Except.bind]
          | ok more => simp [bind, Except.bind, pure, Except.pure]

/-! ### Good pairs -/

/-- The encoder is that of the keys of a pair, for texts of the default age and so many octets. -/
def Makes (pair : KeyPair) (maxLength : Nat) (e : Encoder) : Prop :=
  ∃ cipherKey? : Option CipherKey, cipherKey?.map CipherKey.octets = pair.blockKey? ∧
    e = { Encoder.ofKeys pair.hashKey cipherKey? with
      maxAge := SessionConfig.defaultMaxAge
      maxLength := maxLength }

/-- **Each pair makes an encoder**, in the order of the pairs. -/
theorem forall₂_of_encoders (h : KeyPair.encoders pairs maxLength = .ok encoders) :
    List.Forall₂ (fun pair e => pair.Makes maxLength e) pairs encoders := by
  induction pairs generalizing encoders with
  | nil =>
      cases h
      exact .nil
  | cons pair pairs ih =>
      obtain ⟨made, more, rfl, hmade, hmore⟩ := encoders_cons h
      exact .cons (encoder_eq_ok_iff.mp hmade).2 (ih hmore)

end KeyPair

/-! ### In place -/

/-- A program on a factory. What it changed stays changed when it fails. -/
abbrev OnFactory := ExceptT Error (StateM SessionFactory)

namespace SessionFactory

/-- Goes on with a result or fails with its error. -/
def expect {α : Type} (result : Except Error α) : OnFactory α := ExceptT.mk (pure result)

/-- Makes the encoders of pairs one after the other. -/
def makeEncoders (maxLength : Nat) : List KeyPair → OnFactory (List Encoder)
  | [] => pure []
  | pair :: more => do
    let made ← expect (pair.encoder maxLength)
    let encoders ← makeEncoders maxLength more
    pure (made :: encoders)

/-- Gives a store the encoders of the pairs, in place. -/
def assignKeys (name : String) (pairs : List KeyPair) : OnFactory Unit := do
  let s ← expect ((← get).store name)
  let encoders ← makeEncoders s.maxLength pairs
  modify fun f => f.setStore name { s with encoders := encoders }

variable {α β : Type} {f : SessionFactory} {name : String} {pairs : List KeyPair} {e : Error}

theorem run_expect_bind (result : Except Error α) (next : α → OnFactory β) (f : SessionFactory) :
    (expect result >>= next).run.run f =
      match result with
      | .ok a => (next a).run.run f
      | .error e => (.error e, f) := by
  cases result <;> rfl

/-- **Making encoders** leaves the factory as it is, wherever it stops. -/
theorem run_makeEncoders (maxLength : Nat) (pairs : List KeyPair) (f : SessionFactory) :
    (makeEncoders maxLength pairs).run.run f = (KeyPair.encoders pairs maxLength, f) := by
  induction pairs with
  | nil => rfl
  | cons pair pairs ih =>
      have hcons : KeyPair.encoders (pair :: pairs) maxLength = (do
          let made ← pair.encoder maxLength
          let more ← KeyPair.encoders pairs maxLength
          pure (made :: more)) := List.mapM_cons
      rw [makeEncoders, run_expect_bind, hcons]
      cases pair.encoder maxLength with
      | error e => rfl
      | ok made =>
          show ((makeEncoders maxLength pairs >>= _).run.run f) = _
          rw [ExceptT.run_bind, StateT.run_bind, ih]
          cases KeyPair.encoders pairs maxLength <;> rfl

/-- **Setting keys in place** ends with what `setStoreKeys` gives, or with the factory as it was. -/
theorem run_assignKeys (name : String) (pairs : List KeyPair) (f : SessionFactory) :
    (assignKeys name pairs).run.run f =
      match f.setStoreKeys name pairs with
      | .ok f' => (.ok (), f')
      | .error e => (.error e, f) := by
  show ((expect (f.store name) >>= _ : OnFactory Unit).run.run f) = _
  rw [run_expect_bind, setStoreKeys]
  cases f.store name with
  | error e => rfl
  | ok s =>
      dsimp only
      rw [ExceptT.run_bind, StateT.run_bind, run_makeEncoders]
      cases hencoders : KeyPair.encoders pairs s.maxLength with
      | error e =>
          simp only [bind, Except.bind, hencoders]
          rfl
      | ok encoders =>
          simp only [bind, Except.bind, hencoders]
          rfl

/-- **When keys are refused**: the store is not known, or else a pair is bad. -/
theorem setStoreKeys_eq_error_iff :
    f.setStoreKeys name pairs = .error e ↔
      (f.stores.get? name = none ∧ e = .noStore) ∨
        (f.stores.get? name ≠ none ∧ KeyPair.FirstFault pairs e) := by
  unfold setStoreKeys store
  cases f.stores.get? name with
  | none => simp [bind, Except.bind, eq_comm]
  | some s =>
      rw [← KeyPair.encoders_eq_error_iff s.maxLength]
      cases hencoders : KeyPair.encoders pairs s.maxLength <;>
        simp [bind, Except.bind, hencoders, pure, Except.pure]

/-- **Setting keys is all or nothing.** Whatever the factory, the store and the pairs, `assignKeys` is
`setStoreKeys` in place, and

* it fails if the store is not known or a pair is bad;
* the error is the missing store's, which is looked for first, or else that of the first bad pair: an
  empty authentication key before an encryption key of unknown length;
* after a failure the factory is as it was, so that all its stores read what they read before;
* after a success the store is as it was but for its encoders, one for each pair in the order of the
  pairs, and nothing else has changed. -/
theorem set_keys_all_or_none (f : SessionFactory) (name : String) (pairs : List KeyPair) :
    let after := (assignKeys name pairs).run.run f
    f.setStoreKeys name pairs = after.1.map (fun _ => after.2) ∧
      ((∃ e, after.1 = .error e) ↔
        f.stores.get? name = none ∨ ∃ pair ∈ pairs, ¬ pair.Accepted) ∧
      (∀ e, after.1 = .error e ↔
        (f.stores.get? name = none ∧ e = .noStore) ∨
          (f.stores.get? name ≠ none ∧ KeyPair.FirstFault pairs e)) ∧
      (∀ e, after.1 = .error e → after.2 = f) ∧
      (after.1 = .ok () →
        after.2.defaultConfig = f.defaultConfig ∧
        (∀ other, other ≠ name → after.2.stores.get? other = f.stores.get? other) ∧
        ∃ s encoders, f.stores.get? name = some s ∧
          after.2.stores.get? name = some { s with encoders := encoders } ∧
          List.Forall₂ (fun pair e => pair.Makes s.maxLength e) pairs encoders) := by
  dsimp only
  have herror : ∀ e, ((assignKeys name pairs).run.run f).1 = .error e ↔
      (f.stores.get? name = none ∧ e = .noStore) ∨
        (f.stores.get? name ≠ none ∧ KeyPair.FirstFault pairs e) := by
    intro e
    rw [← setStoreKeys_eq_error_iff, run_assignKeys]
    cases f.setStoreKeys name pairs <;> simp
  -- there is an error just if there is a first fault, or the store is missing
  have hfails : (∃ e, ((assignKeys name pairs).run.run f).1 = .error e) ↔
      f.stores.get? name = none ∨ ∃ pair ∈ pairs, ¬ pair.Accepted := by
    simp only [herror, exists_or, exists_and_left, exists_eq, and_true,
      KeyPair.exists_firstFault_iff]
    by_cases hnone : f.stores.get? name = none <;> simp [hnone]
  refine ⟨?_, hfails, herror, ?_, ?_⟩ <;> rw [run_assignKeys]
  · cases f.setStoreKeys name pairs <;> rfl
  · intro e h
    cases hset : f.setStoreKeys name pairs with
    | error e => rfl
    | ok f' =>
        rw [hset] at h
        cases h
  · intro h
    cases hset : f.setStoreKeys name pairs with
    | error e =>
        rw [hset] at h
        cases h
    | ok f' =>
        -- the factory differs in one store, and this one in its encoders
        obtain ⟨s, encoders, hs, hencoders, rfl⟩ := setStoreKeys_eq_ok_iff.mp hset
        exact ⟨rfl, fun other hne => Dict.get?_set_of_ne hne, s, encoders, store_eq_ok_iff.mp hs,
          Dict.get?_set_self, KeyPair.forall₂_of_encoders hencoders⟩

end SessionFactory

end WebSession
