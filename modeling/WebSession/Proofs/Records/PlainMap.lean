import Mathlib.Logic.Function.Basic
import WebSession.Proofs.Records.Server
import WebSession.Proofs.World

/-!
# WebSession.Proofs.Records.PlainMap

**The three kinds of records are one map** (`answers_eq_plain`): within the life of its records, a
store in memory, in a directory or on a server answers every call as a map from ids to texts does.

Each kind ends a record in its own way, so the condition is one that keeps all of them from it: a
call comes before the age of each record that is still there (`InTime`), all records are added with
one age, and the clock does not go back. The relation of a store to the map is about one id at a
time (`Simulates`), so that a call about an id and one about another are two lemmas for each kind.
-/

namespace WebSession.Records

open Directory (Access)

/-! ### Calls and their answers -/

/-- The id that a call is about. -/
def Directory.Access.id : Access → String
  | .add id _ _ => id
  | .get id => id
  | .remove id => id

/-- What a call answers, and the store after it. A call that reads answers with the text. -/
def Operations.step {σ : Type} (o : Operations σ) (s : σ) (now : Int) :
    Access → Except Error (Option String) × σ
  | .add id record maxAge => (o.add s now id record maxAge).map (·.map fun _ => none) fun s => s
  | .get id => (o.get s now id).map (·.map some) fun s => s
  | .remove id => (o.remove s now id).map (·.map fun _ => none) fun s => s

/-- The answers of some calls, each at its millisecond. -/
def Operations.answers {σ : Type} (o : Operations σ) :
    σ → List (Int × Access) → List (Except Error (Option String))
  | _, [] => []
  | s, (now, call) :: more => (o.step s now call).1 :: o.answers (o.step s now call).2 more

/-- A map from ids to texts. What is not there can be neither read nor removed. -/
def plain : Operations (Dict String) where
  add m _ id record _ := (.ok (), m.set id record)
  get m _ id :=
    match m.get? id with
    | some record => (.ok record, m)
    | none => (.error .noSession, m)
  remove m _ id := if m.contains id then (.ok (), m.erase id) else (.error .noSession, m)

/-! ### Calls in time -/

/-- When the record of each id was added last, for those that are still there. -/
def stamp (added : Dict Int) (now : Int) : Access → Dict Int
  | .add id _ _ => added.set id now
  | .get _ => added
  | .remove id => added.erase id

/-- Where records have an age, each call comes before that age of every record that is still there,
since it was added last. -/
def InTime (maxAge : Int) : Dict Int → List (Int × Access) → Prop
  | _, [] => True
  | added, (now, call) :: more =>
    (0 < maxAge → ∀ f ∈ added.toList, now < f.2 + 1000 * maxAge) ∧
      InTime maxAge (stamp added now call) more

/-- A moment that a clock can tell. The calendar ends long before these. -/
def Told (now : Int) : Prop := -0x4000000000000000 < now ∧ now < 0x4000000000000000

/-- A call for a valid id. What is added has the age. -/
def Fits (maxAge : Int) : Access → Prop
  | .add id _ age => SessionId.isValid id = true ∧ age = maxAge
  | .get id => SessionId.isValid id = true
  | .remove id => SessionId.isValid id = true

instance InTime.instDecidable (maxAge : Int) :
    (added : Dict Int) → (calls : List (Int × Access)) → Decidable (InTime maxAge added calls)
  | _, [] => inferInstanceAs (Decidable True)
  | added, (now, call) :: more =>
    have := InTime.instDecidable maxAge (stamp added now call) more
    inferInstanceAs (Decidable (_ ∧ _))

instance (now : Int) : Decidable (Told now) := inferInstanceAs (Decidable (_ ∧ _))

instance (maxAge : Int) : (call : Access) → Decidable (Fits maxAge call)
  | .add .. => inferInstanceAs (Decidable (_ ∧ _))
  | .get _ => inferInstanceAs (Decidable (_ = _))
  | .remove _ => inferInstanceAs (Decidable (_ = _))

/-! ### What a store owes the map -/

/-- A record with the moment at which it was added last. -/
structure Stamped where
  text : String
  added : Int

/-- A moment comes before the age of a record. -/
def Live (maxAge now : Int) (r? : Option Stamped) : Prop :=
  ∀ r, r? = some r → 0 < maxAge → now < r.added + 1000 * maxAge

/-- What a call answers, by the record of its id. -/
def answer (r? : Option Stamped) : Access → Except Error (Option String)
  | .add .. => .ok none
  | .get _ => match r? with
    | some r => .ok (some r.text)
    | none => .error .noSession
  | .remove _ => match r? with
    | some _ => .ok none
    | none => .error .noSession

/-- The record of a call's id after the call. -/
def outcome (r? : Option Stamped) (now : Int) : Access → Option Stamped
  | .add _ record _ => some ⟨record, now⟩
  | .get _ => r?
  | .remove _ => none

/-- A store that has records, from some moment on, as a relation tells. A call answers by the record
of its id and does to it what it does in the map, and to all others nothing. -/
structure Simulates {σ : Type} (o : Operations σ) (maxAge : Int)
    (has : σ → (first : Int) → (id : String) → Option Stamped → Prop) : Prop where
  wait : ∀ {s first now id r?}, has s first id r? → first ≤ now → has s now id r?
  own : ∀ {s now call r?}, Told now → Fits maxAge call → has s now call.id r? → Live maxAge now r? →
    (o.step s now call).1 = answer r? call ∧
      has (o.step s now call).2 now call.id (outcome r? now call)
  others : ∀ {s now call other r?}, Told now → Fits maxAge call → has s now other r? →
    Live maxAge now r? → call.id ≠ other → has (o.step s now call).2 now other r?

variable {maxAge now : Int}

/-! ### In memory -/

namespace Memory

/-- A record in memory as it was added. -/
def Record.ofStamped (maxAge : Int) (r : Stamped) : Record :=
  ⟨r.text, Memory.deadline? r.added maxAge⟩

/-- The record of an id in memory, there or not. -/
def Has (maxAge : Int) (records : Records) (_ : Int) (id : String) (r? : Option Stamped) : Prop :=
  ∃ m, records = .memory m ∧ m.records.get? id = r?.map (Record.ofStamped maxAge) ∧
    ∀ r, r? = some r → Told r.added

/-- A record is not gone before its age, as the clock never comes to the last moment of all. -/
theorem isExpired_ofStamped {r : Stamped} (hnow : Told now) (hadded : Told r.added)
    (hlive : 0 < maxAge → now < r.added + 1000 * maxAge) :
    (Record.ofStamped maxAge r).isExpired now = false := by
  unfold Told at hnow hadded
  unfold Record.isExpired Record.ofStamped deadline? lastMoment Range.maxInt64
  split
  · rename_i t ht
    split at ht
    · cases ht
      have := hlive ‹_›
      simp only [decide_eq_false_iff_not]
      omega
    · cases ht
  · rfl

/-- Before the age of what is there, reading answers with it. -/
theorem get_of_has {m : Memory} {id : String} {r? : Option Stamped} (hnow : Told now)
    (hget : m.records.get? id = r?.map (Record.ofStamped maxAge))
    (hadded : ∀ r, r? = some r → Told r.added) (hlive : Live maxAge now r?) :
    (m.get now id).map some = answer r? (.get id) := by
  cases r? with
  | none =>
      rw [Memory.get, hget]
      rfl
  | some r =>
      have hthere := isExpired_ofStamped hnow (hadded r rfl) (hlive r rfl)
      rw [Memory.get, hget]
      simp only [Option.map_some, hthere]
      rfl

/-- Dropping what is gone leaves what is not. -/
theorem get?_prune_of_has {m : Memory} {id : String} {r? : Option Stamped} (hnow : Told now)
    (hget : m.records.get? id = r?.map (Record.ofStamped maxAge))
    (hadded : ∀ r, r? = some r → Told r.added) (hlive : Live maxAge now r?) :
    (m.prune now).records.get? id = r?.map (Record.ofStamped maxAge) := by
  rw [prune, Dict.ofList_filter, Fields.get?_filter, hget]
  cases r? with
  | none => rfl
  | some r => simp [isExpired_ofStamped hnow (hadded r rfl) (hlive r rfl)]

theorem simulates : Simulates operations maxAge (Has maxAge) where
  wait h _ := h
  own := by
    intro records now call r? hnow hcall hhas hlive
    obtain ⟨m, rfl, hget, hadded⟩ := hhas
    cases call with
    | add id record age =>
        obtain ⟨-, rfl⟩ := hcall
        refine ⟨rfl, m.add now id record age, rfl, Dict.get?_set_self, fun r hr => ?_⟩
        cases hr
        exact hnow
    | get id => exact ⟨get_of_has hnow hget hadded hlive, m, rfl, hget, hadded⟩
    | remove id =>
        refine ⟨?_, (m.remove id).2, rfl, ?_, fun r hr => nomatch hr⟩
        all_goals
          dsimp only [Directory.Access.id] at hget
          cases r? <;>
            simp [Operations.step, operations, Records.remove, Memory.remove, Fields.contains, hget,
              answer, outcome, Except.map, Directory.Access.id]
  others := by
    intro records now call other r? hnow hcall hhas hlive hne
    obtain ⟨m, rfl, hget, hadded⟩ := hhas
    cases call with
    | add id record age =>
        refine ⟨m.add now id record age, rfl, ?_, hadded⟩
        exact (Dict.get?_set_of_ne (Ne.symm hne)).trans (get?_prune_of_has hnow hget hadded hlive)
    | get id => exact ⟨m, rfl, hget, hadded⟩
    | remove id =>
        refine ⟨(m.remove id).2, rfl, ?_, hadded⟩
        unfold Memory.remove
        split
        · exact (Fields.get?_erase_of_ne (Ne.symm hne)).trans hget
        · exact hget

end Memory

/-! ### In a directory -/

namespace Directory

/-- An entry is the file of a record, or there is neither. -/
def IsFileOf : Option Entry → Option Stamped → Prop
  | none, none => True
  | some entry, some r => ∃ mode, entry = .file (Bytes.ofText r.text) r.added mode
  | _, _ => False

/-- The record of an id in a directory, there or not. -/
def Has (records : Records) (_ : Int) (id : String) (r? : Option Stamped) : Prop :=
  ∃ d, records = .directory d ∧ d.entries?.isSome = true ∧ IsFileOf (d.found? id) r?

theorem step_directory {d : Directory} {call : Access} :
    (operations.step (.directory d) now call).2 = .directory (d.step now call) := by
  cases call <;> rfl

/-- A directory does not vanish by a call. -/
theorem isSome_step {d : Directory} {call : Access} (h : d.entries?.isSome = true) :
    (d.step now call).entries?.isSome = true := by
  obtain ⟨entries, hentries⟩ := Option.isSome_iff_exists.mp h
  cases call with
  | add id record age =>
      simp only [step, add, hentries]
      split
      · exact h
      · split <;> rfl
  | get id => exact h
  | remove id =>
      simp only [step, remove, hentries]
      split
      · exact h
      · split
        · exact h
        · exact h
        · rfl

/-- No record of the age is swept before it. -/
theorem filter_sweeps_of_live {call : Access} {file? : Option Entry} {r? : Option Stamped}
    (hcall : Fits maxAge call) (h : IsFileOf file? r?) (hlive : Live maxAge now r?) :
    (file?.filter fun entry => !call.sweeps now entry) = file? := by
  cases file? with
  | none => rfl
  | some entry =>
      cases r? with
      | none => cases h
      | some r =>
          obtain ⟨mode, rfl⟩ := h
          refine Option.filter_some_pos ?_
          rw [Bool.not_eq_true', Bool.eq_false_iff, Ne, Access.sweeps_file_iff]
          rintro ⟨id, record, age, rfl, -, hpositive, hlate⟩
          obtain ⟨-, rfl⟩ := hcall
          have := hlive r rfl hpositive
          omega

/-- What a record's file stands for is read. -/
theorem get_of_isFileOf {d : Directory} {id : String} {r? : Option Stamped}
    (hid : SessionId.isValid id = true) (h : IsFileOf (d.found? id) r?) :
    (d.get id).map some = answer r? (.get id) := by
  cases hfound : d.found? id with
  | none =>
      cases r? with
      | none =>
          rw [get_of_found?_none hid hfound]
          rfl
      | some r => simp [hfound, IsFileOf] at h
  | some entry =>
      cases r? with
      | none => simp [hfound, IsFileOf] at h
      | some r =>
          rw [hfound] at h
          obtain ⟨mode, rfl⟩ := h
          rw [get_of_found? hid hfound]
          rfl

/-- A record's file is removed, and nothing where there is none. -/
theorem remove_of_isFileOf {d : Directory} {id : String} {r? : Option Stamped}
    (hid : SessionId.isValid id = true) (h : IsFileOf (d.found? id) r?) :
    (d.remove id).1.map (fun _ => none) = answer r? (.remove id) ∧
      (d.remove id).2.found? id = none := by
  obtain ⟨entries?⟩ := d
  cases entries? with
  | none =>
      cases r? with
      | none => simp [remove, hid, found?, answer, Except.map]
      | some r => cases h
  | some entries =>
      cases hentry : entries.get? (fileName id) with
      | none =>
          cases r? with
          | none => simp [remove, hid, hentry, found?, answer, Except.map]
          | some r => simp [found?, hentry, IsFileOf] at h
      | some entry =>
          cases r? with
          | none => simp [found?, hentry, IsFileOf] at h
          | some r =>
              simp only [found?, Option.bind_some, hentry] at h
              obtain ⟨mode, rfl⟩ := h
              simp [remove, hid, hentry, found?, answer, Except.map]

/-- Nothing stands in the way of a record's file. -/
theorem works_of_isFileOf {d : Directory} {id : String} {r? : Option Stamped}
    (hsome : d.entries?.isSome = true) (h : IsFileOf (d.found? id) r?) :
    (Records.directory d).Works id := by
  obtain ⟨entries, hentries⟩ := Option.isSome_iff_exists.mp hsome
  refine ⟨entries, hentries, fun hdirectory => ?_⟩
  rw [found?, hentries, Option.bind_some, hdirectory] at h
  cases r? with
  | none => exact h
  | some r =>
      obtain ⟨mode, hentry⟩ := h
      cases hentry

theorem simulates : Simulates operations maxAge Has where
  wait h _ := h
  own := by
    intro records now call r? hnow hcall hhas hlive
    obtain ⟨d, rfl, hsome, hfile⟩ := hhas
    suffices h : (operations.step (.directory d) now call).1 = answer r? call ∧
        IsFileOf ((d.step now call).found? call.id) (outcome r? now call) from
      ⟨h.1, d.step now call, step_directory, isSome_step hsome, h.2⟩
    cases call with
    | add id record age =>
        obtain ⟨hid, rfl⟩ := hcall
        have hok : (d.add now id record age).1 = .ok () :=
          (Records.works_add hid (works_of_isFileOf hsome hfile) now age record).1
        obtain ⟨mode, hfound⟩ := (found?_add_self hok).2
        refine ⟨congrArg (Except.map fun _ => none) hok, ?_⟩
        rw [step, Access.id, hfound]
        exact ⟨mode, rfl⟩
    | get id => exact ⟨get_of_isFileOf hcall hfile, hfile⟩
    | remove id =>
        obtain ⟨hanswer, hgone⟩ := remove_of_isFileOf hcall hfile
        refine ⟨hanswer, ?_⟩
        rw [step, Access.id, hgone]
        trivial
  others := by
    intro records now call other r? hnow hcall hhas hlive hne
    obtain ⟨d, rfl, hsome, hfile⟩ := hhas
    refine ⟨d.step now call, step_directory, isSome_step hsome, ?_⟩
    have hother : call.changes other = false := by
      cases call with
      | add id record age => exact decide_eq_false hne
      | get id => rfl
      | remove id => exact decide_eq_false hne
    rw [found?_step hother, filter_sweeps_of_live hcall hfile hlive]
    exact hfile

end Directory

/-! ### On a server -/

namespace Redis

variable {σ : Type} {server : Server σ} {value? : σ → (now : Int) → String → Option String}

/-- The record of an id on a server from a moment on, there or not. -/
def Has (maxAge : Int) (value? : σ → (now : Int) → String → Option String) (s : σ) (first : Int)
    (id : String) (r? : Option Stamped) : Prop :=
  ∀ now, first ≤ now → Live maxAge now r? → value? s now (recordKey id) = r?.map Stamped.text

theorem add_through {s : σ} {id record : String} {command : Command}
    (h : addCommand id record maxAge = command) :
    (through server).add s now id record maxAge =
      (server now command s).map written fun s => s := by
  subst h
  rfl

/-- What is added is there for its age. -/
theorem add_of_obeys (hserver : Obeys server maxAge value?) (s : σ) (now : Int)
    (id record : String) :
    ((through server).add s now id record maxAge).1 = .ok () ∧
      Has maxAge value? ((through server).add s now id record maxAge).2 now id
        (some ⟨record, now⟩) := by
  by_cases hpositive : 0 < maxAge
  · obtain ⟨hreply, hvalue⟩ := hserver.setex s now (recordKey id) record hpositive
    rw [add_through (if_pos hpositive)]
    refine ⟨congrArg written hreply, fun later hlater hlive => ?_⟩
    exact hvalue later hlater (hlive _ rfl hpositive)
  · obtain ⟨hreply, hvalue⟩ := hserver.set s now (recordKey id) record
    rw [add_through (if_neg hpositive)]
    exact ⟨congrArg written hreply, fun later hlater _ => hvalue later hlater⟩

theorem simulates (hserver : Obeys server maxAge value?) :
    Simulates (through server) maxAge (Has maxAge value?) where
  wait hhas hfirst now hnow := hhas now (Int.le_trans hfirst hnow)
  own := by
    intro s now call r? hnow hcall hhas hlive
    have hvalue := hhas now (Int.le_refl _) hlive
    cases call with
    | add id record age =>
        obtain ⟨-, rfl⟩ := hcall
        obtain ⟨hanswer, hhas'⟩ := add_of_obeys hserver s now id record
        exact ⟨congrArg (Except.map fun _ => none) hanswer, hhas'⟩
    | get id =>
        obtain ⟨hreply, hsame⟩ := hserver.get s now (recordKey id)
        refine ⟨?_, fun later hlater hlive' =>
          (hsame later hlater).trans (hhas later hlater hlive')⟩
        have hanswer : ((through server).get s now id).1 = read (some (r?.map Stamped.text)) := by
          rw [← hvalue]
          exact congrArg read hreply
        cases r? <;> exact congrArg (Except.map some) hanswer
    | remove id =>
        obtain ⟨hreply, hgone⟩ := hserver.del s now (recordKey id)
        refine ⟨?_, fun later hlater _ => hgone later hlater⟩
        have hanswer : ((through server).remove s now id).1 =
            deleted (some (if (r?.map Stamped.text).isSome then 1 else 0)) := by
          rw [← hvalue]
          exact congrArg deleted hreply
        cases r? <;> exact congrArg (Except.map fun _ => none) hanswer
  others := by
    intro s now call other r? hnow hcall hhas hlive hne
    have hkey : recordKey call.id ≠ recordKey other := fun h => hne (recordKey_injective h)
    have hsame : ∀ command : Command, command.key = recordKey call.id → ∀ later, now ≤ later →
        value? (server now command s).2 later (recordKey other) =
          value? s later (recordKey other) := by
      intro command hcommand
      exact hserver.others s now command _ (hcommand ▸ hkey)
    intro later hlater hlive'
    refine Eq.trans ?_ (hhas later hlater hlive')
    cases call with
    | add id record age =>
        refine hsame (addCommand id record age) ?_ later hlater
        unfold addCommand
        split <;> rfl
    | get id => exact hsame (getCommand id) rfl later hlater
    | remove id => exact hsame (removeCommand id) rfl later hlater

end Redis

/-! ### All three are the map -/

section

variable {m : Dict String} {added : Dict Int} {call : Access} {r? : Option Stamped}

theorem plain_step (now : Int) (h : m.get? call.id = r?.map Stamped.text) :
    (plain.step m now call).1 = answer r? call ∧
      (plain.step m now call).2.get? call.id = (outcome r? now call).map Stamped.text := by
  cases call with
  | add id record age => exact ⟨rfl, Dict.get?_set_self⟩
  | get id =>
      dsimp only [Directory.Access.id] at h ⊢
      cases r? <;> simp [Operations.step, plain, answer, outcome, Except.map, h]
  | remove id =>
      dsimp only [Directory.Access.id] at h ⊢
      cases r? <;> simp [Operations.step, plain, answer, outcome, Except.map, Fields.contains, h]

theorem plain_step_of_ne {other : String} (hne : call.id ≠ other) :
    (plain.step m now call).2.get? other = m.get? other := by
  cases call with
  | add id record age => exact Dict.get?_set_of_ne (Ne.symm hne)
  | get id =>
      simp only [Operations.step, plain]
      split <;> rfl
  | remove id =>
      simp only [Operations.step, plain]
      split
      · exact Fields.get?_erase_of_ne (Ne.symm hne)
      · rfl

theorem get?_stamp (h : added.get? call.id = r?.map Stamped.added) :
    (stamp added now call).get? call.id = (outcome r? now call).map Stamped.added := by
  cases call with
  | add id record age => exact Dict.get?_set_self
  | get id => exact h
  | remove id => exact Fields.get?_erase_self

theorem get?_stamp_of_ne {other : String} (hne : call.id ≠ other) :
    (stamp added now call).get? other = added.get? other := by
  cases call with
  | add id record age => exact Dict.get?_set_of_ne (Ne.symm hne)
  | get id => rfl
  | remove id => exact Fields.get?_erase_of_ne (Ne.symm hne)

end

/-- **A store that simulates the map answers as it does**, call by call. -/
theorem answers_of_simulates {σ : Type} {o : Operations σ}
    {has : σ → (first : Int) → (id : String) → Option Stamped → Prop} (ho : Simulates o maxAge has)
    {s : σ} {first : Int} {m : Dict String} {added : Dict Int} (r? : String → Option Stamped)
    (hhas : ∀ id, SessionId.isValid id = true → has s first id (r? id))
    (hm : ∀ id, m.get? id = (r? id).map Stamped.text)
    (hadded : ∀ id, added.get? id = (r? id).map Stamped.added)
    {calls : List (Int × Access)} (hcalls : ∀ call ∈ calls, Told call.1 ∧ Fits maxAge call.2)
    (hfirst : ∀ call ∈ calls, first ≤ call.1) (hclock : calls.Pairwise fun a b => a.1 ≤ b.1)
    (hlive : InTime maxAge added calls) :
    o.answers s calls = plain.answers m calls := by
  induction calls generalizing s first m added r? with
  | nil => rfl
  | cons c more ih =>
      obtain ⟨now, call⟩ := c
      obtain ⟨hnow, hcall⟩ := hcalls _ List.mem_cons_self
      obtain ⟨hclock, hclock'⟩ := List.pairwise_cons.mp hclock
      -- what the call finds is still within its age
      have hthere : ∀ id, Live maxAge now (r? id) := by
        intro id r hr hpositive
        have hid : added.get? id = some r.added := by rw [hadded, hr, Option.map_some]
        exact hlive.1 hpositive (id, r.added) (Fields.mem_toList_iff.mpr hid)
      have hnowHas : ∀ id, SessionId.isValid id = true → has s now id (r? id) :=
        fun id hid => ho.wait (hhas id hid) (hfirst _ List.mem_cons_self)
      have hvalid : SessionId.isValid call.id = true := by
        cases call with
        | add id record age => exact hcall.1
        | get id => exact hcall
        | remove id => exact hcall
      obtain ⟨hanswer, hown⟩ := ho.own hnow hcall (hnowHas _ hvalid) (hthere _)
      obtain ⟨hplain, hget⟩ := plain_step now (hm call.id)
      rw [Operations.answers, Operations.answers, hanswer, hplain]
      congr 1
      -- the store now has what the call makes of its id, and of the others what it had
      refine ih (Function.update r? call.id (outcome (r? call.id) now call)) ?_ ?_ ?_
        (fun call h => hcalls call (List.mem_cons_of_mem _ h)) hclock hclock' hlive.2
      · refine (Function.forall_update_iff r? (p := fun id r? => SessionId.isValid id = true →
          has (o.step s now call).2 now id r?)).mpr ⟨fun _ => hown, fun other hne hother => ?_⟩
        exact ho.others hnow hcall (hnowHas other hother) (hthere other) (Ne.symm hne)
      · refine (Function.forall_update_iff r? (p := fun id r? =>
          (plain.step m now call).2.get? id = r?.map Stamped.text)).mpr ⟨hget, fun other hne => ?_⟩
        exact (plain_step_of_ne (Ne.symm hne)).trans (hm other)
      · refine (Function.forall_update_iff r? (p := fun id r? =>
          (stamp added now call).get? id = r?.map Stamped.added)).mpr ⟨get?_stamp (hadded _), ?_⟩
        exact fun other hne => (get?_stamp_of_ne (Ne.symm hne)).trans (hadded other)

variable {calls : List (Int × Access)}

/-- From when there is no record on, a store that simulates the map answers as the empty map. -/
theorem answers_of_none {σ : Type} {o : Operations σ}
    {has : σ → (first : Int) → (id : String) → Option Stamped → Prop} (ho : Simulates o maxAge has)
    {s : σ} (hnone : ∀ first id, SessionId.isValid id = true → has s first id none)
    (hcalls : ∀ call ∈ calls, Told call.1 ∧ Fits maxAge call.2)
    (hclock : calls.Pairwise fun a b => a.1 ≤ b.1) (hlive : InTime maxAge .empty calls) :
    o.answers s calls = plain.answers .empty calls :=
  answers_of_simulates ho (fun _ => none) (hnone (-0x4000000000000000)) (fun _ => rfl)
    (fun _ => rfl) hcalls (fun call h => Int.le_of_lt (hcalls call h).1.1) hclock hlive

/-- A store on the server of `Records` does as `Records` says. -/
theorem answers_connected {leases : Dict Redis.Lease} {grace? : Option Nat} {refusing : Bool} :
    operations.answers (.redis (.connected leases grace? refusing)) calls =
      (Redis.through (Redis.leasing grace? refusing)).answers leases calls := by
  induction calls generalizing leases with
  | nil => rfl
  | cons c more ih =>
      obtain ⟨now, call⟩ := c
      have hstep : operations.step (.redis (.connected leases grace? refusing)) now call =
          ((Redis.through (Redis.leasing grace? refusing)).step leases now call).map (fun x => x)
            fun leases => .redis (.connected leases grace? refusing) := by
        cases call with
        | add id record age => simp only [Operations.step, Redis.add_connected]; rfl
        | get id => simp only [Operations.step, Redis.get_connected]; rfl
        | remove id => simp only [Operations.step, Redis.remove_connected]; rfl
      rw [Operations.answers, Operations.answers, hstep]
      exact congrArg _ ih

/-- **All kinds of records are one map.** Within the life of their records, a store in memory, in a
directory that has no records yet, or on any server that obeys, answers as a map from ids to texts
does. -/
theorem answers_eq_plain (hcalls : ∀ call ∈ calls, Told call.1 ∧ Fits maxAge call.2)
    (hclock : calls.Pairwise fun a b => a.1 ≤ b.1) (hlive : InTime maxAge .empty calls) :
    operations.answers (.memory {}) calls = plain.answers .empty calls ∧
    (∀ entries : Dict Directory.Entry,
      (∀ f ∈ entries.toList, Directory.isRecordName f.1 = false) →
        operations.answers (.directory ⟨some entries⟩) calls = plain.answers .empty calls) ∧
    (∀ (leases : Dict Redis.Lease) (grace? : Option Nat),
      (∀ id, leases.get? (Redis.recordKey id) = none) →
        operations.answers (.redis (.connected leases grace? false)) calls =
          plain.answers .empty calls) ∧
    ∀ (σ : Type) (server : Redis.Server σ) (value? : σ → Int → String → Option String) (s : σ),
      Redis.Obeys server maxAge value? →
      (∀ now id, value? s now (Redis.recordKey id) = none) →
        (Redis.through server).answers s calls = plain.answers .empty calls := by
  have hserver : ∀ (σ : Type) (server : Redis.Server σ)
      (value? : σ → Int → String → Option String) (s : σ), Redis.Obeys server maxAge value? →
      (∀ now id, value? s now (Redis.recordKey id) = none) →
        (Redis.through server).answers s calls = plain.answers .empty calls := by
    intro σ server value? s hobeys hvalues
    exact answers_of_none (Redis.simulates hobeys) (fun _ id _ now _ _ => hvalues now id)
      hcalls hclock hlive
  refine ⟨?_, ?_, ?_, hserver⟩
  · exact answers_of_none Memory.simulates (fun _ _ _ => ⟨{}, rfl, rfl, fun _ hr => nomatch hr⟩)
      hcalls hclock hlive
  · intro entries hentries
    refine answers_of_none Directory.simulates (fun _ id _ => ⟨_, rfl, rfl, ?_⟩)
      hcalls hclock hlive
    -- no entry has the name of a record, so there is no file of the id
    cases hentry : entries.get? (Directory.fileName id) with
    | none => simp [Directory.found?, hentry, Directory.IsFileOf]
    | some entry =>
        have hmem : (Directory.fileName id, entry) ∈ entries.toList :=
          Fields.mem_toList_iff.mpr hentry
        have hname := hentries _ hmem
        rw [Directory.isRecordName_fileName] at hname
        cases hname
  · intro leases grace? hleases
    rw [answers_connected]
    exact hserver _ _ _ leases Redis.obeys_leasing fun now id => by
      rw [Redis.value?, hleases]

/-- Records that live for a minute, on a server that forgets them after it. -/
theorem answers_in_a_minute :
    let calls : List (Int × Access) :=
      [(0, .add "aaa111" "one" 60), (1000, .add "bbb222" "two" 60), (59000, .get "aaa111"),
        (59500, .remove "aaa111"), (60500, .get "aaa111"), (60500, .get "bbb222")]
    let answers := [.ok none, .ok none, .ok (some "one"), .ok none, .error .noSession,
      .ok (some "two")]
    operations.answers (.memory {}) calls = answers ∧
      operations.answers (.directory {}) calls = answers ∧
      operations.answers (.redis (.connected .empty (some 0) false)) calls = answers := by
  intro calls answers
  have hcalls : ∀ call ∈ calls, Told call.1 ∧ Fits 60 call.2 := by decide
  have hclock : calls.Pairwise fun a b => a.1 ≤ b.1 := by decide
  have hlive : InTime 60 .empty calls := by decide
  obtain ⟨hmemory, hdirectory, hserver, -⟩ := answers_eq_plain hcalls hclock hlive
  have hplain : plain.answers .empty calls = answers := rfl
  refine ⟨hmemory.trans hplain, ?_, ?_⟩
  · exact (hdirectory .empty fun _ h => nomatch h).trans hplain
  · exact (hserver .empty (some 0) fun _ => rfl).trans hplain

end WebSession.Records
