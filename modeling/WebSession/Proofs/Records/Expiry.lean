import WebSession.Proofs.Records.PlainMap

/-!
# WebSession.Proofs.Records.Expiry

**When a record in memory is read** (`Memory.expiry_is_exact`): from when it was added to its
deadline, as long as its id is neither added again nor removed.

Records past their deadline are hidden when they are read, and dropped when another one is added. So
what is in memory is not what can be read. What can be read of an id is told by the last call that
changed its record (`Memory.told`), and each call keeps this up (`Memory.get_step`). Dropping never
shows: where nothing is dropped the same is read (`Memory.sameFrom_run`), though there may be more
to remove.
-/

namespace WebSession

/-- The number of sixty-four bits with a sign that is nearest. -/
def Range.saturated (n : Int) : Int := max minInt64 (min maxInt64 n)

theorem Range.isInt64_saturated (n : Int) : isInt64 (saturated n) = true := by
  rw [isInt64_iff]
  unfold saturated maxInt64 minInt64
  omega

namespace Records

open Directory (Access)

/-- A store after some calls, each at its millisecond. -/
def Operations.run {σ : Type} (o : Operations σ) : σ → List (Int × Access) → σ
  | s, [] => s
  | s, (now, call) :: more => o.run (o.step s now call).2 more

namespace Memory

/-! ### Operations that drop records or do not -/

/-- The operations on records in memory. -/
def operations : Operations Memory where
  add m now id record maxAge := (.ok (), m.add now id record maxAge)
  get m now id := (m.get now id, m)
  remove m _ id := m.remove id

/-- The operations where adding a record drops none. -/
def hoarding : Operations Memory where
  add m now id record maxAge := (.ok (), ⟨m.records.set id ⟨record, deadline? now maxAge⟩⟩)
  get m now id := (m.get now id, m)
  remove m _ id := m.remove id

/-! ### The last change -/

/-- The last call that changed the record of an id, of some calls with their answers. -/
def lastChange? (id : String) (history : List ((Int × Access) × Except Error (Option String))) :
    Option (Int × Access) :=
  ((history.filter fun h => h.1.2.changes id && h.2.isOk).getLast?).map Prod.fst

/-- What is read at a moment after the last change of a record. -/
def told (now : Int) : Option (Int × Access) → Except Error String
  | some (t, .add _ record maxAge) =>
    if maxAge ≤ 0 ∨ now < min lastMoment (t + min lastMoment (1000 * maxAge)) then .ok record
    else .error .noSession
  | _ => .error .noSession

theorem lastChange?_cons (id : String) (call : Int × Access) (answer : Except Error (Option String))
    (more : List ((Int × Access) × Except Error (Option String))) :
    lastChange? id ((call, answer) :: more) =
      (lastChange? id more).or (if call.2.changes id && answer.isOk then some call else none) := by
  unfold lastChange?
  rw [List.filter_cons]
  split
  · rename_i hchanges
    rw [List.getLast?_cons]
    cases (more.filter fun h => h.1.2.changes id && h.2.isOk).getLast? <;> rfl
  · simp

theorem changes_of_lastChange? {id : String} {t : Int} {call : Access}
    {history : List ((Int × Access) × Except Error (Option String))}
    (h : lastChange? id history = some (t, call)) : call.changes id = true := by
  obtain ⟨⟨change, answer⟩, hlast, rfl⟩ := Option.map_eq_some_iff.mp h
  have hmem := List.mem_of_getLast? hlast
  rw [List.mem_filter, Bool.and_eq_true] at hmem
  exact hmem.2.1

theorem told_error {now : Int} {change? : Option (Int × Access)} {e : Error}
    (h : told now change? = .error e) : e = .noSession := by
  unfold told at h
  split at h
  · split at h <;> cases h
    rfl
  · cases h
    rfl

/-- A record is read if the last change added it and its deadline has not come. -/
theorem told_lastChange?_iff {now : Int} {id record : String}
    {history : List ((Int × Access) × Except Error (Option String))} :
    told now (lastChange? id history) = .ok record ↔
      ∃ t maxAge, lastChange? id history = some (t, .add id record maxAge) ∧
        (maxAge ≤ 0 ∨ now < min lastMoment (t + min lastMoment (1000 * maxAge))) := by
  constructor
  · intro h
    unfold told at h
    split at h
    · rename_i t id' record' maxAge hlast
      have hid : id' = id := of_decide_eq_true (changes_of_lastChange? hlast)
      subst hid
      split at h
      · rename_i hlive
        cases h
        exact ⟨t, maxAge, hlast, hlive⟩
      · cases h
    · cases h
  · rintro ⟨t, maxAge, hlast, hlive⟩
    rw [hlast, told, if_pos hlive]

/-! ### One call -/

variable {m m' : Memory} {now later maxAge : Int} {id record : String} {call : Access}

/-- A record that was just added is read until its deadline. -/
theorem get_add_eq_told (m : Memory) (now later : Int) (id record : String) (maxAge : Int) :
    (m.add now id record maxAge).get later id = told later (some (now, .add id record maxAge)) := by
  rw [get, add, Dict.get?_set_self, told]
  unfold Record.isExpired deadline?
  by_cases hpositive : 0 < maxAge
  · simp only [if_pos hpositive, decide_eq_true_eq]
    split <;> split <;> first | rfl | omega
  · simp [if_neg hpositive, Int.not_lt.mp hpositive]

/-- **What is read of an id after a call** is told by the call if it changed the record, and else by
the last change before. -/
theorem get_step {change? : Option (Int × Access)}
    (h : ∀ later, now ≤ later → m.get later id = told later change?) (hle : now ≤ later) :
    (operations.step m now call).2.get later id =
      told later ((if call.changes id && (operations.step m now call).1.isOk then some (now, call)
        else none).or change?) := by
  cases call with
  | add id' record maxAge =>
      by_cases hid : id' = id
      · subst hid
        simpa [operations, Operations.step, Access.changes, Except.map, Except.isOk, Except.toBool]
          using get_add_eq_told m now later id' record maxAge
      · have hchanges : (Access.add id' record maxAge).changes id = false := decide_eq_false hid
        rw [hchanges]
        exact (get_add_of_ne (Ne.symm hid) hle).trans (h later hle)
  | get id' => exact h later hle
  | remove id' =>
      by_cases hid : id' = id
      · subst hid
        cases hthere : m.records.contains id' with
        | true =>
            have hstep : operations.step m now (.remove id') =
                (.ok none, ⟨m.records.erase id'⟩) := by
              simp [operations, Operations.step, Memory.remove, hthere, Except.map]
            have hnone : Memory.get ⟨m.records.erase id'⟩ later id' = .error .noSession := by
              simp [Memory.get, Fields.get?_erase_self]
            rw [hstep, hnone]
            simp [Access.changes, Except.isOk, Except.toBool, told]
        | false =>
            -- a removal that fails is no change, and what was told before is told still
            have hstep : operations.step m now (.remove id') = (.error .noSession, m) := by
              simp [operations, Operations.step, Memory.remove, hthere, Except.map]
            rw [hstep]
            simpa [Except.isOk, Except.toBool] using h later hle
      · have hchanges : (Access.remove id').changes id = false := decide_eq_false hid
        rw [hchanges]
        exact (get_remove_of_ne (Ne.symm hid)).trans (h later hle)

/-! ### A run -/

/-- Before moments that do not go back there is one to start from. -/
theorem exists_first {times : List Int} (h : times.Pairwise (· ≤ ·)) :
    ∃ first, (first :: times).Pairwise (· ≤ ·) := by
  cases times with
  | nil => exact ⟨0, List.pairwise_singleton _ _⟩
  | cons t more =>
      refine ⟨t, List.pairwise_cons.mpr ⟨fun t' ht' => ?_, h⟩⟩
      obtain rfl | hmem := List.mem_cons.mp ht'
      · exact Int.le_refl _
      · exact (List.pairwise_cons.mp h).1 t' hmem

/-- **What is read of an id after a run** is told by the last change in the run, and where there is
none by the last change before it. -/
theorem get_run {change? : Option (Int × Access)} {calls : List (Int × Access)} {first : Int}
    (h : ∀ later, first ≤ later → m.get later id = told later change?)
    (htimes : (first :: calls.map Prod.fst ++ [now]).Pairwise (· ≤ ·)) :
    (operations.run m calls).get now id =
      told now ((lastChange? id (calls.zip (operations.answers m calls))).or change?) := by
  induction calls generalizing m change? first with
  | nil => exact h now (by simpa using htimes)
  | cons c more ih =>
      obtain ⟨t, call⟩ := c
      obtain ⟨hfirst, hmore⟩ := List.pairwise_cons.mp htimes
      have hstep : ∀ later, t ≤ later → (operations.step m t call).2.get later id = told later
          ((if call.changes id && (operations.step m t call).1.isOk then some (t, call)
            else none).or change?) := by
        have hle : first ≤ t := hfirst t List.mem_cons_self
        exact fun later => get_step fun later hlater => h later (Int.le_trans hle hlater)
      rw [Operations.run, ih hstep hmore, Operations.answers, List.zip_cons_cons,
        lastChange?_cons, Option.or_assoc]

/-! ### Dropping records -/

/-- From a moment on, the same is read in both. -/
def SameFrom (now : Int) (m m' : Memory) : Prop :=
  ∀ later, now ≤ later → ∀ id, m.get later id = m'.get later id

/-- **Dropping records at an addition does not show**, neither then nor later. -/
theorem sameFrom_step (h : SameFrom now m m') (call : Access) :
    SameFrom now (operations.step m now call).2 (hoarding.step m' now call).2 := by
  intro later hle id
  cases call with
  | add id' record maxAge =>
      by_cases hid : id = id'
      · subst hid
        simp [operations, hoarding, Operations.step, add, get]
      · refine (get_add_of_ne hid hle).trans ((h later hle id).trans ?_)
        simp [hoarding, Operations.step, get, Dict.get?_set_of_ne hid]
  | get id' => exact h later hle id
  | remove id' =>
      -- the answers may differ, but there is no record afterwards in either
      by_cases hid : id = id'
      · subst hid
        exact get_remove_self.trans get_remove_self.symm
      · exact (get_remove_of_ne hid).trans ((h later hle id).trans (get_remove_of_ne hid).symm)

theorem sameFrom_run {calls : List (Int × Access)} {first : Int} (h : SameFrom first m m')
    (htimes : (first :: calls.map Prod.fst ++ [now]).Pairwise (· ≤ ·)) :
    SameFrom now (operations.run m calls) (hoarding.run m' calls) := by
  induction calls generalizing m m' first with
  | nil =>
      have hle : first ≤ now := by simpa using htimes
      exact fun later hlater => h later (Int.le_trans hle hlater)
  | cons c more ih =>
      obtain ⟨t, call⟩ := c
      obtain ⟨hfirst, hmore⟩ := List.pairwise_cons.mp htimes
      have hle : first ≤ t := hfirst t List.mem_cons_self
      exact ih (sameFrom_step (fun later hlater => h later (Int.le_trans hle hlater)) call) hmore

/-- What is in memory after an addition is not past its deadline, unless it is what was added and
the clock shows its last moment. -/
theorem isExpired_of_mem_add {f : String × Record}
    (hf : f ∈ (m.add now id record maxAge).records.toList)
    (hnow : f.1 ≠ id ∨ now < lastMoment) : f.2.isExpired now = false := by
  obtain ⟨key, r⟩ := f
  have hget := Fields.mem_toList_iff.mp hf
  by_cases hid : key = id
  · have hlate : now < lastMoment := hnow.resolve_left (not_not_intro hid)
    rw [add, hid, Dict.get?_set_self] at hget
    cases hget
    unfold Record.isExpired deadline?
    by_cases hpositive : 0 < maxAge
    · simp only [if_pos hpositive, decide_eq_false_iff_not]
      unfold lastMoment Range.maxInt64 at *
      omega
    · simp [if_neg hpositive]
  · rw [add, Dict.get?_set_of_ne hid, prune, Dict.ofList_filter, Fields.get?_filter,
      Option.filter_eq_some_iff] at hget
    simpa using hget.2

/-! ### Deadlines of sixty-four bits -/

/-- **No deadline is too great**: both steps from an age to it stop at the greatest number. -/
theorem deadline?_eq_saturated (hnow : Range.isInt64 now = true) :
    deadline? now maxAge =
      if 0 < maxAge then some (Range.saturated (now + Range.saturated (1000 * maxAge)))
      else none := by
  rw [Range.isInt64_iff] at hnow
  unfold deadline? Range.saturated lastMoment
  by_cases hpositive : 0 < maxAge
  · simp only [if_pos hpositive, Option.some.injEq]
    unfold Range.maxInt64 Range.minInt64 at *
    omega
  · rw [if_neg hpositive, if_neg hpositive]

/-- The deadline of each record in memory fits sixty-four bits. -/
def Fitting (m : Memory) : Prop :=
  ∀ id r t, m.records.get? id = some r → r.deadline? = some t → Range.isInt64 t = true

theorem fitting_step (h : m.Fitting) (hnow : Range.isInt64 now = true) (call : Access) :
    (operations.step m now call).2.Fitting := by
  intro id r t hget hdeadline
  cases call with
  | add id' record maxAge =>
      change ((m.prune now).records.set id' _).get? id = some r at hget
      by_cases hid : id = id'
      · rw [hid, Dict.get?_set_self] at hget
        cases hget
        rw [deadline?_eq_saturated hnow] at hdeadline
        split at hdeadline <;> cases hdeadline
        exact Range.isInt64_saturated _
      · rw [Dict.get?_set_of_ne hid, prune, Dict.ofList_filter, Fields.get?_filter,
          Option.filter_eq_some_iff] at hget
        exact h id r t hget.1 hdeadline
  | get id' => exact h id r t hget hdeadline
  | remove id' =>
      change (m.remove id').2.records.get? id = some r at hget
      unfold remove at hget
      split at hget
      · by_cases hid : id = id'
        · rw [hid, Fields.get?_erase_self] at hget
          cases hget
        · rw [Fields.get?_erase_of_ne hid] at hget
          exact h id r t hget hdeadline
      · exact h id r t hget hdeadline

theorem fitting_run {calls : List (Int × Access)} (h : m.Fitting)
    (hcalls : ∀ call ∈ calls, Range.isInt64 call.1 = true) : (operations.run m calls).Fitting := by
  induction calls generalizing m with
  | nil => exact h
  | cons c more ih =>
      exact ih (fitting_step h (hcalls c List.mem_cons_self) c.2)
        fun call hcall => hcalls call (List.mem_cons_of_mem _ hcall)

/-! ### From the empty store -/

/-- **A record is read exactly until its deadline.** After any calls from the empty store, at
moments that do not go back:

* a text is read of an id exactly if the last call that changed the record of the id added the text,
  and without an age or before its deadline; else there is no session;
* so it is where nothing is ever dropped;
* what is in memory after an addition is not past its deadline, but for what is added at the last
  moment of all;
* every deadline fits sixty-four bits, and is the sum that stops at the greatest number there is. -/
theorem expiry_is_exact (calls : List (Int × Access)) (now : Int)
    (htimes : (calls.map Prod.fst ++ [now]).Pairwise (· ≤ ·)) :
    (∀ id record, (operations.run {} calls).get now id = .ok record ↔
      ∃ t maxAge,
        lastChange? id (calls.zip (operations.answers {} calls)) = some (t, .add id record maxAge) ∧
          (maxAge ≤ 0 ∨ now < min lastMoment (t + min lastMoment (1000 * maxAge)))) ∧
    (∀ id e, (operations.run {} calls).get now id = .error e → e = .noSession) ∧
    (∀ id, (operations.run {} calls).get now id = (hoarding.run {} calls).get now id) ∧
    (∀ id record maxAge, ∀ f ∈ ((operations.run {} calls).add now id record maxAge).records.toList,
      f.1 ≠ id ∨ now < lastMoment → f.2.isExpired now = false) ∧
    ((∀ call ∈ calls, Range.isInt64 call.1 = true) → (operations.run {} calls).Fitting) ∧
    (Range.isInt64 now = true → ∀ maxAge, deadline? now maxAge =
      if 0 < maxAge then some (Range.saturated (now + Range.saturated (1000 * maxAge)))
      else none) := by
  obtain ⟨first, htimes⟩ := exists_first htimes
  have htold : ∀ id, (operations.run {} calls).get now id =
      told now (lastChange? id (calls.zip (operations.answers {} calls))) := by
    intro id
    have hnone : ∀ later, first ≤ later → Memory.get {} later id = told later none := fun _ _ => rfl
    rw [get_run hnone htimes, Option.or_none]
  have hempty : Memory.Fitting {} := fun _ _ _ hget => nomatch hget
  refine ⟨fun id record => ?_, fun id e he => ?_, fun id => ?_,
    fun _ _ _ _ => isExpired_of_mem_add, fitting_run hempty,
    fun hnow _ => deadline?_eq_saturated hnow⟩
  · rw [htold]
    exact told_lastChange?_iff
  · exact told_error ((htold id).symm.trans he)
  · exact sameFrom_run (fun _ _ _ => rfl) htimes now (Int.le_refl now) id

/-- A record of a minute at its last moment and just after it, and one without an age. -/
theorem read_until_minute_is_over :
    let calls : List (Int × Access) :=
      [(0, .add "a" "one" 60), (30000, .add "b" "two" 0), (30000, .add "c" "three" 1),
        (40000, .remove "c")]
    (operations.run {} calls).get 59999 "a" = .ok "one" ∧
      (operations.run {} calls).get 60000 "a" = .error .noSession ∧
      (operations.run {} calls).get 60000 "b" = .ok "two" := by
  intro calls
  obtain ⟨hbefore, -⟩ := expiry_is_exact calls 59999 (by decide)
  obtain ⟨hafter, herror, -⟩ := expiry_is_exact calls 60000 (by decide)
  refine ⟨(hbefore "a" "one").mpr ⟨0, 60, by rfl, by decide⟩, ?_,
    (hafter "b" "two").mpr ⟨30000, 0, by rfl, by decide⟩⟩
  cases hget : (operations.run {} calls).get 60000 "a" with
  | ok record =>
      obtain ⟨t, maxAge, hlast, hlive⟩ := (hafter "a" record).mp hget
      cases hlast
      exact absurd hlive (by decide)
  | error e => rw [herror "a" e hget]

end Memory

end Records

end WebSession
