import WebSession.Proofs.Records.Others
import WebSession.Proofs.SessionStore.Serving

/-!
# WebSession.Proofs.Plan.Coupled

**Two plans that differ in what they draw** (`Plan.Coupled`), and in the texts that are made of it.
Run in two worlds whose records tell the same under some ids, they have related results and leave
such worlds behind (`Coupled.run`).

What is told of records is a matter of the future: two worlds are alike from a moment on
(`View.Alike`). So one of them may have dropped what the other still holds past its deadline, and
calls for the records of other ids make no difference (`View.Alike.run_left`).
-/

namespace WebSession

/-- What is looked at in the records of a store. -/
structure View where
  /-- The name of the store. -/
  store : String
  /-- The ids under which one looks. -/
  ids : String → Prop
  /-- Two texts of records tell the same. -/
  same : String → String → Prop

/-- Two answers tell the same: both are records that do, or there is none. -/
def View.Tells (v : View) : Except Error String → Except Error String → Prop
  | .ok text, .ok text' => v.same text text'
  | .error _, .error _ => True
  | _, _ => False

namespace Plan

variable {α α' β β' : Type}

/-- Two plans draw what they like, and make the same calls for the records in view, with texts that
tell the same. If these succeed, the results are related in the end. -/
inductive Coupled (v : View) (related : α → α' → Prop) : Plan α → Plan α' → Prop where
  /-- Both plans are done. -/
  | done {a : α} {a' : α'} : related a a' → Coupled v related (.done a) (.done a')
  /-- The first draws and goes on. -/
  | drawLeft {count : Nat} {next : Option (Vector UInt8 count) → Plan α} {p' : Plan α'} :
      (∀ octets, Coupled v related (next (some octets)) p') →
      Coupled v related (.ask (.random count) next) p'
  /-- The second draws and goes on. -/
  | drawRight {count : Nat} {next' : Option (Vector UInt8 count) → Plan α'} {p : Plan α} :
      (∀ octets, Coupled v related p (next' (some octets))) →
      Coupled v related p (.ask (.random count) next')
  /-- Both read the record of an id. -/
  | get {id : String} {next : Except Error String → Plan α} {next' : Except Error String → Plan α'} :
      v.ids id →
      (∀ record record', v.Tells record record' → Coupled v related (next record) (next' record')) →
      Coupled v related (.ask (.get v.store id) next) (.ask (.get v.store id) next')
  /-- Both write the record of an id, of the same age. -/
  | add {id text text' : String} {maxAge : Int} {next : Except Error Unit → Plan α}
      {next' : Except Error Unit → Plan α'} :
      v.ids id → v.same text text' → Coupled v related (next (.ok ())) (next' (.ok ())) →
      Coupled v related (.ask (.add v.store id text maxAge) next)
        (.ask (.add v.store id text' maxAge) next')
  /-- Both remove the record of an id, and it may be there for one of them alone. -/
  | remove {id : String} {next : Except Error Unit → Plan α} {next' : Except Error Unit → Plan α'} :
      v.ids id →
      (∀ removed removed', (Call.remove v.store id).Succeeds removed →
        (Call.remove v.store id).Succeeds removed' →
          Coupled v related (next removed) (next' removed')) →
      Coupled v related (.ask (.remove v.store id) next) (.ask (.remove v.store id) next')

variable {v : View} {related : α → α' → Prop} {related' : β → β' → Prop} {p : Plan α} {p' : Plan α'}

theorem Coupled.bind {f : α → Plan β} {f' : α' → Plan β'} (h : p.Coupled v related p')
    (hf : ∀ a a', related a a' → (f a).Coupled v related' (f' a')) :
    (p >>= f).Coupled v related' (p' >>= f') := by
  induction h with
  | done ha => exact hf _ _ ha
  | drawLeft _ ih => exact .drawLeft ih
  | drawRight _ ih => exact .drawRight ih
  | get hid _ ih => exact .get hid ih
  | add hid hsame _ ih => exact .add hid hsame ih
  | remove hid _ ih => exact .remove hid ih

/-- Plans that only draw are coupled by what they end with. -/
theorem Draws.coupled {good starved : α → Prop} {good' starved' : α' → Prop}
    (h : p.Draws good starved) (h' : p'.Draws good' starved')
    (hrelated : ∀ a a', good a → good' a' → related a a') : p.Coupled v related p' := by
  induction h with
  | done ha =>
      induction h' with
      | done ha' => exact .done (hrelated _ _ ha ha')
      | draw _ _ ih => exact .drawRight ih
  | draw _ _ ih => exact .drawLeft ih

end Plan

/-! ### Worlds -/

/-- In two worlds octets are given and records are in memory, and from a moment on those in view tell
the same. -/
structure View.Alike (v : View) (now : Int) (w w' : World) : Prop where
  supplied : w.entropy.broken = false
  supplied' : w'.entropy.broken = false
  records : ∃ m m', w.records.get? v.store = some (.memory m) ∧
    w'.records.get? v.store = some (.memory m') ∧
      ∀ id, v.ids id → ∀ later, now ≤ later → v.Tells (m.get later id) (m'.get later id)

namespace View

variable {v : View} {now later : Int} {w w' : World} {id other text text' : String} {maxAge : Int}

theorem Alike.mono (h : v.Alike now w w') (hle : now ≤ later) : v.Alike later w w' where
  supplied := h.supplied
  supplied' := h.supplied'
  records := by
    obtain ⟨m, m', hm, hm', htells⟩ := h.records
    exact ⟨m, m', hm, hm', fun id hid t ht => htells id hid t (Int.le_trans hle ht)⟩

/-- The clocks of the worlds do not matter. -/
theorem Alike.withNow (h : v.Alike now w w') (t t' : Int) :
    v.Alike now (w.withNow t) (w'.withNow t') := ⟨h.supplied, h.supplied', h.records⟩

/-- What was added under one id at one moment tells the same, while it is there. -/
theorem tells_add {m m' : Records.Memory} (h : v.Tells (m.get later other) (m'.get later other))
    (hsame : v.same text text') (hle : now ≤ later) :
    v.Tells ((m.add now id text maxAge).get later other)
      ((m'.add now id text' maxAge).get later other) := by
  by_cases hother : other = id
  · subst hother
    have hget : ∀ (m : Records.Memory) (text : String), (m.add now other text maxAge).get later other =
        if (Records.Memory.deadline? now maxAge).any (· ≤ later) then .error .noSession
        else .ok text := by
      intro m text
      rw [Records.Memory.get, Records.Memory.add, Dict.get?_set_self]
      dsimp only
      rw [Records.Memory.Record.isExpired]
      cases Records.Memory.deadline? now maxAge <;> rfl
    rw [hget, hget]
    split
    · trivial
    · exact hsame
  · rw [Records.Memory.get_add_of_ne hother hle, Records.Memory.get_add_of_ne hother hle]
    exact h

theorem tells_remove {m m' : Records.Memory}
    (h : v.Tells (m.get later other) (m'.get later other)) :
    v.Tells ((m.remove id).2.get later other) ((m'.remove id).2.get later other) := by
  by_cases hother : other = id
  · subst hother
    rw [Records.Memory.get_remove_self, Records.Memory.get_remove_self]
    trivial
  · rw [Records.Memory.get_remove_of_ne hother, Records.Memory.get_remove_of_ne hother]
    exact h

end View

/-! ### Runs -/

namespace Plan

open World

variable {α α' : Type} {v : View} {related : α → α' → Prop} {p : Plan α} {p' : Plan α'} {now : Int}
  {w w' : World}

/-- **Coupled plans** run in worlds that are alike have related results, and leave worlds that are
alike. -/
theorem Coupled.run (h : p.Coupled v related p') (hnow : w.now = now) (hnow' : w'.now = now)
    (hw : v.Alike now w w') :
    related (p.run World.respond w).1 (p'.run World.respond w').1 ∧
      v.Alike now (p.run World.respond w).2 (p'.run World.respond w').2 := by
  induction h generalizing w w' with
  | done ha => exact ⟨ha, hw⟩
  | @drawLeft count next p' _ ih =>
      -- one side draws and the other waits; drawing changes no record
      obtain ⟨octets, hoctets⟩ := World.supplies.random count hw.supplied
      rw [run_ask, hoctets]
      refine ih octets hnow hnow' ⟨?_, hw.supplied', hw.records⟩
      exact World.supplies.keeps w count hw.supplied
  | @drawRight count next' p _ ih =>
      obtain ⟨octets, hoctets⟩ := World.supplies.random count hw.supplied'
      rw [run_ask, hoctets]
      refine ih octets hnow hnow' ⟨hw.supplied, ?_, hw.records⟩
      exact World.supplies.keeps w' count hw.supplied'
  | @get id next next' hid _ ih =>
      obtain ⟨m, m', hm, hm', htells⟩ := hw.records
      -- both read a record that is looked at, and these are read alike
      have hrecord : v.Tells (World.respond (.get v.store id) w).1
          (World.respond (.get v.store id) w').1 := by
        simp only [World.respond, hm, hm']
        rw [hnow, hnow']
        exact htells id hid now (Int.le_refl now)
      rw [run_ask, run_ask, World.respond_get_eq, World.respond_get_eq]
      exact ih _ _ hrecord hnow hnow' hw
  | @add id text text' maxAge next next' _ hsame _ ih =>
      obtain ⟨m, m', hm, hm', htells⟩ := hw.records
      rw [run_ask, run_ask, respond_add_of_some hm, respond_add_of_some hm']
      -- the two texts that are written are read alike, and other records keep what they had
      refine ih hnow hnow' ⟨hw.supplied, hw.supplied', _, _, Dict.get?_set_self, Dict.get?_set_self,
        fun other hother later hlater => ?_⟩
      rw [hnow, hnow']
      exact View.tells_add (htells other hother later hlater) hsame hlater
  | @remove id next next' _ _ ih =>
      obtain ⟨m, m', hm, hm', htells⟩ := hw.records
      rw [run_ask, run_ask, respond_remove_of_some hm, respond_remove_of_some hm']
      refine ih _ _ (m.remove_succeeds id) (m'.remove_succeeds id) hnow hnow' ⟨hw.supplied,
        hw.supplied', _, _, Dict.get?_set_self, Dict.get?_set_self,
        fun other hother later hlater => ?_⟩
      exact View.tells_remove (htells other hother later hlater)

end Plan

namespace View

open World

variable {α : Type} {v : View} {now : Int} {w w' : World}

/-- Records in memory may be replaced in one of the worlds by others that read the same in view. -/
theorem Alike.withRecords_left (h : v.Alike now w w') {store : String} {records changed : Records}
    (hrecords : w.records.get? store = some records)
    (hchanged : ∀ m, records = .memory m → ∃ m₁, changed = .memory m₁ ∧
      ∀ id, v.ids id → ∀ later, now ≤ later → m₁.get later id = m.get later id) :
    v.Alike now (w.withRecords store changed) w' := by
  obtain ⟨m, m', hm, hm', htells⟩ := h.records
  refine ⟨h.supplied, h.supplied', ?_⟩
  by_cases hstore : v.store = store
  · rw [hstore, hrecords] at hm
    cases hm
    obtain ⟨m₁, rfl, hsame⟩ := hchanged m rfl
    refine ⟨m₁, m', ?_, hm', fun id hid later hlater => ?_⟩
    · rw [hstore]
      exact Dict.get?_set_self
    · rw [hsame id hid later hlater]
      exact htells id hid later hlater
  · exact ⟨m, m', (Dict.get?_set_of_ne hstore).trans hm, hm', htells⟩

/-- A call that is about no id in view makes no difference. -/
theorem Alike.respond_left (h : v.Alike now w w') (hnow : w.now = now) {call : Call}
    (hcall : ∀ id, call.id? = some id → ¬ v.ids id) : v.Alike now (World.respond call w).2 w' := by
  cases call with
  | random count => exact ⟨World.supplies.keeps w count h.supplied, h.supplied', h.records⟩
  | get store id =>
      rw [World.respond_get_eq]
      exact h
  | add store id text maxAge =>
      have hne : ∀ other, v.ids other → other ≠ id := by
        rintro other hother rfl
        exact hcall other rfl hother
      cases hstore : w.records.get? store with
      | none =>
          rw [respond_add_of_none hstore]
          exact h
      | some records =>
          rw [respond_add_of_some hstore]
          refine h.withRecords_left hstore ?_
          rintro m rfl
          refine ⟨_, rfl, fun other hother later hlater => ?_⟩
          exact Records.Memory.get_add_of_ne (hne other hother) (hnow ▸ hlater)
  | remove store id =>
      have hne : ∀ other, v.ids other → other ≠ id := by
        rintro other hother rfl
        exact hcall other rfl hother
      cases hstore : w.records.get? store with
      | none =>
          rw [respond_remove_of_none hstore]
          exact h
      | some records =>
          rw [respond_remove_of_some hstore]
          refine h.withRecords_left hstore ?_
          rintro m rfl
          exact ⟨_, rfl, fun other hother later _ => Records.Memory.get_remove_of_ne (hne other hother)⟩

/-- **A run that keeps out of view** makes no difference. -/
theorem Alike.run_left {p : Plan α} (h : v.Alike now w w') (hnow : w.now = now)
    (hcalls : ∀ call ∈ p.trace World.respond w, ∀ id, call.id? = some id → ¬ v.ids id) :
    v.Alike now (p.run World.respond w).2 w' := by
  induction p generalizing w with
  | done a => exact h
  | ask call next ih =>
      have hfirst := h.respond_left hnow (hcalls call List.mem_cons_self)
      refine ih _ hfirst ((World.follows_respond call w).now_eq.trans hnow) ?_
      exact fun call' hcall' => hcalls call' (List.mem_cons_of_mem _ hcall')

end View

end WebSession
