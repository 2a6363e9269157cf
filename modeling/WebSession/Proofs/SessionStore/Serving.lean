import WebSession.Proofs.SessionStore.Calls
import WebSession.Proofs.SessionStore.Reload

/-!
# WebSession.Proofs.SessionStore.Serving

**In a world that serves a store no save fails** (`exists_run_save_of_serves`): there are random
octets, and nothing stands in the way of the calls for the record of the session.

Nothing ever does where the records are in memory (`World.succeeds_of_inMemory`,
`World.InMemory.serves`).
-/

namespace WebSession

open Plan

/-! ### The calls of a store -/

namespace SessionStore

/-- The call is for random octets or for a record of the store. -/
def Owns (s : SessionStore) : Call → Prop
  | .random _ => True
  | .add records _ _ _ => s.kind = .serverSide records
  | .get records _ => s.kind = .serverSide records
  | .remove records _ => s.kind = .serverSide records

variable (s : SessionStore) (jar : Cookie.Jar) (key : String) (now : Int) (info : SessionInfo)

theorem owns_of_quiet {α : Type} {good : α → Prop} {p : Plan α} (h : p.Quiet good) :
    p.Makes s.Owns := h.makes fun _ => trivial

theorem owns_load : (s.load jar key now).Makes s.Owns := by
  refine (s.makes_load jar key now).mono fun call hcall => ?_
  cases hcall
  assumption

theorem SaveCall.owns {s : SessionStore} {info : SessionInfo} {call : Call}
    (h : s.SaveCall info call) : s.Owns call := by
  cases h with
  | random count => trivial
  | add hk => exact hk
  | remove hk => exact hk

theorem owns_save : (s.save jar key now info).run.Makes s.Owns :=
  (s.makes_save jar key now info).mono fun _ => SaveCall.owns

/-- Loading changes nothing in the world. -/
theorem run_load_snd (w : World) : ((s.load jar key now).run World.respond w).2 = w := by
  have hcalls : ∀ call w', s.LoadCall jar key now call → w' = w →
      (World.respond call w').2 = w := by
    rintro call w' hcall rfl
    cases hcall
    exact World.respond_get_eq ..
  exact (s.makes_load jar key now).run hcalls rfl

end SessionStore

/-! ### Records in memory -/

/-- The records of a store are in memory. A store that keeps sessions in cookies has none. -/
def World.InMemory (s : SessionStore) (w : World) : Prop :=
  ∀ records, s.kind = .serverSide records → ∃ m, w.records.get? records = some (.memory m)

/-- **What is in memory can be had**, and stays there. -/
theorem World.succeeds_of_inMemory {s : SessionStore} (call : Call) (w : World)
    (hcall : s.Owns call) (hw : w.InMemory s) :
    call.Succeeds (World.respond call w).1 ∧ (World.respond call w).2.InMemory s := by
  -- writing to memory leaves the records in memory
  have hset : ∀ records m, s.kind = .serverSide records →
      (w.withRecords records (.memory m)).InMemory s := by
    intro records m hk records' hk'
    rw [hk] at hk'
    cases hk'
    exact ⟨m, Dict.get?_set_self⟩
  cases call with
  | random count => exact ⟨trivial, hw⟩
  | add records id record maxAge =>
      obtain ⟨m, hm⟩ := hw records hcall
      rw [respond_add_of_some hm]
      exact ⟨rfl, hset _ _ hcall⟩
  | get records id =>
      obtain ⟨m, hm⟩ := hw records hcall
      simp only [World.respond, hm]
      refine ⟨?_, hw⟩
      intro e he
      simp only [Records.get, Records.Memory.get] at he
      split at he
      · split at he <;> cases he
        rfl
      · cases he
        rfl
  | remove records id =>
      obtain ⟨m, hm⟩ := hw records hcall
      rw [respond_remove_of_some hm]
      exact ⟨m.remove_succeeds id, hset _ _ hcall⟩

/-! ### Saving -/

/-- The world has random octets for a store, and records for a session that is kept there. -/
structure World.Serves (w : World) (s : SessionStore) (d : SessionData) : Prop where
  supplied : w.entropy.broken = false
  works : ∀ records, s.kind = .serverSide records →
    ∃ id, SessionId.isValid id = true ∧ d.id? = some id ∧ w.Works records id

/-- Random octets are all that is wanted beside records in memory. -/
theorem World.InMemory.serves {s : SessionStore} {w : World} (h : w.InMemory s)
    (hw : w.entropy.broken = false) {id : String} {d : SessionData} (hid : d.id? = some id)
    (hvalid : SessionId.isValid id = true) : w.Serves s d where
  supplied := hw
  works := by
    intro records hk
    obtain ⟨m, hm⟩ := h records hk
    exact ⟨id, hvalid, hid, hw, _, hm, trivial⟩

namespace SessionStore

variable {s : SessionStore} {info : SessionInfo} {w : World}

/-- What saving a session calls for is there, and stays there. -/
theorem SaveCall.succeeds {call : Call} (hcall : s.SaveCall info call)
    (hw : w.Serves s info.data) :
    call.Succeeds (World.respond call w).1 ∧ (World.respond call w).2.Serves s info.data := by
  have hsame : ∀ {records id records' : String}, s.kind = .serverSide records →
      info.data.id? = some id → s.kind = .serverSide records' → records' = records := by
    intro records id records' hk _ hk'
    rw [hk] at hk'
    cases hk'
    rfl
  cases hcall with
  | random count =>
      refine ⟨trivial, World.supplies.keeps w count hw.supplied, fun records hk => ?_⟩
      obtain ⟨id, hvalid, hid, hworks⟩ := hw.works records hk
      exact ⟨id, hvalid, hid, World.supplies.keeps w count hworks.supplied, hworks.works⟩
  | @add records id text hk hid hvalid =>
      obtain ⟨id', -, hid', hworks⟩ := hw.works records hk
      rw [hid] at hid'
      cases hid'
      obtain ⟨r, hstore, hr⟩ := hworks.works
      obtain ⟨hadded, hr'⟩ := Records.works_add hvalid hr w.now info.config.maxAge text
      rw [World.respond_add_of_some hstore]
      refine ⟨hadded, hw.supplied, fun records' hk' => ?_⟩
      rw [hsame hk hid hk']
      exact ⟨id, hvalid, hid, hworks.withRecords hr'⟩
  | @remove records id hk hid hvalid =>
      obtain ⟨id', -, hid', hworks⟩ := hw.works records hk
      rw [hid] at hid'
      cases hid'
      obtain ⟨r, hstore, hr⟩ := hworks.works
      obtain ⟨hremoved, hr'⟩ := Records.works_remove hvalid hr w.now
      rw [World.respond_remove_of_some hstore]
      refine ⟨hremoved, hw.supplied, fun records' hk' => ?_⟩
      rw [hsame hk hid hk']
      exact ⟨id, hvalid, hid, hworks.withRecords hr'⟩

/-- **In a store that works a session is stored** and can be stored again. -/
theorem exists_run_save_of_serves {pairs : List KeyPair} (h : s.Keyed pairs) (info : SessionInfo)
    (hw : w.Serves s info.data) (hd : info.data.Representable) (hage : 0 ≤ info.config.maxAge)
    (jar : Cookie.Jar) (key : String) :
    ∃ text w', (s.save jar key (w.now / 1000) info).run.run World.respond w =
        (.ok (jar.add (Cookie.ofSession key text info.config)), w') ∧
      s.Stored key info.config.maxAge w.now info.data text w' ∧ w'.Serves s info.data := by
  have hok : ∀ call (w : World), s.SaveCall info call → w.Serves s info.data →
      call.Succeeds (World.respond call w).1 ∧ (World.respond call w).2.Serves s info.data :=
    fun _ _ hcall hw => hcall.succeeds hw
  obtain ⟨hunfailing, hserves⟩ := (s.makes_save jar key (w.now / 1000) info).unfailing hok hw
  have hkeeps : s.Keeps info.config.maxAge info := by
    refine ⟨hd, fun hkind => ?_, fun _ => Or.inl ⟨rfl, hage⟩⟩
    cases hk : s.kind with
    | cookie => exact absurd hk hkind
    | serverSide records =>
        obtain ⟨id, hvalid, hid, -⟩ := hw.works records hk
        exact ⟨id, hvalid, hid⟩
  obtain ⟨text, w', hsave, hstored⟩ := exists_run_save_stored h hw.supplied jar hkeeps hunfailing
  rw [hsave] at hserves
  exact ⟨text, w', hsave, hstored, hserves⟩

end SessionStore

end WebSession
