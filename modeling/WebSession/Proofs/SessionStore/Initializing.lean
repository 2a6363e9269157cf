import WebSession.Proofs.Records.Conditions
import WebSession.Proofs.SessionStore.Operations
import WebSession.Proofs.SessionStore.SavedText

/-!
# WebSession.Proofs.SessionStore.Initializing

**Initializing a session over and over** (`init_tried_again`). As long as no id can be made an
attempt changes nothing. The first id that is made stays with the session, whether or not it could
be written, and from then on every attempt succeeds without doing anything.

So what could not be written is not made up for by trying again: the later attempts succeed, and no
cookie is set (`second_init_sets_no_cookie`). Nothing is recorded by an attempt that fails
(`records_of_save_failed`).
-/

namespace WebSession

open Plan

/-! ### Ids without a record -/

namespace Records

/-- Nothing stands where the record of an id would. -/
def Unused (id : String) : Records → Prop
  | .memory m => m.records.get? id = none
  | .directory d => d.found? id = none
  | .redis .unreachable => True
  | .redis (.connected leases _ _) => leases.get? (Redis.recordKey id) = none

variable {r : Records} {id : String}

/-- There is nothing to remove. -/
theorem remove_of_unused (h : r.Unused id) (now : Int) : (r.remove now id).2 = r := by
  cases r with
  | memory m =>
      have hnone : m.records.get? id = none := h
      simp [remove, Memory.remove, Fields.contains, hnone]
  | directory d =>
      have hnone : d.found? id = none := h
      obtain ⟨entries?⟩ := d
      cases hid : SessionId.isValid id with
      | false => simp [remove, Directory.remove, hid]
      | true =>
          cases entries? with
          | none => simp [remove, Directory.remove, hid]
          | some entries =>
              have hentry : entries.get? (Directory.fileName id) = none := hnone
              simp [remove, Directory.remove, hid, hentry]
  | redis server =>
      cases server with
      | unreachable => rfl
      | connected leases grace? refusing =>
          have hnone : leases.get? (Redis.recordKey id) = none := h
          cases refusing with
          | true => rfl
          | false =>
              simp [remove, Redis.remove, Redis.removeCommand, Redis.Command.apply,
                Fields.erase_of_get?_none hnone]

/-- No directory stands there either. -/
theorem free_of_unused (h : r.Unused id) : r.conditions.Free id := by
  cases r with
  | memory m => trivial
  | directory d =>
      have hnone : d.found? id = none := h
      refine Bool.eq_false_iff.mpr fun hblocks => ?_
      cases hnone.symm.trans (Directory.blocks_iff.mp hblocks)
  | redis server => cases server <;> trivial

end Records

namespace World

variable {w : World} {records id : String} {refuse? : Call → Option Error}

/-- No store with a name has anything where the record of an id would stand. -/
def Unused (records id : String) (w : World) : Prop :=
  ∀ r, w.records.get? records = some r → r.Unused id

/-- Putting back the records that are there changes nothing. -/
theorem set_records {r : Records} (h : w.records.get? records = some r) :
    w.records.set records r = w.records := by
  refine Fields.ext_get? fun name => ?_
  by_cases hname : name = records
  · rw [hname, Dict.get?_set_self, h]
  · exact Dict.get?_set_of_ne hname

theorem records_of_removed (h : w.Unused records id) :
    (respond.refusing refuse? (.remove records id) w).2.records = w.records := by
  rcases refusing_remove_cases refuse? w records id with
    ⟨e, -, hcall⟩ | hcall | ⟨r, hr, hcall⟩ <;> rw [hcall]
  rw [Records.remove_of_unused (h r hr) w.now]
  exact set_records hr

theorem records_of_not_added {text : String} {maxAge : Int} {e : Error} (h : w.Unused records id)
    (hadd : (respond.refusing refuse? (.add records id text maxAge) w).1 = .error e) :
    (respond.refusing refuse? (.add records id text maxAge) w).2.records = w.records := by
  rcases refusing_add_cases refuse? w records id text maxAge with
    ⟨e', -, hcall⟩ | hcall | ⟨r, hr, hcall⟩ <;> rw [hcall] at hadd ⊢
  rw [Records.add_of_error (Records.free_of_unused (h r hr)) hadd]
  exact set_records hr

/-- Drawing leaves the records. -/
theorem records_of_quiet {α : Type} {good : α → Prop} {p : Plan α} (hp : p.Quiet good)
    (refuse? : Call → Option Error) (w : World) :
    (p.run (respond.refusing refuse?) w).2.records = w.records := by
  have hkeeps : (respond.refusing refuse?).Keeps fun w' : World => w'.records = w.records :=
    fun w' count hw' => keeps_refusing (fun w' => w'.records = w.records) (fun hw' => hw') hw'
  exact (Plan.run_of_quiet hkeeps hp rfl).2

end World

namespace SessionStore

variable {s : SessionStore} {jar : Cookie.Jar} {key records id : String} {now : Int}
  {info : SessionInfo} {w : World} {refuse? : Call → Option Error}

/-! ### One attempt -/

/-- **Saving with success** sets one cookie, to a text of a session with the id. -/
theorem exists_of_save_ok {σ : Type} {respond : Responder σ} {t : σ} {jar' : Cookie.Jar}
    (hid : info.data.id? = some id)
    (h : ((s.save jar key now info).run.run respond t).1 = .ok jar') :
    ∃ d text, d.id? = some id ∧ s.Writes key now d text ∧
      jar' = jar.add (Cookie.ofSession key text info.config) := by
  rw [run_save_eq, Plan.run_bind, run_done] at h
  cases hmade : ((s.savedText key now info).run.run respond t).1 with
  | error e =>
      rw [hmade] at h
      cases h
  | ok text =>
      rw [hmade] at h
      cases h
      cases hk : s.kind with
      | cookie =>
          rw [savedText, hk] at hmade
          exact ⟨_, text, hid, writes_of_encode hmade, rfl⟩
      | serverSide records =>
          obtain ⟨id', hid', -, hwrites⟩ := exists_of_run_savedText hk hmade
          cases hid.symm.trans hid'
          exact ⟨_, text, SessionData.id?_ofId, hwrites, rfl⟩

/-- A save that writes the record and then fails does not get to the cookie: it could not write the
record. -/
theorem records_of_keep_failed {e : Error} (hk : s.kind = .serverSide records)
    (hid : info.data.id? = some id) (hv : SessionId.isValid id = true)
    (hkeep : ¬ (info.config.maxAge < 0 ∨ info.data.length ≤ 1)) (hw : w.Unused records id)
    (hfails : ((s.save jar key now info).run.run (World.respond.refusing refuse?) w).1 = .error e) :
    ((s.save jar key now info).run.run (World.respond.refusing refuse?) w).2.records =
      w.records := by
  rw [save_eq hk hid hv, writeRecord, if_neg hkeep, ExceptT.run_bind, Plan.run_bind,
    Plan.run_bind] at hfails ⊢
  have hencoded : ((Encoders.encode s.encoders key now info.data).run.run
      (World.respond.refusing refuse?) w).2.records = w.records :=
    World.records_of_quiet (Encoders.quiet_encode ..) refuse? w
  cases hencode : (Encoders.encode s.encoders key now info.data).run.run
      (World.respond.refusing refuse?) w with
  | mk result w₁ =>
  rw [hencode] at hfails hencoded
  cases result with
  | error e' => exact hencoded
  | ok text =>
      dsimp only at hfails hencoded ⊢
      rw [World.run_add] at hfails ⊢
      have hw₁ : w₁.Unused records id := by
        intro r hr
        rw [hencoded] at hr
        exact hw r hr
      cases hadd : (World.respond.refusing refuse?
          (.add records id text info.config.maxAge) w₁).1 with
      | error e' => exact (World.records_of_not_added hw₁ hadd).trans hencoded
      | ok u =>
          -- a store that made the text of the record makes that of the cookie
          have hbroken := (World.broken_refusing refuse?
            (.add records id text info.config.maxAge) w₁).trans (World.broken_run hencode)
          obtain ⟨text', w', hagain⟩ : ∃ text' w',
              (Encoders.encode s.encoders key now (SessionData.ofId id)).run.run
                (World.respond.refusing refuse?) _ = (.ok text', w') :=
            World.exists_run_encode_again hbroken (congrArg Prod.fst hencode)
          simp only [hadd, setCookie, ExceptT.run_bind, Plan.run_bind, hagain] at hfails
          cases hfails

/-- **A save that fails records nothing** under an id that has no record. -/
theorem records_of_save_failed {e : Error}
    (hunused : ∀ records, s.kind = .serverSide records → w.Unused records id)
    (hid : info.data.id? = some id)
    (hfails : ((s.save jar key now info).run.run (World.respond.refusing refuse?) w).1 = .error e) :
    ((s.save jar key now info).run.run (World.respond.refusing refuse?) w).2.records =
      w.records := by
  cases hk : s.kind with
  | cookie =>
      rw [save, hk]
      exact World.records_of_quiet (s.quiet_setCookie ..) refuse? w
  | serverSide records =>
      have hw := hunused records hk
      cases hv : SessionId.isValid id with
      | false =>
          simp only [save, hk, saveRecord, hid, SessionId.validate, hv]
          rfl
      | true =>
          by_cases hdrop : info.config.maxAge < 0 ∨ info.data.length ≤ 1
          · obtain ⟨next, hsave, hnext⟩ := save_eq_remove jar key now info hk hid hv hdrop
            rw [hsave, run_ask, World.records_of_quiet (hnext _) refuse?]
            exact World.records_of_removed hw
          · exact records_of_keep_failed hk hid hv hdrop hw hfails

/-- A session that has an id is left alone. -/
theorem init_of_id (hid : info.data.id?.isSome) :
    s.init jar key now info = .done (info, .ok jar) := by
  rw [init, if_pos hid]
  rfl

end SessionStore

/-- The session with an id. -/
def SessionInfo.withId (info : SessionInfo) (id : String) : SessionInfo :=
  { info with data := info.data.insert SessionData.idKey (.str id) }

theorem SessionInfo.id?_withId (info : SessionInfo) (id : String) :
    (info.withId id).data.id? = some id := SessionData.id?_insert_id

/-- An attempt to initialize a session: the world that it meets, and the calls that are refused. -/
structure Attempt where
  world : World
  refuse? : Call → Option Error := fun _ => none

namespace Attempt

/-- Runs a plan in the world that the attempt meets. -/
def run {α : Type} (a : Attempt) (p : Plan α) : α × World :=
  p.run (World.respond.refusing a.refuse?) a.world

/-- The octets of an id are to be had. -/
def MakesId (a : Attempt) : Prop := a.world.Gives a.refuse? SessionId.octets

/-- What becomes of a session without an id when one is made: the session has it, and the jar has a
cookie with it or nothing was changed besides. -/
structure Settles (s : SessionStore) (key : String) (jar : Cookie.Jar) (info : SessionInfo)
    (a : Attempt) (id : String) (written : Except Error Cookie.Jar) : Prop where
  /-- The session has the id. -/
  outcome : (a.run (s.init jar key a.world.seconds info)).1 = (info.withId id, written)
  /-- Success sets a cookie. -/
  cookie : ∀ jar', written = .ok jar' → ∃ d text, d.id? = some id ∧
    s.Writes key a.world.seconds d text ∧ jar' = jar.add (Cookie.ofSession key text info.config)
  /-- Failure records nothing. -/
  records : ∀ e, written = .error e →
    (∀ records, s.kind = .serverSide records → a.world.Unused records id) →
      (a.run (s.init jar key a.world.seconds info)).2.records = a.world.records

variable {s : SessionStore} {key : String} {jar : Cookie.Jar} {info : SessionInfo} {a : Attempt}

/-- Without the octets of an id nothing happens. -/
theorem run_init_of_not_makesId (s : SessionStore) (key : String) (jar : Cookie.Jar)
    (ha : ¬ a.MakesId) (hnone : info.data.id? = none) :
    (a.run (s.init jar key a.world.seconds info)).1 = (info, .error (.other "random error")) ∧
      (a.run (s.init jar key a.world.seconds info)).2.records = a.world.records := by
  have hid : ¬ info.data.id?.isSome := by simp [hnone]
  have hgenerate : ((SessionId.generate SessionId.octets).run.run
      (World.respond.refusing a.refuse?) a.world).1 = .error (.other "random error") := by
    rw [SessionId.generate_eq, ExceptT.run_bind, Plan.run_bind, World.run_draw_of_not_gives ha]
    rfl
  rw [run, SessionStore.init, if_neg hid, Plan.run_bind, hgenerate]
  exact ⟨rfl, World.records_of_quiet SessionId.quiet_generate a.refuse? a.world⟩

/-- With them the session has an id, written or not. -/
theorem exists_settles (s : SessionStore) (key : String) (jar : Cookie.Jar) (ha : a.MakesId)
    (hnone : info.data.id? = none) :
    ∃ id written, a.Settles s key jar info id written := by
  have hid : ¬ info.data.id?.isSome := by simp [hnone]
  obtain ⟨octets, w₁, hdraw, -⟩ := World.exists_run_draw_of_gives ha
  have hgenerate : (SessionId.generate SessionId.octets).run.run
      (World.respond.refusing a.refuse?) a.world = (.ok (Bytes.hex octets.toList), w₁) := by
    rw [SessionId.generate_eq, ExceptT.run_bind, Plan.run_bind, hdraw]
    rfl
  -- which id it is does not matter from here on
  generalize Bytes.hex octets.toList = id at hgenerate
  have hrecords : w₁.records = a.world.records := by
    have hquiet := World.records_of_quiet SessionId.quiet_generate a.refuse? a.world
    rwa [hgenerate] at hquiet
  have hrun : a.run (s.init jar key a.world.seconds info) =
      ((info.withId id, ((s.save jar key a.world.seconds (info.withId id)).run.run
          (World.respond.refusing a.refuse?) w₁).1),
        ((s.save jar key a.world.seconds (info.withId id)).run.run
          (World.respond.refusing a.refuse?) w₁).2) := by
    rw [run, SessionStore.init, if_neg hid, Plan.run_bind, hgenerate]
    dsimp only
    rw [Plan.run_bind]
    rfl
  refine ⟨id, _, congrArg Prod.fst hrun, fun jar' hok => ?_, fun e hfails hunused => ?_⟩
  · obtain ⟨d, text, hd, hwrites, hjar⟩ := SessionStore.exists_of_save_ok (info.id?_withId id) hok
    exact ⟨d, text, hd, hwrites, hjar⟩
  · rw [hrun, ← hrecords]
    refine SessionStore.records_of_save_failed (fun records hk => ?_) (info.id?_withId id) hfails
    rw [World.Unused, hrecords]
    exact hunused records hk

end Attempt

namespace SessionStore

/-! ### Any number of attempts -/

/-- Initializes a session over and over, handing on the session and the jar: both in the end, and
what became of each attempt. -/
def initAgain (s : SessionStore) (key : String) :
    List Attempt → Cookie.Jar → SessionInfo → SessionInfo × Cookie.Jar × List (Except Error Unit)
  | [], jar, info => (info, jar, [])
  | a :: more, jar, info =>
    let (info, result) := (a.run (s.init jar key a.world.seconds info)).1
    let (info, jar, results) := s.initAgain key more (result.toOption.getD jar) info
    (info, jar, result.map (fun _ => ()) :: results)

variable {s : SessionStore} {jar : Cookie.Jar} {key : String} {info : SessionInfo}

/-- A session that has an id is left alone over and over. -/
theorem initAgain_of_id (hid : info.data.id?.isSome) (jar : Cookie.Jar) (attempts : List Attempt) :
    s.initAgain key attempts jar info = (info, jar, attempts.map fun _ => .ok ()) := by
  induction attempts with
  | nil => rfl
  | cons a more ih =>
      rw [initAgain, Attempt.run, init_of_id hid]
      simp only [run_done, Except.toOption, Option.getD_some, ih]
      rfl

/-- **Initializing a session over and over**, in any worlds and with any calls refused. Either no id
could be made and nothing was changed; or the first that was made stayed, whether or not it was
written, and all attempts after it succeeded without doing anything. -/
theorem init_tried_again (s : SessionStore) (key : String) (jar : Cookie.Jar) (info : SessionInfo)
    (hnone : info.data.id? = none) (attempts : List Attempt) :
    (∀ a ∈ attempts, ¬ a.MakesId →
      (a.run (s.init jar key a.world.seconds info)).1 = (info, .error (.other "random error")) ∧
        (a.run (s.init jar key a.world.seconds info)).2.records = a.world.records) ∧
    ((∀ a ∈ attempts, ¬ a.MakesId) ∧ s.initAgain key attempts jar info =
        (info, jar, attempts.map fun _ => .error (.other "random error")) ∨
      ∃ before a after id written, attempts = before ++ a :: after ∧
        (∀ b ∈ before, ¬ b.MakesId) ∧ a.MakesId ∧ a.Settles s key jar info id written ∧
        s.initAgain key attempts jar info =
          (info.withId id, written.toOption.getD jar,
            before.map (fun _ => .error (.other "random error")) ++
              written.map (fun _ => ()) :: after.map fun _ => .ok ())) := by
  refine ⟨fun a _ ha => Attempt.run_init_of_not_makesId s key jar ha hnone, ?_⟩
  induction attempts with
  | nil => exact Or.inl ⟨by simp, rfl⟩
  | cons a more ih =>
      by_cases ha : a.MakesId
      · -- the first attempt makes an id, which the session has from now on
        obtain ⟨id, written, hsettles⟩ := Attempt.exists_settles s key jar ha hnone
        refine Or.inr ⟨[], a, more, id, written, rfl, by simp, ha, hsettles, ?_⟩
        have hid : (info.withId id).data.id?.isSome := by simp [info.id?_withId id]
        rw [initAgain, hsettles.outcome]
        simp only [initAgain_of_id hid]
        rfl
      · -- it makes none, and the session is as it was for the next one
        have hstep := (Attempt.run_init_of_not_makesId s key jar ha hnone).1
        rcases ih with ⟨hmore, hrun⟩ | ⟨before, a', after, id, written, rfl, hbefore, ha', hs, hrun⟩
        · refine Or.inl ⟨by simpa using ⟨ha, hmore⟩, ?_⟩
          rw [initAgain, hstep]
          simp only [Except.toOption, Option.getD_none, hrun]
          rfl
        · refine Or.inr ⟨a :: before, a', after, id, written, rfl, by simpa using ⟨ha, hbefore⟩, ha',
            hs, ?_⟩
          rw [initAgain, hstep]
          simp only [Except.toOption, Option.getD_none, hrun]
          rfl

/-- A store of records in memory. -/
def keptInMemory : SessionStore :=
  { kind := .serverSide "memory", encoders := [Encoder.ofKeys [1, 2] none] }

/-- An attempt that meets no record and no failure. -/
def plainAttempt : Attempt where
  world := { now := 100000, entropy := { octet := fun _ => 7 },
             records := Dict.empty.set "memory" (.memory {}) }

/-- An attempt in the same world that cannot remove a record. -/
def refusedAttempt : Attempt where
  world := plainAttempt.world
  refuse? call := match call with
    | .remove .. => some (.other "injected")
    | _ => none

/-- An attempt that could not write, and one more: the session has an id, the second attempt
succeeds, and no cookie is set. -/
theorem second_init_sets_no_cookie :
    let info : SessionInfo := { store := "memory" }
    info.data.id? = none ∧ ∃ id, keptInMemory.initAgain "s" [refusedAttempt, plainAttempt] {} info =
      (info.withId id, {}, [.error (.other "injected"), .ok ()]) := by
  intro info
  have hnone : info.data.id? = none := rfl
  have hmakes : refusedAttempt.MakesId := ⟨rfl, rfl⟩
  have hfails : (refusedAttempt.run (keptInMemory.init {} "s" refusedAttempt.world.seconds
      { store := "memory" })).1.2.map (fun _ => ()) = .error (.other "injected") := by
    decide +kernel
  refine ⟨hnone, ?_⟩
  obtain ⟨-, ⟨hstarved, -⟩ | ⟨before, a, after, id, written, hattempts, hbefore, -, hsettles, hrun⟩⟩ :=
    init_tried_again keptInMemory "s" {} info hnone [refusedAttempt, plainAttempt]
  · exact absurd hmakes (hstarved refusedAttempt List.mem_cons_self)
  · cases before with
    | cons b more =>
        obtain ⟨rfl, -⟩ := List.cons.inj hattempts
        exact absurd hmakes (hbefore _ List.mem_cons_self)
    | nil =>
        obtain ⟨rfl, rfl⟩ := List.cons.inj hattempts
        rw [hsettles.outcome] at hfails
        cases written with
        | ok jar' => cases hfails
        | error e =>
            cases hfails
            exact ⟨id, hrun⟩

end SessionStore

end WebSession
