import WebSession.Proofs.SessionStore

/-!
# WebSession.Proofs.SessionStore.Faults

**What a session that is loaded and saved unchanged suffers from failing calls**
(`shown_after_touch`).

When its record cannot be read, loading falls back on the cookie, which holds the id alone. Saving
takes this for a session with nothing to keep and removes the record. So the session is lost
exactly when reading the record fails and removing it does not; in all other cases it is what it
was before.
-/

namespace WebSession

open Plan

/-- The errors with which reading, writing and removing records fail during a request. -/
structure Faults where
  get? : Option Error := none
  add? : Option Error := none
  remove? : Option Error := none

/-- The error of a call that fails. -/
def Faults.refuse? (f : Faults) : Call → Option Error
  | .random _ => none
  | .get .. => f.get?
  | .add .. => f.add?
  | .remove .. => f.remove?

namespace SessionStore

variable {σ : Type} {s : SessionStore} {records key id : String} {jar : Cookie.Jar} {now : Int}
  {respond : Responder σ} {ok : σ → Prop} {maxAge : Int} {f : Faults}

/-- A request that loads a session and saves it as it is. -/
def touch (s : SessionStore) (jar : Cookie.Jar) (key : String) (now : Int) (name : String)
    (config : SessionConfig) : Plan (Except Error Cookie.Jar) := do
  let d ← s.load jar key now
  (s.save jar key now { data := d, store := name, config := config }).run

/-! ### One call with faults -/

/-- After a removal that was let through the id alone is shown, whether there was a record or not
and whether it could be removed or not. -/
theorem shown_after_remove (s : SessionStore) (key : String) (now : Int)
    (hr : respond.Holds ok records id maxAge) (hf : f.remove? = none) {t : σ} (ht : ok t) :
    let t' := (respond.refusing f.refuse? (.remove records id) t).2
    ok t' ∧ s.shown key now id (respond.record records id t') = SessionData.ofId id := by
  simp only [Responder.refusing, Faults.refuse?, hf]
  refine ⟨hr.remove_keeps ht, ?_⟩
  cases hremove : (respond (.remove records id) t).1 with
  | ok u =>
      rw [hr.record_remove_of_gone ht (Or.inl hremove)]
      rfl
  | error e =>
      obtain ⟨hsame, e', herror⟩ := hr.record_remove_of_error ht hremove
      rw [hsame, herror]
      rfl

/-- A refused removal changes nothing. -/
theorem refused_remove {e : Error} (hf : f.remove? = some e) (t : σ) :
    (respond.refusing f.refuse? (.remove records id) t).2 = t := by
  simp only [Responder.refusing, Faults.refuse?, hf]

/-- Writing a record leaves it as it was, or it is what was written. -/
theorem record_after_add (hr : respond.Holds ok records id maxAge) {t : σ} (ht : ok t)
    (text : String) :
    let t' := (respond.refusing f.refuse? (.add records id text maxAge) t).2
    ok t' ∧ (respond.record records id t' = respond.record records id t ∨
      respond.record records id t' = .ok text) := by
  cases hf : f.add? with
  | some e =>
      simp only [Responder.refusing, Faults.refuse?, hf]
      exact ⟨ht, Or.inl trivial⟩
  | none =>
      simp only [Responder.refusing, Faults.refuse?, hf]
      refine ⟨hr.add_keeps text ht, ?_⟩
      cases hadd : (respond (.add records id text maxAge) t).1 with
      | ok u => exact Or.inr (hr.record_add_of_ok ht hadd)
      | error e => exact Or.inl (hr.record_add_of_error ht hadd)

/-! ### Saving with faults -/

theorem keeps_refusing (hr : respond.Holds ok records id maxAge) (f : Faults)
    (about : Except Error String → Prop) :
    (respond.refusing f.refuse?).Keeps fun t => ok t ∧ about (respond.record records id t) :=
  (hr.keeps_record about).refusing fun _ => rfl

/-- Saving a session that holds its id alone leaves what is shown, if removing is refused, or else
the id alone. -/
theorem shown_after_save_of_short {info : SessionInfo} (hk : s.kind = .serverSide records)
    (hv : SessionId.isValid id = true) (hr : respond.Holds ok records id maxAge)
    (hid : info.data.id? = some id) (hshort : info.data.length ≤ 1) {t : σ} (ht : ok t) :
    s.shown key now id (respond.record records id
        ((s.save jar key now info).run.run (respond.refusing f.refuse?) t).2) =
      if f.remove? = none then SessionData.ofId id
      else s.shown key now id (respond.record records id t) := by
  obtain ⟨next, hsave, hnext⟩ := save_eq_remove jar key now info hk hid hv (Or.inr hshort)
  rw [hsave, run_ask]
  -- the removal comes first, and what follows draws only
  cases hf : f.remove? with
  | none =>
      rw [if_pos rfl]
      have hremoved := shown_after_remove s key now hr hf ht
      exact (run_of_quiet (keeps_refusing hr f fun r => s.shown key now id r = SessionData.ofId id)
        (hnext _) hremoved).2.2
  | some e =>
      rw [if_neg (Option.some_ne_none e), refused_remove hf]
      exact (run_of_quiet (keeps_refusing hr f fun r => s.shown key now id r =
        s.shown key now id (respond.record records id t)) (hnext _) ⟨ht, rfl⟩).2.2

/-- Saving what a record shows leaves it shown, if what is written can be read back. -/
theorem shown_after_save_of_shown {info : SessionInfo} (hk : s.kind = .serverSide records)
    (hv : SessionId.isValid id = true) (hr : respond.Holds ok records id info.config.maxAge)
    (hage : 0 ≤ info.config.maxAge) {t : σ} (ht : ok t)
    (hshown : s.shown key now id (respond.record records id t) = info.data)
    (hreads : s.Rereads key now info.data) :
    s.shown key now id (respond.record records id
        ((s.save jar key now info).run.run (respond.refusing f.refuse?) t).2) = info.data := by
  have hid : info.data.id? = some id := by
    rw [← hshown, id?_shown]
  by_cases hshort : info.data.length ≤ 1
  · have honly := SessionData.eq_ofId hid hshort
    rw [shown_after_save_of_short hk hv hr hid hshort ht, hshown, ← honly]
    split <;> rfl
  · have hkeep : ¬ (info.config.maxAge < 0 ∨ info.data.length ≤ 1) := by omega
    by_cases hkeyed : ∃ e more, s.encoders = e :: more ∧ e.authenticate?.isSome = true
    · obtain ⟨e, more, he, hkeyed⟩ := hkeyed
      refine (run_of_calls (keeps_refusing hr f fun r => s.shown key now id r = info.data)
        (calls_save_add jar key now hk hid hv hkeep he hkeyed) ?_ ⟨ht, hshown⟩).2
      intro call t' hcall ht'
      obtain ⟨text, rfl, hwrites⟩ := hcall
      obtain ⟨hok, hrecord⟩ := record_after_add (f := f) hr ht'.1 text
      refine ⟨hok, ?_⟩
      rcases hrecord with hsame | hwritten
      · rw [hsame]
        exact ht'.2
      · rw [hwritten]
        exact shown_of_decode (hreads e more text he hwrites) hid
    · rw [save_of_not_keyed hk hid hv hkeep fun e more he => ?_]
      · exact hshown
      · exact Option.not_isSome_iff_eq_none.mp fun hsome => hkeyed ⟨e, more, he, hsome⟩

/-! ### Loading and saving with faults -/

/-- **A session that is loaded and saved unchanged is lost when its record cannot be read but can
be removed**: what is loaded afterwards is then the id alone. With any other faults it is what was
loaded before, if the store reads back what it writes, which it does within the limits of its first
encoder. -/
theorem shown_after_touch {config : SessionConfig} (hk : s.kind = .serverSide records)
    (hc : s.HoldsId jar key now id) {w : World} (hclock : w.now < Records.Memory.lastMoment)
    (hage : 0 ≤ config.maxAge) (f : Faults) (name : String) :
    let before := ((s.load jar key now).run World.respond w).1
    let w' := ((s.touch jar key now name config).run (World.respond.refusing f.refuse?) w).2
    let after := ((s.load jar key now).run World.respond w').1
    (f.get?.isSome = true ∧ f.remove? = none → after = SessionData.ofId id) ∧
    (¬ (f.get?.isSome = true ∧ f.remove? = none) → s.Rereads key now before → after = before) ∧
    (before.height ≤ Value.maxHeight → (∀ e more, s.encoders = e :: more → e.Admits now now) →
      s.Rereads key now before) := by
  intro before w' after
  have hr : Responder.Holds World.respond (World.Steady w.now w.now records id) records id
      config.maxAge := World.holds (Records.outlives_now hclock)
  have hw : w.Steady w.now w.now records id := World.steady_now w records id
  have hbefore : s.shown key now id (Responder.record World.respond records id w) = before := by
    show _ = ((s.load jar key now).run World.respond w).1
    rw [run_load hk hc]
  have hafter : after = s.shown key now id (Responder.record World.respond records id w') := by
    show ((s.load jar key now).run World.respond w').1 = _
    rw [run_load hk hc]
  -- the only call of a load is the one that may fail
  have hload : (s.load jar key now).run (World.respond.refusing f.refuse?) w =
      (if f.get?.isSome = true then SessionData.ofId id else before, w) := by
    rw [run_load hk hc, ← hbefore, Responder.record]
    cases hget : f.get? with
    | some e =>
        simp only [Responder.refusing, Faults.refuse?, hget]
        rfl
    | none =>
        simp only [Responder.refusing, Faults.refuse?, hget, hr.get_same hw]
        rfl
  have htouch : w' = ((s.save jar key now
      { data := if f.get?.isSome = true then SessionData.ofId id else before,
        store := name, config := config }).run.run (World.respond.refusing f.refuse?) w).2 := by
    show ((s.touch jar key now name config).run (World.respond.refusing f.refuse?) w).2 = _
    rw [touch, run_bind, hload]
  -- a session whose record could not be read is saved as its id alone
  have hunread : f.get?.isSome = true →
      after = if f.remove? = none then SessionData.ofId id else before := by
    intro hget
    rw [hafter, htouch, if_pos hget, ← hbefore]
    exact shown_after_save_of_short hk hc.isValid hr SessionData.id?_ofId
      (Nat.le_of_eq SessionData.length_ofId) hw
  refine ⟨?_, ?_, ?_⟩
  · intro hlost
    rw [hunread hlost.1, if_pos hlost.2]
  · intro hkept hreads
    by_cases hget : f.get?.isSome = true
    · rw [hunread hget, if_neg fun hremove => hkept ⟨hget, hremove⟩]
    · rw [hafter, htouch, if_neg hget]
      exact shown_after_save_of_shown hk hc.isValid hr hage hw hbefore hreads
  · intro hheight hadmits
    rw [← hbefore] at hheight ⊢
    exact rereads_shown hc.isValid hheight hadmits

/-- A session with a user, whose record is in memory and cannot be read in one request. -/
theorem touched_session_lost :
    let e : Encoder := { authenticate? := some (Sha256.authenticate [1, 2]), maxAge := 60 }
    let s : SessionStore := { kind := .serverSide "memory", encoders := [e] }
    let text (d : SessionData) := Encoder.signed (Sha256.authenticate [1, 2]) "s"
      (Base64Url.encode d.serialize) (Numeral.text 100)
    let d := (SessionData.ofId "ab").insert "user" (.str "ann")
    let jar := Cookie.Jar.add {} (Cookie.ofSession "s" (text (SessionData.ofId "ab")) {})
    let w := World.single 100000 "memory" "ab" (text d)
    let f : Faults := { get? := some (.other "get") }
    let before := ((s.load jar "s" 100).run World.respond w).1
    let w' := ((s.touch jar "s" 100 "memory" {}).run (World.respond.refusing f.refuse?) w).2
    let after := ((s.load jar "s" 100).run World.respond w').1
    before = d ∧ after = SessionData.ofId "ab" ∧ after ≠ before := by
  intro e s text d jar w f before w' after
  have hadmits : e.Admits 100 100 := ⟨rfl, by decide, by decide, by decide, by decide⟩
  have hread : ∀ d : SessionData, d.Representable →
      Encoders.decode s.encoders "s" 100 (text d) = .ok d := fun d hd =>
    Encoders.decode_of_first (Encoder.decode_of_writes_of_admits
      (Encoder.writes_plain rfl rfl "s" 100 d) hadmits hd)
  clear_value text
  have hc : s.HoldsId jar "s" 100 "ab" :=
    ⟨(readCookie_of_get? Cookie.Jar.get?_add_self).trans
      (hread _ (SessionData.representable_ofId (by decide))), by decide⟩
  have hd : d.Representable := ⟨by decide, by decide⟩
  have hbefore : before = d := by
    show ((s.load jar "s" 100).run World.respond w).1 = d
    rw [run_load rfl hc, World.record_single]
    exact shown_of_decode (hread d hd) (by decide)
  have hclock : w.now < Records.Memory.lastMoment :=
    (by decide : (100000 : Int) < 0x7fffffffffffffff)
  obtain ⟨hlost, -, -⟩ := shown_after_touch rfl hc hclock (by decide : 0 ≤ SessionConfig.maxAge {})
    f "memory"
  have hafter : after = SessionData.ofId "ab" := hlost ⟨rfl, rfl⟩
  refine ⟨hbefore, hafter, ?_⟩
  rw [hbefore, hafter]
  intro hsame
  exact absurd (congrArg SessionData.length hsame) (by decide)

end SessionStore

end WebSession
