import WebSession.Proofs.SessionStore.Fate
import WebSession.Proofs.SessionStore.SameText

/-!
# WebSession.Proofs.SessionStore.Mark

**What saving a session leaves under an id** (`leaves_save`) is settled beforehand as well, up to
the text of its record: under its own id the record is written or dropped or left, and under others it
is swept or left. Sessions that are saved before do not change which of these it is (`mark_congr`).
-/

namespace WebSession

open Plan

/-! ### Calls -/

namespace World

variable {w w' : World} {store id other text : String} {maxAge now : Int}

/-- What there is under an id of a store, if there is the store. -/
def slot? (w : World) (store id : String) : Option Records.Slot :=
  (w.records.get? store).map (Records.slot w.now id)

/-- What there would be, if a record had just been written. -/
def written? (w : World) (store : String) (maxAge : Int) (text : String) : Option Records.Slot :=
  ((w.records.get? store).map Records.conditions).map (·.written w.now maxAge text)

/-- What is read at a moment, where there is this. -/
def told (now : Int) : Option Records.Slot → Except Error String
  | some slot => slot.read now
  | none => .error .noStore

/-- **All that is read from now on** is told by what there is now. -/
theorem record_withNow_eq (hle : w.now ≤ now) :
    Responder.record respond store id (w.withNow now) = told now (w.slot? store id) := by
  rw [slot?]
  cases hr : w.records.get? store with
  | none => exact record_of_none (w := w.withNow now) hr
  | some r => exact (record_of_some (w := w.withNow now) hr).trans (Records.get_eq_read hle)

theorem Akin.written?_eq (h : w.Akin w') :
    w.written? store maxAge text = w'.written? store maxAge text := by
  rw [written?, written?, h.conditions_eq, h.now_eq]

theorem slot?_respond_of_ne {call : Call} (h : ∀ id, ¬ call.Changes store id) :
    (respond call w).2.slot? store other = w.slot? store other := by
  rw [slot?, slot?, get?_respond h, now_respond]

/-- Drawing leaves what there is. -/
theorem slot?_of_quiet {α : Type} {good : α → Prop} {p : Plan α} (hp : p.Quiet good)
    (refuse? : Call → Option Error) (w : World) :
    (p.run (respond.refusing refuse?) w).2.slot? store other = w.slot? store other := by
  rw [slot?, slot?, records_of_quiet hp, ← (akin_run refuse? p w).now_eq]

/-- Removing a record leaves nothing under its id, if it succeeds. -/
theorem slot?_remove (w : World) (store id other : String) :
    (respond (.remove store id) w).2.slot? store other =
      if other = id ∧ (w.dropping store id).isOk then some .empty else w.slot? store other := by
  rw [← forgiven_respond_remove_fst]
  cases hr : w.records.get? store with
  | none =>
      rw [respond_remove_of_none hr, if_neg fun h => Bool.false_ne_true h.2]
  | some r =>
      have hbefore : w.slot? store other = some (r.slot w.now other) := by rw [slot?, hr]; rfl
      have hslot : (respond (.remove store id) w).2.slot? store other =
          some ((r.remove w.now id).2.slot w.now other) := by
        rw [respond_remove_of_some hr, slot?, withRecords, Dict.get?_set_self]
        rfl
      rw [hslot, hbefore, respond_remove_of_some hr]
      by_cases hother : other = id
      · subst hother
        cases hdropped : (Records.forgiven (r.remove w.now other).1).isOk with
        | true =>
            rw [if_pos ⟨rfl, rfl⟩,
              Records.slot_remove_of_gone (Records.gone_of_forgiven hdropped)]
        | false =>
            rw [if_neg fun h => Bool.false_ne_true h.2,
              Records.remove_of_not_forgiven hdropped]
      · rw [if_neg fun h => hother h.1, Records.slot_remove_of_ne hother]

/-- Adding a record leaves it under its id, if it succeeds, and sweeps what is under others. -/
theorem slot?_add (hid : SessionId.isValid id = true) (w : World) (store other text : String)
    (maxAge : Int) :
    (respond (.add store id text maxAge) w).2.slot? store other =
      if other = id then
        if (w.adding store id maxAge).isOk then w.written? store maxAge text
        else w.slot? store other
      else (w.slot? store other).map (·.sweep (Records.isLate w.now maxAge)) := by
  rw [← respond_add_fst w store id text]
  cases hr : w.records.get? store with
  | none =>
      have hnone : w.slot? store other = none := by rw [slot?, hr]; rfl
      rw [respond_add_of_none hr, hnone]
      simp [Except.isOk, Except.toBool]
  | some r =>
      have hbefore : w.slot? store other = some (r.slot w.now other) := by rw [slot?, hr]; rfl
      have hwritten : w.written? store maxAge text =
          some (r.conditions.written w.now maxAge text) := by rw [written?, hr]; rfl
      have hslot : (respond (.add store id text maxAge) w).2.slot? store other =
          some ((r.add w.now id text maxAge).2.slot w.now other) := by
        rw [respond_add_of_some hr, slot?, withRecords, Dict.get?_set_self]
        rfl
      rw [hslot, hbefore, hwritten, respond_add_of_some hr]
      by_cases hother : other = id
      · subst hother
        rw [if_pos rfl]
        cases hadd : (r.add w.now other text maxAge).1 with
        | ok u => rw [Records.slot_add_of_ok hadd]; rfl
        | error e => rw [(Records.slot_add_of_error hadd).1]; rfl
      · rw [if_neg hother, Records.slot_add_of_ne hid hother]
        rfl

end World

/-! ### Saving -/

/-- What saving a session does to what there is under an id. -/
inductive Mark where
  /-- The record is left, if the time of its last writing is not a late one. -/
  | kept (late : Int → Bool)
  | dropped
  | written

namespace Mark

/-- Nothing is done. -/
def nothing : Mark := .kept fun _ => false

/-- The times of a last writing at which a record is not left. -/
def late : Mark → Int → Bool
  | .kept late => late
  | .dropped | .written => fun _ => false

end Mark

namespace SessionStore

variable {s : SessionStore} {key store records id other : String} {now : Int} {info : SessionInfo}
  {w w' : World} {refuse? : Call → Option Error}

/-- The mark of a record that is written, or is dropped. -/
def writeMark (s : SessionStore) (refuse? : Call → Option Error) (records key : String) (now : Int)
    (id : String) (info : SessionInfo) (w : World) (other : String) : Mark :=
  if info.config.maxAge < 0 ∨ info.data.length ≤ 1 then
    if (refuse? (.remove records id)).isNone ∧ other = id ∧ (w.dropping records id).isOk then
      .dropped
    else .nothing
  else if ((Encoders.encode s.encoders key now info.data).run.run
      (World.respond.refusing refuse?) w).1.isOk ∧
        (refuse? (.add records id "" info.config.maxAge)).isNone then
    if other = id then
      if (w.adding records id info.config.maxAge).isOk then .written else .nothing
    else .kept (Records.isLate w.now info.config.maxAge)
  else .nothing

/-- The mark of a session. -/
def mark (s : SessionStore) (refuse? : Call → Option Error) (key : String) (now : Int)
    (info : SessionInfo) (w : World) (store other : String) : Mark :=
  match s.kind, info.data.id? with
  | .serverSide records, some id =>
    if records = store ∧ SessionId.isValid id then
      s.writeMark refuse? records key now id info w other
    else .nothing
  | _, _ => .nothing

/-- What there is under an id before and after, as the mark says. -/
def Leaves (s : SessionStore) (key : String) (now : Int) (info : SessionInfo) (w : World)
    (store : String) (slot? slot?' : Option Records.Slot) : Mark → Prop
  | .kept late => slot?' = slot?.map (·.sweep late)
  | .dropped => slot?' = some .empty
  | .written => ∃ text, s.IsText key now info.data text ∧
      slot?' = w.written? store info.config.maxAge text

theorem leaves_nothing {slot? slot?' : Option Records.Slot} (h : slot?' = slot?) :
    s.Leaves key now info w store slot? slot?' .nothing :=
  h.trans (Records.Slot.map_sweep_none slot?).symm

/-- **The mark is settled beforehand.** -/
theorem mark_congr (hw : w.Akin w') :
    s.mark refuse? key now info w store other = s.mark refuse? key now info w' store other := by
  have hencode : ((Encoders.encode s.encoders key now info.data).run.run
      (World.respond.refusing refuse?) w).1.isOk =
        ((Encoders.encode s.encoders key now info.data).run.run
          (World.respond.refusing refuse?) w').1.isOk :=
    isOk_eq_of_sameFate (sameFate_encode hw s.encoders)
  unfold mark writeMark
  simp only [hencode, hw.dropping_eq, hw.adding_eq, hw.now_eq]

theorem leaves_writeRecord (hrefuse : RefusesById refuse?) (hvalid : SessionId.isValid id = true) :
    s.Leaves key now info w records (w.slot? records other)
      (((s.writeRecord records key now id info).run.run
        (World.respond.refusing refuse?) w).2.slot? records other)
      (s.writeMark refuse? records key now id info w other) := by
  unfold writeRecord writeMark
  by_cases hdrop : info.config.maxAge < 0 ∨ info.data.length ≤ 1
  · -- nothing is to be kept, so the record is dropped, if that is not refused
    rw [if_pos hdrop, if_pos hdrop, run_dropRecord_eq]
    unfold Responder.refusing
    cases hcall : refuse? (.remove records id) with
    | some e => exact leaves_nothing rfl
    | none =>
        dsimp only
        rw [World.slot?_remove]
        by_cases hgone : other = id ∧ (w.dropping records id).isOk
        · rw [if_pos hgone, if_pos ⟨rfl, hgone⟩]
          exact rfl
        · rw [if_neg hgone, if_neg fun h => hgone h.2]
          exact leaves_nothing rfl
  · -- a text is made, which touches no record, and then it is written
    rw [if_neg hdrop, if_neg hdrop, ExceptT.run_bind, Plan.run_bind]
    have hakin := World.akin_run refuse? (Encoders.encode s.encoders key now info.data).run w
    have hquiet : ((Encoders.encode s.encoders key now info.data).run.run
        (World.respond.refusing refuse?) w).2.slot? records other = w.slot? records other :=
      World.slot?_of_quiet (Encoders.quiet_encode s.encoders key now _) refuse? w
    cases hmade : (Encoders.encode s.encoders key now info.data).run.run
        (World.respond.refusing refuse?) w with
    | mk made w₁ =>
    rw [hmade] at hakin hquiet
    cases made with
    | error e => exact leaves_nothing hquiet
    | ok text =>
        have htext : s.IsText key now info.data text := ⟨_, _, w, by rw [hmade]⟩
        rw [hrefuse records id "" text info.config.maxAge info.config.maxAge]
        dsimp only at hakin hquiet ⊢
        rw [World.run_add, hakin.adding_eq]
        unfold Responder.refusing
        cases hcall : refuse? (.add records id text info.config.maxAge) with
        | some e => exact leaves_nothing hquiet
        | none =>
            rw [if_pos ⟨rfl, rfl⟩]
            dsimp only
            -- other ids keep their records, but for those that the call found past their age
            rw [World.slot?_add hvalid, hquiet, ← hakin.now_eq, ← hakin.written?_eq]
            split
            · split
              · exact ⟨text, htext, rfl⟩
              · exact leaves_nothing rfl
            · exact rfl

/-- **What saving a session leaves** under an id. -/
theorem leaves_save (hrefuse : RefusesById refuse?) (jar : Cookie.Jar) :
    s.Leaves key now info w store (w.slot? store other)
      (((s.save jar key now info).run.run (World.respond.refusing refuse?) w).2.slot? store other)
      (s.mark refuse? key now info w store other) := by
  by_cases hown : ∃ id, s.kind = .serverSide store ∧ info.data.id? = some id ∧
      SessionId.isValid id = true
  · obtain ⟨id, hk, hid, hvalid⟩ := hown
    have hmark : s.mark refuse? key now info w store other =
        s.writeMark refuse? store key now id info w other := by
      simp only [mark, hk, hid, hvalid, and_self, if_pos]
    rw [hmark, save_eq hk hid hvalid, Plan.run_bind,
      World.slot?_of_quiet (s.quiet_after_record jar key now _ _ _)]
    exact leaves_writeRecord hrefuse hvalid
  · -- the session has no record in this store, and no call changes any there
    have hmark : s.mark refuse? key now info w store other = .nothing := by
      unfold mark
      split
      · rename_i records id hk hid
        refine if_neg fun h => hown ⟨id, ?_, hid, h.2⟩
        rw [← h.1]
        exact hk
      · rfl
    rw [hmark]
    have hkept : ∀ call w', s.SaveCall info call → w'.slot? store other = w.slot? store other →
        (World.respond.refusing refuse? call w').2.slot? store other = w.slot? store other := by
      intro call w' hcall hw'
      refine World.keeps_refusing (fun w' => w'.slot? store other = w.slot? store other)
        (fun hw' => (World.slot?_respond_of_ne fun id hchanges => ?_).trans hw') hw'
      cases hcall with
      | random count => exact hchanges
      | add hk hid hvalid => exact hown ⟨_, hchanges.1 ▸ hk, hid, hvalid⟩
      | remove hk hid hvalid => exact hown ⟨_, hchanges.1 ▸ hk, hid, hvalid⟩
    have hrun := (s.makes_save jar key now info).run hkept rfl
    exact leaves_nothing hrun

/-- What is written at a moment is not left late by a session that is saved at this moment. -/
theorem late_mark_now :
    (s.mark refuse? key now info w store other).late w.now = false := by
  have hlate : ∀ maxAge, Records.isLate w.now maxAge w.now = false := Records.not_isLate_now w.now
  unfold mark writeMark
  split
  · split
    · split
      · split <;> rfl
      · split
        · split
          · split <;> rfl
          · exact hlate _
        · rfl
    · rfl
  · rfl

/-- A session changes no record but its own. -/
theorem own_of_mark (h : ∀ late, s.mark refuse? key now info w store other ≠ .kept late) :
    s.kind = .serverSide store ∧ info.data.id? = some other := by
  unfold mark at h
  split at h
  · rename_i records id hk hid
    split at h
    · rename_i hstore
      have hother : other = id := by
        by_contra hne
        unfold writeMark at h
        split at h
        · rw [if_neg fun hdropped => hne hdropped.2.1] at h
          exact h _ rfl
        · split at h
          · exact h _ rfl
          · exact h _ rfl
      rw [hother, ← hstore.1]
      exact ⟨hk, hid⟩
    · exact absurd rfl (h _)
  · exact absurd rfl (h _)

end SessionStore

end WebSession
