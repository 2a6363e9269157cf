import WebSession.Proofs.Plan.Alike
import WebSession.Proofs.Records.Slot
import WebSession.Proofs.SessionStore.Initializing
import WebSession.Proofs.SessionStore.SavedText

/-!
# WebSession.Proofs.SessionStore.Fate

**Whether a session is saved, and with which error if not, is settled beforehand**
(`sameFate_savedText`): by the conditions in its store, by whether there are random octets, and by
which calls are refused. Other sessions that are saved before change none of these (`akin_run`).
-/

namespace WebSession

open Plan

namespace World

/-- Worlds of one moment in which the same stands in the way of calls. -/
structure Akin (w w' : World) : Prop where
  now_eq : w.now = w'.now
  broken_eq : w.entropy.broken = w'.entropy.broken
  conditions_eq : ∀ store, (w.records.get? store).map Records.conditions =
    (w'.records.get? store).map Records.conditions

variable {w w' w'' : World} {refuse? : Call → Option Error} {store id : String} {maxAge : Int}

theorem Akin.refl (w : World) : w.Akin w := ⟨rfl, rfl, fun _ => rfl⟩

theorem Akin.symm (h : w.Akin w') : w'.Akin w :=
  ⟨h.now_eq.symm, h.broken_eq.symm, fun store => (h.conditions_eq store).symm⟩

theorem Akin.trans (h : w.Akin w') (h' : w'.Akin w'') : w.Akin w'' :=
  ⟨h.now_eq.trans h'.now_eq, h.broken_eq.trans h'.broken_eq,
    fun store => (h.conditions_eq store).trans (h'.conditions_eq store)⟩

/-- What comes of adding a record. -/
def adding (w : World) (store id : String) (maxAge : Int) : Except Error Unit :=
  match (w.records.get? store).map Records.conditions with
  | none => .error .noStore
  | some conditions => conditions.adding id maxAge

/-- What comes of dropping a record. -/
def dropping (w : World) (store id : String) : Except Error Unit :=
  match (w.records.get? store).map Records.conditions with
  | none => .error .noStore
  | some conditions => conditions.dropping id

theorem Akin.adding_eq (h : w.Akin w') : w.adding store id maxAge = w'.adding store id maxAge := by
  rw [adding, adding, h.conditions_eq]

theorem Akin.dropping_eq (h : w.Akin w') : w.dropping store id = w'.dropping store id := by
  rw [dropping, dropping, h.conditions_eq]

theorem respond_add_fst (w : World) (store id text : String) (maxAge : Int) :
    (respond (.add store id text maxAge) w).1 = w.adding store id maxAge := by
  rw [adding]
  cases hr : w.records.get? store with
  | none => rw [respond_add_of_none hr]; rfl
  | some r => rw [respond_add_of_some hr]; exact r.add_fst w.now maxAge id text

theorem forgiven_respond_remove_fst (w : World) (store id : String) :
    Records.forgiven (respond (.remove store id) w).1 = w.dropping store id := by
  rw [dropping]
  cases hr : w.records.get? store with
  | none => rw [respond_remove_of_none hr]; rfl
  | some r => rw [respond_remove_of_some hr]; exact r.forgiven_remove_fst w.now id

/-- **No call changes what stands in the way** of others. -/
theorem akin_respond (call : Call) (w : World) : w.Akin (respond call w).2 := by
  have hset : ∀ {store : String} {r r' : Records}, w.records.get? store = some r →
      r'.conditions = r.conditions → w.Akin (w.withRecords store r') := by
    intro store r r' hr hconditions
    refine ⟨rfl, rfl, fun other => ?_⟩
    by_cases hother : other = store
    · subst hother
      rw [withRecords, Dict.get?_set_self, hr, Option.map_some, Option.map_some, hconditions]
    · rw [withRecords, Dict.get?_set_of_ne hother]
  cases call with
  | random count => exact ⟨rfl, (follows_respond (.random count) w).broken_eq.symm, fun _ => rfl⟩
  | get store id =>
      rw [respond_get_eq]
      exact .refl w
  | add store id text maxAge =>
      cases hr : w.records.get? store with
      | none =>
          rw [respond_add_of_none hr]
          exact .refl w
      | some r =>
          rw [respond_add_of_some hr]
          exact hset hr (r.conditions_add w.now maxAge id text)
  | remove store id =>
      cases hr : w.records.get? store with
      | none =>
          rw [respond_remove_of_none hr]
          exact .refl w
      | some r =>
          rw [respond_remove_of_some hr]
          exact hset hr (r.conditions_remove _ id)

theorem akin_refusing (refuse? : Call → Option Error) (call : Call) (w : World) :
    w.Akin (respond.refusing refuse? call w).2 := by
  unfold Responder.refusing
  split
  · exact .refl w
  · exact akin_respond call w

/-- Nor does any plan. -/
theorem akin_run {α : Type} (refuse? : Call → Option Error) (p : Plan α) (w : World) :
    w.Akin (p.run (respond.refusing refuse?) w).2 := by
  induction p generalizing w with
  | done a => exact .refl w
  | ask call next ih => exact (akin_refusing refuse? call w).trans (ih _ _)

end World

/-! ### Refusals -/

/-- Whether adding a record is refused is a matter of its store and its id. -/
def RefusesById (refuse? : Call → Option Error) : Prop :=
  ∀ store id record record' maxAge maxAge',
    refuse? (.add store id record maxAge) = refuse? (.add store id record' maxAge')

namespace SessionStore

variable {s : SessionStore} {key key' records id : String} {now now' : Int} {d d' : SessionData}
  {info : SessionInfo} {w w' : World} {refuse? : Call → Option Error} {α β : Type}

/-! ### Fates -/

theorem sameFate_of_eq {a a' : Except Error α} (h : a = a') : SameFate a a' := by
  subst h
  cases a with
  | ok a => exact trivial
  | error e => exact rfl

theorem isOk_eq_of_sameFate {a : Except Error α} {b : Except Error β} (h : SameFate a b) :
    a.isOk = b.isOk := by
  cases a <;> cases b <;> first | rfl | cases h

/-- Attempts that meet the same fate in worlds of a kind meet the same fate when they go on so. -/
theorem sameFate_bind {p p' : ExceptT Error Plan α} {f f' : α → ExceptT Error Plan β}
    (h : SameFate (p.run.run (World.respond.refusing refuse?) w).1
      (p'.run.run (World.respond.refusing refuse?) w').1) (hw : w.Akin w')
    (hf : ∀ a a' w₁ w₁', w₁.Akin w₁' → SameFate
      ((f a).run.run (World.respond.refusing refuse?) w₁).1
      ((f' a').run.run (World.respond.refusing refuse?) w₁').1) :
    SameFate ((p >>= f).run.run (World.respond.refusing refuse?) w).1
      ((p' >>= f').run.run (World.respond.refusing refuse?) w').1 := by
  have hafter := ((World.akin_run refuse? p.run w).symm.trans hw).trans
    (World.akin_run refuse? p'.run w')
  rw [ExceptT.run_bind, ExceptT.run_bind, Plan.run_bind, Plan.run_bind]
  cases hrun : p.run.run (World.respond.refusing refuse?) w with
  | mk a w₁ =>
  cases hrun' : p'.run.run (World.respond.refusing refuse?) w' with
  | mk a' w₁' =>
  rw [hrun, hrun'] at h hafter
  cases a with
  | error e =>
      cases a' with
      | error e' => exact h
      | ok a' => cases h
  | ok a =>
      cases a' with
      | error e' => cases h
      | ok a' => exact hf a a' w₁ w₁' hafter

theorem sameFate_draw (hw : w.Akin w') (count : Nat) :
    SameFate ((Encoder.draw count).run.run (World.respond.refusing refuse?) w).1
      ((Encoder.draw count).run.run (World.respond.refusing refuse?) w').1 := by
  by_cases hgives : w.Gives refuse? count
  · obtain ⟨octets, w₁, hdraw, -⟩ := World.exists_run_draw_of_gives hgives
    obtain ⟨octets', w₁', hdraw', -⟩ := World.exists_run_draw_of_gives
      (⟨hgives.1, hw.broken_eq.symm.trans hgives.2⟩ : w'.Gives refuse? count)
    rw [hdraw, hdraw']
    exact trivial
  · have hgives' : ¬ w'.Gives refuse? count :=
      fun h => hgives ⟨h.1, hw.broken_eq.trans h.2⟩
    rw [World.run_draw_of_not_gives hgives, World.run_draw_of_not_gives hgives']
    exact rfl

/-- **Writing a text** meets the same fate whatever it is of. -/
theorem sameFate_encode (hw : w.Akin w') (encoders : List Encoder) :
    SameFate ((Encoders.encode encoders key now d).run.run (World.respond.refusing refuse?) w).1
      ((Encoders.encode encoders key' now' d').run.run (World.respond.refusing refuse?) w').1 := by
  cases encoders with
  | nil => exact rfl
  | cons e more =>
      simp only [Encoders.encode, Encoder.encode]
      cases e.authenticate? with
      | none => exact rfl
      | some authenticate =>
          refine sameFate_bind ?_ hw fun _ _ _ _ _ => trivial
          unfold Encoder.sealed
          cases e.block? with
          | none => exact trivial
          | some block =>
              exact sameFate_bind (sameFate_draw hw _) hw fun _ _ _ _ hw₁ =>
                sameFate_bind (sameFate_draw hw₁ _) hw₁ fun _ _ _ _ _ => trivial

/-- Dropping a record is one call. -/
theorem run_dropRecord_eq {σ : Type} (respond : Responder σ) (t : σ) (records id : String) :
    (dropRecord records id).run.run respond t =
      (Records.forgiven (respond (.remove records id) t).1,
        (respond (.remove records id) t).2) := by
  simp only [dropRecord, ExceptT.run_mk, Plan.remove, ask_bind, done_bind, run_ask]
  cases (respond (.remove records id) t).1 with
  | ok u => rfl
  | error e => cases e <;> rfl

theorem sameFate_dropRecord (hw : w.Akin w') (records id : String) :
    SameFate ((dropRecord records id).run.run (World.respond.refusing refuse?) w).1
      ((dropRecord records id).run.run (World.respond.refusing refuse?) w').1 := by
  rw [run_dropRecord_eq, run_dropRecord_eq]
  refine sameFate_of_eq ?_
  unfold Responder.refusing
  cases refuse? (.remove records id) with
  | some e => rfl
  | none =>
      dsimp only
      rw [World.forgiven_respond_remove_fst, World.forgiven_respond_remove_fst, hw.dropping_eq]

theorem sameFate_writeRecord (hrefuse : RefusesById refuse?) (hw : w.Akin w') :
    SameFate
      ((s.writeRecord records key now id info).run.run (World.respond.refusing refuse?) w).1
      ((s.writeRecord records key now id info).run.run (World.respond.refusing refuse?) w').1 := by
  unfold writeRecord
  split
  · exact sameFate_dropRecord hw records id
  · refine sameFate_bind (sameFate_encode hw _) hw fun text text' w₁ w₁' hw₁ => ?_
    rw [World.run_add, World.run_add]
    refine sameFate_of_eq ?_
    unfold Responder.refusing
    rw [hrefuse records id text text' info.config.maxAge info.config.maxAge]
    cases refuse? (.add records id text' info.config.maxAge) with
    | some e => rfl
    | none =>
        dsimp only
        rw [World.respond_add_fst, World.respond_add_fst, hw₁.adding_eq]

/-- **Saving a session** meets the same fate in worlds in which the same stands in the way. -/
theorem sameFate_savedText (hrefuse : RefusesById refuse?) (hw : w.Akin w') :
    SameFate ((s.savedText key now info).run.run (World.respond.refusing refuse?) w).1
      ((s.savedText key now info).run.run (World.respond.refusing refuse?) w').1 := by
  unfold savedText
  split
  · exact sameFate_encode hw _
  · split
    · exact rfl
    · split
      · exact rfl
      · exact sameFate_bind (sameFate_writeRecord hrefuse hw) hw
          fun _ _ _ _ hw₁ => sameFate_encode hw₁ _

end SessionStore

end WebSession
