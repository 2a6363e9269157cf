import WebSession.Proofs.SessionStore.Operations
import WebSession.Proofs.SessionStore.Serving

/-!
# WebSession.Proofs.SessionStore.Lifetime

**A session in memory lives as long as it may** (`load_after_save`): once it is saved, its cookie
loads it until the first of two limits, whatever becomes of other sessions meanwhile.

The limits are told in different units. The cookie and the record are texts, which are read for the
default age in whole seconds; the record has a deadline besides, in milliseconds. Saving another
session drops the records that are past theirs, and this one is not.
-/

namespace WebSession.SessionStore

open Plan

variable {s : SessionStore} {w : World} {records id : String} {info : SessionInfo}

/-- Saving a session leaves the records in memory. -/
theorem inMemory_save {jar jar' : Cookie.Jar} {key : String} {now : Int} {w' : World}
    (hw : w.InMemory s)
    (h : (s.save jar key now info).run.run World.respond w = (.ok jar', w')) : w'.InMemory s := by
  have hkept := ((s.owns_save jar key now info).unfailing World.succeeds_of_inMemory hw).2
  rwa [h] at hkept

/-- **A session in memory lives as long as it may.** Saving it succeeds, and until it is too old, in
whole seconds for its texts and in milliseconds for its record, whoever sends its cookie loads it.
What is done with other sessions meanwhile, through any stores and with any calls refused, makes no
difference. -/
theorem load_after_save {f f' : SessionFactory} {name : String} {pairs : List KeyPair}
    (hkeys : f.setStoreKeys name pairs = .ok f') (hpairs : pairs ≠ []) (hs : f'.store name = .ok s)
    (hk : s.kind = .serverSide records) {m : Records.Memory}
    (hm : w.records.get? records = some (.memory m)) (hw : w.entropy.broken = false)
    (hd : info.data.Representable) (hid : info.data.id? = some id)
    (hvalid : SessionId.isValid id = true) (hage : 0 ≤ info.config.maxAge)
    (hmade : Range.isInt64 (w.now / 1000) = true) (hzero : w.now / 1000 ≠ 0) (jar : Cookie.Jar)
    (key : String) :
    ∃ text w', (s.save jar key (w.now / 1000) info).run.run World.respond w =
        (.ok (jar.add (Cookie.ofSession key text info.config)), w') ∧
      ∀ (events : List Event) (now : Int) (jar' : Cookie.Jar),
        (∀ e ∈ events, ¬ e.operation.Concerns records id) →
        (w.now :: (events.map Event.now ++ [now])).IsChain (· ≤ ·) →
        jar'.get? key = some text →
        now / 1000 ≤ w.now / 1000 + SessionConfig.defaultMaxAge →
        (0 < info.config.maxAge → now < w.now + 1000 * info.config.maxAge) →
        now < Records.Memory.lastMoment →
        (s.load jar' key (now / 1000)).run World.respond ((w'.after events).withNow now) =
          (info.data, (w'.after events).withNow now) := by
  have hkeyed := keyed_of_setStoreKeys hkeys hs hpairs
  have hmemory : w.InMemory s := by
    intro records' hk'
    rw [hk] at hk'
    cases hk'
    exact ⟨m, hm⟩
  obtain ⟨text, w', hsave, hstored, -⟩ := exists_run_save_of_serves hkeyed info
    (hmemory.serves hw hid hvalid) hd hage jar key
  refine ⟨text, w', hsave, ?_⟩
  intro events now jar' hevents htimes hjar hdefault hdeadline hlast
  obtain ⟨m', hm'⟩ := inMemory_save hmemory hsave records hk
  rw [← (World.follows_run hsave).now_eq] at htimes
  -- the record is read at the end as it was read when the session had been saved
  obtain ⟨m'', hm'', hget⟩ := World.agrees_after hevents htimes ⟨m', hm', fun _ _ => rfl⟩
  have hrecord : Responder.record World.respond records id ((w'.after events).withNow now) =
      Responder.record World.respond records id (w'.withNow now) := by
    have hm₀ : (w'.withNow now).records.get? records = some (.memory m') := hm'
    rw [World.record_of_some hm'', World.record_of_some hm₀]
    exact hget now (Int.le_refl _)
  refine hstored.run_load_of_keyed hkeyed rfl (fun _ _ htext => htext) hd hmade hzero
    (lasts_of_lt hdefault (fun _ => hdeadline) hlast) ?_ (fun hcookie => ?_) hjar
  · intro records' id' hk' hid'
    rw [hk] at hk'
    rw [hid] at hid'
    cases hk'
    cases hid'
    exact hrecord
  · rw [hk] at hcookie
    cases hcookie

/-- A session with a value that is in memory while another one is saved and a third is removed. -/
theorem value_kept_beside_others :
    let w := World.single 100000 "memory" "cd" "text"
    let s : SessionStore :=
      { kind := .serverSide "memory"
        encoders := [{ Encoder.ofKeys [1, 2] none with maxAge := SessionConfig.defaultMaxAge }] }
    let d := (SessionData.ofId "ab").insert "x" (.int 1)
    let other := (SessionData.ofId "cd").insert "x" (.int 2)
    let events : List Event :=
      [{ now := 200000, operation := .save s {} "s" { data := other, store := "memory" } },
        { now := 250000, operation := .remove "memory" "ef" }]
    ∃ text w', (s.save {} "s" 100 { data := d, store := "memory" }).run.run World.respond w =
        (.ok (Cookie.Jar.add {} (Cookie.ofSession "s" text {})), w') ∧
      ((s.load (Cookie.Jar.add {} (Cookie.ofSession "s" text {})) "s" 300).run World.respond
        ((w'.after events).withNow 300000)).1 = d := by
  intro w s d other events
  let f := SessionFactory.new.setStore "memory" { kind := .serverSide "memory" }
  have hkeys : f.setStoreKeys "memory" [{ hashKey := [1, 2] }] = .ok (f.setStore "memory" s) := rfl
  let info : SessionInfo := { data := d, store := "memory" }
  have hd : info.data.Representable := ⟨by decide, by decide⟩
  have hm : w.records.get? "memory" = some (.memory _) := Dict.get?_set_self
  obtain ⟨text, w', hsave, hload⟩ := load_after_save hkeys (List.cons_ne_nil _ _) rfl rfl hm rfl hd
    rfl (by decide) (by decide : 0 ≤ info.config.maxAge) (by decide) (by decide) {} "s"
  have hevents : ∀ e ∈ events, ¬ e.operation.Concerns "memory" "ab" := by
    intro e he
    rcases List.mem_cons.mp he with rfl | he
    · rintro ⟨-, hid⟩
      exact absurd hid (by decide)
    · rw [List.mem_singleton.mp he]
      rintro ⟨-, hid⟩
      exact absurd hid (by decide)
  have htimes : ([100000, 200000, 250000, 300000] : List Int).IsChain (· ≤ ·) := by decide
  have hloaded := hload events 300000 (Cookie.Jar.add {} (Cookie.ofSession "s" text {})) hevents
    htimes Cookie.Jar.get?_add_self (by decide) (fun _ => by decide) (by decide)
  exact ⟨text, w', hsave, congrArg Prod.fst hloaded⟩

end WebSession.SessionStore
