import Mathlib.Data.List.Nodup
import Mathlib.Data.List.Pairwise
import WebSession.Proofs.RequestSessions.SavedTexts
import WebSession.Proofs.SessionStore.Mark

/-!
# WebSession.Proofs.RequestSessions.SaveOrder

**The order in which the sessions of a request are saved does not matter, and none is left out**
(`save_in_any_order`).

What a session comes to is settled before any is saved (`sameFate_textOne`), and so are its error, its
cookie and its record: the run lemmas `errors_saveAll`, `cookie_saveAll` and `slot_saveAll` tell what a
whole save leaves by the sessions alone. Two sessions share no cookie, and no record if their ids
differ, so that there is but one session for each that could have been written. The random octets are
shared: two orders draw different ones for a session, and its texts are read alike, by the encoder that
wrote them in any case and by all of them if that one can read what it writes.
-/

namespace WebSession.RequestSessions

open Plan SessionStore

variable {factory : SessionFactory} {now : Int} {refuse? : Call → Option Error} {w w' : World}
  {f f' : String × SessionInfo} {l l' : List (String × SessionInfo)} {jar : Cookie.Jar}

/-! ### One session -/

/-- What comes of saving one session before any other. -/
def alone (factory : SessionFactory) (now : Int) (refuse? : Call → Option Error) (w : World)
    (f : String × SessionInfo) : Except Error String :=
  ((textOne factory now f).run.run (World.respond.refusing refuse?) w).1

/-- **It is what comes of saving it after others.** -/
theorem sameFate_textOne (hrefuse : RefusesById refuse?) (hw : w.Akin w')
    (f : String × SessionInfo) :
    SameFate (alone factory now refuse? w f) (alone factory now refuse? w' f) := by
  unfold alone textOne
  cases factory.store f.2.store with
  | error e => exact rfl
  | ok s => exact sameFate_savedText hrefuse hw

/-! ### One session after the other -/

theorem failure_eq_of_sameFate {α β : Type} {a : Except Error α} {b : Except Error β}
    (h : SameFate a b) : failure a = failure b := by
  cases a with
  | ok a =>
      cases b with
      | ok b => rfl
      | error e => cases h
  | error e =>
      cases b with
      | ok b => cases h
      | error e' => exact congrArg (fun e => [e]) h

/-- **The errors of a save** are those of its sessions. -/
theorem errors_saveAll (hrefuse : RefusesById refuse?) (hw : w.Akin w') :
    ((saveAll factory now l jar).run (World.respond.refusing refuse?) w').1.2 =
      l.flatMap fun f => failure (alone factory now refuse? w f) := by
  -- on the sessions, in any world that the saves before may have left of the first one
  induction l generalizing w' jar with
  | nil => rfl
  | cons f more ih =>
      rw [run_saveAll_cons, List.flatMap_cons]
      dsimp only
      rw [ih (hw.trans (World.akin_run refuse? _ w')),
        failure_eq_of_sameFate (sameFate_textOne hrefuse hw f)]
      rfl

/-- The cookie is one that a session is saved in. -/
def OwnCookie (factory : SessionFactory) (now : Int) (f : String × SessionInfo)
    (cookie? : Option Cookie) : Prop :=
  ∃ s text, SavedIn factory now f s text ∧
    (s.Determines (s.carried f.2.data) ∨ s.kind = .cookie) ∧
      cookie? = some (Cookie.ofSession f.1 text f.2.config)

/-- **The cookie under a key** is that of a session that could be saved, or is as before. -/
theorem cookie_saveAll (hrefuse : RefusesById refuse?) (hw : w.Akin w') (key : String) :
    let after := ((saveAll factory now l jar).run (World.respond.refusing refuse?) w').1.1
    (∃ f ∈ l, f.1 = key ∧ (alone factory now refuse? w f).isOk ∧
      OwnCookie factory now f (after.changes.get? key)) ∨
    (∀ f ∈ l, f.1 = key → ¬ (alone factory now refuse? w f).isOk) ∧
      after.changes.get? key = jar.changes.get? key := by
  have hakin : ∀ f ∈ l, ∀ w', w.Akin w' →
      w.Akin ((textOne factory now f).run.run (World.respond.refusing refuse?) w').2 :=
    fun f _ w' h => h.trans (World.akin_run refuse? _ w')
  -- what a session comes to in any world on the way is what it comes to in the first
  have hfate : ∀ f made, ComesTo factory now (World.respond.refusing refuse?) w.Akin f made →
      (alone factory now refuse? w f).isOk = made.isOk := by
    intro f made hcomes
    obtain ⟨w'', hw'', rfl⟩ := hcomes
    exact isOk_eq_of_sameFate (sameFate_textOne hrefuse hw'' f)
  rcases cookie_saveAll_cases hakin hw key with ⟨f, hf, hkey, text, hcomes, hset⟩ | ⟨hfails, hkept⟩
  · refine Or.inl ⟨f, hf, hkey, hfate f _ hcomes, ?_⟩
    obtain ⟨w'', -, hmade⟩ := hcomes
    obtain ⟨s, hsaved, hdetermines⟩ := exists_savedIn hmade
    exact ⟨s, text, hsaved, hdetermines, hset⟩
  · refine Or.inr ⟨fun f hf hkey => ?_, hkept⟩
    obtain ⟨e, -, hcomes⟩ := hfails f hf hkey
    rw [hfate f _ hcomes]
    exact Bool.false_ne_true

/-! ### Records -/

/-- What saving a session does to what there is under an id of a store. -/
def markOne (factory : SessionFactory) (now : Int) (refuse? : Call → Option Error) (w : World)
    (store id : String) (f : String × SessionInfo) : Mark :=
  match factory.store f.2.store with
  | .ok s => s.mark refuse? f.1 now f.2 w store id
  | .error _ => .nothing

/-- What a session left of its own record. -/
def OwnRecord (factory : SessionFactory) (now : Int) (w : World) (store : String)
    (f : String × SessionInfo) (slot? : Option Records.Slot) : Mark → Prop
  | .kept _ => False
  | .dropped => slot? = some .empty
  | .written => ∃ s text, factory.store f.2.store = .ok s ∧ s.IsText f.1 now f.2.data text ∧
      slot? = w.written? store f.2.config.maxAge text

variable {store id : String}

/-- The record that a session has, if it has one. -/
def record? (factory : SessionFactory) (f : String × SessionInfo) : Option (String × String) :=
  match factory.store f.2.store with
  | .ok s =>
    match s.kind, f.2.data.id? with
    | .serverSide records, some id => some (records, id)
    | _, _ => none
  | .error _ => none

theorem record?_of_ownRecord {slot? : Option Records.Slot}
    (h : OwnRecord factory now w store f slot? (markOne factory now refuse? w store id f)) :
    record? factory f = some (store, id) := by
  unfold markOne at h
  cases hs : factory.store f.2.store with
  | error e =>
      rw [hs] at h
      cases h
  | ok s =>
      rw [hs] at h
      obtain ⟨hk, hid⟩ := own_of_mark (s := s) (w := w) fun late hkept => by
        dsimp only at h
        rw [hkept] at h
        exact h
      simp only [record?, hs, hk, hid]

/-- **One session** leaves its own record written or dropped, and any other as its mark says. -/
theorem slot_saveOne (hrefuse : RefusesById refuse?) (hw : w.Akin w') (f : String × SessionInfo)
    (store id : String) :
    let after := ((textOne factory now f).run.run (World.respond.refusing refuse?) w').2
    OwnRecord factory now w store f (after.slot? store id)
        (markOne factory now refuse? w store id f) ∨
      ∃ late, markOne factory now refuse? w store id f = .kept late ∧
        after.slot? store id = (w'.slot? store id).map (·.sweep late) := by
  dsimp only
  rw [textOne, markOne]
  cases hs : factory.store f.2.store with
  | error e => exact Or.inr ⟨_, rfl, (Records.Slot.map_sweep_none _).symm⟩
  | ok s =>
      have hleaves : s.Leaves f.1 now f.2 w' store (w'.slot? store id)
          (((s.save {} f.1 now f.2).run.run (World.respond.refusing refuse?) w').2.slot? store id)
          (s.mark refuse? f.1 now f.2 w' store id) := leaves_save hrefuse {}
      rw [s.run_save_eq, Plan.run_bind, ← mark_congr hw] at hleaves
      dsimp only
      cases hmark : s.mark refuse? f.1 now f.2 w store id with
      | kept late =>
          rw [hmark] at hleaves
          exact Or.inr ⟨late, rfl, hleaves⟩
      | dropped =>
          rw [hmark] at hleaves
          exact Or.inl hleaves
      | written =>
          rw [hmark] at hleaves
          obtain ⟨text, htext, hslot⟩ := hleaves
          exact Or.inl ⟨s, text, hs, htext, hslot.trans hw.written?_eq.symm⟩

theorem late_markOne_now : (markOne factory now refuse? w store id f).late w.now = false := by
  rw [markOne]
  cases factory.store f.2.store with
  | error e => rfl
  | ok s => exact late_mark_now

/-- No session changes a record that was just written or dropped, unless it is its own. -/
theorem OwnRecord.sweep {slot? : Option Records.Slot} {mark : Mark} {late : Int → Bool}
    (h : OwnRecord factory now w store f slot? mark) (hlate : late w.now = false) :
    OwnRecord factory now w store f (slot?.map (·.sweep late)) mark := by
  cases mark with
  | kept _ => cases h
  | dropped =>
      rw [(h : slot? = some .empty)]
      exact rfl
  | written =>
      obtain ⟨s, text, hs, htext, hslot⟩ := h
      refine ⟨s, text, hs, htext, ?_⟩
      rw [hslot, World.written?]
      cases (w.records.get? store).map Records.conditions with
      | none => rfl
      | some conditions => exact congrArg some (conditions.sweep_written hlate _ text)

/-- **The record under an id** is as its own session left it, or else is swept at most. -/
theorem slot_saveAll (hrefuse : RefusesById refuse?) (hw : w.Akin w')
    (l : List (String × SessionInfo)) (jar : Cookie.Jar) (store id : String) :
    let after := ((saveAll factory now l jar).run (World.respond.refusing refuse?) w').2
    (∃ f ∈ l, OwnRecord factory now w store f (after.slot? store id)
      (markOne factory now refuse? w store id f)) ∨
    (∀ f ∈ l, ∃ late, markOne factory now refuse? w store id f = .kept late) ∧
      after.slot? store id = (w'.slot? store id).map (·.sweep fun modified =>
        l.any fun f => (markOne factory now refuse? w store id f).late modified) := by
  induction l generalizing w' jar with
  | nil => exact Or.inr ⟨by simp, (Records.Slot.map_sweep_none _).symm⟩
  | cons f more ih =>
      rw [run_saveAll_cons]
      dsimp only
      rcases ih (hw.trans (World.akin_run refuse? (textOne factory now f).run w')) _ with
        ⟨f', hf', hown⟩ | ⟨hkept, hafter⟩
      · exact Or.inl ⟨f', List.mem_cons_of_mem f hf', hown⟩
      · rw [hafter]
        rcases slot_saveOne hrefuse hw f store id with hown | ⟨late, hmark, hslot⟩
        · -- a file that was just written is not old enough for the sweeps of the others
          refine Or.inl ⟨f, List.mem_cons_self, hown.sweep ?_⟩
          simp [late_markOne_now]
        · refine Or.inr ⟨List.forall_mem_cons.mpr ⟨⟨late, hmark⟩, hkept⟩, ?_⟩
          rw [hslot, Option.map_map]
          simp only [List.any_cons, hmark, Mark.late]
          congr 1
          funext slot
          exact slot.sweep_sweep late _

/-! ### Two orders -/

/-- Two cookies under one key: the same, or two of one session that are read alike. -/
def SameCookie (factory : SessionFactory) (l : List (String × SessionInfo)) (key : String)
    (cookie? cookie?' : Option Cookie) : Prop :=
  cookie? = cookie?' ∨ ∃ f ∈ l, f.1 = key ∧ ∃ s text text', factory.store f.2.store = .ok s ∧
    cookie? = some (Cookie.ofSession key text f.2.config) ∧
    cookie?' = some (Cookie.ofSession key text' f.2.config) ∧ s.ReadAlike key text text'

/-- Two records under one id: the same, or two of one session that the encoder that wrote them reads
alike. So does the store, where what is read of a session does not hang on what is drawn for it. -/
def SameRecord (factory : SessionFactory) (now : Int) (l : List (String × SessionInfo))
    (store id : String) (record record' : Except Error String) : Prop :=
  record = record' ∨ ∃ f ∈ l, record? factory f = some (store, id) ∧
    ∃ s text text', factory.store f.2.store = .ok s ∧ record = .ok text ∧ record' = .ok text' ∧
      s.IsText f.1 now f.2.data text ∧ s.IsText f.1 now f.2.data text' ∧
      (∀ e more, s.encoders = e :: more → ∀ t, e.decode f.1 t text = e.decode f.1 t text') ∧
      (s.Determines f.2.data → s.ReadAlike f.1 text text')

/-- Sessions whose records differ have each its own. -/
theorem eq_of_record?_eq (hids : (l.filterMap (record? factory)).Nodup) (hf : f ∈ l) (hf' : f' ∈ l)
    {r : String × String} (h : record? factory f = some r) (h' : record? factory f' = some r) :
    f = f' := by
  have hsymm : Std.Symm fun f f' => ∀ r, record? factory f = some r →
      ∀ r', record? factory f' = some r' → r ≠ r' :=
    ⟨fun _ _ hne r hr r' hr' => (hne r' hr' r hr).symm⟩
  by_contra hne
  exact (List.pairwise_filterMap.mp hids).forall hf hf' hne r h r h' rfl

section

variable (hnow : Range.isInt64 now = true)
  (hkeyed : ∀ f ∈ l, ∀ s, factory.store f.2.store = .ok s → ∃ pairs, s.Keyed pairs)

include hnow hkeyed

/-- What one session left of its own record in two orders. -/
theorem sameRecord_of_ownRecord {slot? slot?' : Option Records.Slot} {mark : Mark} (hf : f ∈ l)
    (hrecord : record? factory f = some (store, id)) (h : OwnRecord factory now w store f slot? mark)
    (h' : OwnRecord factory now w store f slot?' mark) (t : Int) :
    SameRecord factory now l store id (World.told t slot?) (World.told t slot?') := by
  cases mark with
  | kept late => cases h
  | dropped =>
      obtain rfl : slot? = some .empty := h
      obtain rfl : slot?' = some .empty := h'
      exact Or.inl rfl
  | written =>
      obtain ⟨s, text, hs, htext, rfl⟩ := h
      obtain ⟨s', text', hs', htext', rfl⟩ := h'
      obtain rfl : s = s' := Except.ok.inj (hs.symm.trans hs')
      obtain ⟨pairs, hpairs⟩ := hkeyed f hf s hs
      rw [World.written?, World.written?]
      cases (w.records.get? store).map Records.conditions with
      | none => exact Or.inl rfl
      | some conditions =>
          rcases conditions.read_written w.now f.2.config.maxAge t with hread | hread
          · exact Or.inr ⟨f, hf, hrecord, s, text, text', hs, hread text, hread text', htext, htext',
              fun e more he t => decode_eq_of_isText htext htext' he t,
              fun hd => readAlike_of_isText hpairs hnow htext htext' (Or.inl hd)⟩
          · exact Or.inl ((hread text).trans (hread text').symm)

variable (hperm : l.Perm l') (hrefuse : RefusesById refuse?) (jar : Cookie.Jar) (w : World)

include hperm hrefuse

/-- **The cookies** that are left by saving in two orders. -/
theorem sameCookie_saveAll (hkeys : (l.map Prod.fst).Nodup) (key : String) :
    let saved := (saveAll factory now l jar).run (World.respond.refusing refuse?) w
    let saved' := (saveAll factory now l' jar).run (World.respond.refusing refuse?) w
    SameCookie factory l key (saved.1.1.changes.get? key) (saved'.1.1.changes.get? key) := by
  dsimp only
  rcases cookie_saveAll (l := l) hrefuse (.refl w) key with
    ⟨f, hf, hkey, hok, s, text, ⟨hs, htext⟩, hdetermines, hset⟩ | ⟨hnone, hkept⟩
  · rcases cookie_saveAll (l := l') hrefuse (.refl w) key with
      ⟨f', hf', hkey', -, s', text', ⟨hs', htext'⟩, -, hset'⟩ | ⟨hnone', -⟩
    · -- the texts differ, since other octets were drawn for them
      obtain rfl : f = f' :=
        List.inj_on_of_nodup_map hkeys hf (hperm.mem_iff.mpr hf') (hkey.trans hkey'.symm)
      obtain rfl : s = s' := Except.ok.inj (hs.symm.trans hs')
      obtain ⟨pairs, hpairs⟩ := hkeyed f hf s hs
      subst hkey
      exact Or.inr ⟨f, hf, rfl, s, text, text', hs, hset, hset',
        readAlike_of_isText hpairs hnow htext htext' hdetermines⟩
    · exact absurd hok (hnone' f (hperm.mem_iff.mp hf) hkey)
  · rcases cookie_saveAll (l := l') hrefuse (.refl w) key with
      ⟨f', hf', hkey', hok', -⟩ | ⟨-, hkept'⟩
    · exact absurd hok' (hnone f' (hperm.mem_iff.mpr hf') hkey')
    · exact Or.inl (hkept.trans hkept'.symm)

/-- **The records** that are left by saving in two orders. -/
theorem sameRecord_saveAll (hids : (l.filterMap (record? factory)).Nodup) (store id : String)
    {t : Int} (hle : w.now ≤ t) :
    let saved := (saveAll factory now l jar).run (World.respond.refusing refuse?) w
    let saved' := (saveAll factory now l' jar).run (World.respond.refusing refuse?) w
    SameRecord factory now l store id
      (Responder.record World.respond store id (saved.2.withNow t))
      (Responder.record World.respond store id (saved'.2.withNow t)) := by
  dsimp only
  rw [World.record_withNow_eq ((World.akin_run refuse? _ w).now_eq ▸ hle),
    World.record_withNow_eq ((World.akin_run refuse? _ w).now_eq ▸ hle)]
  rcases slot_saveAll hrefuse (.refl w) l jar store id with ⟨f, hf, hown⟩ | ⟨hkept, hslot⟩
  · rcases slot_saveAll hrefuse (.refl w) l' jar store id with ⟨f', hf', hown'⟩ | ⟨hkept', -⟩
    · -- the ids tell that it was one session in both orders
      have hrecord := record?_of_ownRecord hown
      obtain rfl : f = f' := eq_of_record?_eq hids hf (hperm.mem_iff.mpr hf') hrecord
        (record?_of_ownRecord hown')
      exact sameRecord_of_ownRecord hnow hkeyed hf hrecord hown hown' t
    · obtain ⟨late, hmark⟩ := hkept' f (hperm.mem_iff.mp hf)
      rw [hmark] at hown
      cases hown
  · rcases slot_saveAll hrefuse (.refl w) l' jar store id with ⟨f', hf', hown'⟩ | ⟨-, hslot'⟩
    · obtain ⟨late, hmark⟩ := hkept f' (hperm.mem_iff.mpr hf')
      rw [hmark] at hown'
      cases hown'
    · -- a file that no session wrote is gone if it is too old for one of them, whichever comes first
      refine Or.inl ?_
      rw [hslot, hslot']
      simp only [hperm.any_eq]

end

/-! ### A request -/

/-- What comes of saving one session of a request before any other. -/
def savedFirst (factory : SessionFactory) (now : Int) (refuse? : Call → Option Error) (w : World)
    (r : RequestSessions) (f : String × SessionInfo) : Except Error Cookie.Jar :=
  ((saveOne factory now f r.jar).run (World.respond.refusing refuse?) w).1

theorem savedFirst_eq (r : RequestSessions) (f : String × SessionInfo) :
    savedFirst factory now refuse? w r f =
      (alone factory now refuse? w f).map (withCookie r.jar f) :=
  congrArg Prod.fst (run_saveOne (World.respond.refusing refuse?) w f r.jar)

theorem isOk_savedFirst (r : RequestSessions) (f : String × SessionInfo) :
    (savedFirst factory now refuse? w r f).isOk = (alone factory now refuse? w f).isOk := by
  rw [savedFirst_eq]
  cases alone factory now refuse? w f <;> rfl

/-- A save leaves of each session what there is of it when it is saved first. -/
structure SavesEach (factory : SessionFactory) (now : Int) (refuse? : Call → Option Error) (w : World)
    (r : RequestSessions) (saved : RequestSessions × List Error) : Prop where
  errors_eq : saved.2 = r.loaded.flatMap fun f => failure (savedFirst factory now refuse? w r f)
  /-- There are as many errors as sessions that fail. -/
  length_errors : saved.2.length =
    r.loaded.countP fun f => !(savedFirst factory now refuse? w r f).isOk
  /-- The cookie of a session that does not fail is set. -/
  set : ∀ f ∈ r.loaded, (savedFirst factory now refuse? w r f).isOk → ∃ s text,
    SavedIn factory now f s text ∧
      saved.1.jar.changes.get? f.1 = some (Cookie.ofSession f.1 text f.2.config)
  /-- No other cookie is set. -/
  kept : ∀ key, (∀ f ∈ r.loaded, f.1 = key → ¬ (savedFirst factory now refuse? w r f).isOk) →
    saved.1.jar.changes.get? key = r.jar.changes.get? key
  received_eq : saved.1.jar.received = r.jar.received

theorem length_failures {α β : Type} (l : List α) (g : α → Except Error β) :
    (l.flatMap fun a => failure (g a)).length = l.countP fun a => !(g a).isOk := by
  induction l with
  | nil => rfl
  | cons a more ih =>
      rw [List.flatMap_cons, List.length_append, ih, List.countP_cons, Nat.add_comm]
      cases g a <;> rfl

/-- **A save does not stop at a session that fails.** -/
theorem savesEach_save (hrefuse : RefusesById refuse?) (r : RequestSessions)
    (hkeys : (r.loaded.map Prod.fst).Nodup) (w : World) :
    SavesEach factory now refuse? w r
      ((save factory now r).run (World.respond.refusing refuse?) w).1 := by
  have herrors : ((save factory now r).run (World.respond.refusing refuse?) w).1.2 =
      r.loaded.flatMap fun f => failure (savedFirst factory now refuse? w r f) := by
    rw [run_save_eq_saveAll]
    refine (errors_saveAll hrefuse (.refl w)).trans ?_
    simp only [savedFirst_eq, failure_map]
  refine
    { errors_eq := herrors
      length_errors := by rw [herrors, length_failures]
      set := fun f hf hok => ?_
      kept := fun key hfails => ?_
      received_eq := by rw [run_save_eq_saveAll]; exact received_saveAll _ _ }
  · rw [isOk_savedFirst] at hok
    rw [run_save_eq_saveAll]
    rcases cookie_saveAll hrefuse (.refl w) f.1 with
      ⟨f', hf', hkey, -, s, text, hsaved, -, hset⟩ | ⟨hnone, -⟩
    · obtain rfl : f' = f := List.inj_on_of_nodup_map hkeys hf' hf hkey
      exact ⟨s, text, hsaved, hset⟩
    · exact absurd hok (hnone f hf rfl)
  · simp only [isOk_savedFirst] at hfails
    rw [run_save_eq_saveAll]
    rcases cookie_saveAll hrefuse (.refl w) key with ⟨f, hf, hkey, hok, -⟩ | ⟨-, hkept⟩
    · exact absurd hok (hfails f hf hkey)
    · exact hkept

/-- **The order in which the sessions of a request are saved does not matter**, however many of them
fail: the errors are the same but for their order, and the cookies and the records the same but for
what was drawn for them. Sessions in records have ids of their own, and whether a call is refused is a
matter of its store and its id. -/
theorem save_in_any_order (factory : SessionFactory) (now : Int) (refuse? : Call → Option Error)
    (w : World) (r r' : RequestSessions) (hjar : r'.jar = r.jar) (hperm : r.loaded.Perm r'.loaded)
    (hkeys : (r.loaded.map Prod.fst).Nodup) (hids : (r.loaded.filterMap (record? factory)).Nodup)
    (hkeyed : ∀ f ∈ r.loaded, ∀ s, factory.store f.2.store = .ok s → ∃ pairs, s.Keyed pairs)
    (hnow : Range.isInt64 now = true) (hrefuse : RefusesById refuse?) :
    let saved := (save factory now r).run (World.respond.refusing refuse?) w
    let saved' := (save factory now r').run (World.respond.refusing refuse?) w
    SavesEach factory now refuse? w r saved.1 ∧
      saved.1.2.Perm saved'.1.2 ∧
      (∀ key, SameCookie factory r.loaded key (saved.1.1.jar.changes.get? key)
        (saved'.1.1.jar.changes.get? key)) ∧
      ∀ store id t, w.now ≤ t → SameRecord factory now r.loaded store id
        (Responder.record World.respond store id (saved.2.withNow t))
        (Responder.record World.respond store id (saved'.2.withNow t)) := by
  refine ⟨savesEach_save hrefuse r hkeys w, ?_⟩
  simp only [run_save_eq_saveAll, hjar]
  refine ⟨?_, ?_, ?_⟩
  · rw [errors_saveAll hrefuse (.refl w), errors_saveAll hrefuse (.refl w)]
    exact hperm.flatMap_right _
  · exact sameCookie_saveAll hnow hkeyed hperm hrefuse r.jar w hkeys
  · exact fun store id t hle => sameRecord_saveAll hnow hkeyed hperm hrefuse r.jar w hids store id hle

/-- A cookie store and one in memory, which have the same key. -/
def twoStores : SessionFactory where
  stores := (Dict.empty.set "cookie" (ofKind .cookie SessionStore.cookieMaxLength)).set "memory"
    (ofKind (.serverSide "memory") 0)
where
  ofKind (kind : StoreKind) (maxLength : Nat) : SessionStore :=
    { kind := kind
      encoders := [{ Encoder.ofKeys [1, 2] none with
        maxAge := SessionConfig.defaultMaxAge
        maxLength := maxLength }] }

/-- One session in a cookie and two with records, of which the first is to be dropped. -/
def threeSessions : RequestSessions where
  loaded := [
    ("a", { data := .ofList [("x", .str "1")], store := "cookie" }),
    ("b", { data := .ofId "0b", store := "memory" }),
    ("c", { data := (SessionData.ofId "0c").insert "x" (.str "2"), store := "memory" })]

/-- No record can be dropped. -/
def refuseRemovals : Call → Option Error
  | .remove .. => some (.other "injected")
  | _ => none

def sampleMemory : World where
  now := 100000
  entropy := { octet := fun _ => 7 }
  records := Dict.empty.set "memory" (.memory {})

/-- Three sessions that are saved in one order and in the other: one fails in both, and the others
are saved alike. -/
theorem two_of_three_saved :
    let run (r : RequestSessions) :=
      (save twoStores 100 r).run (World.respond.refusing refuseRemovals) sampleMemory
    let saved := run threeSessions
    let saved' := run { threeSessions with loaded := threeSessions.loaded.reverse }
    saved.1.2.length = 1 ∧ saved.1.2.Perm saved'.1.2 ∧
      (∀ key, SameCookie twoStores threeSessions.loaded key (saved.1.1.jar.changes.get? key)
        (saved'.1.1.jar.changes.get? key)) ∧
      ∀ store id t, 100000 ≤ t → SameRecord twoStores 100 threeSessions.loaded store id
        (Responder.record World.respond store id (saved.2.withNow t))
        (Responder.record World.respond store id (saved'.2.withNow t)) := by
  have hkeyed : ∀ f ∈ threeSessions.loaded, ∀ s, twoStores.store f.2.store = .ok s →
      ∃ pairs, s.Keyed pairs := by
    intro f hf s hs
    refine ⟨[{ hashKey := [1, 2] }], List.cons_ne_nil _ _, ?_⟩
    simp only [threeSessions, List.mem_cons, List.not_mem_nil, or_false] at hf
    rcases hf with rfl | rfl | rfl <;> (cases hs; rfl)
  have hrefuse : RefusesById refuseRemovals := fun _ _ _ _ _ _ => rfl
  obtain ⟨heach, herrors, hcookies, hrecords⟩ := save_in_any_order twoStores 100 refuseRemovals
    sampleMemory threeSessions { threeSessions with loaded := threeSessions.loaded.reverse } rfl
    (List.reverse_perm _).symm (by decide) (by decide +kernel) hkeyed (by decide) hrefuse
  refine ⟨heach.length_errors.trans ?_, herrors, hcookies, hrecords⟩
  decide +kernel

end WebSession.RequestSessions
