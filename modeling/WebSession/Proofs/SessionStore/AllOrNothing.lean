import WebSession.Proofs.RequestSessions
import WebSession.Proofs.SessionStore.Fate

/-!
# WebSession.Proofs.SessionStore.AllOrNothing

**Saving a session does all of it or nothing** (`save_all_or_nothing`). A session is saved by a call
to the records first and a cookie then. The call is the last that can fail: with keys and random
octets a text is always made (`run_encode`), so that no record is left without its cookie and no
cookie without its record.

What is asked of the records is that each call does what it should or nothing
(`Responder.AllOrNothing`). The world's records keep to this, whatever calls are refused, unless a
directory stands in the place of a record (`World.allOrNothing`).
-/

namespace WebSession

open Plan

/-! ### Who answers -/

namespace Responder

variable {σ β : Type}

/-- While a condition holds random octets are given, and drawing leaves what is kept. -/
structure DrawsBeside (respond : Responder σ) (ok : σ → Prop) (kept : σ → β) : Prop
    extends respond.Supplies ok where
  kept_random : ∀ {t} (count : Nat), ok t → kept (respond (.random count) t).2 = kept t

/-- While a condition holds, each call to some records does all that it should or nothing: what
fails changes nothing that is kept, unless it fails for a missing record, what was added is there, and
what was removed or was missing is not. Removing leaves all others; what adding does to others is left
open. -/
structure AllOrNothing (respond : Responder σ) (ok : σ → Prop) (kept : σ → β) (records : String)
    (record? : β → String → Option String) : Prop where
  add_keeps : ∀ {t} (id text : String) (maxAge : Int), ok t →
    ok (respond (.add records id text maxAge) t).2
  record?_add_of_ok : ∀ {t} {id text : String} {maxAge : Int}, ok t →
    (respond (.add records id text maxAge) t).1 = .ok () →
      record? (kept (respond (.add records id text maxAge) t).2) id = some text
  kept_add_of_error : ∀ {t} {id text : String} {maxAge : Int} {e : Error}, ok t →
    (respond (.add records id text maxAge) t).1 = .error e →
      kept (respond (.add records id text maxAge) t).2 = kept t
  remove_keeps : ∀ {t} (id : String), ok t → ok (respond (.remove records id) t).2
  record?_remove_of_gone : ∀ {t} {id : String}, ok t →
    (respond (.remove records id) t).1 = .ok () ∨
      (respond (.remove records id) t).1 = .error .noSession →
    record? (kept (respond (.remove records id) t).2) id = none
  record?_remove_of_ne : ∀ {t} {id other : String}, ok t → other ≠ id →
    record? (kept (respond (.remove records id) t).2) other = record? (kept t) other
  kept_remove_of_error : ∀ {t} {id : String} {e : Error}, ok t →
    (respond (.remove records id) t).1 = .error e → e ≠ .noSession →
      kept (respond (.remove records id) t).2 = kept t

/-- Adding a record leaves all others. -/
def AddsAlone (respond : Responder σ) (ok : σ → Prop) (kept : σ → β) (records : String)
    (record? : β → String → Option String) : Prop :=
  ∀ t id text maxAge other, ok t → other ≠ id →
    record? (kept (respond (.add records id text maxAge) t).2) other = record? (kept t) other

theorem DrawsBeside.supplies {respond : Responder σ} {ok : σ → Prop} {kept : σ → β}
    (h : respond.DrawsBeside ok kept) (b : β) : respond.Supplies fun t => ok t ∧ kept t = b where
  random := fun count ht => h.random count ht.1
  keeps := fun t count ht => ⟨h.keeps t count ht.1, (h.kept_random count ht.1).trans ht.2⟩

end Responder

/-! ### Sessions with an id -/

/-- A session with an id has more than one field exactly if it has one besides. -/
theorem SessionData.not_length_le_one_iff {d : SessionData} {id : String} (hid : d.id? = some id) :
    ¬ d.length ≤ 1 ↔ ∃ key, key ≠ idKey ∧ d.contains key = true := by
  constructor
  · intro hlength
    by_contra hnone
    refine hlength ?_
    -- without another key the session is the field of its id
    have hempty : ∀ key, key ≠ idKey → d.get? key = none := by
      intro key hkey
      by_contra hsome
      exact hnone ⟨key, hkey, Option.isSome_iff_ne_none.mpr hsome⟩
    obtain ⟨v, hget, -⟩ := Option.bind_eq_some_iff.mp hid
    have honly : d = empty.insert idKey v := by
      refine ext_get? fun key => ?_
      by_cases hkey : key = idKey
      · rw [hkey, hget, get?_insert_self]
      · rw [hempty key hkey, get?_insert_of_ne hkey, get?_empty]
    rw [honly]
    exact Nat.le_refl 1
  · rintro ⟨key, hkey, hcontains⟩ hlength
    have hnone : (ofId id).get? key = none := by
      rw [ofId, get?_insert_of_ne hkey, get?_empty]
    rw [eq_ofId hid hlength] at hcontains
    exact Option.isSome_iff_ne_none.mp hcontains hnone

namespace SessionStore

variable {σ β : Type} {respond : Responder σ} {ok : σ → Prop} {kept : σ → β} {t : σ}
  {record? : β → String → Option String} {s : SessionStore} {key records id : String} {now : Int}
  {info : SessionInfo}

/-! ### Texts -/

/-- **A text is always made**, and nothing that is kept changes by it. -/
theorem run_encode (hs : s.Signs) (hdraws : respond.DrawsBeside ok kept) (ht : ok t) (key : String)
    (now : Int) (d : SessionData) :
    ∃ text t', (Encoders.encode s.encoders key now d).run.run respond t = (.ok text, t') ∧
      s.Writes key now d text ∧ ok t' ∧ kept t' = kept t := by
  obtain ⟨e, more, he, hkey⟩ := hs
  obtain ⟨⟨text, hrun, hwrites⟩, hkept⟩ := Plan.run_of_draws (hdraws.supplies (kept t))
    (Encoder.draws_encode hkey key now d) ⟨ht, rfl⟩
  refine ⟨text, _, ?_, ⟨e, more, he, hwrites⟩, hkept⟩
  rw [he]
  exact Prod.ext hrun rfl

/-! ### Records -/

/-- No record is to be kept of a session: it is to end, or it holds its id alone. -/
def Drops (info : SessionInfo) : Prop := info.config.maxAge < 0 ∨ info.data.length ≤ 1

/-- What is kept of a session that was saved: a record, which can be that of this session only, if
it is to last and has something besides its id. -/
structure Recorded (s : SessionStore) (key : String) (now : Int) (info : SessionInfo)
    (record? : Option String) : Prop where
  isSome_iff : record?.isSome = true ↔
    0 ≤ info.config.maxAge ∧ ∃ k, k ≠ SessionData.idKey ∧ info.data.contains k = true
  writes : ∀ text, record? = some text → s.Writes key now info.data text

theorem not_drops_iff (hid : info.data.id? = some id) : ¬ Drops info ↔
    0 ≤ info.config.maxAge ∧ ∃ k, k ≠ SessionData.idKey ∧ info.data.contains k = true := by
  rw [← SessionData.not_length_le_one_iff hid, ← Int.not_lt, ← not_or, Drops]

theorem recorded_of_drops (hid : info.data.id? = some id) (hdrop : Drops info) :
    s.Recorded key now info none where
  isSome_iff := by
    rw [← not_drops_iff hid]
    exact iff_of_false Bool.false_ne_true (not_not_intro hdrop)
  writes := fun _ h => nomatch h

theorem recorded_of_not_drops {text : String} (hid : info.data.id? = some id)
    (hkeep : ¬ Drops info) (htext : s.Writes key now info.data text) :
    s.Recorded key now info (some text) where
  isSome_iff := by
    rw [← not_drops_iff hid]
    exact iff_of_true rfl hkeep
  writes := by
    intro text' h
    cases h
    exact htext

/-- Dropping a record succeeds when none is left, or fails as the removal does. -/
theorem run_dropRecord_cases (respond : Responder σ) (t : σ) (records id : String) :
    ((dropRecord records id).run.run respond t = (.ok (), (respond (.remove records id) t).2) ∧
      ((respond (.remove records id) t).1 = .ok () ∨
        (respond (.remove records id) t).1 = .error .noSession)) ∨
    ∃ e, (dropRecord records id).run.run respond t =
        (.error e, (respond (.remove records id) t).2) ∧
      (respond (.remove records id) t).1 = .error e ∧ e ≠ .noSession := by
  rw [run_dropRecord_eq]
  cases (respond (.remove records id) t).1 with
  | ok u => exact .inl ⟨rfl, .inl rfl⟩
  | error e =>
      cases e <;> first
        | exact .inl ⟨rfl, .inr rfl⟩
        | exact .inr ⟨_, rfl, rfl, Error.noConfusion⟩

/-- Why a session is not saved: it has no id or a malformed one, or the call for its record
fails. -/
inductive Refused (s : SessionStore) (respond : Responder σ) (kept : σ → β) (before : β)
    (info : SessionInfo) : Error → Prop where
  | noId : s.kind ≠ .cookie → info.data.id? = none →
      Refused s respond kept before info .notInitialized
  | badId {id : String} : s.kind ≠ .cookie → info.data.id? = some id →
      SessionId.isValid id = false → Refused s respond kept before info .badSessionId
  | remove {records id : String} {t : σ} {e : Error} : s.kind = .serverSide records →
      info.data.id? = some id → Drops info → kept t = before →
      (respond (.remove records id) t).1 = .error e → e ≠ .noSession →
      Refused s respond kept before info e
  | add {records id text : String} {t : σ} {e : Error} : s.kind = .serverSide records →
      info.data.id? = some id → ¬ Drops info → kept t = before →
      (respond (.add records id text info.config.maxAge) t).1 = .error e →
      Refused s respond kept before info e

/-- **Writing the record** fails and changes nothing, or leaves what is to be kept of the
session. -/
theorem run_writeRecord_cases (hs : s.Signs) (hk : s.kind = .serverSide records)
    (hdraws : respond.DrawsBeside ok kept)
    (hcalls : respond.AllOrNothing ok kept records record?) (hid : info.data.id? = some id)
    (ht : ok t) :
    (∃ e t', (s.writeRecord records key now id info).run.run respond t = (.error e, t') ∧
      kept t' = kept t ∧ s.Refused respond kept (kept t) info e) ∨
    ∃ t', (s.writeRecord records key now id info).run.run respond t = (.ok (), t') ∧ ok t' ∧
      s.Recorded key now info (record? (kept t') id) ∧
      (respond.AddsAlone ok kept records record? →
        ∀ other, other ≠ id → record? (kept t') other = record? (kept t) other) := by
  unfold writeRecord
  split
  · rename_i hdrop
    rcases run_dropRecord_cases respond t records id with
      ⟨hrun, hgone⟩ | ⟨e, hrun, hfailed, hne⟩
    · refine .inr ⟨_, hrun, hcalls.remove_keeps id ht, ?_, fun _ other hother => ?_⟩
      · rw [hcalls.record?_remove_of_gone ht hgone]
        exact recorded_of_drops hid hdrop
      · exact hcalls.record?_remove_of_ne ht hother
    · exact .inl ⟨e, _, hrun, hcalls.kept_remove_of_error ht hfailed hne,
        .remove hk hid hdrop rfl hfailed hne⟩
  · rename_i hkeep
    -- the call is made after the octets for its text were drawn, where the same is kept
    obtain ⟨text, t₁, hencode, hwrites, ht₁, hkept⟩ := run_encode hs hdraws ht key now info.data
    have hrun : (Encoders.encode s.encoders key now info.data >>= fun record =>
        ExceptT.mk (Plan.add records id record info.config.maxAge)).run.run respond t =
          respond (.add records id text info.config.maxAge) t₁ := by
      rw [ExceptT.run_bind, Plan.run_bind, hencode]
      rfl
    rw [hrun]
    cases hadded : (respond (.add records id text info.config.maxAge) t₁).1 with
    | error e =>
        exact .inl ⟨e, _, Prod.ext hadded rfl, (hcalls.kept_add_of_error ht₁ hadded).trans hkept,
          .add hk hid hkeep hkept hadded⟩
    | ok u =>
        refine .inr ⟨_, Prod.ext hadded rfl, hcalls.add_keeps id text _ ht₁, ?_, ?_⟩
        · rw [hcalls.record?_add_of_ok ht₁ hadded]
          exact recorded_of_not_drops hid hkeep hwrites
        · intro halone other hother
          exact (halone t₁ id text _ other ht₁ hother).trans (by rw [hkept])

/-! ### Saving -/

/-- What a session that was saved leaves: the text of its cookie and what is kept. In a server-side
store the cookie has the id alone. -/
def Saved (s : SessionStore) (respond : Responder σ) (ok : σ → Prop) (kept : σ → β)
    (record? : β → String → Option String) (key : String) (now : Int) (info : SessionInfo)
    (before : β) (text : String) (after : β) : Prop :=
  match s.kind with
  | .cookie => s.Writes key now info.data text ∧ after = before
  | .serverSide records =>
    ∃ id, info.data.id? = some id ∧ SessionId.isValid id = true ∧
      s.Writes key now (.ofId id) text ∧ s.Recorded key now info (record? after id) ∧
      (respond.AddsAlone ok kept records record? →
        ∀ other, other ≠ id → record? after other = record? before other)

/-- **Making the text** that a session is saved by fails and changes nothing, or does all. -/
theorem run_savedText_cases (hs : s.Signs) (hdraws : respond.DrawsBeside ok kept)
    (hcalls : ∀ records, s.kind = .serverSide records →
      respond.AllOrNothing ok kept records record?) (ht : ok t) :
    (∃ e t', (s.savedText key now info).run.run respond t = (.error e, t') ∧ kept t' = kept t ∧
      s.Refused respond kept (kept t) info e) ∨
    ∃ text t', (s.savedText key now info).run.run respond t = (.ok text, t') ∧
      s.Saved respond ok kept record? key now info (kept t) text (kept t') := by
  cases hk : s.kind with
  | cookie =>
      obtain ⟨text, t', hencode, hwrites, -, hkept⟩ := run_encode hs hdraws ht key now info.data
      refine .inr ⟨text, t', ?_, ?_⟩
      · simp only [savedText, hk]
        exact hencode
      · simp only [Saved, hk]
        exact ⟨hwrites, hkept⟩
  | serverSide records =>
      have hkind := kind_ne_cookie hk
      -- what is refused before the record is called for leaves everything
      cases hid : info.data.id? with
      | none =>
          refine .inl ⟨.notInitialized, t, ?_, rfl, .noId hkind hid⟩
          simp only [savedText, hk, hid]
          rfl
      | some id =>
          cases hvalid : SessionId.isValid id with
          | false =>
              refine .inl ⟨.badSessionId, t, ?_, rfl, .badId hkind hid hvalid⟩
              simp only [savedText, hk, hid, SessionId.validate, hvalid]
              rfl
          | true =>
              rw [run_savedText_of_id hk hid hvalid, Plan.run_bind]
              rcases run_writeRecord_cases hs hk hdraws (hcalls records hk) hid ht with
                ⟨e, t', hrun, hkept⟩ | ⟨t₁, hrun, ht₁, hrecorded, hothers⟩
              · rw [hrun]
                exact .inl ⟨e, t', rfl, hkept⟩
              · -- once the record is there nothing can fail
                obtain ⟨text, t', hencode, hwrites, -, hkept⟩ :=
                  run_encode hs hdraws ht₁ key now (SessionData.ofId id)
                rw [hrun]
                refine .inr ⟨text, t', hencode, ?_⟩
                simp only [Saved, hk, hkept]
                exact ⟨id, hid, hvalid, hwrites, hrecorded, hothers⟩

end SessionStore

/-! ### The world -/

namespace World

variable {w w' : World} {condition : Records.Conditions → Prop} {records : String}
  {refuse? : Call → Option Error}

/-- There are random octets, the clock is not at its last moment, and what stands in the way of the
calls to some records meets a condition. -/
structure Meets (condition : Records.Conditions → Prop) (records : String) (w : World) : Prop where
  supplied : w.entropy.broken = false
  lt_last : w.now < Records.Memory.lastMoment
  meets : ∀ c, (w.records.get? records).map Records.conditions = some c → condition c

theorem Meets.akin (h : w.Meets condition records) (hakin : w.Akin w') :
    w'.Meets condition records where
  supplied := hakin.broken_eq ▸ h.supplied
  lt_last := hakin.now_eq ▸ h.lt_last
  meets := fun c hc => h.meets c ((hakin.conditions_eq records).trans hc)

theorem Meets.conditions (h : w.Meets condition records) {r : Records}
    (hr : w.records.get? records = some r) : condition r.conditions :=
  h.meets r.conditions (congrArg (Option.map Records.conditions) hr)

/-- All records, and the moment at which they are read. -/
def kept (w : World) : Int × Dict Records := (w.now, w.records)

/-- The record of an id that is read. -/
def recordIn? (records : String) (k : Int × Dict Records) (id : String) : Option String :=
  (k.2.get? records).bind fun r => (r.get k.1 id).toOption

theorem recordIn?_of_some {r : Records} (hr : w.records.get? records = some r) (id : String) :
    recordIn? records w.kept id = (r.get w.now id).toOption := by
  rw [recordIn?, kept, hr]
  rfl

theorem kept_withRecords {r : Records} (hr : w.records.get? records = some r) :
    (w.withRecords records r).kept = w.kept :=
  congrArg (w.now, ·) (set_records hr)

theorem recordIn?_withRecords (w : World) (records : String) (r : Records) (id : String) :
    recordIn? records (w.withRecords records r).kept id = (r.get w.now id).toOption :=
  recordIn?_of_some (w := w.withRecords records r) Dict.get?_set_self id

theorem drawsBeside (hrandom : ∀ count, refuse? (.random count) = none) :
    (respond.refusing refuse?).DrawsBeside (Meets condition records) kept where
  random := by
    intro w count hw
    simp only [Responder.refusing, hrandom]
    exact World.supplies.random count hw.supplied
  keeps := fun w count hw => hw.akin (akin_refusing refuse? (.random count) w)
  kept_random := by
    intro w count hw
    simp only [Responder.refusing, hrandom]
    rfl

/-- **The world's records do all or nothing in each call**, whatever calls are refused, unless a
directory stands in the place of a record. A refusal must not claim that a record is missing. -/
theorem allOrNothing (hcondition : ∀ c, condition c → ∀ id, c.Free id)
    (hrefuse : ∀ id, refuse? (.remove records id) ≠ some .noSession) :
    (respond.refusing refuse?).AllOrNothing (Meets condition records) kept records
      (recordIn? records) where
  add_keeps := fun id text maxAge hw => hw.akin (akin_refusing refuse? _ _)
  remove_keeps := fun id hw => hw.akin (akin_refusing refuse? _ _)
  record?_add_of_ok := by
    intro w id text maxAge hw hadd
    -- the call is refused, or there are no such records, or they answer it
    rcases refusing_add_cases refuse? w records id text maxAge with
      ⟨e, -, hcall⟩ | hcall | ⟨r, -, hcall⟩ <;> rw [hcall] at hadd ⊢
    · cases hadd
    · cases hadd
    · have hlive : Records.Outlives w.now w.now maxAge := Records.outlives_now hw.lt_last
      rw [recordIn?_withRecords,
        Records.get_add_of_ok hadd (hlive w.now (Int.le_refl _) (Int.le_refl _))]
      rfl
  kept_add_of_error := by
    intro w id text maxAge e hw hadd
    rcases refusing_add_cases refuse? w records id text maxAge with
      ⟨e', -, hcall⟩ | hcall | ⟨r, hr, hcall⟩ <;> rw [hcall] at hadd ⊢
    rw [Records.add_of_error (hcondition _ (hw.conditions hr) id) hadd, kept_withRecords hr]
  record?_remove_of_gone := by
    intro w id hw hgone
    rcases refusing_remove_cases refuse? w records id with
      ⟨e, hrefused, hcall⟩ | hcall | ⟨r, -, hcall⟩ <;> rw [hcall] at hgone ⊢
    · rcases hgone with h | h <;> cases h
      exact absurd hrefused (hrefuse id)
    · rcases hgone with h | h <;> cases h
    · rw [recordIn?_withRecords, Records.get_remove_of_gone hgone]
      rfl
  record?_remove_of_ne := by
    intro w id other hw hne
    rcases refusing_remove_cases refuse? w records id with
      ⟨e, -, hcall⟩ | hcall | ⟨r, hr, hcall⟩ <;> rw [hcall]
    rw [recordIn?_withRecords, recordIn?_of_some hr, Records.get_remove_of_ne hne]
  kept_remove_of_error := by
    intro w id e hw hremove hne
    rcases refusing_remove_cases refuse? w records id with
      ⟨e', -, hcall⟩ | hcall | ⟨r, hr, hcall⟩ <;> rw [hcall] at hremove ⊢
    rw [(Records.get_remove_of_error hremove hne w.now).1, kept_withRecords hr]

/-- Outside of directories an added record leaves all others. -/
theorem addsAlone (hcondition : ∀ there blocked, ¬ condition (.directory there blocked)) :
    (respond.refusing refuse?).AddsAlone (Meets condition records) kept records
      (recordIn? records) := by
  intro w id text maxAge other hw hne
  rcases refusing_add_cases refuse? w records id text maxAge with
    ⟨e, -, hcall⟩ | hcall | ⟨r, hr, hcall⟩ <;> rw [hcall]
  have hkind : ∀ d, r ≠ .directory d := by
    rintro d rfl
    exact hcondition _ _ (hw.conditions hr)
  rw [recordIn?_withRecords, recordIn?_of_some hr, Records.get_add_of_ne hkind hne]

end World

namespace SessionStore

/-! ### All or nothing -/

variable {σ β : Type} {respond : Responder σ} {ok : σ → Prop} {kept : σ → β} {t : σ}
  {record? : β → String → Option String} {s : SessionStore} {info : SessionInfo}

/-- **Saving a session does all of it or nothing.** A store was given the encoders of key pairs, one
at least, and random octets are given. Its records do what they should in each call, or nothing.
Then if saving a session fails, the request and all that is kept are as before. If it succeeds, the
session and its configuration are as before, the jar has the new cookie, and there is a record of
the session, if it is to have one, and else there is none. -/
theorem save_all_or_nothing {f factory : SessionFactory} {pairs : List KeyPair}
    (hpairs : pairs ≠ []) (hkeys : f.setStoreKeys info.store pairs = .ok factory)
    (hs : factory.store info.store = .ok s) (hdraws : respond.DrawsBeside ok kept)
    (hcalls : ∀ records, s.kind = .serverSide records →
      respond.AllOrNothing ok kept records record?)
    (ht : ok t) (jar : Cookie.Jar) (key : String) (now : Int) :
    let r : RequestSessions := { jar := jar, loaded := [(key, info)] }
    let saved := (r.save factory now).run respond t
    (∃ e, saved.1 = (r, [e]) ∧ kept saved.2 = kept t ∧ s.Refused respond kept (kept t) info e) ∨
    ∃ text, saved.1 = ({ r with jar := jar.add (Cookie.ofSession key text info.config) }, []) ∧
      s.Saved respond ok kept record? key now info (kept t) text (kept saved.2) := by
  intro r saved
  have hsigns : s.Signs := (keyed_of_setStoreKeys hkeys hs hpairs).signs
  have hsaved : saved = (r.save factory now).run respond t := rfl
  rw [RequestSessions.save_single hs, run_save_eq, Plan.run_bind, Plan.run_bind] at hsaved
  rcases run_savedText_cases hsigns hdraws hcalls ht with
    ⟨e, t', hrun, hkept⟩ | ⟨text, t', hrun, htext⟩
  · rw [hrun] at hsaved
    refine .inl ⟨e, ?_, ?_⟩
    · rw [hsaved]
      rfl
    · rw [hsaved]
      exact hkept
  · rw [hrun] at hsaved
    refine .inr ⟨text, ?_, ?_⟩
    · rw [hsaved]
      rfl
    · rw [hsaved]
      exact htext

/-- A session is saved in memory beside another, and where its record is refused nothing happens. -/
theorem saved_or_refused :
    let unkeyed := SessionFactory.new.setStore "memory" { kind := .serverSide "memory" }
    let encoder : Encoder :=
      { Encoder.ofKeys [1, 2] none with maxAge := SessionConfig.defaultMaxAge }
    let s : SessionStore := { kind := .serverSide "memory", encoders := [encoder] }
    let factory := unkeyed.setStore "memory" s
    let info : SessionInfo :=
      { data := (SessionData.ofId "ab").insert "user" (.str "x"), store := "memory" }
    let r : RequestSessions := { loaded := [("s", info)] }
    let refuse? : Call → Option Error := fun call =>
      match call with
      | .add .. => some (.other "refused")
      | _ => none
    let w := World.single 0 "memory" "cd" "other"
    let saved := (r.save factory 0).run World.respond w
    let refused := (r.save factory 0).run (World.respond.refusing refuse?) w
    (∃ text record, saved.1.1.jar = Cookie.Jar.add {} (Cookie.ofSession "s" text info.config) ∧
      World.recordIn? "memory" saved.2.kept "ab" = some record ∧ s.Writes "s" 0 info.data record ∧
      World.recordIn? "memory" saved.2.kept "cd" = some "other") ∧
    refused.1 = (r, [.other "refused"]) ∧ refused.2.kept = w.kept := by
  intro unkeyed encoder s factory info r refuse? w saved refused
  have hkeys : unkeyed.setStoreKeys info.store [{ hashKey := [1, 2] }] = .ok factory := rfl
  have hs : factory.store info.store = .ok s := rfl
  have hw : w.Meets (· = .memory) "memory" := by
    refine ⟨rfl, by decide, fun c hc => ?_⟩
    cases hc
    rfl
  have hfree : ∀ c, c = Records.Conditions.memory → ∀ id, c.Free id := by
    rintro c rfl id
    trivial
  have hdraws : ∀ refuse? : Call → Option Error, (∀ count, refuse? (.random count) = none) →
      (World.respond.refusing refuse?).DrawsBeside (World.Meets (· = .memory) "memory")
        World.kept := fun _ hrandom => World.drawsBeside hrandom
  have hcalls : ∀ refuse? : Call → Option Error, (∀ id, refuse? (.remove "memory" id) = none) →
      ∀ records, s.kind = .serverSide records → (World.respond.refusing refuse?).AllOrNothing
        (World.Meets (· = .memory) "memory") World.kept records (World.recordIn? "memory") := by
    intro refuse? hrefuse records hk
    cases hk
    exact World.allOrNothing hfree fun id h => nomatch (hrefuse id).symm.trans h
  constructor
  · -- nothing is refused: the record is there, and the other one as it was
    have herrors : saved.1.2 = [] := rfl
    rcases save_all_or_nothing (List.cons_ne_nil _ _) hkeys hs
        (hdraws (fun _ => none) fun _ => rfl) (hcalls (fun _ => none) fun _ => rfl) hw {} "s" 0 with
      ⟨e, herror, -⟩ | ⟨text, hjar, hsaved⟩
    · cases herrors.symm.trans (congrArg Prod.snd herror)
    · obtain ⟨id, hid, -, -, hrecorded, hothers⟩ := hsaved
      cases hid
      have hsome := hrecorded.isSome_iff.mpr ⟨by decide, "user", by decide, by decide⟩
      obtain ⟨record, hrecord⟩ := Option.isSome_iff_exists.mp hsome
      have halone : ∀ there blocked, Records.Conditions.directory there blocked ≠ .memory :=
        fun _ _ => Records.Conditions.noConfusion
      refine ⟨text, record, congrArg (·.1.jar) hjar, hrecord, hrecorded.writes record hrecord, ?_⟩
      exact (hothers (World.addsAlone halone) "cd" (by decide)).trans rfl
  · -- the record is refused, so there is an error, no cookie and no change
    have herrors : refused.1.2 = [.other "refused"] := rfl
    rcases save_all_or_nothing (List.cons_ne_nil _ _) hkeys hs
        (hdraws refuse? fun _ => rfl) (hcalls refuse? fun _ => rfl) hw {} "s" 0 with
      ⟨e, herror, hkept, -⟩ | ⟨text, hjar, -⟩
    · have he : [e] = [.other "refused"] := (congrArg Prod.snd herror).symm.trans herrors
      cases he
      exact ⟨herror, hkept⟩
    · cases herrors.symm.trans (congrArg Prod.snd hjar)

end SessionStore

end WebSession
