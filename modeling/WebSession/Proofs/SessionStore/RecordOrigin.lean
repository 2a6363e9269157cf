import WebSession.Proofs.SessionStore.Operations
import WebSession.Proofs.SessionStore.Serving

/-!
# WebSession.Proofs.SessionStore.RecordOrigin

**Every record is that of the session with its id** (`records_have_origin`). However a server-side
store is used, and whichever of its calls fail, a record is what some visit wrote under its id of a
session with that id, and under the session key of that visit it is read as this session.

Nothing appears in the records by itself (`World.stores_of_run`), so it is enough to know which
calls a visit makes (`makes_visit`): the id of each is valid, and what is written under an id is a
text of the session that has it.
-/

namespace WebSession

open Plan

/-- With a fresh id a session is still such as the format can hold, if it has room for a field. -/
theorem SessionData.representable_insert_id {d : SessionData} {id : String} (hd : d.Representable)
    (hlength : d.length + 1 < MessagePack.lengthBound) (hvalid : SessionId.isValid id = true) :
    (d.insert idKey (.str id)).Representable where
  height_le := by
    have hfields : Value.heightOfFields d.values ≤ Value.maxHeight - 1 :=
      Nat.le_sub_one_of_lt hd.height_le
    refine Nat.succ_le_of_lt (Nat.lt_of_le_pred (by decide) (Value.heightOfFields_le_iff.mpr ?_))
    intro f hf
    rcases Fields.mem_toList_insert hf with rfl | hf
    · exact Nat.zero_le _
    · exact Value.heightOfFields_le_iff.mp hfields f hf
  breadth_lt := by
    obtain ⟨-, hfields⟩ := Value.breadth_map_lt_iff.mp hd.breadth_lt
    obtain ⟨-, hid⟩ := Value.breadth_map_lt_iff.mp (representable_ofId hvalid).breadth_lt
    refine Value.breadth_map_lt_iff.mpr
      ⟨Nat.lt_of_le_of_lt Fields.length_insert_le hlength, fun f hf => ?_⟩
    rcases Fields.mem_toList_insert hf with rfl | hf
    · exact hid _ (by rw [toList_ofId]; exact List.mem_singleton_self _)
    · exact hfields f hf

/-! ### What becomes of records -/

/-- Whoever answers is the world, but cannot be relied on: a call is carried out or not, and is
answered in one way or another. -/
def Responder.Unreliable (respond : Responder World) : Prop :=
  ∀ call w, (respond call w).2 = w ∨ (respond call w).2 = (World.respond call w).2

theorem World.unreliable_respond : Responder.Unreliable World.respond := fun _ _ => Or.inr rfl

namespace World

variable {w : World} {store id text : String}

/-- There is a record of an id with a text. A record that is past its deadline and was not dropped
yet is one. -/
def Stores (store id text : String) (w : World) : Prop :=
  ∃ r now, w.records.get? store = some r ∧ r.get now id = .ok text

/-- A call leaves no record that was not there, but for the one it adds. -/
theorem stores_of_respond {call : Call} (h : (respond call w).2.Stores store id text) :
    w.Stores store id text ∨ ∃ maxAge, call = .add store id text maxAge := by
  obtain ⟨r', now, hr', hget⟩ := h
  by_cases hother : ∃ id', call.Changes store id'
  · obtain ⟨id', hother⟩ := hother
    cases call with
    | random count => cases hother
    | get store' id' => cases hother
    | add store' id' text' maxAge =>
        obtain ⟨rfl, rfl⟩ := hother
        cases hr : w.records.get? store' with
        | none =>
            rw [respond_add_of_none hr] at hr'
            exact Or.inl ⟨r', now, hr', hget⟩
        | some r =>
            rw [respond_add_of_some hr] at hr'
            cases (Dict.get?_set_self).symm.trans hr'
            -- what can be read after the call could be read before it, or was written by it
            rcases Records.get_of_get_add hget with hget | ⟨rfl, rfl⟩
            · exact Or.inl ⟨r, now, hr, hget⟩
            · exact Or.inr ⟨maxAge, rfl⟩
    | remove store' id' =>
        obtain ⟨rfl, rfl⟩ := hother
        cases hr : w.records.get? store' with
        | none =>
            rw [respond_remove_of_none hr] at hr'
            exact Or.inl ⟨r', now, hr', hget⟩
        | some r =>
            rw [respond_remove_of_some hr] at hr'
            cases (Dict.get?_set_self).symm.trans hr'
            exact Or.inl ⟨r, now, hr, Records.get_of_get_remove hget⟩
  · rw [get?_respond fun id' h => hother ⟨id', h⟩] at hr'
    exact Or.inl ⟨r', now, hr', hget⟩

/-- **Nothing appears by itself**: a record that is there after a run was there before, or was added
in it. -/
theorem stores_of_run {α : Type} {p : Plan α} {respond : Responder World}
    (hr : respond.Unreliable) (h : (p.run respond w).2.Stores store id text) :
    w.Stores store id text ∨ ∃ maxAge, Call.add store id text maxAge ∈ p.trace respond w := by
  induction p generalizing w with
  | done a => exact Or.inl h
  | ask call next ih =>
      rcases ih _ h with h | ⟨maxAge, hcall⟩
      · rcases hr call w with hsame | hdone
        · rw [hsame] at h
          exact Or.inl h
        · rw [hdone] at h
          refine (stores_of_respond h).imp_right ?_
          rintro ⟨maxAge, rfl⟩
          exact ⟨maxAge, List.mem_cons_self⟩
      · exact Or.inr ⟨maxAge, List.mem_cons_of_mem _ hcall⟩

end World

/-! ### Visits -/

namespace SessionStore

/-- What a visit is for. -/
inductive Visit.Action where
  | load
  | save (info : SessionInfo)
  | init (info : SessionInfo)

/-- One use of a store: when, under which session key, with which jar, and who answers its calls. -/
structure Visit where
  now : Int
  key : String
  jar : Cookie.Jar := {}
  action : Visit.Action
  respond : Responder World := World.respond

namespace Visit

/-- The clock of a visit in whole seconds. -/
def seconds (v : Visit) : Int := v.now / 1000

/-- The calls of a visit. -/
def plan (s : SessionStore) (v : Visit) : Plan Unit :=
  match v.action with
  | .load => s.load v.jar v.key v.seconds >>= fun _ => .done ()
  | .save info => (s.save v.jar v.key v.seconds info).run >>= fun _ => .done ()
  | .init info => s.init v.jar v.key v.seconds info >>= fun _ => .done ()

/-- The calls that a visit to a world makes. -/
def calls (s : SessionStore) (v : Visit) (w : World) : List Call :=
  (v.plan s).trace v.respond (w.withNow v.now)

/-- The world after a visit. -/
def after (s : SessionStore) (v : Visit) (w : World) : World :=
  ((v.plan s).run v.respond (w.withNow v.now)).2

/-- The session that is written under an id, if any is: a fresh id is put into it first. -/
def written (v : Visit) (id : String) : SessionData :=
  match v.action with
  | .load => .empty
  | .save info => info.data
  | .init info => info.data.insert SessionData.idKey (.str id)

/-- The visit calls for a text to be the record of an id. -/
def Adds (s : SessionStore) (records id text : String) (v : Visit) (w : World) : Prop :=
  ∃ maxAge, Call.add records id text maxAge ∈ v.calls s w

/-- The session of a visit is such as the format can hold, with a fresh id besides if it gets one;
the time is told by a timestamp; and the calls may fail. -/
structure Regular (v : Visit) : Prop where
  representable : match v.action with
    | .load => True
    | .save info => info.data.Representable
    | .init info => info.data.Representable ∧ info.data.length + 1 < MessagePack.lengthBound
  isInt64 : Range.isInt64 v.seconds = true
  ne_zero : v.seconds ≠ 0
  unreliable : v.respond.Unreliable

end Visit

/-- The world after some visits. -/
def visited (s : SessionStore) (w : World) : List Visit → World
  | [] => w
  | v :: more => s.visited (v.after s w) more

variable {s : SessionStore} {w : World} {v : Visit} {visits : List Visit}
  {records id text key : String} {now : Int}

/-! ### The calls of a visit -/

/-- A call that a visit makes. -/
inductive VisitCall (s : SessionStore) (v : Visit) : Call → Prop where
  /-- Random octets are drawn. -/
  | random (count : Nat) : VisitCall s v (.random count)
  /-- A record is read. -/
  | get {records id : String} : SessionId.isValid id = true → VisitCall s v (.get records id)
  /-- A record is removed. -/
  | remove {records id : String} : SessionId.isValid id = true → VisitCall s v (.remove records id)
  /-- A record is written of the session that has the id. -/
  | add {records id text : String} {maxAge : Int} : SessionId.isValid id = true →
      2 ≤ (v.written id).length → (v.written id).id? = some id →
      s.Writes v.key v.seconds (v.written id) text →
      VisitCall s v (.add records id text maxAge)

theorem VisitCall.isValid {call : Call} (h : VisitCall s v call) (hid : call.id? = some id) :
    SessionId.isValid id = true := by
  cases h with
  | random count => cases hid
  | get hvalid =>
      cases hid
      exact hvalid
  | remove hvalid =>
      cases hid
      exact hvalid
  | add hvalid =>
      cases hid
      exact hvalid

/-- **A record is written only where there is something to keep**, and then it is a text of the
session. -/
theorem makes_save_writes (s : SessionStore) (jar : Cookie.Jar) (key : String) (now : Int)
    (info : SessionInfo) :
    (s.save jar key now info).run.Makes fun call => ∀ records id text maxAge,
      call = .add records id text maxAge →
        2 ≤ info.data.length ∧ s.Writes key now info.data text := by
  have hrandom : ∀ count records id text maxAge, Call.random count = .add records id text maxAge →
      2 ≤ info.data.length ∧ s.Writes key now info.data text := by
    intro count records id text maxAge h
    cases h
  cases hk : s.kind with
  | cookie =>
      rw [save, hk]
      -- no record is written for a cookie store
      exact (s.quiet_setCookie ..).makes hrandom
  | serverSide records =>
      cases hid : info.data.id? with
      | none =>
          -- without an id, or with one that is not accepted, no call is made
          simp only [save, hk, saveRecord, hid]
          exact .done _
      | some id =>
          cases hv : SessionId.isValid id with
          | false =>
              simp only [save, hk, saveRecord, hid, SessionId.validate, hv]
              exact .done _
          | true =>
              rw [save_eq hk hid hv]
              refine Makes.bind ?_ fun written =>
                (quiet_after_record s jar key now _ _ written).makes hrandom
              rw [writeRecord]
              split
              · -- too little to keep: the only call is one to remove the record
                refine .ask (fun _ _ _ _ h => ?_) fun removed => ?_
                · cases h
                · cases removed with
                  | ok _ => exact .done _
                  | error e => cases e <;> exact .done _
              · -- what is written is what the encoder made of the session
                rename_i hkeep
                refine (s.quiet_encode_writes ..).bind_makes hrandom fun encoded hencoded => ?_
                cases encoded with
                | error e => exact .done _
                | ok text =>
                    refine .ask (fun _ _ _ _ h => ?_) fun _ => .done _
                    cases h
                    exact ⟨by omega, hencoded text rfl⟩

/-- Saving makes calls of a visit that writes what is saved. -/
theorem makes_visit_save {info : SessionInfo}
    (hwritten : ∀ id, info.data.id? = some id → v.written id = info.data) :
    (s.save v.jar v.key v.seconds info).run.Makes (VisitCall s v) := by
  refine ((s.makes_save ..).and (s.makes_save_writes ..)).mono fun call hcall => ?_
  obtain ⟨hcall, hadd⟩ := hcall
  cases hcall with
  | random count => exact .random count
  | remove _ _ hvalid => exact .remove hvalid
  | add _ hid hvalid =>
      obtain ⟨hlength, hwrites⟩ := hadd _ _ _ _ rfl
      have hsame := hwritten _ hid
      rw [← hsame] at hlength hwrites
      exact .add hvalid hlength ((congrArg SessionData.id? hsame).trans hid) hwrites

/-- **The calls of a visit**, however they are answered. -/
theorem makes_visit (s : SessionStore) (v : Visit) : (v.plan s).Makes (VisitCall s v) := by
  unfold Visit.plan
  cases haction : v.action with
  | load =>
      refine ((s.makes_load ..).mono fun call hcall => ?_).bind fun _ => .done _
      cases hcall with
      | get _ _ _ hvalid => exact .get hvalid
  | save info =>
      refine (makes_visit_save fun id _ => ?_).bind fun _ => .done _
      rw [Visit.written, haction]
  | init info =>
      refine Makes.bind ?_ fun _ => .done _
      unfold init
      split
      · exact .done _
      · refine (SessionId.quiet_generate.makes .random).bind fun generated => ?_
        cases generated with
        | error e => exact .done _
        | ok fresh =>
            refine (makes_visit_save fun id hid => ?_).bind fun _ => .done _
            rw [SessionData.id?_insert_id] at hid
            cases hid
            rw [Visit.written, haction]

/-! ### Origins -/

theorem Visit.Regular.representable_written (hv : v.Regular) (hvalid : SessionId.isValid id = true)
    (hid : (v.written id).id? = some id) : (v.written id).Representable := by
  have hrepresentable := hv.representable
  unfold Visit.written at hid ⊢
  cases haction : v.action with
  | load =>
      rw [haction] at hid
      cases hid
  | save info =>
      rw [haction] at hrepresentable
      exact hrepresentable
  | init info =>
      rw [haction] at hrepresentable
      exact SessionData.representable_insert_id hrepresentable.1 hrepresentable.2 hvalid

/-- A text under an id is the record of the session that a visit wrote: one with that id and another
field at least. Under the session key of the visit it is read as that session within the age limit,
and never as another, so that loading never takes it for a foreign one and falls back to the
cookie. -/
structure Visit.Authors (s : SessionStore) (v : Visit) (id text : String) : Prop where
  two_le_length : 2 ≤ (v.written id).length
  id?_eq : (v.written id).id? = some id
  decode_eq : ∀ now, now ≤ v.seconds + SessionConfig.defaultMaxAge →
    Encoders.decode s.encoders v.key now text = .ok (v.written id)
  eq_of_decode : ∀ now d, Encoders.decode s.encoders v.key now text = .ok d → d = v.written id
  prefers : ∀ now d fromCookie, Encoders.decode s.encoders v.key now text = .ok d →
    s.preferRecord v.key now fromCookie id (.ok text) = d

theorem VisitCall.authors {pairs : List KeyPair} (h : s.Keyed pairs) (hk : s.kind ≠ .cookie)
    (hv : v.Regular) {maxAge : Int} (hcall : VisitCall s v (.add records id text maxAge)) :
    v.Authors s id text := by
  cases hcall with
  | add hvalid hlength hid hwrites =>
      have hd := hv.representable_written hvalid hid
      have hsame : ∀ now d, Encoders.decode s.encoders v.key now text = .ok d → d = v.written id :=
        fun now d hread => eq_of_decode_of_writes h.2 h.2 hwrites hd hv.isInt64 hread
      refine ⟨hlength, hid, fun now hage => ?_, hsame, fun now d fromCookie hread => ?_⟩
      · exact decode_of_writes h hwrites hd hv.isInt64 hv.ne_zero hage fun hcookie =>
          absurd hcookie hk
      · have hid' : d.id? = some id := by rw [hsame now d hread, hid]
        simp only [preferRecord, hread, if_pos hid']

/-- What is in the records after some visits was there before, or one of them added it. -/
theorem stores_of_visited (hvisits : ∀ v ∈ visits, v.respond.Unreliable)
    (h : (s.visited w visits).Stores records id text) :
    w.Stores records id text ∨ ∃ before v after, visits = before ++ v :: after ∧
      v.Adds s records id text (s.visited w before) := by
  induction visits generalizing w with
  | nil => exact Or.inl h
  | cons v more ih =>
      rcases ih (fun v' hv' => hvisits v' (List.mem_cons_of_mem _ hv')) h with
        h | ⟨before, v', after, rfl, hadds⟩
      · rcases World.stores_of_run (hvisits v List.mem_cons_self) h with h | ⟨maxAge, hcall⟩
        · exact Or.inl h
        · exact Or.inr ⟨[], v, more, rfl, maxAge, hcall⟩
      · exact Or.inr ⟨v :: before, v', after, rfl, hadds⟩

/-- **Every record has its origin.** In a store that was keyed once and had no records, after any
visits and with any of their calls failing: every id that a call was about is valid, and every
record was written by a visit, of a session with at least two fields that has the record's id. Under
the session key of that visit the record is read as this session, so loading never comes upon a
record that is another session's. -/
theorem records_have_origin {f f' : SessionFactory} {name : String} {pairs : List KeyPair}
    (hkeys : f.setStoreKeys name pairs = .ok f') (hpairs : pairs ≠ []) (hs : f'.store name = .ok s)
    (hk : s.kind = .serverSide records) (hempty : ∀ id text, ¬ w.Stores records id text)
    (hvisits : ∀ v ∈ visits, v.Regular) :
    (∀ before v after, visits = before ++ v :: after →
      ∀ call ∈ v.calls s (s.visited w before), ∀ id, call.id? = some id →
        SessionId.isValid id = true) ∧
    ∀ id text, (s.visited w visits).Stores records id text →
      (∃ before v after, visits = before ++ v :: after ∧
        v.Adds s records id text (s.visited w before)) ∧
      ∀ before v after, visits = before ++ v :: after →
        v.Adds s records id text (s.visited w before) → v.Authors s id text := by
  have hkeyed := keyed_of_setStoreKeys hkeys hs hpairs
  refine ⟨?_, fun id text hstores => ⟨?_, ?_⟩⟩
  · intro before v after _ call hcall id hid
    exact ((makes_visit s v).of_mem_trace hcall).isValid hid
  · exact (stores_of_visited (fun v hv => (hvisits v hv).unreliable) hstores).resolve_left
      (hempty id text)
  · intro before v after hsplit hadds
    obtain ⟨maxAge, hcall⟩ := hadds
    have hv : v ∈ visits := by
      rw [hsplit]
      exact List.mem_append_right _ List.mem_cons_self
    exact ((makes_visit s v).of_mem_trace hcall).authors hkeyed (kind_ne_cookie hk) (hvisits v hv)

/-- A session with a value that is saved to memory. -/
theorem saved_record_has_origin :
    let s : SessionStore :=
      { kind := .serverSide "memory"
        encoders := [{ Encoder.ofKeys [1, 2] none with maxAge := SessionConfig.defaultMaxAge }] }
    let d := (SessionData.ofId "ab").insert "x" (.int 1)
    let v : Visit := { now := 100000, key := "s", action := .save { data := d, store := "memory" } }
    let w : World := { now := 0, entropy := { octet := fun _ => 0 },
                       records := Dict.empty.set "memory" (.memory {}) }
    ∃ text, (s.visited w [v]).Stores "memory" "ab" text ∧
      Encoders.decode s.encoders "s" 200 text = .ok d := by
  intro s d v w
  let f := SessionFactory.new.setStore "memory" { kind := .serverSide "memory" }
  have hkeys : f.setStoreKeys "memory" [{ hashKey := [1, 2] }] = .ok (f.setStore "memory" s) := rfl
  have hkeyed : s.Keyed [{ hashKey := [1, 2] }] :=
    keyed_of_setStoreKeys hkeys rfl (List.cons_ne_nil _ _)
  have hd : d.Representable := ⟨by decide, by decide⟩
  have hm : (w.withNow 100000).records.get? "memory" = some (.memory {}) := Dict.get?_set_self
  have hempty : ∀ id text, ¬ w.Stores "memory" id text := by
    rintro id text ⟨r, now, hr, hget⟩
    cases hm.symm.trans hr
    cases hget
  have hvisits : ∀ v' ∈ [v], v'.Regular := by
    intro v' hv'
    rw [List.mem_singleton.mp hv']
    exact ⟨hd, by decide, by decide, World.unreliable_respond⟩
  have hstores : ∃ text, (s.visited w [v]).Stores "memory" "ab" text := by
    have hid : d.id? = some "ab" := rfl
    have hserves : (w.withNow 100000).Serves s d :=
      World.InMemory.serves (fun _ hk => by cases hk; exact ⟨_, hm⟩) rfl hid (by decide)
    obtain ⟨cookie, w', hsave, hstored, -⟩ := exists_run_save_of_serves hkeyed
      { data := d, store := "memory" } hserves hd (by decide) {} "s"
    have hafter : s.visited w [v] = w' := by
      show ((_ >>= fun _ => Plan.done () : Plan Unit).run World.respond _).2 = w'
      rw [Plan.run_bind]
      exact congrArg Prod.snd hsave
    rw [hafter]
    cases hstored with
    | inCookie hk => cases hk
    | bare _ _ hbare =>
        have hlength : d.length = 1 :=
          (congrArg SessionData.length hbare).trans SessionData.length_ofId
        exact absurd hlength (by decide)
    | inRecord hk _ hid' _ _ hthere =>
        cases hk
        cases hid.symm.trans hid'
        have hrecord := hthere 100000
          (Records.outlives_now (by decide) 100000 (Int.le_refl _) (Int.le_refl _))
        cases hr : w'.records.get? "memory" with
        | none =>
            rw [World.record_of_none (w := w'.withNow 100000) hr] at hrecord
            cases hrecord
        | some r =>
            rw [World.record_of_some (w := w'.withNow 100000) hr] at hrecord
            exact ⟨_, r, 100000, hr, hrecord⟩
  obtain ⟨text, hstores⟩ := hstores
  obtain ⟨-, horigin⟩ := records_have_origin hkeys (List.cons_ne_nil _ _) rfl rfl hempty hvisits
  obtain ⟨⟨before, v', after, hsplit, hadds⟩, hauthors⟩ := horigin "ab" text hstores
  have hv' : v' = v := by
    have hmem : v' ∈ [v] := by
      rw [hsplit]
      exact List.mem_append_right _ List.mem_cons_self
    exact List.mem_singleton.mp hmem
  refine ⟨text, hstores, ?_⟩
  subst hv'
  exact (hauthors before v after hsplit hadds).decode_eq 200 (by decide)

end SessionStore

end WebSession
