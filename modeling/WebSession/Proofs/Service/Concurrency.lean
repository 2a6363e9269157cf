import WebSession.Proofs.Cookie
import WebSession.Proofs.Service
import WebSession.Proofs.SessionFactory
import WebSession.Proofs.SessionStore.Concurrency

/-!
# WebSession.Proofs.Service.Concurrency

**Showing values while others are set**: two requests with the cookie of one server-side session,
one of which only shows its values (`Meeting.loaded_after`).

Every request saves what it has loaded, changed or not. If the session is read to be shown, then
set, and then saved by the request that showed it, what was set is lost. In every other order it
stays. Both are read off the register that the two requests share (`simulates_run`).
-/

namespace WebSession.Service

open Plan RequestSessions Http

/-! ### Updating requests -/

variable {factory : SessionFactory} {now : Int} {name : String} {action : Action}
  {change : SessionData → SessionData}

/-- An updating action leaves the id. -/
theorem Action.Updates.id?_change (h : action.Updates name change) (d : SessionData) :
    (change d).id? = d.id? := by
  cases h with
  | shows _ => rfl
  | sets _ hreserved => exact id?_setAll hreserved d

/-- **An updating request updates the shared session**, if all encoders' limits allow for the times
at which it is looked at. -/
theorem updating_respond {c : SharedSession} {request : Request} {e : Encoder}
    {more : List Encoder} {good : SessionData → Prop}
    (hk : c.store.kind = .serverSide c.records) (hs : factory.store name = .ok c.store)
    (hkey : c.key = sessionKey) (hmaxAge : c.maxAge = factory.defaultConfig.maxAge)
    (hage : 0 ≤ c.maxAge) (he : c.store.encoders = e :: more)
    (hkeyed : e.authenticate?.isSome = true) (hnow : now ∈ c.times)
    (hadmits : ∀ t ∈ c.times, e.Admits now t)
    (hc : c.store.HoldsId (Cookie.Jar.ofHeaders request.cookies) c.key now c.id)
    (haction : Action.ofRequest request = .ok action) (h : action.Updates name change)
    (hgood : ∀ d, good d → d.Representable) (hchange : ∀ d, good d → good (change d))
    (copy : SessionData) :
    c.Updating good change [.read, .write] copy (respond factory now request) := by
  -- the request is one read, and one write of what was read and changed
  rw [respond_of_updates haction h hs, ← hkey]
  simp only [SessionStore.load_eq hk hc, ask_bind, done_bind]
  refine SharedSession.Updating.reading fun record d hshows hd => ?_
  have hshown : c.store.shown c.key now c.id record = d := hshows now hnow
  rw [hshown]
  have hid : (change d).id? = some c.id := by
    rw [h.id?_change, ← hshown, SessionStore.id?_shown]
  refine Calls.bind ?_ fun saved => Quiet.done trivial
  by_cases hshort : (change d).length ≤ 1
  · obtain ⟨next, hsave, hnext⟩ := SessionStore.save_eq_remove
      (Cookie.Jar.ofHeaders request.cookies) c.key now
      { data := change d, store := name, config := factory.defaultConfig } hk hid hc.isValid
      (Or.inr hshort)
    rw [hsave]
    exact Calls.call (Or.inl ⟨rfl, SessionData.eq_ofId hid hshort⟩) hnext
  · have hkeep : ¬ (factory.defaultConfig.maxAge < 0 ∨ (change d).length ≤ 1) := by omega
    refine (SessionStore.calls_save_add _ _ _ hk hid hc.isValid hkeep he hkeyed).mono ?_
    intro call hcall
    obtain ⟨text, rfl, hwrites⟩ := hcall
    refine Or.inr ⟨text, by rw [hmaxAge], fun t ht => ?_⟩
    refine SessionStore.shown_of_decode ?_ hid
    rw [he]
    exact Encoders.decode_of_first
      (Encoder.decode_of_writes_of_admits hwrites (hadmits t ht) (hgood _ (hchange d hd)))

/-! ### Two requests -/

/-- The request that shows values and the one that sets some. -/
inductive Party where
  | viewer
  | setter
  deriving DecidableEq

/-- The orders in which the viewer and the setter may take their steps. -/
def orders : List Touch → List Touch → List (List (Party × Touch))
  | [], [] => [[]]
  | x :: xs, [] => (orders xs []).map ((.viewer, x) :: ·)
  | [], y :: ys => (orders [] ys).map ((.setter, y) :: ·)
  | x :: xs, y :: ys =>
    (orders xs (y :: ys)).map ((.viewer, x) :: ·) ++ (orders (x :: xs) ys).map ((.setter, y) :: ·)

theorem mem_orders (l : List (Party × Touch)) :
    l ∈ orders (touchesOf .viewer l) (touchesOf .setter l) := by
  induction l with
  | nil =>
      show [] ∈ orders [] []
      rw [orders]
      exact List.mem_singleton_self []
  | cons step l ih =>
      obtain ⟨i, touch⟩ := step
      cases i with
      | viewer =>
          -- the first step is the viewer's, so the rest is an order of what is left to both
          rw [touchesOf_cons_self, touchesOf_cons_of_ne (by decide)]
          cases hset : touchesOf .setter l with
          | nil =>
              rw [hset] at ih
              rw [orders]
              exact List.mem_map_of_mem ih
          | cons y ys =>
              rw [hset] at ih
              rw [orders]
              exact List.mem_append_left _ (List.mem_map_of_mem ih)
      | setter =>
          rw [touchesOf_cons_self, touchesOf_cons_of_ne (by decide)]
          cases hview : touchesOf .viewer l with
          | nil =>
              rw [hview] at ih
              rw [orders]
              exact List.mem_map_of_mem ih
          | cons x xs =>
              rw [hview] at ih
              rw [orders]
              exact List.mem_append_right _ (List.mem_map_of_mem ih)

/-- What the parties do to the session. -/
def changeOf (fields : Dict Json) : Party → SessionData → SessionData
  | .viewer => id
  | .setter => setAll fields

/-- The viewer reads before the setter writes, and writes after it. -/
def Undoes (l : List (Party × Touch)) : Prop :=
  [(.viewer, .read), (.setter, .write), (.viewer, .write)].Sublist l

instance (l : List (Party × Touch)) : Decidable (Undoes l) :=
  inferInstanceAs (Decidable (List.Sublist _ l))

/-- **The register after both**: the session as it was, if the viewer undoes what the setter did, or
else the session with the values that were set. -/
theorem run_both {l : List (Party × Touch)} (hview : touchesOf .viewer l = [.read, .write])
    (hset : touchesOf .setter l = [.read, .write]) (fields : Dict Json) (d : SessionData) :
    (Register.run (changeOf fields) ⟨d, fun _ => d⟩ l).value =
      if Undoes l then d else setAll fields d := by
  have hl := mem_orders l
  rw [hview, hset] at hl
  simp only [orders, List.map_cons, List.map_nil, List.cons_append, List.nil_append, List.mem_cons,
    List.not_mem_nil, or_false] at hl
  -- one after the other, or both read before either writes, in all orders
  rcases hl with rfl | rfl | rfl | rfl | rfl | rfl
  · rw [if_neg (by decide)]
    rfl
  · rw [if_neg (by decide)]
    rfl
  · rw [if_pos (by decide)]
    rfl
  · rw [if_neg (by decide)]
    rfl
  · rw [if_pos (by decide)]
    rfl
  · rw [if_neg (by decide)]
    rfl

/-! ### Meetings -/

/-- Two requests for one session of a server-side store, and a later look at it. -/
structure Meeting where
  factory : SessionFactory
  /-- The name of the store. -/
  name : String
  store : SessionStore
  /-- The name of its records. -/
  records : String
  pairs : List KeyPair
  id : String
  request : Party → Request
  /-- What the setter sets. -/
  fields : Dict Json
  /-- The seconds at which the requests are served. -/
  now : Party → Int
  /-- The second of the later look. -/
  later : Int
  /-- The cookies of whoever looks. -/
  jar : Cookie.Jar

namespace Meeting

variable (m : Meeting)

/-- The seconds at which the session is loaded. -/
def times : List Int := [m.now .viewer, m.now .setter, m.later]

/-- The requests do what the parties are called for, with the cookie of the session, and within the
age to which the texts of the store are limited. -/
structure Takes : Prop where
  store_eq : m.factory.store m.name = .ok m.store
  kind_eq : m.store.kind = .serverSide m.records
  encoders_eq : KeyPair.encoders m.pairs m.store.maxLength = .ok m.store.encoders
  pairs_ne_nil : m.pairs ≠ []
  shows : ∃ store?, keyOr SessionFactory.cookieName store? = m.name ∧
    Action.ofRequest (m.request .viewer) = .ok (.showValues store?)
  sets : ∃ store?, keyOr SessionFactory.cookieName store? = m.name ∧
    Action.ofRequest (m.request .setter) = .ok (.setValues store? m.fields)
  not_reserved : m.fields.contains SessionData.idKey = false
  cookies : ∀ i, m.store.HoldsId (Cookie.Jar.ofHeaders (m.request i).cookies) sessionKey (m.now i)
    m.id
  later_cookie : m.store.HoldsId m.jar sessionKey m.later m.id
  seconds : ∀ t ∈ m.times, Range.isInt64 t = true ∧ t ≠ 0
  recent : ∀ t ∈ m.times, ∀ u ∈ m.times, u ≤ t + SessionConfig.defaultMaxAge
  maxAge : 0 ≤ m.factory.defaultConfig.maxAge

/-- At the beginning the store works and will keep the records of the session until the last
moment, and the session is the given one, small enough for the format with and without the values
that will be set. -/
structure Begins (first last : Int) (d : SessionData) (w : World) : Prop where
  steady : w.Steady first last m.records m.id
  works : w.Works m.records m.id
  outlives : Records.Outlives first last m.factory.defaultConfig.maxAge
  loaded : ∀ t ∈ m.times,
    m.store.shown sessionKey t m.id (Responder.record World.respond m.records m.id w) = d
  representable : d.Representable
  representable_set : (setAll m.fields d).Representable

/-- The requests are served at the same time, while the clock moves between two moments. -/
def Serves (first last : Int) (w : World) (trace : List (Party × Call)) (w' : World) : Prop :=
  Interleaves World.respond (World.Passes first last)
    (fun i => respond m.factory (m.now i) (m.request i)) w trace w'

/-- The session that is found afterwards. -/
def found (w : World) : SessionData :=
  ((m.store.load m.jar sessionKey m.later).run World.respond w).1

/-- The session that the parties share. -/
def shared : SharedSession where
  store := m.store
  records := m.records
  key := sessionKey
  id := m.id
  maxAge := m.factory.defaultConfig.maxAge
  times := m.times

variable {m} {first last : Int} {d : SessionData} {w w' : World} {trace : List (Party × Call)}

/-- Both requests update the shared session, the viewer by leaving it as it is. -/
theorem updating (h : m.Takes) {good : SessionData → Prop}
    (hgood : ∀ d, good d → d.Representable)
    (hchange : ∀ i d, good d → good (changeOf m.fields i d)) (i : Party) (copy : SessionData) :
    m.shared.Updating good (changeOf m.fields i) [.read, .write] copy
      (respond m.factory (m.now i) (m.request i)) := by
  obtain ⟨pair, pairs, hpairs⟩ := List.exists_cons_of_ne_nil h.pairs_ne_nil
  have hlength : m.store.maxLength = 0 := by rw [SessionStore.maxLength, h.kind_eq]
  have hencoders := h.encoders_eq
  rw [hpairs, hlength] at hencoders
  obtain ⟨e, more, he, hpair, -⟩ := KeyPair.encoders_cons hencoders
  have hnow : m.now i ∈ m.times := by cases i <;> simp [times]
  have hadmits : ∀ t ∈ m.times, e.Admits (m.now i) t := fun t ht =>
    KeyPair.admits hpair (h.seconds _ hnow).1 (h.seconds _ hnow).2 (h.recent _ hnow t ht)
  obtain ⟨action, haction, hupdates⟩ : ∃ action, Action.ofRequest (m.request i) = .ok action ∧
      action.Updates m.name (changeOf m.fields i) := by
    cases i with
    | viewer =>
        obtain ⟨store?, hname, haction⟩ := h.shows
        exact ⟨_, haction, .shows hname⟩
    | setter =>
        obtain ⟨store?, hname, haction⟩ := h.sets
        exact ⟨_, haction, .sets hname h.not_reserved⟩
  exact updating_respond (c := m.shared) h.kind_eq h.store_eq rfl rfl h.maxAge he
    (KeyPair.isSome_authenticate? hpair) hnow hadmits (h.cookies i) haction hupdates hgood
    (hchange i) copy

/-- The sessions that occur: the one at the beginning, and it with the values that are set. -/
def Occurs (m : Meeting) (d d' : SessionData) : Prop := d' = d ∨ d' = setAll m.fields d

theorem Occurs.update {d' : SessionData} (h : m.Occurs d d') (i : Party) :
    m.Occurs d (changeOf m.fields i d') := by
  cases i with
  | viewer => exact h
  | setter =>
      rcases h with rfl | rfl
      · exact Or.inr rfl
      · exact Or.inr (setAll_setAll m.fields d)

/-- At the beginning both requests have still to read and to write. -/
theorem starts (h : m.Takes) (hw : m.Begins first last d w) :
    m.shared.Simulates World.respond
      (fun w => w.Steady first last m.records m.id ∧ w.Works m.records m.id) (m.Occurs d)
      (changeOf m.fields) (fun i => respond m.factory (m.now i) (m.request i)) w
      (fun _ => [.read, .write]) ⟨d, fun _ => d⟩ where
  phase := by
    intro i
    refine updating h ?_ (fun i d' hd' => hd'.update i) i d
    intro d' hd'
    rcases hd' with rfl | rfl
    · exact hw.representable
    · exact hw.representable_set
  ok := ⟨hw.steady, hw.works⟩
  shows := hw.loaded
  good := ⟨Or.inl rfl, fun _ => Or.inl rfl⟩

/-- **What is found after both**, and in which order the session was touched. -/
theorem found_eq (h : m.Takes) (hw : m.Begins first last d w)
    (hrun : m.Serves first last w trace w') :
    m.found w' = (Register.run (changeOf m.fields) ⟨d, fun _ => d⟩ (touches trace)).value ∧
      ∀ i, touchesOf i (touches trace) = [.read, .write] := by
  obtain ⟨-, hshows, htouches⟩ := SharedSession.simulates_run
    (World.works hw.outlives h.later_cookie.isValid)
    (fun hp hok => World.steady_of_passes hp hok) (fun i d' hd' => hd'.update i) hrun
    (starts h hw)
  refine ⟨?_, htouches⟩
  rw [found, SessionStore.run_load h.kind_eq h.later_cookie]
  exact hshows m.later (by simp [shared, times])

/-! ### Schedules -/

/-- The setter may be served first and the viewer then. -/
theorem exists_serial {α : Type} (respond : Responder World) (drift : World → World → Prop)
    (plans : Party → Plan α) (w : World) :
    ∃ (set view : List Call) (w' : World), Interleaves respond drift plans w
      (set.map (Prod.mk Party.setter) ++ view.map (Prod.mk Party.viewer)) w' := by
  have hdone : Interleaves respond drift
      (Function.update (Function.update plans Party.setter
        (.done ((plans Party.setter).run respond w).1)) Party.viewer
          (.done ((plans Party.viewer).run respond ((plans Party.setter).run respond w).2).1))
      ((plans .viewer).run respond ((plans Party.setter).run respond w).2).2 []
      ((plans .viewer).run respond ((plans Party.setter).run respond w).2).2 := by
    refine Interleaves.done fun i => ?_
    cases i with
    | viewer => exact ⟨_, Function.update_self ..⟩
    | setter => exact ⟨_, rfl⟩
  obtain ⟨view, hview⟩ := Interleaves.of_run Party.viewer (plans Party.viewer) hdone
  rw [Function.update_comm (by decide), Function.update_eq_self, List.append_nil] at hview
  obtain ⟨set, hset⟩ := Interleaves.of_run Party.setter (plans Party.setter) hview
  rw [Function.update_eq_self] at hset
  exact ⟨set, view, _, hset⟩

/-- **The viewer can undo what the setter does**: it need only be slower. -/
theorem exists_undoes (h : m.Takes) (hw : m.Begins first last d w) :
    ∃ trace w', m.Serves first last w trace w' ∧ Undoes (touches trace) := by
  obtain ⟨next, hask⟩ := ((starts h hw).phase .viewer).exists_ask
  obtain ⟨set, view, w', hrest⟩ := exists_serial World.respond (World.Passes first last)
    (Function.update (fun i => respond m.factory (m.now i) (m.request i)) .viewer
      (next (World.respond (.get m.records m.id) w).1))
    (World.respond (.get m.records m.id) w).2
  have hrun : m.Serves first last w _ w' := Interleaves.call .viewer hask hrest
  refine ⟨_, w', hrun, ?_⟩
  obtain ⟨-, htouches⟩ := found_eq h hw hrun
  have hset := htouches .setter
  have hview := htouches .viewer
  rw [touches_cons_of_some rfl, touches_append, touches_map, touches_map] at hset hview ⊢
  rw [touchesOf_cons_of_ne (by decide), touchesOf_append, touchesOf_map_self,
    touchesOf_map_of_ne (by decide), List.append_nil] at hset
  rw [touchesOf_cons_self, touchesOf_append, touchesOf_map_self, touchesOf_map_of_ne (by decide),
    List.nil_append, List.cons.injEq] at hview
  rw [hset, hview.2]
  decide

/-- The setter can also be served before the viewer. -/
theorem exists_not_undoes (h : m.Takes) (hw : m.Begins first last d w) :
    ∃ trace w', m.Serves first last w trace w' ∧ ¬ Undoes (touches trace) := by
  obtain ⟨set, view, w', hrun⟩ := exists_serial World.respond (World.Passes first last)
    (fun i => respond m.factory (m.now i) (m.request i)) w
  refine ⟨_, w', hrun, ?_⟩
  obtain ⟨-, htouches⟩ := found_eq h hw hrun
  have hset := htouches .setter
  have hview := htouches .viewer
  rw [touches_append, touches_map, touches_map] at hset hview ⊢
  rw [touchesOf_append, touchesOf_map_self, touchesOf_map_of_ne (by decide),
    List.append_nil] at hset
  rw [touchesOf_append, touchesOf_map_self, touchesOf_map_of_ne (by decide),
    List.nil_append] at hview
  rw [hset, hview]
  decide

/-! ### A meeting -/

/-- A session as the encoder of the sample writes it. -/
def sampleText (d : SessionData) : String :=
  Encoder.signed (Sha256.authenticate [1, 2]) sessionKey (Base64Url.encode d.serialize)
    (Numeral.text 100)

/-- While someone asks for the values of a session in memory, someone sets one. -/
def sample : Meeting :=
  let store : SessionStore :=
    { kind := .serverSide "memory"
      encoders := [{ Encoder.ofKeys [1, 2] none with maxAge := SessionConfig.defaultMaxAge }] }
  let cookie := sessionKey ++ "=" ++ sampleText (SessionData.ofId "ab")
  { factory := { stores := Dict.empty.set "memory" store }
    name := "memory"
    store := store
    records := "memory"
    pairs := [{ hashKey := [1, 2] }]
    id := "ab"
    request := fun
      | .viewer => { path := "/session", query := "store=memory", cookies := [cookie] }
      | .setter =>
        { method := .post
          path := "/session"
          query := "store=memory"
          cookies := [cookie]
          contentType? := some "application/json"
          body := Bytes.ofText "\x7b\"x\":1\x7d" }
    fields := Dict.empty.set "x" (.int 1)
    now := fun _ => 100
    later := 100
    jar := Cookie.Jar.ofHeaders [cookie] }

/-- The session of the sample. -/
def sampleSession : SessionData := (SessionData.ofId "ab").insert "user" (.str "ann")

theorem decode_sampleText {d : SessionData} (hd : d.Representable) :
    Encoders.decode sample.store.encoders sessionKey 100 (sampleText d) = .ok d := by
  have hadmits : Encoder.Admits { Encoder.ofKeys [1, 2] none with
      maxAge := SessionConfig.defaultMaxAge } 100 100 :=
    ⟨rfl, by decide, by decide, by decide, by decide⟩
  exact Encoders.decode_of_first (Encoder.decode_of_writes_of_admits
    (Encoder.writes_plain rfl rfl sessionKey 100 d) hadmits hd)

theorem holdsId_sample : sample.store.HoldsId sample.jar sessionKey 100 sample.id where
  readCookie := by
    have hbare : ∀ c ∈ (sampleText (SessionData.ofId "ab")).toList, Cookie.isBare c = true := by
      intro c hc
      rw [sampleText, Encoder.signed_eq] at hc
      exact Cookie.isBare_of_mem_encode hc
    have hkey : ∀ c ∈ sessionKey.toList, Cookie.isBare c = true :=
      List.all_eq_true.mp (by decide : sessionKey.toList.all Cookie.isBare = true)
    have hget : sample.jar.get? sessionKey = some (sampleText (SessionData.ofId "ab")) :=
      Cookie.Jar.get?_ofHeaders_bare hkey (by decide) hbare
    rw [SessionStore.readCookie_of_get? hget]
    exact decode_sampleText (SessionData.representable_ofId (by decide))
  isValid := by decide

theorem takes_sample : sample.Takes where
  store_eq := rfl
  kind_eq := rfl
  encoders_eq := rfl
  pairs_ne_nil := List.cons_ne_nil _ _
  shows := ⟨some "memory", rfl, by with_unfolding_all rfl⟩
  sets := ⟨some "memory", rfl, by with_unfolding_all rfl⟩
  not_reserved := by decide
  cookies := by
    intro i
    cases i <;> exact holdsId_sample
  later_cookie := holdsId_sample
  seconds := by decide
  recent := by decide
  maxAge := by decide

/-- The world in which the sample begins. -/
def sampleWorld : World := World.single 100000 "memory" "ab" (sampleText sampleSession)

theorem begins_sample : sample.Begins 100000 100000 sampleSession sampleWorld where
  steady := World.steady_now sampleWorld _ _
  works := ⟨rfl, _, Dict.get?_set_self, trivial⟩
  outlives := Records.outlives_now (by decide)
  loaded := by
    intro t ht
    have hnow : t = 100 := by simpa [times, sample] using ht
    have hrecord : Responder.record World.respond sample.records sample.id sampleWorld =
        .ok (sampleText sampleSession) := World.record_single 100000 "memory" "ab" _
    rw [hnow, hrecord]
    exact SessionStore.shown_of_decode (decode_sampleText ⟨by decide, by decide⟩) (by decide)
  representable := ⟨by decide, by decide⟩
  representable_set := by
    have hset : setAll sample.fields sampleSession = sampleSession.insert "x" (.int 1) := by
      show sampleSession.insert "x" (Value.ofJson (.int 1)) = _
      rw [Value.ofJson]
      rfl
    rw [hset]
    exact ⟨by decide, by decide⟩

/-! ### What is found -/

/-- **Nothing is lost unless the viewer undoes it.** Once both requests have ended, the session has
every value that was set, except where the viewer had read the session before the setter wrote it
and wrote it afterwards: then it is what it was before both. -/
theorem loaded_after (h : m.Takes) (hw : m.Begins first last d w)
    (hrun : m.Serves first last w trace w') :
    (¬ Undoes (touches trace) → ∀ key j, m.fields.get? key = some j →
      (m.found w').get? key = some (Value.ofJson j)) ∧
    (Undoes (touches trace) → m.found w' = d) := by
  obtain ⟨hfound, htouches⟩ := found_eq h hw hrun
  rw [hfound, run_both (htouches .viewer) (htouches .setter)]
  refine ⟨fun hkeeps key j hj => ?_, fun hundoes => if_pos hundoes⟩
  rw [if_neg hkeeps, get?_setAll, hj]

/-- In the sample the value may stay. -/
theorem posted_value_kept : ∃ trace w', sample.Serves 100000 100000 sampleWorld trace w' ∧
    (sample.found w').get? "x" = some (.int 1) := by
  obtain ⟨trace, w', hrun, hkeeps⟩ := exists_not_undoes takes_sample begins_sample
  have hfound := (loaded_after takes_sample begins_sample hrun).1 hkeeps "x" (.int 1) rfl
  rw [Value.ofJson] at hfound
  exact ⟨trace, w', hrun, hfound⟩

/-- In the sample the value may also be lost: the viewer can undo what the setter does. -/
theorem posted_value_undone : ∃ trace w', sample.Serves 100000 100000 sampleWorld trace w' ∧
    sample.fields.get? "x" = some (.int 1) ∧ (sample.found w').get? "x" = none := by
  obtain ⟨trace, w', hrun, hundoes⟩ := exists_undoes takes_sample begins_sample
  refine ⟨trace, w', hrun, rfl, ?_⟩
  obtain ⟨hfound, htouches⟩ := found_eq takes_sample begins_sample hrun
  rw [hfound, run_both (htouches .viewer) (htouches .setter), if_pos hundoes]
  rfl

end Meeting

end WebSession.Service
