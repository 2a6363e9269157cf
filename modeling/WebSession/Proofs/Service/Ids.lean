import WebSession.Proofs.Service.Locality
import WebSession.Proofs.Service.Steps

/-!
# WebSession.Proofs.Service.Ids

**Ids come from the service** (`ids_are_minted`): every id of a session that a request loads or saves,
every id it answers with and every id in a call for a record was made in this request or in one
before, and a session that has an id keeps it.

What carries an id from one request to another is the text of a cookie. So the invariant is one of
texts: whatever text is read was written by a request before, of a session that it saved. This takes
more than that texts are authentic. A text that the first encoder cannot read, since its session is
higher than the format allows, is left to the next one, and if that has the same authentication key
it makes what it will of octets that it cannot decrypt. So the sessions saved have to be such as the
format can hold. For the same reason all stores have the same keys: one with the authentication key of
another store and a cipher of its own takes any text of that store for one that it encrypted.
-/

namespace WebSession

open Plan

namespace SessionStore

variable {σ : Type} {respond : Responder σ} {t : σ} {s : SessionStore} {jar : Cookie.Jar}
  {key id : String} {now : Int} {info : SessionInfo} {call : Call}

/-- A record is read under the id that the session is loaded with. -/
theorem LoadCall.id?_eq (h : s.LoadCall jar key now call) (hcall : call.id? = some id) :
    ((s.load jar key now).run respond t).1.id? = some id := by
  cases h with
  | get hk hread hid hvalid =>
      cases hcall
      rw [load_of_read hk hread hid hvalid, run_ask, run_done, id?_preferRecord hid]

/-- A record is written or removed under the id that the session is saved with. -/
theorem SaveCall.id?_eq (h : s.SaveCall info call) (hcall : call.id? = some id) :
    info.data.id? = some id := by
  cases h with
  | random count => cases hcall
  | add hk hid hvalid =>
      cases hcall
      exact hid
  | remove hk hid hvalid =>
      cases hcall
      exact hid

end SessionStore

namespace Service

open Http

/-! ### Turns -/

/-- A request, the second at which it comes in, and who answers its calls. Nothing is said of the
answers: calls may fail, and other requests may be at work. -/
structure Turn (σ : Type) where
  now : Int
  request : Request
  respond : Responder σ
  state : σ

namespace Turn

variable {σ : Type} (factory : SessionFactory) (t : Turn σ)

def jar : Cookie.Jar := Cookie.Jar.ofHeaders t.request.cookies

/-- The calls that the request makes. -/
def calls : List Call := (Service.respond factory t.now t.request).trace t.respond t.state

def response : Response := ((Service.respond factory t.now t.request).run t.respond t.state).1

/-- The sessions that the request saves at its end. -/
def saved : List (String × SessionInfo) :=
  match Action.ofRequest t.request with
  | .error _ => []
  | .ok action =>
    (((perform factory t.now action).run.run { jar := t.jar }).run t.respond t.state).1.2.loaded

/-- What a store loads for the request. -/
def load (s : SessionStore) : SessionData × σ :=
  (s.load t.jar sessionKey t.now).run t.respond t.state

/-- The request asks for an action that loads the session from a store. -/
structure Opens (action : Action) (name : String) (s : SessionStore) : Prop where
  action_eq : Action.ofRequest t.request = .ok action
  loads : action.loads = true
  uses : action.Uses name
  store_eq : factory.store name = .ok s

/-- The request loads a session. -/
def Loads (d : SessionData) : Prop := ∃ action name s, t.Opens factory action name s ∧ d = (t.load s).1

/-- The request loads a session without an id and makes one. -/
def Mints (id : String) : Prop :=
  ∃ action name s, t.Opens factory action name s ∧ action.isInit = true ∧
    (t.load s).1.id? = none ∧
    ((SessionId.generate SessionId.octets).run.run t.respond (t.load s).2).1 = .ok id

/-- The request asks for an id and is answered with one. -/
def Answers (id : String) : Prop :=
  (∃ store?, Action.ofRequest t.request = .ok (.init store?)) ∧
    (t.response factory).body = SessionMap.object "session_id" (.str id)

/-- What a request does that loads a session: it saves one with the same id, or with one that it made,
and this is the id that it answers with and that its calls are about. -/
structure Serves (d : SessionData) (info : SessionInfo) : Prop where
  saved_eq : t.saved factory = [(sessionKey, info)]
  keeps : ∀ id, d.id? = some id → info.data.id? = some id
  mints : d.id? = none → ∀ id, info.data.id? = some id → t.Mints factory id
  answers : ∀ id, t.Answers factory id → info.data.id? = some id
  calls : ∀ call ∈ t.calls factory, ∀ id, call.id? = some id → info.data.id? = some id

/-- A request that loads no session does nothing. -/
structure Idles : Prop where
  saved_eq : t.saved factory = []
  calls_eq : t.calls factory = []
  not_answers : ∀ id, ¬ t.Answers factory id

end Turn

/-! ### One request -/

variable {σ : Type} {factory : SessionFactory} {s : SessionStore}

theorem object_injective {key id id' : String}
    (h : SessionMap.object key (.str id) = SessionMap.object key (.str id')) : id = id' := by
  have hget := congrArg (fun body : Body => match body with
    | .json (.object fields) => fields.get? key
    | _ => none) h
  simp only [SessionMap.object, Dict.get?_set_self] at hget
  cases hget
  rfl

/-- A body that is an object was the result of the action. -/
theorem result_of_body {method : Method} {result : Except Failure Body} {r : Response} {key : String}
    {j : Json} (h : (withoutBody method r).body = SessionMap.object key j)
    (hr : r.body = (reply result).body) :
    result = .ok (SessionMap.object key j) := by
  unfold withoutBody at h
  split at h
  · cases h
  · rw [hr] at h
    cases result with
    | ok body => exact congrArg Except.ok h
    | error failure => cases h

theorem makes_save_of_loaded {r : RequestSessions} {info : SessionInfo}
    (hr : r.loaded = [(sessionKey, info)]) (hs : factory.store info.store = .ok s) (now : Int) :
    (r.save factory now).Makes (s.SaveCall info) := by
  obtain ⟨jar, loaded⟩ := r
  cases hr
  exact makes_saveAll hs jar now

/-- What a request that asks for an id does when the session is loaded. -/
structure Identifies (respond : Responder σ) (t : σ) (q : Plan (Except Failure Body × RequestSessions))
    (d : SessionData) (info : SessionInfo) : Prop where
  loaded_eq : (q.run respond t).1.2.loaded = [(sessionKey, info)]
  keeps : ∀ id, d.id? = some id → info.data.id? = some id
  mints : d.id? = none → ∀ id, info.data.id? = some id →
    ((SessionId.generate SessionId.octets).run.run respond t).1 = .ok id
  answers : ∀ id, (q.run respond t).1.1 = .ok (SessionMap.object "session_id" (.str id)) →
    info.data.id? = some id
  calls : ∀ call ∈ q.trace respond t, ∀ id, call.id? = some id → info.data.id? = some id

section

variable {store? : Option String}
  (hs : factory.store (RequestSessions.keyOr SessionFactory.cookieName store?) = .ok s)
  (jar : Cookie.Jar) (now : Int) (d : SessionData) (respond : Responder σ) (t : σ)

/-- The session of a request that asks for an id, with these data. -/
def identified (factory : SessionFactory) (store? : Option String) (d : SessionData) :
    SessionInfo where
  data := d
  store := RequestSessions.keyOr SessionFactory.cookieName store?
  config := factory.defaultConfig

/-- Making an id is no call for a record. -/
theorem id?_of_mem_trace_generate {call : Call}
    (h : call ∈ (SessionId.generate SessionId.octets).run.trace respond t) : call.id? = none := by
  have hmakes : (SessionId.generate SessionId.octets).run.Makes fun call => call.id? = none :=
    SessionId.quiet_generate.makes fun _ => rfl
  exact hmakes.of_mem_trace h

include hs

theorem identifies_of_id {id : String} (hid : d.id? = some id) :
    Identifies respond t ((identify factory now store?).run.run
      { jar := jar, loaded := [(sessionKey, identified factory store? d)] }) d
      (identified factory store? d) := by
  rw [run_identify_of_id hs rfl jar hid]
  refine ⟨rfl, fun _ h => h, fun h => ?_, fun id' h => ?_, fun call hcall => ?_⟩
  · rw [hid] at h
    cases h
  · rw [← object_injective (Except.ok.inj h)]
    exact hid
  · cases hcall

theorem identifies_of_failed (hid : d.id? = none) {e : Error} {t₁ : σ}
    (hgenerate : (SessionId.generate SessionId.octets).run.run respond t = (.error e, t₁)) :
    Identifies respond t ((identify factory now store?).run.run
      { jar := jar, loaded := [(sessionKey, identified factory store? d)] }) d
      (identified factory store? d) := by
  have hnone : ∀ id, (identified factory store? d).data.id? ≠ some id := fun id h => by
    rw [identified, hid] at h
    cases h
  rw [run_identify_of_no_id hs rfl jar hid]
  refine ⟨?_, fun _ h => h, fun _ id h => absurd h (hnone id), fun id h => ?_,
    fun call hcall id hcallId => ?_⟩
  · rw [Plan.run_bind, hgenerate]
    rfl
  · rw [Plan.run_bind, hgenerate] at h
    cases h
  · rw [Plan.trace_bind, hgenerate, List.mem_append] at hcall
    rcases hcall with hcall | hcall
    · rw [id?_of_mem_trace_generate respond t hcall] at hcallId
      cases hcallId
    · cases hcall

theorem identifies_of_fresh (hid : d.id? = none) {fresh : String} {t₁ : σ}
    (hgenerate : (SessionId.generate SessionId.octets).run.run respond t = (.ok fresh, t₁)) :
    Identifies respond t ((identify factory now store?).run.run
      { jar := jar, loaded := [(sessionKey, identified factory store? d)] }) d
      (identified factory store? (d.insert SessionData.idKey (.str fresh))) := by
  have hinfo : (identified factory store? (d.insert SessionData.idKey (.str fresh))).data.id? =
      some fresh := SessionData.id?_insert_id
  rw [run_identify_of_no_id hs rfl jar hid]
  refine ⟨?_, fun id h => ?_, fun _ id h => ?_, fun id h => ?_, fun call hcall id hcallId => ?_⟩
  · rw [Plan.run_bind, hgenerate]
    dsimp only
    rw [Plan.run_bind]
    split <;> rfl
  · rw [hid] at h
    cases h
  · rw [hinfo] at h
    cases h
    exact congrArg Prod.fst hgenerate
  · rw [Plan.run_bind, hgenerate] at h
    dsimp only at h
    rw [Plan.run_bind] at h
    split at h
    · rw [← object_injective (Except.ok.inj h)]
      exact hinfo
    · cases h
  · rw [Plan.trace_bind, hgenerate, List.mem_append] at hcall
    rcases hcall with hcall | hcall
    · rw [id?_of_mem_trace_generate respond t hcall] at hcallId
      cases hcallId
    · dsimp only at hcall
      rw [Plan.trace_bind, List.mem_append] at hcall
      rcases hcall with hcall | hcall
      · exact ((s.makes_save ..).of_mem_trace hcall).id?_eq hcallId
      · split at hcall <;> cases hcall

/-- **Asking for an id** leaves the session with the id that it had, or with one that was made. -/
theorem exists_identifies :
    ∃ d', Identifies respond t ((identify factory now store?).run.run
      { jar := jar, loaded := [(sessionKey, identified factory store? d)] }) d
      (identified factory store? d') := by
  cases hid : d.id? with
  | some id => exact ⟨_, identifies_of_id hs jar now d respond t hid⟩
  | none =>
      cases hgenerate : (SessionId.generate SessionId.octets).run.run respond t with
      | mk generated t₁ =>
      cases generated with
      | error e => exact ⟨_, identifies_of_failed hs jar now d respond t hid hgenerate⟩
      | ok fresh => exact ⟨_, identifies_of_fresh hs jar now d respond t hid hgenerate⟩

end

namespace Turn

variable {t : Turn σ} {action : Action} {name : String}

/-- A request that does not ask for an id leaves the session the one it has. -/
theorem serves_of_loads (h : t.Opens factory action name s) (hinit : action.isInit = false) :
    ∃ info : SessionInfo, info.store = name ∧ t.Serves factory (t.load s).1 info := by
  obtain ⟨result, (hperform : (perform factory t.now action).run.run _ = _), -⟩ :=
    run_perform h.loads hinit h.uses h.store_eq t.jar ""
  obtain ⟨result', hrespond, -⟩ :=
    respond_of_loads t.now h.action_eq h.loads hinit h.uses h.store_eq ""
  let info : SessionInfo :=
    { data := ⟨(SessionMap.step "" (t.load s).1.values action).2⟩
      store := name
      config := action.config factory.defaultConfig }
  have hid : info.data.id? = (t.load s).1.id? := by
    rw [← SessionMap.id?_values, SessionMap.id?_step, hinit, ← SessionMap.id?_values]
    rfl
  refine ⟨info, rfl, ?_, fun id h => hid.trans h, fun hnone id h => ?_, fun id hanswers => ?_,
    fun call hcall id hcallId => ?_⟩
  · simp only [saved, h.action_eq]
    rw [hperform, Plan.run_bind]
    rfl
  · rw [hid, hnone] at h
    cases h
  · obtain ⟨⟨store?, haction⟩, -⟩ := hanswers
    rw [h.action_eq] at haction
    cases haction
    cases hinit
  · rw [calls, hrespond, Plan.trace_bind, Plan.trace_bind, List.mem_append, List.mem_append] at hcall
    rcases hcall with hcall | hcall | hcall
    · exact hid.trans (((s.makes_load ..).of_mem_trace hcall).id?_eq hcallId)
    · exact ((s.makes_save ..).of_mem_trace hcall).id?_eq hcallId
    · cases hcall

/-- The store that a request for an id names. -/
theorem Opens.store_init {store? : Option String} (h : t.Opens factory (.init store?) name s) :
    factory.store (RequestSessions.keyOr SessionFactory.cookieName store?) = .ok s := by
  have huses : RequestSessions.keyOr SessionFactory.cookieName store? = name := h.uses
  rw [huses, h.store_eq]

/-- What is left of asking for an id is saved. -/
theorem saved_of_identifies {store? : Option String} (h : t.Opens factory (.init store?) name s)
    {info : SessionInfo} (hidentifies : Identifies t.respond (t.load s).2
      ((identify factory t.now store?).run.run
        { jar := t.jar, loaded := [(sessionKey, identified factory store? (t.load s).1)] })
      (t.load s).1 info) : t.saved factory = [(sessionKey, info)] := by
  have hperform : (perform factory t.now (.init store?)).run.run { jar := t.jar } = _ :=
    run_perform_init h.store_init t.jar
  simp only [saved, h.action_eq]
  rw [hperform, Plan.run_bind]
  exact hidentifies.loaded_eq

/-- A request that asks for an id makes one for a session that has none. -/
theorem serves_of_init {store? : Option String} (h : t.Opens factory (.init store?) name s) :
    ∃ info : SessionInfo, info.store = name ∧ t.Serves factory (t.load s).1 info := by
  have hs := h.store_init
  obtain ⟨d', hidentifies⟩ :=
    exists_identifies hs t.jar t.now (t.load s).1 t.respond (t.load s).2
  have hrespond : Service.respond factory t.now t.request = _ := respond_of_init h.action_eq hs
  refine ⟨identified factory store? d', h.uses, saved_of_identifies h hidentifies,
    hidentifies.keeps, fun hnone id hid => ?_, fun id hanswers => ?_,
    fun call hcall id hcallId => ?_⟩
  · exact ⟨_, _, _, h, rfl, hnone, hidentifies.mints hnone id hid⟩
  · obtain ⟨-, hbody⟩ := hanswers
    rw [response, hrespond, Plan.run_bind, Plan.run_bind, Plan.run_bind, run_done] at hbody
    exact hidentifies.answers id (result_of_body hbody rfl)
  · rw [calls, hrespond, Plan.trace_bind, Plan.trace_bind, Plan.trace_bind, List.mem_append,
      List.mem_append, List.mem_append] at hcall
    rcases hcall with hcall | hcall | hcall | hcall
    · exact hidentifies.keeps id (((s.makes_load ..).of_mem_trace hcall).id?_eq hcallId)
    · exact hidentifies.calls call hcall id hcallId
    · have hstore : factory.store (identified factory store? d').store = .ok s := hs
      exact ((makes_save_of_loaded hidentifies.loaded_eq hstore t.now).of_mem_trace hcall).id?_eq
        hcallId
    · cases hcall

theorem exists_serves (h : t.Opens factory action name s) :
    ∃ info : SessionInfo, info.store = name ∧ t.Serves factory (t.load s).1 info := by
  cases hinit : action.isInit with
  | false => exact serves_of_loads h hinit
  | true =>
      cases action with
      | init store? => exact serves_of_init h
      | _ => cases hinit

/-- The request is answered at once, sets no cookie and saves no session. -/
structure AnsweredWith (factory : SessionFactory) (t : Turn σ) (response : Response) : Prop where
  respond_eq : Service.respond factory t.now t.request = .done response
  cookies_eq : response.cookies = []
  saved_eq : t.saved factory = []
  not_answers : ∀ id, ¬ t.Answers factory id

/-- **A request opens a session, or it is answered at once.** -/
theorem opens_or_answered (factory : SessionFactory) (t : Turn σ) :
    (∃ action name s, t.Opens factory action name s) ∨
      ∃ response, t.AnsweredWith factory response := by
  cases haction : Action.ofRequest t.request with
  | error response =>
      -- the request asks for no action
      obtain ⟨hrespond, hcookies⟩ := respond_of_refused factory t.now haction
      refine Or.inr ⟨_, hrespond, (cookies_withoutBody ..).trans hcookies, ?_, ?_⟩
      · simp only [saved, haction]
      · rintro id ⟨⟨store?, hinit⟩, -⟩
        rw [haction] at hinit
        cases hinit
  | ok action =>
      cases hloads : action.loads with
      | false =>
          -- the action is done without a session
          obtain ⟨response, hrespond, hcookies, -⟩ :=
            respond_of_idle factory t.now haction hloads "" .empty
          obtain ⟨result, hperform⟩ := run_perform_of_idle factory t.now hloads t.jar
          refine Or.inr ⟨response, hrespond, hcookies, ?_, ?_⟩
          · simp only [saved, haction]
            rw [hperform, run_done]
          · rintro id ⟨⟨store?, hinit⟩, -⟩
            rw [haction] at hinit
            cases hinit
            cases hloads
      | true =>
          obtain ⟨name, huses⟩ := action.exists_uses
          cases hs : factory.store name with
          | ok s => exact Or.inl ⟨action, name, s, haction, hloads, huses, hs⟩
          | error e =>
              -- the action asks for a session of a store that is not there
              have hrespond := respond_of_unknown t.now haction hloads huses hs
              refine Or.inr ⟨_, hrespond, cookies_withoutBody .., ?_, ?_⟩
              · simp only [saved, haction]
                rw [run_perform_of_unknown hloads huses hs t.jar, run_done]
              · rintro id ⟨-, hbody⟩
                rw [response, hrespond, run_done] at hbody
                cases result_of_body hbody rfl

/-- What is answered at once does nothing. -/
theorem AnsweredWith.idles {response : Response} (h : t.AnsweredWith factory response) :
    t.Idles factory where
  saved_eq := h.saved_eq
  calls_eq := by
    rw [calls, h.respond_eq]
    rfl
  not_answers := h.not_answers

/-- **A request opens a session, or it does nothing.** -/
theorem opens_or_idles (factory : SessionFactory) (t : Turn σ) :
    (∃ action name s, t.Opens factory action name s) ∨ t.Idles factory :=
  (opens_or_answered factory t).imp_right fun ⟨_, h⟩ => h.idles

/-- The request may have written the text, for a session that it saved. -/
def Produces (factory : SessionFactory) (t : Turn σ) (text : String) : Prop :=
  ∃ f ∈ t.saved factory, ∃ s d, factory.store f.2.store = .ok s ∧
    SessionStore.WrittenFor f.2.data d ∧ s.Writes sessionKey t.now d text

end Turn

/-! ### Runs -/

/-- In a run, told from its latest request back, every cookie that some store reads was written by a
request before. -/
def Authentic (factory : SessionFactory) : List (Turn σ) → Prop
  | [] => True
  | t :: before =>
    (∀ name s text d, factory.store name = .ok s → t.jar.get? sessionKey = some text →
      Encoders.decode s.encoders sessionKey t.now text = .ok d →
        ∃ u ∈ before, u.Produces factory text) ∧
      Authentic factory before

section

variable {pairs : List KeyPair} {t : Turn σ} {before : List (Turn σ)} {id : String}
  (hkeys : ∀ name s, factory.store name = .ok s →
    KeyPair.encoders pairs s.maxLength = .ok s.encoders)

include hkeys

/-- **The id of a loaded session** was in a session that was saved before. -/
theorem exists_saved_of_load (hauth : Authentic factory (t :: before))
    (hclock : ∀ u ∈ before, Range.isInt64 u.now = true)
    (hrep : ∀ u ∈ before, ∀ f ∈ u.saved factory, f.2.data.Representable) {name : String}
    (hs : factory.store name = .ok s) (hid : (t.load s).1.id? = some id) :
    ∃ u ∈ before, ∃ f ∈ u.saved factory, f.2.data.id? = some id := by
  obtain ⟨d, hread, hid, -⟩ := SessionStore.exists_of_id?_load hid
  cases hget : t.jar.get? sessionKey with
  | none =>
      rw [SessionStore.readCookie, hget] at hread
      cases hread
  | some text =>
      rw [SessionStore.readCookie_of_get? hget] at hread
      obtain ⟨u, hu, f, hf, s₀, d₀, hs₀, hwritten, hwrites⟩ := hauth.1 name s text d hs hget hread
      -- whichever store wrote the text, this one reads what was written
      have hsame := SessionStore.eq_of_decode_of_writes (hkeys _ _ hs₀) (hkeys _ _ hs) hwrites
        (hwritten.representable (hrep u hu f hf)) (hclock u hu) hread
      subst hsame
      refine ⟨u, hu, f, hf, ?_⟩
      rcases hwritten with rfl | ⟨id', -, hid', rfl⟩
      · exact hid
      · rw [SessionData.id?_ofId] at hid
        rw [hid', hid]

/-- What a request saves has an id that was made before, or in this request. -/
theorem minted_of_serves (hauth : Authentic factory (t :: before))
    (hclock : ∀ u ∈ before, Range.isInt64 u.now = true)
    (hrep : ∀ u ∈ before, ∀ f ∈ u.saved factory, f.2.data.Representable)
    (hbefore : ∀ u ∈ before, ∀ f ∈ u.saved factory, ∀ id, f.2.data.id? = some id →
      ∃ v ∈ before, v.Mints factory id) {name : String} (hs : factory.store name = .ok s)
    {info : SessionInfo} (h : t.Serves factory (t.load s).1 info) (hid : info.data.id? = some id) :
    ∃ v ∈ t :: before, v.Mints factory id := by
  cases hloaded : (t.load s).1.id? with
  | none => exact ⟨t, List.mem_cons_self, h.mints hloaded id hid⟩
  | some id' =>
      have hsame := h.keeps id' hloaded
      rw [hid] at hsame
      cases hsame
      obtain ⟨u, hu, f, hf, hsaved⟩ := exists_saved_of_load hkeys hauth hclock hrep hs hloaded
      obtain ⟨v, hv, hmints⟩ := hbefore u hu f hf id hsaved
      exact ⟨v, List.mem_cons_of_mem _ hv, hmints⟩

/-- **The ids of saved sessions** were made in the run. -/
theorem minted_of_saved {history : List (Turn σ)} (hauth : Authentic factory history)
    (hclock : ∀ u ∈ history, Range.isInt64 u.now = true)
    (hrep : ∀ u ∈ history, ∀ f ∈ u.saved factory, f.2.data.Representable) :
    ∀ u ∈ history, ∀ f ∈ u.saved factory, ∀ id, f.2.data.id? = some id →
      ∃ v ∈ history, v.Mints factory id := by
  induction history with
  | nil => exact fun u hu => nomatch hu
  | cons t before ih =>
      have hclock' : ∀ u ∈ before, Range.isInt64 u.now = true :=
        fun u hu => hclock u (List.mem_cons_of_mem _ hu)
      have hrep' : ∀ u ∈ before, ∀ f ∈ u.saved factory, f.2.data.Representable :=
        fun u hu => hrep u (List.mem_cons_of_mem _ hu)
      have hbefore := ih hauth.2 hclock' hrep'
      intro u hu f hf id hid
      rcases List.mem_cons.mp hu with rfl | hu
      · rcases Turn.opens_or_idles factory u with ⟨action, name, s, hopens⟩ | hidles
        · obtain ⟨info, -, hserves⟩ := Turn.exists_serves hopens
          rw [hserves.saved_eq, List.mem_singleton] at hf
          subst hf
          exact minted_of_serves hkeys hauth hclock' hrep' hbefore hopens.store_eq hserves hid
        · rw [hidles.saved_eq] at hf
          cases hf
      · obtain ⟨v, hv, hmints⟩ := hbefore u hu f hf id hid
        exact ⟨v, List.mem_cons_of_mem _ hv, hmints⟩

end

/-- **Ids come from the service.** In a run through stores of the same keys in which every cookie that
is read was written before, and every session that was saved is such as the format can hold, the latest
request

* loads a session only with an id that was made before, and saves it with the same;
* saves, answers with and makes calls about ids only that were made before or by itself. -/
theorem ids_are_minted {pairs : List KeyPair} (hkeys : ∀ name s, factory.store name = .ok s →
      KeyPair.encoders pairs s.maxLength = .ok s.encoders)
    {t : Turn σ} {before : List (Turn σ)} (hauth : Authentic factory (t :: before))
    (hclock : ∀ u ∈ before, Range.isInt64 u.now = true)
    (hrep : ∀ u ∈ before, ∀ f ∈ u.saved factory, f.2.data.Representable) :
    (∀ d id, t.Loads factory d → d.id? = some id → (∃ u ∈ before, u.Mints factory id) ∧
        ∃ info, t.saved factory = [(sessionKey, info)] ∧ info.data.id? = some id) ∧
      (∀ f ∈ t.saved factory, ∀ id, f.2.data.id? = some id →
        ∃ u ∈ t :: before, u.Mints factory id) ∧
      (∀ id, t.Answers factory id → ∃ u ∈ t :: before, u.Mints factory id) ∧
      (∀ call ∈ t.calls factory, ∀ id, call.id? = some id →
        ∃ u ∈ t :: before, u.Mints factory id) := by
  have hbefore := minted_of_saved hkeys hauth.2 hclock hrep
  refine ⟨?_, ?_⟩
  · rintro d id ⟨action, name, s, hopens, rfl⟩ hid
    obtain ⟨info, -, hserves⟩ := Turn.exists_serves hopens
    obtain ⟨u, hu, f, hf, hsaved⟩ :=
      exists_saved_of_load hkeys hauth hclock hrep hopens.store_eq hid
    exact ⟨hbefore u hu f hf id hsaved, info, hserves.saved_eq, hserves.keeps id hid⟩
  · rcases Turn.opens_or_idles factory t with ⟨action, name, s, hopens⟩ | hidles
    · obtain ⟨info, -, hserves⟩ := Turn.exists_serves hopens
      have hminted : ∀ id, info.data.id? = some id → ∃ u ∈ t :: before, u.Mints factory id :=
        fun id hid =>
          minted_of_serves hkeys hauth hclock hrep hbefore hopens.store_eq hserves hid
      refine ⟨fun f hf id hid => ?_, fun id hanswers => hminted id (hserves.answers id hanswers),
        fun call hcall id hid => hminted id (hserves.calls call hcall id hid)⟩
      rw [hserves.saved_eq, List.mem_singleton] at hf
      subst hf
      exact hminted id hid
    · refine ⟨fun f hf => ?_, fun id hanswers => absurd hanswers (hidles.not_answers id),
        fun call hcall => ?_⟩
      · rw [hidles.saved_eq] at hf
        cases hf
      · rw [hidles.calls_eq] at hcall
        cases hcall

/-! ### A sample -/

/-- Someone asks for an id. -/
def initTurn : Turn World where
  now := 1000
  request := idRequest
  respond := World.respond
  state := sampleWorld.withNow 1000000

/-- And then for the values, with the cookie of the id. -/
def showTurn : Turn World where
  now := 2000
  request :=
    { showRequest with
      cookies := cookieHeaders (some (sampleText 1000 (.ofId sampleWorld.freshId))) }
  respond := World.respond
  state := sampleWorld.withNow 2000000

theorem keys_sample : ∀ name s, sampleFactory.store name = .ok s →
    KeyPair.encoders [{ hashKey := [1, 2] }] s.maxLength = .ok s.encoders := by
  intro name s hs
  by_cases hname : name = "memory"
  · subst hname
    rw [store_sample] at hs
    cases hs
    exact keyed_sample.2
  · have hnone : sampleFactory.stores.get? name = none := Dict.get?_set_of_ne hname
    rw [SessionFactory.store, hnone] at hs
    cases hs

/-- The session that the first request makes. -/
def identifiedSample : SessionInfo :=
  identified sampleFactory (some "memory") (.ofId sampleWorld.freshId)

theorem saved_initTurn : initTurn.saved sampleFactory = [(sessionKey, identifiedSample)] := by
  have hopens : initTurn.Opens sampleFactory (.init (some "memory")) "memory" sampleStore :=
    ⟨ofRequest_id, rfl, rfl, store_sample⟩
  have hgenerate := World.run_generate (w := initTurn.state) rfl
  have hs : sampleFactory.store
      (RequestSessions.keyOr SessionFactory.cookieName (some "memory")) = .ok sampleStore := rfl
  -- there is no cookie, so there was no session before
  exact Turn.saved_of_identifies hopens
    (identifies_of_fresh hs initTurn.jar initTurn.now .empty World.respond initTurn.state rfl hgenerate)

/-- The cookie that it sets has this text. -/
theorem produces_initTurn :
    initTurn.Produces sampleFactory (sampleText 1000 (.ofId sampleWorld.freshId)) := by
  have hsaved : (sessionKey, identifiedSample) ∈ initTurn.saved sampleFactory := by
    rw [saved_initTurn]
    exact List.mem_singleton_self _
  have hstore : sampleFactory.store identifiedSample.store = .ok sampleStore := store_sample
  exact ⟨_, hsaved, sampleStore, _, hstore, Or.inl rfl,
    writes_sampleText 1000 (.ofId sampleWorld.freshId)⟩

theorem get?_showTurn : showTurn.jar.get? sessionKey =
    some (sampleText 1000 (.ofId sampleWorld.freshId)) := get?_sampleText _ _

theorem authentic_sample : Authentic sampleFactory [showTurn, initTurn] := by
  refine ⟨fun name s text d hs hget hread => ?_, fun name s text d hs hget hread => ?_, trivial⟩
  · rw [get?_showTurn] at hget
    cases hget
    exact ⟨initTurn, List.mem_singleton_self _, produces_initTurn⟩
  · cases hget

/-- The id that the second request loads, and saves again, was made in the first. -/
theorem shown_id_is_minted :
    (showTurn.load sampleStore).1.id? = some sampleWorld.freshId ∧
      initTurn.Mints sampleFactory sampleWorld.freshId ∧
      ∃ info, showTurn.saved sampleFactory = [(sessionKey, info)] ∧
        info.data.id? = some sampleWorld.freshId := by
  have hvalid := World.isValid_freshId sampleWorld
  have hread : sampleStore.readCookie showTurn.jar sessionKey showTurn.now =
      .ok (.ofId sampleWorld.freshId) := by
    rw [SessionStore.readCookie_of_get? get?_showTurn]
    exact SessionStore.decode_of_writes keyed_sample (writes_sampleText 1000 _)
      (SessionData.representable_ofId hvalid) (by decide) (by decide) (by decide)
      fun hcookie => nomatch hcookie
  have hload : (showTurn.load sampleStore).1.id? = some sampleWorld.freshId := by
    rw [Turn.load, SessionStore.run_load kind_sample ⟨hread, hvalid⟩]
    exact SessionStore.id?_shown ..
  have hopens : showTurn.Opens sampleFactory (.showValues (some "memory")) "memory" sampleStore :=
    ⟨ofRequest_show, rfl, rfl, store_sample⟩
  have hclock : ∀ u ∈ [initTurn], Range.isInt64 u.now = true := by
    intro u hu
    rw [List.mem_singleton.mp hu]
    decide
  have hrep : ∀ u ∈ [initTurn], ∀ f ∈ u.saved sampleFactory, f.2.data.Representable := by
    intro u hu f hf
    rw [List.mem_singleton.mp hu, saved_initTurn, List.mem_singleton] at hf
    subst hf
    exact SessionData.representable_ofId hvalid
  obtain ⟨⟨u, hu, hmints⟩, hsaved⟩ := (ids_are_minted keys_sample authentic_sample hclock hrep).1 _ _
    ⟨_, _, _, hopens, rfl⟩ hload
  rw [List.mem_singleton.mp hu] at hmints
  exact ⟨hload, hmints, hsaved⟩

end Service

end WebSession
