import WebSession.Proofs.Service.Client
import WebSession.Proofs.SessionId

/-!
# WebSession.Proofs.Service.Steps

**A request that loads the session is a step of the map** (`takes_of_loads`, `takes_of_init`): it is
answered as the map answers it, and its only cookie reloads what the map becomes (`Saved`).

What it takes is that the session could be loaded, that the store can keep what the map becomes, and
that no call fails.
-/

namespace WebSession.Service

open Plan Http

/-! ### Steps of the map -/

namespace SessionMap

/-- The id is what is under its key. -/
theorem id?_congr {m m' : SessionMap}
    (h : m.get? SessionData.idKey = m'.get? SessionData.idKey) : m.id? = m'.id? := by
  rw [id?, id?, h]

/-- An action leaves the id, unless it gives the session one; that keeps the id that is there. -/
theorem id?_step (fresh : String) (m : SessionMap) (action : Action) :
    (m.step fresh action).2.id? = if action.isInit then some (m.id?.getD fresh) else m.id? := by
  have hflash : SessionData.idKey ≠ flashKey := by decide
  have hset : ∀ (m : SessionMap) (id : String),
      SessionMap.id? (m.set SessionData.idKey (.str id)) = some id := by
    intro m id
    rw [SessionMap.id?, Dict.get?_set_self]
  cases action with
  | live => rfl
  | showValues store? => rfl
  | init store? =>
      rw [step]
      cases hid : id? m with
      | none => exact hset m fresh
      | some id => exact hid
  | setValues store? fields =>
      rw [step]
      split
      · rfl
      · -- the fields that are set do not have the key of the id
        rename_i hreserved
        have hfree : fields.contains SessionData.idKey = false := by simpa using hreserved
        show id? (override m fields) = id? m
        rw [override_values ⟨m⟩ fields, id?_values, id?_setAll hfree, ← id?_values]
  | takeFlashes store? =>
      rw [step]
      split
      · exact id?_congr (Fields.get?_erase_of_ne hflash)
      · rfl
  | addFlash store? message => exact id?_congr (Dict.get?_set_of_ne hflash)
  | logout store? =>
      show id? (idOnly m) = id? m
      rw [idOnly]
      cases hid : id? m with
      | none => rfl
      | some id => exact hset _ id

theorem length_idOnly_le (m : SessionMap) : Fields.length m.idOnly ≤ 1 := by
  unfold idOnly
  split
  · exact Nat.le_refl 1
  · exact Nat.zero_le 1

end SessionMap

/-! ### One request -/

/-- The service offers a store under a name: its encoders have keys, the cookies of its sessions can
be sent, and its records are not dropped for their age. -/
structure Offers (factory : SessionFactory) (name : String) (s : SessionStore)
    (pairs : List KeyPair) : Prop where
  store_eq : factory.store name = .ok s
  keyed : s.Keyed pairs
  path : Cookie.isHeaderText factory.defaultConfig.path = true
  domain : Cookie.isHeaderText factory.defaultConfig.domain = true
  maxAge : s.kind ≠ .cookie → 0 ≤ factory.defaultConfig.maxAge

/-- The headers of a response give the session cookie a text that reloads a session. In a cookie
store it has to be short enough. -/
def Saved (s : SessionStore) (maxAge made : Int) (d : SessionData) (headers : List String)
    (w : World) : Prop :=
  ∃ b header, headers = [header] ∧ valueSet? header = some (Base64Url.encode b) ∧
    (∃ d', s.Writes sessionKey (made / 1000) d' (Base64Url.encode b)) ∧
    ((s.kind = .cookie → (Base64Url.encode b).utf8ByteSize ≤ SessionStore.cookieMaxLength) →
      s.Reloads sessionKey (Base64Url.encode b) maxAge made d w)

variable {factory : SessionFactory} {name : String} {s : SessionStore} {pairs : List KeyPair}
  {action : Action} {request : Request} {w : World} {d : SessionData} {maxAge : Int}

/-- **Saving** sets the session cookie and no other, to a text that reloads the session. -/
theorem exists_saved (ho : Offers factory name s pairs) (hw : w.entropy.broken = false)
    (hnow : Moment w.now) {w₁ : World} (hfollows : w.Follows w₁) {jar jar' : Cookie.Jar}
    (hjar : jar.changes = .empty) (hsame : ∀ c, c.name = sessionKey → jar'.add c = jar.add c)
    {info : SessionInfo} (hpath : info.config.path = factory.defaultConfig.path)
    (hdomain : info.config.domain = factory.defaultConfig.domain) (hinfo : s.Keeps maxAge info)
    (hrun : (s.save jar' sessionKey w.seconds info).run.Unfailing World.respond w₁) :
    ∃ c w', (s.save jar' sessionKey w.seconds info).run.run World.respond w₁ =
        (.ok (jar.add c), w') ∧
      c.name = sessionKey ∧ Saved s maxAge w.now info.data (jar.add c).headers w' := by
  have hw₁ : w₁.entropy.broken = false := hfollows.broken_eq.trans hw
  rw [World.seconds, ← hfollows.now_eq] at hrun ⊢
  rw [← hfollows.now_eq] at hnow
  obtain ⟨text, w', hsave, ⟨d', hwrites⟩, hreloads⟩ :=
    SessionStore.exists_run_save ho.keyed hw₁ hnow jar' hinfo hrun
  obtain ⟨b, rfl⟩ := hwrites.exists_encode
  have hadd := hsame (Cookie.ofSession sessionKey (Base64Url.encode b) info.config) rfl
  rw [hadd] at hsave
  have hheaders := headers_add hjar b (by rw [hpath]; exact ho.path)
    (by rw [hdomain]; exact ho.domain)
  exact ⟨_, w', hsave, rfl, b, _, hheaders, valueSet?_ofSession b info.config, ⟨d', hwrites⟩,
    hreloads⟩

theorem path_config (config : SessionConfig) (action : Action) :
    (action.config config).path = config.path := by
  cases action <;> rfl

theorem domain_config (config : SessionConfig) (action : Action) :
    (action.config config).domain = config.domain := by
  cases action <;> rfl

/-- What a request does that ends with saving the session: it is answered like a request to the map,
and its response reloads what the map becomes. -/
structure Takes (s : SessionStore) (maxAge : Int) (request : Request) (step : Answer × SessionMap)
    (w : World) (response : Response) (w' : World) : Prop where
  answer : Answer.ofResponse response = step.1.forMethod request.method
  saved : Saved s maxAge w.now ⟨step.2⟩ response.cookies w'

section

variable (ho : Offers factory name s pairs) (hw : w.entropy.broken = false) (hnow : Moment w.now)

include ho hw hnow

/-- **A request that loads the session** is a step of the map. -/
theorem takes_of_loads (haction : Action.ofRequest request = .ok action)
    (hloads : action.loads = true) (hinit : action.isInit = false) (hname : action.Uses name)
    (fresh : String)
    (hload : (s.load (Cookie.Jar.ofHeaders request.cookies) sessionKey w.seconds).run
      World.respond w = (d, w))
    (hkeeps : s.Keeps maxAge
      { data := ⟨(SessionMap.step fresh d.values action).2⟩
        store := name
        config := action.config factory.defaultConfig })
    (hrun : (respond factory w.seconds request).Unfailing World.respond w) :
    ∃ response w', (respond factory w.seconds request).run World.respond w = (response, w') ∧
      Takes s maxAge request (SessionMap.step fresh d.values action) w response w' := by
  obtain ⟨result, hrespond, hanswer⟩ :=
    respond_of_loads w.seconds haction hloads hinit hname ho.store_eq fresh
  rw [hrespond] at hrun ⊢
  rw [unfailing_bind, hload, unfailing_bind] at hrun
  obtain ⟨c, w', hsave, -, hsaved⟩ := exists_saved ho hw hnow (.refl w) rfl (fun _ _ => rfl)
    (path_config _ action) (domain_config _ action) hkeeps hrun.2.1
  rw [Plan.run_bind, hload, Plan.run_bind, hsave]
  refine ⟨_, w', rfl, ?_, ?_⟩
  · rw [ofResponse_withoutBody, ← hanswer d]
    rfl
  · rw [cookies_withoutBody]
    exact hsaved

/-- The end of a request: the only session is saved, and the answer stays what it was. -/
theorem takes_of_save {w₁ : World} (hfollows : w.Follows w₁) {jar jar' : Cookie.Jar}
    (hjar : jar.changes = .empty) (hsame : ∀ c, c.name = sessionKey → jar'.add c = jar.add c)
    {step : Answer × SessionMap} {result : Except Failure Body}
    (hanswer : Answer.ofResponse (reply result) = step.1) {info : SessionInfo}
    (hinfo : info = { data := ⟨step.2⟩, store := name, config := factory.defaultConfig })
    (hkeeps : s.Keeps maxAge info)
    (hrun : (RequestSessions.save factory w.seconds
      { jar := jar', loaded := [(sessionKey, info)] }).Unfailing World.respond w₁) :
    ∃ response w',
      ((RequestSessions.save factory w.seconds { jar := jar', loaded := [(sessionKey, info)] } >>=
        fun saved => .done (withoutBody request.method
          { reply result with cookies := saved.1.jar.headers })).run World.respond w₁) =
        (response, w') ∧
      Takes s maxAge request step w response w' := by
  subst hinfo
  rw [RequestSessions.save_single ho.store_eq, unfailing_bind] at hrun
  obtain ⟨c, w', hsave, -, hsaved⟩ := exists_saved ho hw hnow hfollows hjar hsame rfl rfl hkeeps
    hrun.1
  rw [RequestSessions.save_single ho.store_eq, Plan.bind_assoc, Plan.run_bind, hsave]
  refine ⟨_, w', rfl, ?_, ?_⟩
  · rw [ofResponse_withoutBody, ← hanswer]
    rfl
  · rw [cookies_withoutBody]
    exact hsaved

/-- Giving the session an id leaves what the map becomes to be saved. A session without an id is saved
at once, so that its cookie is set twice; what counts is the second time. -/
theorem exists_identified {store? : Option String} (hname : (Action.init store?).Uses name)
    {jar : Cookie.Jar} (hjar : jar.changes = .empty) {info info' : SessionInfo}
    (hinfo : info = { data := d, store := name, config := factory.defaultConfig })
    (hinfo' : info' =
      { data := ⟨(SessionMap.step w.freshId d.values (.init store?)).2⟩
        store := name
        config := factory.defaultConfig })
    (hkeeps : s.Keeps maxAge info')
    (hrun : ((identify factory w.seconds store?).run.run
      { jar := jar, loaded := [(sessionKey, info)] }).Unfailing World.respond w) :
    ∃ result jar' w₁, ((identify factory w.seconds store?).run.run
        { jar := jar, loaded := [(sessionKey, info)] }).run World.respond w =
          ((result, { jar := jar', loaded := [(sessionKey, info')] }), w₁) ∧
      Answer.ofResponse (reply result) = (SessionMap.step w.freshId d.values (.init store?)).1 ∧
      ∀ c, c.name = sessionKey → jar'.add c = jar.add c := by
  subst hinfo hinfo'
  subst hname
  cases hid : d.id? with
  | some id =>
      -- the session has its id already, and nothing is saved
      have hstep : SessionMap.step w.freshId d.values (.init store?) =
          (⟨200, SessionMap.object "session_id" (.str id)⟩, d.values) := by
        rw [SessionMap.step, SessionMap.id?_values, hid]
      rw [run_identify_of_id ho.store_eq rfl jar hid, hstep]
      exact ⟨_, jar, w, rfl, rfl, fun _ _ => rfl⟩
  | none =>
      have hstep : SessionMap.step w.freshId d.values (.init store?) =
          (⟨200, SessionMap.object "session_id" (.str w.freshId)⟩,
            d.values.set SessionData.idKey (.str w.freshId)) := by
        rw [SessionMap.step, SessionMap.id?_values, hid]
      -- a fresh id is drawn, and the session is saved with it
      obtain ⟨w₁, hgenerate⟩ : ∃ w₁, (SessionId.generate SessionId.octets).run.run World.respond w =
        (.ok w.freshId, w₁) := ⟨_, World.run_generate hw⟩
      rw [hstep] at hkeeps ⊢
      rw [run_identify_of_no_id ho.store_eq rfl jar hid] at hrun ⊢
      rw [unfailing_bind, hgenerate] at hrun
      rw [Plan.run_bind, hgenerate]
      obtain ⟨hfirst, -⟩ := unfailing_bind.mp hrun.2
      obtain ⟨c, w₂, hsave, hc, -⟩ := exists_saved ho hw hnow (World.follows_run hgenerate) hjar
        (fun _ _ => rfl) rfl rfl hkeeps hfirst
      have hsave' : (s.save jar sessionKey w.seconds
          { data := d.insert SessionData.idKey (.str w.freshId)
            store := RequestSessions.keyOr SessionFactory.cookieName store?
            config := factory.defaultConfig }).run.run World.respond w₁ = (.ok (jar.add c), w₂) :=
        hsave
      refine ⟨.ok (SessionMap.object "session_id" (.str w.freshId)), jar.add c, w₂, ?_, rfl, ?_⟩
      · simp only [Plan.run_bind, hsave']
        rfl
      · intro c' hc'
        exact add_add _ (hc.trans hc'.symm)

/-- **A request that gives the session an id** is a step of the map too. -/
theorem takes_of_init {store? : Option String}
    (haction : Action.ofRequest request = .ok (.init store?))
    (hname : (Action.init store?).Uses name)
    (hload : (s.load (Cookie.Jar.ofHeaders request.cookies) sessionKey w.seconds).run
      World.respond w = (d, w))
    (hkeeps : s.Keeps maxAge
      { data := ⟨(SessionMap.step w.freshId d.values (.init store?)).2⟩
        store := name
        config := factory.defaultConfig })
    (hrun : (respond factory w.seconds request).Unfailing World.respond w) :
    ∃ response w', (respond factory w.seconds request).run World.respond w = (response, w') ∧
      Takes s maxAge request (SessionMap.step w.freshId d.values (.init store?)) w response w' := by
  subst hname
  rw [respond_of_init haction ho.store_eq] at hrun ⊢
  rw [unfailing_bind, hload, unfailing_bind] at hrun
  obtain ⟨-, hidentify, hafter⟩ := hrun
  obtain ⟨result, jar', w₁, hidentified, hanswer, hsame⟩ :=
    exists_identified ho hw hnow rfl rfl rfl rfl hkeeps hidentify
  rw [hidentified, unfailing_bind] at hafter
  rw [Plan.run_bind, hload, Plan.run_bind, hidentified]
  exact takes_of_save ho hw hnow (World.follows_run hidentified) rfl hsame hanswer rfl hkeeps
    hafter.1

end

end WebSession.Service
