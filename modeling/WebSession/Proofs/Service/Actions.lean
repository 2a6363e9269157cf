import WebSession.Proofs.Service.SessionMap

/-!
# WebSession.Proofs.Service.Actions

**An action is one step of the map** (`run_perform`): it loads the session, answers what the map
answers, and leaves what the map becomes to be saved. Only giving the session an id calls for more
(`run_perform_init`).
-/

namespace WebSession.Service

open Plan RequestSessions Http

/-! ### Sessions as maps -/

namespace SessionMap

theorem toJsonFields_eq_map {lo : Option String} (m : Fields Value lo) :
    Value.toJson.toJsonFields m = m.map Value.toJson := by
  induction m with
  | nil => rw [Value.toJson.toJsonFields, Fields.map]
  | cons key above v rest ih => rw [Value.toJson.toJsonFields, Fields.map, ih]

theorem shown_values (d : SessionData) : shown d.values = valuesBody d := by
  rw [shown, valuesBody, SessionData.toJson, toJsonFields_eq_map]
  rfl

theorem id?_values (d : SessionData) : id? d.values = d.id? := by
  rw [id?, SessionData.id?, SessionData.get?]
  cases d.values.get? SessionData.idKey with
  | none => rfl
  | some v => cases v <;> rfl

theorem override_values (d : SessionData) (fields : Dict Json) :
    override d.values fields = (setAll fields d).values := by
  rw [override, setAll]
  generalize fields.toList = l
  induction l generalizing d with
  | nil => rfl
  | cons f more ih => exact ih (d.insert f.1 (Value.ofJson f.2))

theorem idOnly_values (d : SessionData) : idOnly d.values = (ended d).values := by
  rw [idOnly, id?_values, ended, SessionData.idOnly?]
  cases d.id? <;> rfl

theorem takeFlashes_values (d : SessionData) :
    RequestSessions.takeFlashes flashKey d =
      match d.values.get? flashKey with
      | some v => (some (messagesOf v), ⟨d.values.erase flashKey⟩)
      | none => (none, d) := by
  rw [RequestSessions.takeFlashes, SessionData.get?]
  cases d.values.get? flashKey with
  | none => rfl
  | some v => cases v <;> rfl

theorem messages_values (d : SessionData) :
    messages d.values = (RequestSessions.takeFlashes flashKey d).1.getD [] := by
  rw [messages, takeFlashes_values]
  cases d.values.get? flashKey <;> rfl

end SessionMap

/-! ### Actions that load the session -/

/-- The action is about the store with a name. -/
def Action.Uses (name : String) : Action → Prop
  | .live => True
  | .showValues store? => keyOr SessionFactory.cookieName store? = name
  | .setValues store? _ => keyOr SessionFactory.cookieName store? = name
  | .init store? => keyOr SessionFactory.cookieName store? = name
  | .takeFlashes store? => keyOr SessionFactory.cookieName store? = name
  | .addFlash store? _ => keyOr SessionFactory.cookieName store? = name
  | .logout store? => keyOr SessionFactory.cookieName store? = name

theorem Action.exists_uses (action : Action) : ∃ name, action.Uses name := by
  cases action with
  | live => exact ⟨"", trivial⟩
  | _ => exact ⟨_, rfl⟩

/-- The action gives the session an id. -/
def Action.isInit : Action → Bool
  | .init _ => true
  | _ => false

/-- The action loads the session. One that would set the reserved key is refused before. -/
def Action.loads : Action → Bool
  | .live => false
  | .setValues _ fields => !fields.contains SessionData.idKey
  | _ => true

/-- The configuration with which the session is saved after an action. -/
def Action.config (config : SessionConfig) : Action → SessionConfig
  | .logout _ => { config with maxAge := -1 }
  | _ => config

variable {factory : SessionFactory} {now : Int} {name : String} {s : SessionStore} {action : Action}

/-- What an action leaves of a request that loads one session. -/
def leaving (factory : SessionFactory) (name : String) (jar : Cookie.Jar) (action : Action)
    (fresh : String) (d : SessionData) : RequestSessions where
  jar := jar
  loaded := [(sessionKey,
    { data := ⟨(SessionMap.step fresh d.values action).2⟩
      store := name
      config := action.config factory.defaultConfig })]

/-- **An action loads the session and takes the step of the map.** -/
theorem run_perform (hloads : action.loads = true) (hinit : action.isInit = false)
    (hname : action.Uses name) (hs : factory.store name = .ok s) (jar : Cookie.Jar)
    (fresh : String) :
    ∃ result : SessionData → Except Failure Body,
      (perform factory now action).run.run { jar := jar } =
        (s.load jar sessionKey now >>= fun d =>
          .done (result d, leaving factory name jar action fresh d)) ∧
      ∀ d, Answer.ofResponse (reply (result d)) = (SessionMap.step fresh d.values action).1 := by
  cases action with
  -- answers without a session, and so is not asked about here
  | live => cases hloads
  | init store? => cases hinit
  | showValues store? =>
      refine ⟨_, run_perform_of_updates (.shows hname) hs jar, fun d => ?_⟩
      rw [SessionMap.step, SessionMap.shown_values]
      rfl
  | setValues store? fields =>
      -- an action that sets the reserved key loads nothing
      have hreserved : fields.contains SessionData.idKey = false := by
        simpa [Action.loads] using hloads
      refine ⟨fun d => .ok (valuesBody (setAll fields d)), ?_, fun d => ?_⟩
      · rw [run_perform_of_updates (.sets hname hreserved) hs jar]
        simp only [leaving, SessionMap.step, hreserved, SessionMap.override_values]
        rfl
      · simp only [SessionMap.step, hreserved, SessionMap.override_values, SessionMap.shown_values]
        rfl
  | takeFlashes store? =>
      subst hname
      refine ⟨fun d => (takeFlashes SessionMap.flashKey d).1.elim (.error (.notFound "No flashes"))
        fun messages => .ok (SessionMap.object "flashes" (.array (messages.map Value.toJson))),
        ?_, fun d => ?_⟩
      · -- the messages are taken from the session, and then the answer hangs on whether there were any
        have hkey : keyOr defaultFlashKey none = SessionMap.flashKey := rfl
        rw [perform, run_run_bind, run_onSessions, flashes, run_run_bind, run_modifySession hs,
          Plan.bind_assoc, Plan.bind_assoc, Plan.bind_assoc, hkey]
        congr 1
        funext d
        simp only [leaving, SessionMap.step, SessionMap.takeFlashes_values]
        cases d.values.get? SessionMap.flashKey <;> rfl
      · simp only [SessionMap.step, SessionMap.takeFlashes_values]
        cases d.values.get? SessionMap.flashKey <;> rfl
  | addFlash store? message =>
      subst hname
      refine ⟨fun d => .ok (.text ""), ?_, fun d => rfl⟩
      rw [perform, run_run_bind, run_onSessions, addFlash, run_modifySession hs, Plan.bind_assoc,
        Plan.bind_assoc]
      congr 1
      funext d
      simp only [leaving, SessionMap.step, SessionMap.messages_values]
      rfl
  | logout store? =>
      subst hname
      refine ⟨fun d => .ok (.text ""), ?_, fun d => rfl⟩
      rw [perform, run_run_bind, run_onSessions, run_modifySession hs, Plan.bind_assoc,
        Plan.bind_assoc]
      congr 1
      funext d
      simp only [leaving, SessionMap.step, SessionMap.idOnly_values]
      rfl

/-- An action that does not load the session leaves none. -/
theorem run_perform_of_idle (factory : SessionFactory) (now : Int) (hidle : action.loads = false)
    (jar : Cookie.Jar) :
    ∃ result, (perform factory now action).run.run { jar := jar } =
      .done (result, { jar := jar }) := by
  cases action with
  | live => exact ⟨.ok (.text "OK"), rfl⟩
  | setValues store? fields =>
      have hreserved : fields.contains SessionData.idKey = true := by
        simpa [Action.loads] using hidle
      refine ⟨.error (.badRequest "Reserved key" SessionData.idKey), ?_⟩
      simp only [perform, hreserved]
      rfl
  | showValues store? => cases hidle
  | init store? => cases hidle
  | takeFlashes store? => cases hidle
  | addFlash store? message => cases hidle
  | logout store? => cases hidle

/-- **An action on a store that is not known** fails and loads nothing. -/
theorem run_perform_of_unknown (hloads : action.loads = true) (hname : action.Uses name) {e : Error}
    (hs : factory.store name = .error e) (jar : Cookie.Jar) :
    (perform factory now action).run.run { jar := jar } =
      .done (.error (.ofError e), { jar := jar }) := by
  cases action with
  | live => cases hloads
  | showValues store? =>
      subst hname
      rw [perform, run_run_bind, run_onSessions, run_session_of_unknown hs]
      rfl
  | setValues store? fields =>
      subst hname
      -- the reserved key would be refused first
      have hreserved : fields.contains SessionData.idKey = false := by
        simpa [Action.loads] using hloads
      simp only [perform, hreserved]
      show ((onSessions _ >>= _ : Performing _).run.run _) = _
      rw [run_run_bind, run_onSessions, run_modifySession_of_unknown hs]
      rfl
  | init store? =>
      subst hname
      rw [perform, run_run_bind, run_onSessions, run_session_of_unknown hs]
      rfl
  | takeFlashes store? =>
      subst hname
      rw [perform, run_run_bind, run_onSessions, flashes, run_run_bind,
        run_modifySession_of_unknown hs]
      rfl
  | addFlash store? message =>
      subst hname
      rw [perform, run_run_bind, run_onSessions, addFlash, run_modifySession_of_unknown hs]
      rfl
  | logout store? =>
      subst hname
      rw [perform, run_run_bind, run_onSessions, run_modifySession_of_unknown hs]
      rfl

/-! ### Giving the session an id -/

/-- What giving the session an id does once the session is loaded. -/
def identify (factory : SessionFactory) (now : Int) (store? : Option String) : Performing Body := do
  initAll factory now
  let d ← onSessions (RequestSessions.session factory now (some sessionKey) store?)
  match d.id? with
  | some id => pure (.json (single "session_id" (.str id)))
  | none => throw .noSession

variable {store? : Option String} {info : SessionInfo} {id : String}

theorem run_perform_init (hs : factory.store (keyOr SessionFactory.cookieName store?) = .ok s)
    (jar : Cookie.Jar) :
    (perform factory now (.init store?)).run.run { jar := jar } =
      s.load jar sessionKey now >>= fun d =>
        let info : SessionInfo :=
          { data := d
            store := keyOr SessionFactory.cookieName store?
            config := factory.defaultConfig }
        (identify factory now store?).run.run
          { jar := jar, loaded := [(sessionKey, info)] } := by
  rw [perform, run_run_bind, run_onSessions, run_session hs, Plan.bind_assoc, Plan.bind_assoc]
  rfl

theorem run_session_of_loaded (hs : factory.store (keyOr SessionFactory.cookieName store?) = .ok s)
    (hstore : info.store = keyOr SessionFactory.cookieName store?) (jar : Cookie.Jar) :
    (onSessions (session factory now (some sessionKey) store?)).run.run
        { jar := jar, loaded := [(sessionKey, info)] } =
      .done (.ok info.data, { jar := jar, loaded := [(sessionKey, info)] }) := by
  have hfind : find? { jar := jar, loaded := [(sessionKey, info)] }
      (keyOr defaultSessionKey (some sessionKey)) = some info := by
    simp [find?, keyOr, sessionKey]
  rw [run_onSessions, run_session_of_found hs hfind hstore]
  rfl

theorem run_lift {α : Type} (p : Plan α) (r : RequestSessions) :
    (ExceptT.lift (StateT.lift p) : Performing α).run.run r = p >>= fun a => .done (.ok a, r) := by
  show (p >>= fun a => Plan.done (a, r)) >>= _ = _
  rw [Plan.bind_assoc]
  rfl

theorem run_initAll (hs : factory.store info.store = .ok s) (jar : Cookie.Jar) :
    (initAll factory now).run.run { jar := jar, loaded := [(sessionKey, info)] } =
      s.init jar sessionKey now info >>= fun p =>
        match p.2 with
        | .ok jar => .done (.ok (), { jar := jar, loaded := [(sessionKey, p.1)] })
        | .error e =>
          .done (.error (.ofError e), { jar := jar, loaded := [(sessionKey, p.1)] }) := by
  have hget : (get : Performing RequestSessions).run.run
      { jar := jar, loaded := [(sessionKey, info)] } =
        .done (.ok { jar := jar, loaded := [(sessionKey, info)] },
          { jar := jar, loaded := [(sessionKey, info)] }) := rfl
  rw [Service.initAll, run_run_bind, hget, done_bind]
  simp only []
  rw [run_run_bind, run_lift, init_single hs, Plan.bind_assoc, Plan.bind_assoc]
  congr 1
  funext p
  obtain ⟨info, result⟩ := p
  cases result <;> rfl

/-- A session that has an id keeps it, and nothing is done. -/
theorem run_identify_of_id (hs : factory.store (keyOr SessionFactory.cookieName store?) = .ok s)
    (hstore : info.store = keyOr SessionFactory.cookieName store?) (jar : Cookie.Jar)
    (hid : info.data.id? = some id) :
    (identify factory now store?).run.run { jar := jar, loaded := [(sessionKey, info)] } =
      .done (.ok (SessionMap.object "session_id" (.str id)),
        { jar := jar, loaded := [(sessionKey, info)] }) := by
  have hinit : s.init jar sessionKey now info = .done (info, .ok jar) := by
    rw [SessionStore.init, hid]
    rfl
  rw [identify, run_run_bind, run_initAll (hstore ▸ hs), hinit]
  simp only [done_bind]
  rw [run_run_bind, run_session_of_loaded hs hstore, done_bind]
  simp only [hid]
  rfl

/-- A session without an id gets a fresh one and is saved. -/
theorem run_identify_of_no_id
    (hs : factory.store (keyOr SessionFactory.cookieName store?) = .ok s)
    (hstore : info.store = keyOr SessionFactory.cookieName store?) (jar : Cookie.Jar)
    (hid : info.data.id? = none) :
    (identify factory now store?).run.run { jar := jar, loaded := [(sessionKey, info)] } =
      (SessionId.generate SessionId.octets).run >>= fun (generated : Except Error String) =>
        match generated with
        | .error e => .done (.error (.ofError e), { jar := jar, loaded := [(sessionKey, info)] })
        | .ok fresh =>
          let info' := { info with data := info.data.insert SessionData.idKey (.str fresh) }
          (s.save jar sessionKey now info').run >>= fun (saved : Except Error Cookie.Jar) =>
            match saved with
            | .ok jar' =>
              .done (.ok (SessionMap.object "session_id" (.str fresh)),
                { jar := jar', loaded := [(sessionKey, info')] })
            | .error e =>
              .done (.error (.ofError e), { jar := jar, loaded := [(sessionKey, info')] }) := by
  -- first what giving the id comes to, and then the session is asked for once more to tell its id
  have hinit : s.init jar sessionKey now info =
      (SessionId.generate SessionId.octets).run >>= fun (generated : Except Error String) =>
        match generated with
        | .error e => .done (info, .error e)
        | .ok fresh =>
          let info' := { info with data := info.data.insert SessionData.idKey (.str fresh) }
          (s.save jar sessionKey now info').run >>= fun saved => .done (info', saved) := by
    rw [SessionStore.init, hid]
    rfl
  rw [identify, run_run_bind, run_initAll (hstore ▸ hs), hinit, Plan.bind_assoc, Plan.bind_assoc]
  congr 1
  funext generated
  cases generated with
  | error e => rfl
  | ok fresh =>
      simp only [Plan.bind_assoc, done_bind]
      congr 1
      funext saved
      cases saved with
      | error e => rfl
      | ok jar' =>
          -- it is at hand by now, so asking for it loads nothing
          have hsession := @run_session_of_loaded factory now s store?
            { info with data := info.data.insert SessionData.idKey (.str fresh) } hs hstore jar'
          simp only [done_bind]
          rw [run_run_bind, hsession, done_bind]
          simp only [SessionData.id?_insert_id]
          rfl

/-! ### Requests -/

variable {request : Request}

theorem ofResponse_withoutBody (method : Method) (r : Response) :
    Answer.ofResponse (withoutBody method r) = (Answer.ofResponse r).forMethod method := by
  unfold withoutBody Answer.forMethod
  split <;> rfl

theorem cookies_withoutBody (method : Method) (r : Response) :
    (withoutBody method r).cookies = r.cookies := by
  unfold withoutBody
  split <;> rfl

/-- A refused request is answered at once and sets no cookie. -/
theorem respond_of_refused (factory : SessionFactory) (now : Int) {response : Response}
    (h : Action.ofRequest request = .error response) :
    respond factory now request = .done (withoutBody request.method response) ∧
      response.cookies = [] := by
  refine ⟨by rw [respond, h]; rfl, ?_⟩
  unfold Action.ofRequest at h
  split at h
  · cases h
    rfl
  · split at h
    · cases h
      rfl
    · split at h
      · cases h
      · cases h
        rfl

/-- An action that does not load the session answers at once, changes nothing and sets no cookie. -/
theorem respond_of_idle (factory : SessionFactory) (now : Int)
    (haction : Action.ofRequest request = .ok action) (hidle : action.loads = false)
    (fresh : String) (m : SessionMap) :
    ∃ response, respond factory now request = .done response ∧ response.cookies = [] ∧
      Answer.ofResponse response = (m.step fresh action).1.forMethod request.method ∧
      (m.step fresh action).2 = m := by
  have hdone : ∀ result, (perform factory now action).run.run
      { jar := Cookie.Jar.ofHeaders request.cookies } =
        .done (result, { jar := Cookie.Jar.ofHeaders request.cookies }) →
      respond factory now request = .done (withoutBody request.method (reply result)) := by
    intro result hresult
    simp only [respond, haction, act, hresult]
    cases result <;> rfl
  cases action with
  | live =>
      refine ⟨_, hdone (.ok (.text "OK")) rfl, cookies_withoutBody _ _, ?_, rfl⟩
      rw [ofResponse_withoutBody]
      rfl
  | setValues store? fields =>
      -- setting the reserved key is refused before anything is loaded
      have hreserved : fields.contains SessionData.idKey = true := by
        simpa [Action.loads] using hidle
      refine ⟨_, hdone (.error (.badRequest "Reserved key" SessionData.idKey)) ?_,
        cookies_withoutBody _ _, ?_, ?_⟩
      · simp only [perform, hreserved]
        rfl
      · rw [ofResponse_withoutBody]
        simp only [SessionMap.step, hreserved]
        rfl
      · simp only [SessionMap.step, hreserved]
        rfl
  | showValues store? => cases hidle
  | init store? => cases hidle
  | takeFlashes store? => cases hidle
  | addFlash store? message => cases hidle
  | logout store? => cases hidle

/-- An action on a store that is not known is answered at once. -/
theorem respond_of_unknown (now : Int) (haction : Action.ofRequest request = .ok action)
    (hloads : action.loads = true) (hname : action.Uses name) {e : Error}
    (hs : factory.store name = .error e) :
    respond factory now request =
      .done (withoutBody request.method (reply (.error (.ofError e)))) := by
  simp only [respond, haction, act,
    run_perform_of_unknown hloads hname hs (Cookie.Jar.ofHeaders request.cookies)]
  rfl

/-- **A request that loads the session** loads it, takes the step of the map and saves what the map
becomes. -/
theorem respond_of_loads (now : Int) (haction : Action.ofRequest request = .ok action)
    (hloads : action.loads = true) (hinit : action.isInit = false) (hname : action.Uses name)
    (hs : factory.store name = .ok s) (fresh : String) :
    ∃ result : SessionData → Except Failure Body,
      (respond factory now request =
        s.load (Cookie.Jar.ofHeaders request.cookies) sessionKey now >>= fun d =>
          (s.save (Cookie.Jar.ofHeaders request.cookies) sessionKey now
            { data := ⟨(SessionMap.step fresh d.values action).2⟩
              store := name
              config := action.config factory.defaultConfig }).run >>= fun saved =>
            .done (withoutBody request.method
              { reply (result d) with
                cookies := (jarAfter (Cookie.Jar.ofHeaders request.cookies) saved).headers })) ∧
      ∀ d, Answer.ofResponse (reply (result d)) = (SessionMap.step fresh d.values action).1 := by
  obtain ⟨result, hperform, hanswer⟩ := run_perform hloads hinit hname hs
    (Cookie.Jar.ofHeaders request.cookies) fresh
  refine ⟨result, ?_, hanswer⟩
  simp only [respond, haction, act]
  rw [hperform, Plan.bind_assoc, Plan.bind_assoc]
  congr 1
  funext d
  simp only [done_bind, leaving]
  rw [save_single hs, Plan.bind_assoc, Plan.bind_assoc]
  congr 1
  funext saved
  cases saved <;> rfl

/-- **A request that gives the session an id** saves the session whether it had one or not. -/
theorem respond_of_init (haction : Action.ofRequest request = .ok (.init store?))
    (hs : factory.store (keyOr SessionFactory.cookieName store?) = .ok s) :
    respond factory now request =
      s.load (Cookie.Jar.ofHeaders request.cookies) sessionKey now >>= fun d =>
        (identify factory now store?).run.run
          { jar := Cookie.Jar.ofHeaders request.cookies
            loaded := [(sessionKey,
              { data := d
                store := keyOr SessionFactory.cookieName store?
                config := factory.defaultConfig })] } >>= fun p =>
          p.2.save factory now >>= fun saved =>
            .done (withoutBody request.method
              { reply p.1 with cookies := saved.1.jar.headers }) := by
  simp only [respond, haction, act]
  rw [run_perform_init hs, Plan.bind_assoc, Plan.bind_assoc]
  congr 1
  funext d
  simp only [Plan.bind_assoc]
  rfl

end WebSession.Service
