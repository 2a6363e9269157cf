import WebSession.Proofs.Service.Client
import WebSession.Proofs.SessionStore.SavedText

/-!
# WebSession.Proofs.Service.AfterLoad

**What a request does once its session is loaded** (`proceed`): it answers what the map answers,
saves what the map becomes, and sets the cookie to the text that saving made.

The cookies of the request count when the session is loaded, and no more after that
(`respond_eq_load`).
-/

namespace WebSession.Service

open Plan Http

/-- The response with an answer and some headers. -/
def Answer.response (a : Answer) (method : Method) (cookies : List String) : Response :=
  withoutBody method { status := a.status, body := a.body, cookies := cookies }

theorem Answer.ofResponse_response (a : Answer) (method : Method) (cookies : List String) :
    Answer.ofResponse (a.response method cookies) = a.forMethod method := by
  rw [Answer.response, ofResponse_withoutBody]
  rfl

theorem Answer.cookies_response (a : Answer) (method : Method) (cookies : List String) :
    (a.response method cookies).cookies = cookies := cookies_withoutBody ..

/-- Of the result of an action a client is told no more than the answer. -/
theorem reply_eq_response (result : Except Failure Body) (method : Method)
    (cookies : List String) :
    withoutBody method { reply result with cookies := cookies } =
      (Answer.ofResponse (reply result)).response method cookies := by
  cases result <;> rfl

/-- The answer to an action that failed for the sessions. -/
def Answer.ofError (e : Error) : Answer := Answer.ofResponse (reply (.error (.ofError e)))

/-- The headers that set the cookie to a text, if there is one. -/
def setting (config : SessionConfig) : Option String → List String
  | some text => (Cookie.Jar.add {} (Cookie.ofSession sessionKey text config)).headers
  | none => []

/-- The session is saved and the request answered. The cookie may have been set before. -/
def settle (s : SessionStore) (now : Int) (method : Method) (answer : Answer) (info : SessionInfo)
    (earlier? : Option String) : Plan Response :=
  (s.savedText sessionKey now info).run >>= fun made =>
    .done (answer.response method (setting info.config (made.toOption.or earlier?)))

/-- The session with a fresh id is saved at once, and once more at the end. -/
def establish (s : SessionStore) (now : Int) (method : Method) (info : SessionInfo)
    (fresh : String) : Plan Response :=
  let info := { info with data := info.data.insert SessionData.idKey (.str fresh) }
  (s.savedText sessionKey now info).run >>= fun (made : Except Error String) =>
    match made with
    | .error e => settle s now method (.ofError e) info none
    | .ok text =>
      settle s now method ⟨200, SessionMap.object "session_id" (.str fresh)⟩ info (some text)

/-- The session gets a fresh id, if one can be made. -/
def mint (s : SessionStore) (now : Int) (method : Method) (info : SessionInfo) : Plan Response :=
  (SessionId.generate SessionId.octets).run >>= fun (generated : Except Error String) =>
    match generated with
    | .error e => settle s now method (.ofError e) info none
    | .ok fresh => establish s now method info fresh

/-- What is to be saved after an action, if that is no fresh id. -/
def outcome (factory : SessionFactory) (name : String) (action : Action) (d : SessionData) :
    SessionInfo where
  data := ⟨(SessionMap.step "" d.values action).2⟩
  store := name
  config := action.config factory.defaultConfig

/-- The request goes on with the session that was loaded. -/
def proceed (factory : SessionFactory) (now : Int) (name : String) (s : SessionStore)
    (method : Method) (action : Action) (d : SessionData) : Plan Response :=
  if action.isInit ∧ d.id? = none then
    mint s now method { data := d, store := name, config := factory.defaultConfig }
  else
    settle s now method (SessionMap.step "" d.values action).1 (outcome factory name action d) none

/-! ### Setting the cookie -/

section

variable {jar : Cookie.Jar} {config : SessionConfig} (hjar : jar.changes = .empty)

include hjar

theorem headers_add_eq_setting (text : String) :
    (jar.add (Cookie.ofSession sessionKey text config)).headers = setting config (some text) := by
  simp only [setting, Cookie.Jar.headers, Cookie.Jar.add, hjar]

theorem headers_eq_setting : jar.headers = setting config none := by
  rw [Cookie.Jar.headers, hjar]
  rfl

/-- Saving adds the cookie to a jar in which none was set. -/
theorem headers_jarAfter (made : Except Error String) :
    (jarAfter jar (made.map fun text =>
      jar.add (Cookie.ofSession sessionKey text config))).headers =
        setting config made.toOption := by
  cases made with
  | ok text => exact headers_add_eq_setting hjar text
  | error e => exact headers_eq_setting hjar

/-- Setting it again leaves the second text, if there is one. -/
theorem headers_jarAfter_add (text : String) (made : Except Error String) :
    let jar' := jar.add (Cookie.ofSession sessionKey text config)
    (jarAfter jar' (made.map fun text' =>
      jar'.add (Cookie.ofSession sessionKey text' config))).headers =
        setting config (made.toOption.or (some text)) := by
  cases made with
  | ok text' =>
      have hname : (Cookie.ofSession sessionKey text config).name =
          (Cookie.ofSession sessionKey text' config).name := rfl
      show ((jar.add _).add _).headers = _
      rw [add_add jar hname]
      exact headers_add_eq_setting hjar text'
  | error e => exact headers_add_eq_setting hjar text

end

/-! ### Requests -/

variable {factory : SessionFactory} {now : Int} {name : String} {s : SessionStore} {action : Action}
  {request : Request} {jar : Cookie.Jar} {info : SessionInfo}

theorem isInit_iff : action.isInit = true ↔ ∃ store?, action = .init store? := by
  cases action <;> simp [Action.isInit]

/-- The end of a request: its only session is saved. -/
theorem save_eq_settle (hs : factory.store info.store = .ok s) (jar : Cookie.Jar) (now : Int)
    (method : Method) (result : Except Failure Body) {earlier? : Option String}
    (hheaders : ∀ made : Except Error String,
      (jarAfter jar (made.map fun text =>
        jar.add (Cookie.ofSession sessionKey text info.config))).headers =
          setting info.config (made.toOption.or earlier?)) :
    (RequestSessions.save factory now { jar := jar, loaded := [(sessionKey, info)] } >>= fun saved =>
      .done (withoutBody method { reply result with cookies := saved.1.jar.headers })) =
        settle s now method (Answer.ofResponse (reply result)) info earlier? := by
  rw [RequestSessions.save_single hs, Plan.bind_assoc, SessionStore.run_save_eq, Plan.bind_assoc,
    settle]
  congr 1
  funext made
  rw [done_bind, ← hheaders made]
  cases made with
  | ok text => exact congrArg Plan.done (reply_eq_response ..)
  | error e => exact congrArg Plan.done (reply_eq_response ..)

/-- A session without an id gets one. -/
theorem identify_eq_mint {store? : Option String} (hs : factory.store info.store = .ok s)
    (hstore : info.store = RequestSessions.keyOr SessionFactory.cookieName store?)
    (hjar : jar.changes = .empty) (now : Int) (method : Method) (hid : info.data.id? = none) :
    ((identify factory now store?).run.run { jar := jar, loaded := [(sessionKey, info)] } >>=
      fun p => p.2.save factory now >>= fun saved =>
        .done (withoutBody method { reply p.1 with cookies := saved.1.jar.headers })) =
      mint s now method info := by
  rw [run_identify_of_no_id (hstore ▸ hs) hstore jar hid, mint, Plan.bind_assoc]
  congr 1
  funext generated
  cases generated with
  | error e =>
      refine save_eq_settle hs jar now method (.error (.ofError e)) fun made => ?_
      rw [headers_jarAfter hjar, Option.or_none]
  | ok fresh =>
      have hs' : factory.store
          { info with data := info.data.insert SessionData.idKey (.str fresh) }.store = .ok s := hs
      dsimp only
      rw [establish, SessionStore.run_save_eq, Plan.bind_assoc, Plan.bind_assoc]
      congr 1
      funext made
      cases made with
      | error e =>
          refine save_eq_settle hs' jar now method (.error (.ofError e)) fun made => ?_
          rw [headers_jarAfter hjar, Option.or_none]
      | ok text =>
          exact save_eq_settle hs' _ now method
            (.ok (SessionMap.object "session_id" (.str fresh))) (headers_jarAfter_add hjar text)

/-- **A request that loads the session** does the rest without its cookies. -/
theorem respond_eq_load (now : Int) (haction : Action.ofRequest request = .ok action)
    (hloads : action.loads = true) (hname : action.Uses name) (hs : factory.store name = .ok s) :
    respond factory now request =
      s.load (Cookie.Jar.ofHeaders request.cookies) sessionKey now >>=
        proceed factory now name s request.method action := by
  cases hinit : action.isInit with
  | false =>
      obtain ⟨result, hrespond, hanswer⟩ := respond_of_loads now haction hloads hinit hname hs ""
      rw [hrespond]
      congr 1
      funext d
      rw [proceed, if_neg (by simp [hinit]), settle, SessionStore.run_save_eq, Plan.bind_assoc]
      congr 1
      funext made
      rw [done_bind, headers_jarAfter rfl, reply_eq_response, hanswer d, Option.or_none]
      rfl
  | true =>
      -- an action that gives the session an id: what follows hangs on whether it has one
      obtain ⟨store?, rfl⟩ := isInit_iff.mp hinit
      subst hname
      rw [respond_of_init haction hs]
      congr 1
      funext d
      cases hid : d.id? with
      | none =>
          rw [proceed, if_pos ⟨rfl, hid⟩]
          exact identify_eq_mint hs rfl rfl now request.method hid
      | some id =>
          have hstep : SessionMap.step "" d.values (.init store?) =
              (⟨200, SessionMap.object "session_id" (.str id)⟩, d.values) := by
            rw [SessionMap.step, SessionMap.id?_values, hid]
          rw [proceed, if_neg (by simp [hid]), run_identify_of_id hs rfl _ hid, done_bind, hstep,
            outcome, hstep]
          refine save_eq_settle hs _ now request.method
            (.ok (SessionMap.object "session_id" (.str id))) fun made => ?_
          rw [headers_jarAfter rfl, Option.or_none]

end WebSession.Service
