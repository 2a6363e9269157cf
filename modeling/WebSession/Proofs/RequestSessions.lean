import WebSession.Proofs.Plan
import WebSession.RequestSessions

/-!
# WebSession.Proofs.RequestSessions

**The session of a request as a plan**: operations on the sessions of a request are programs with
errors and a state; here they are run from a request that has loaded no session yet, which turns
them into the plan of their one load and what they leave behind (`run_session`,
`run_modifySession`, `save_single`).
-/

namespace WebSession

open Plan

variable {ε α β τ : Type}

/-- A program with errors and a state runs part by part; an error skips the rest and keeps the
state. -/
theorem run_run_bind (x : ExceptT ε (StateT τ Plan) α) (f : α → ExceptT ε (StateT τ Plan) β)
    (t : τ) : (x >>= f).run.run t = x.run.run t >>= fun (p : Except ε α × τ) =>
      match p with
      | (.ok a, t) => (f a).run.run t
      | (.error e, t) => .done (.error e, t) := by
  rw [ExceptT.run_bind, StateT.run_bind]
  congr 1
  funext p
  obtain ⟨a, t⟩ := p
  cases a <;> rfl

namespace RequestSessions

theorem run_run_liftPlan (p : Plan α) (r : RequestSessions) :
    (liftPlan p).run.run r = p >>= fun a => .done (.ok a, r) := by
  show (p >>= fun a => Plan.done (a, r)) >>= _ = _
  rw [Plan.bind_assoc]
  rfl

variable {factory : SessionFactory} {now : Int} {key? store? : Option String} {s : SessionStore}

/-! ### The first session -/

section

variable (hs : factory.store (keyOr SessionFactory.cookieName store?) = .ok s) (jar : Cookie.Jar)

include hs

theorem run_sessionInfo :
    (sessionInfo factory now key? store?).run.run { jar := jar } =
      s.load jar (keyOr defaultSessionKey key?) now >>= fun d =>
        let info : SessionInfo :=
          { data := d
            store := keyOr SessionFactory.cookieName store?
            config := factory.defaultConfig }
        .done (.ok info, { jar := jar, loaded := [(keyOr defaultSessionKey key?, info)] }) := by
  simp only [sessionInfo, hs]
  rw [run_run_bind]
  show ((liftPlan _ >>= _ : OnSessions _).run.run _) = _
  rw [run_run_bind, run_run_liftPlan, Plan.bind_assoc]
  rfl

/-- Asking for a session loads it. -/
theorem run_session :
    (session factory now key? store?).run.run { jar := jar } =
      s.load jar (keyOr defaultSessionKey key?) now >>= fun d =>
        let info : SessionInfo :=
          { data := d
            store := keyOr SessionFactory.cookieName store?
            config := factory.defaultConfig }
        .done (.ok d, { jar := jar, loaded := [(keyOr defaultSessionKey key?, info)] }) := by
  rw [session, run_run_bind, run_sessionInfo hs, Plan.bind_assoc]
  rfl

/-- Changing a session loads it and keeps what was changed. -/
theorem run_modifySession (change : SessionData → α × SessionData) :
    (modifySession factory now key? store? change).run.run { jar := jar } =
      s.load jar (keyOr defaultSessionKey key?) now >>= fun d =>
        let info : SessionInfo :=
          { data := (change d).2
            store := keyOr SessionFactory.cookieName store?
            config := factory.defaultConfig }
        .done (.ok (change d).1,
          { jar := jar, loaded := [(keyOr defaultSessionKey key?, info)] }) := by
  rw [modifySession, run_run_bind, run_sessionInfo hs, Plan.bind_assoc]
  congr 1
  funext d
  simp only [done_bind]
  rw [run_run_bind]
  show Plan.done _ = _
  simp [replace]

end

section

variable {e : Error} (hs : factory.store (keyOr SessionFactory.cookieName store?) = .error e)
  (jar : Cookie.Jar)

include hs

theorem run_sessionInfo_of_unknown :
    (sessionInfo factory now key? store?).run.run { jar := jar } =
      .done (.error e, { jar := jar }) := by
  simp only [sessionInfo, hs]
  rfl

/-- In a store that is not known no session is loaded. -/
theorem run_session_of_unknown :
    (session factory now key? store?).run.run { jar := jar } =
      .done (.error e, { jar := jar }) := by
  rw [session, run_run_bind, run_sessionInfo_of_unknown hs]
  rfl

/-- Nor is one changed there. -/
theorem run_modifySession_of_unknown (change : SessionData → α × SessionData) :
    (modifySession factory now key? store? change).run.run { jar := jar } =
      .done (.error e, { jar := jar }) := by
  rw [modifySession, run_run_bind, run_sessionInfo_of_unknown hs]
  rfl

end

/-! ### A session that was loaded before -/

section

variable {r : RequestSessions} {info : SessionInfo}
  (hs : factory.store (keyOr SessionFactory.cookieName store?) = .ok s)
  (hfind : r.find? (keyOr defaultSessionKey key?) = some info)
  (hstore : info.store = keyOr SessionFactory.cookieName store?)

include hs hfind hstore

theorem run_sessionInfo_of_found :
    (sessionInfo factory now key? store?).run.run r = .done (.ok info, r) := by
  have hget : (get : OnSessions RequestSessions).run.run r = .done (.ok r, r) := rfl
  simp only [sessionInfo, hs]
  rw [run_run_bind, hget, done_bind]
  simp only [hfind, hstore]
  rfl

/-- A session that was loaded is not loaded again. -/
theorem run_session_of_found :
    (session factory now key? store?).run.run r = .done (.ok info.data, r) := by
  rw [session, run_run_bind, run_sessionInfo_of_found hs hfind hstore]
  rfl

end

/-! ### One session after the other -/

/-- Saves one session of the request. -/
def saveOne (factory : SessionFactory) (now : Int) (f : String × SessionInfo) (jar : Cookie.Jar) :
    Plan (Except Error Cookie.Jar) :=
  match factory.store f.2.store with
  | .ok s => (s.save jar f.1 now f.2).run
  | .error e => .done (.error e)

/-- Initializes one session of the request. -/
def initOne (factory : SessionFactory) (now : Int) (f : String × SessionInfo) (jar : Cookie.Jar) :
    Plan (SessionInfo × Except Error Cookie.Jar) :=
  match factory.store f.2.store with
  | .ok s => s.init jar f.1 now f.2
  | .error e => .done (f.2, .error e)

/-- The jar that is handed on: the new one, or after a failure the old one. -/
def handedOn (jar : Cookie.Jar) : Except Error Cookie.Jar → Cookie.Jar
  | .ok jar => jar
  | .error _ => jar

/-- The errors of one visit: one or none. -/
def failure : Except Error α → List Error
  | .ok _ => []
  | .error e => [e]

theorem saveAll_cons (f : String × SessionInfo) (more : List (String × SessionInfo))
    (jar : Cookie.Jar) :
    saveAll factory now (f :: more) jar =
      saveOne factory now f jar >>= fun saved =>
        saveAll factory now more (handedOn jar saved) >>= fun rest =>
          .done (rest.1, failure saved ++ rest.2) := by
  obtain ⟨key, info⟩ := f
  rw [saveAll, saveOne]
  cases factory.store info.store with
  | error e => rfl
  | ok s =>
      refine congrArg ((s.save jar key now info).run >>= ·) (funext fun saved => ?_)
      cases saved with
      | error e => rfl
      | ok jar' => exact (Plan.bind_done _).symm

theorem initAll_cons (f : String × SessionInfo) (more : List (String × SessionInfo))
    (jar : Cookie.Jar) :
    initAll factory now (f :: more) jar =
      initOne factory now f jar >>= fun inited =>
        initAll factory now more (handedOn jar inited.2) >>= fun rest =>
          .done ((f.1, inited.1) :: rest.1, rest.2.1, failure inited.2 ++ rest.2.2) := by
  obtain ⟨key, info⟩ := f
  rw [initAll, initOne]
  cases factory.store info.store with
  | error e => rfl
  | ok s =>
      refine congrArg (s.init jar key now info >>= ·) (funext fun inited => ?_)
      obtain ⟨info', result⟩ := inited
      cases result <;> rfl

/-! ### Saving -/

/-- The only session of a request is saved; if that fails, the jar stays. -/
theorem save_single {info : SessionInfo} (hs : factory.store info.store = .ok s)
    (jar : Cookie.Jar) (key : String) :
    save factory now { jar := jar, loaded := [(key, info)] } =
      (s.save jar key now info).run >>= fun saved =>
        match saved with
        | .ok jar => .done ({ jar := jar, loaded := [(key, info)] }, [])
        | .error e => .done ({ jar := jar, loaded := [(key, info)] }, [e]) := by
  simp only [save, saveAll, hs, Plan.bind_assoc]
  congr 1
  funext saved
  cases saved <;> rfl

/-! ### Initializing -/

/-- The only session of a request is initialized; if that fails, the jar stays. -/
theorem init_single {info : SessionInfo} (hs : factory.store info.store = .ok s)
    (jar : Cookie.Jar) (key : String) :
    init factory now { jar := jar, loaded := [(key, info)] } =
      s.init jar key now info >>= fun p =>
        match p.2 with
        | .ok jar => .done ({ jar := jar, loaded := [(key, p.1)] }, [])
        | .error e => .done ({ jar := jar, loaded := [(key, p.1)] }, [e]) := by
  simp only [init, initAll, hs, Plan.bind_assoc]
  congr 1
  funext p
  obtain ⟨info, result⟩ := p
  cases result <;> rfl

end RequestSessions

end WebSession
