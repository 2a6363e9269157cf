import WebSession.Proofs.Service.Client
import WebSession.Proofs.SessionId

/-!
# WebSession.Proofs.Service.Locality

**A request calls for the records of its own store** and for random octets, and for nothing else
(`makes_respond`). Where these records are in memory, or the store has none, no call of a client
fails (`unfailing_serve`).
-/

namespace WebSession

open Plan

/-! ### Requests -/

namespace Service

open Http

variable {factory : SessionFactory} {name : String} {s : SessionStore}

/-- Saving the sessions of a request is saving the only one. -/
theorem makes_saveAll {info : SessionInfo} (hs : factory.store info.store = .ok s)
    (jar : Cookie.Jar) (now : Int) :
    (RequestSessions.save factory now { jar := jar, loaded := [(sessionKey, info)] }).Makes
      (s.SaveCall info) := by
  rw [RequestSessions.save_single hs]
  refine (s.makes_save ..).bind ?_
  intro saved
  cases saved <;> exact .done _

theorem owns_saveAll {info : SessionInfo} (hs : factory.store info.store = .ok s)
    (jar : Cookie.Jar) (now : Int) :
    (RequestSessions.save factory now { jar := jar, loaded := [(sessionKey, info)] }).Makes
      s.Owns := (makes_saveAll hs jar now).mono fun _ => SessionStore.SaveCall.owns

/-- Giving the session an id calls for nothing but what saving it calls for, once or twice. -/
theorem makes_identify {store? : Option String}
    (hs : factory.store (RequestSessions.keyOr SessionFactory.cookieName store?) = .ok s)
    (jar : Cookie.Jar) (now : Int) (d : SessionData) {α : Type}
    (f : Except Failure Body → RequestSessions × List Error → α) :
    ((identify factory now store?).run.run
      { jar := jar
        loaded := [(sessionKey,
          { data := d
            store := RequestSessions.keyOr SessionFactory.cookieName store?
            config := factory.defaultConfig })] } >>= fun p =>
        p.2.save factory now >>= fun saved => .done (f p.1 saved)).Makes s.Owns := by
  cases hid : d.id? with
  | some id =>
      rw [run_identify_of_id hs rfl jar hid, done_bind]
      exact (owns_saveAll hs ..).bind fun saved => .done _
  | none =>
      rw [run_identify_of_no_id hs rfl jar hid, Plan.bind_assoc]
      refine (s.owns_of_quiet SessionId.quiet_generate).bind ?_
      intro generated
      cases generated with
      | error e => exact (owns_saveAll hs ..).bind fun saved => .done _
      | ok fresh =>
          simp only [Plan.bind_assoc]
          refine (s.owns_save ..).bind ?_
          intro saved
          cases saved with
          | error e => exact (owns_saveAll hs ..).bind fun saved => .done _
          | ok jar' => exact (owns_saveAll hs ..).bind fun saved => .done _

/-- **A request calls for the records of its store**, whatever it asks for. -/
theorem makes_respond {request : Request} (hs : factory.store name = .ok s)
    (hname : ∀ action, Action.ofRequest request = .ok action → action.Uses name) (now : Int) :
    (respond factory now request).Makes s.Owns := by
  cases haction : Action.ofRequest request with
  | error response =>
      rw [(respond_of_refused factory now haction).1]
      exact .done _
  | ok action =>
      have huses := hname action haction
      cases hloads : action.loads with
      | false =>
          obtain ⟨response, hrespond, -⟩ := respond_of_idle factory now haction hloads "" .empty
          rw [hrespond]
          exact .done _
      | true =>
          cases hinit : action.isInit with
          | false =>
              obtain ⟨result, hrespond, -⟩ := respond_of_loads now haction hloads hinit huses hs ""
              rw [hrespond]
              exact (s.owns_load ..).bind fun d => (s.owns_save ..).bind fun saved => .done _
          | true =>
              cases action with
              | init store? =>
                  subst huses
                  rw [respond_of_init haction hs]
                  exact (s.owns_load ..).bind fun d => makes_identify hs _ _ d fun result saved =>
                    withoutBody request.method { reply result with cookies := saved.1.jar.headers }
              | _ => cases hinit

/-! ### Clients -/

/-- **In memory no call of a client fails.** -/
theorem unfailing_serve {visits : List Visit} (hs : factory.store name = .ok s)
    (hname : ∀ v ∈ visits, ∀ action ∈ v.action?, action.Uses name) {w : World}
    (hw : w.InMemory s) (held? : Option String) :
    ∀ x ∈ serve factory held? w visits,
      (respond factory x.world.seconds x.request).Unfailing World.respond x.world := by
  induction visits generalizing held? w with
  | nil =>
      intro x hx
      cases hx
  | cons v more ih =>
      have hvisit : ∀ action, Action.ofRequest (v.sent held?) = .ok action → action.Uses name := by
        intro action haction
        exact hname v (List.mem_cons_self ..) action (Visit.action?_of_ok haction)
      have hnow : (w.withNow v.now).InMemory s := hw
      obtain ⟨hunfailing, hafter⟩ := (makes_respond hs hvisit (w.withNow v.now).seconds).unfailing
        World.succeeds_of_inMemory hnow
      intro x hx
      rcases List.mem_cons.mp hx with rfl | hx
      · exact hunfailing
      · exact ih (fun v' hv' => hname v' (List.mem_cons_of_mem _ hv')) hafter _ x hx

end Service

end WebSession
