import WebSession.Proofs.Service.Client
import WebSession.Proofs.SessionStore.Operations

/-!
# WebSession.Proofs.Service.Operations

**A request is a few operations on sessions** (`operates_respond`): it loads, gives an id, saves, and
calls for nothing else. So what any requests make of the world is what some operations make of it
(`exists_events_of_requests`), and what is kept through operations is kept through requests.
-/

namespace WebSession

open Plan

/-! ### Plans made of operations -/

/-- The plan loads sessions, saves them and makes ids, one after the other, and nothing besides. -/
inductive Plan.Operates (now : Int) {α : Type} : Plan α → Prop where
  | done (a : α) : Operates now (.done a)
  | load {s : SessionStore} {jar : Cookie.Jar} {key : String} {next : SessionData → Plan α} :
      (∀ d, Operates now (next d)) → Operates now (s.load jar key now >>= next)
  | save {s : SessionStore} {jar : Cookie.Jar} {key : String} {info : SessionInfo}
      {next : Except Error Cookie.Jar → Plan α} :
      (∀ saved, Operates now (next saved)) →
        Operates now ((s.save jar key now info).run >>= next)
  | generate {next : Except Error String → Plan α} :
      (∀ id, Operates now (next id)) →
        Operates now ((SessionId.generate SessionId.octets).run >>= next)

namespace World

variable {α : Type} {p : Plan α} {w : World}

/-- Setting the clock makes no difference to what is done at times of its own. -/
theorem withNow_after (w : World) (now now' : Int) (events : List Event) :
    ((w.withNow now).after events).withNow now' = (w.after events).withNow now' := by
  cases events <;> rfl

theorem after_append (w : World) (events more : List Event) :
    w.after (events ++ more) = (w.after events).after more := by
  induction events generalizing w with
  | nil => rfl
  | cons e events ih => exact ih _

variable (refuse? : Call → Option Error)

/-- The clock stands through a run. -/
theorem now_run (p : Plan α) (w : World) :
    (p.run (respond.refusing refuse?) w).2.now = w.now := by
  induction p generalizing w with
  | done a => rfl
  | ask call next ih =>
      exact (ih _ _).trans (keeps_refusing (fun w' => w'.now = w.now) (now_respond call w).trans rfl)

/-- The first of some operations. -/
theorem exists_events_cons {now : Int} (hnow : w.now / 1000 = now) {β : Type} {q : Plan β}
    (o : Operation) {done : β → Bool} (ho : o.plan now = q >>= fun b => .done (done b)) {w' : World}
    (hmore : ∃ events : List Event,
      (∀ e ∈ events, e.now = w.now ∧ e.refuse? = refuse?) ∧
        w' = (q.run (respond.refusing refuse?) w).2.after events) :
    ∃ events : List Event,
      (∀ e ∈ events, e.now = w.now ∧ e.refuse? = refuse?) ∧ w' = w.after events := by
  obtain ⟨events, hevents, rfl⟩ := hmore
  refine ⟨⟨w.now, o, refuse?⟩ :: events, List.forall_mem_cons.mpr ⟨⟨rfl, rfl⟩, hevents⟩, ?_⟩
  rw [after_cons, Event.run]
  simp only [hnow, ho, Plan.run_bind]
  rfl

/-- **What is made of operations** makes of the world what operations make of it. -/
theorem exists_events_of_operates {now : Int} (h : p.Operates now) (hnow : w.now / 1000 = now) :
    ∃ events : List Event,
      (∀ e ∈ events, e.now = w.now ∧ e.refuse? = refuse?) ∧
        (p.run (respond.refusing refuse?) w).2 = w.after events := by
  induction h generalizing w with
  | done a => exact ⟨[], by simp, rfl⟩
  | @load s jar key next _ ih =>
      have hstands := now_run refuse? (s.load jar key now) w
      rw [Plan.run_bind]
      refine exists_events_cons refuse? hnow (.load s jar key) rfl ?_
      rw [← hstands]
      exact ih _ (by rw [hstands]; exact hnow)
  | @save s jar key info next _ ih =>
      have hstands := now_run refuse? (s.save jar key now info).run w
      rw [Plan.run_bind]
      refine exists_events_cons refuse? hnow (.save s jar key info) rfl ?_
      rw [← hstands]
      exact ih _ (by rw [hstands]; exact hnow)
  | @generate next _ ih =>
      have hstands := now_run refuse? (SessionId.generate SessionId.octets).run w
      rw [Plan.run_bind]
      refine exists_events_cons refuse? hnow .generate rfl ?_
      rw [← hstands]
      exact ih _ (by rw [hstands]; exact hnow)

end World

/-! ### Requests -/

namespace Service

open Http

variable {factory : SessionFactory} {s : SessionStore} {α : Type}

theorem operates_save {info : SessionInfo} (hs : factory.store info.store = .ok s)
    (jar : Cookie.Jar) (now : Int) (f : RequestSessions × List Error → α) :
    (RequestSessions.save factory now { jar := jar, loaded := [(sessionKey, info)] } >>=
      fun saved => .done (f saved)).Operates now := by
  rw [RequestSessions.save_single hs, Plan.bind_assoc]
  refine .save fun saved => ?_
  cases saved <;> exact .done _

/-- Giving the session an id is making one and saving the session, if it has none, before it is saved
in any case. -/
theorem operates_identify {store? : Option String}
    (hs : factory.store (RequestSessions.keyOr SessionFactory.cookieName store?) = .ok s)
    (jar : Cookie.Jar) (now : Int) (d : SessionData)
    (f : Except Failure Body → RequestSessions × List Error → α) :
    ((identify factory now store?).run.run
      { jar := jar
        loaded := [(sessionKey,
          { data := d
            store := RequestSessions.keyOr SessionFactory.cookieName store?
            config := factory.defaultConfig })] } >>= fun p =>
        p.2.save factory now >>= fun saved => .done (f p.1 saved)).Operates now := by
  cases hid : d.id? with
  | some id =>
      rw [run_identify_of_id hs rfl jar hid, done_bind]
      exact operates_save hs ..
  | none =>
      rw [run_identify_of_no_id hs rfl jar hid, Plan.bind_assoc]
      refine .generate fun generated => ?_
      cases generated with
      | error e => exact operates_save hs ..
      | ok fresh =>
          simp only [Plan.bind_assoc]
          refine .save fun saved => ?_
          cases saved <;> exact operates_save hs ..

/-- **A request is a few operations**, whatever it asks for. -/
theorem operates_respond (factory : SessionFactory) (now : Int) (request : Request) :
    (respond factory now request).Operates now := by
  cases haction : Action.ofRequest request with
  | error response =>
      rw [(respond_of_refused factory now haction).1]
      exact .done _
  | ok action =>
      cases hloads : action.loads with
      | false =>
          obtain ⟨response, hrespond, -⟩ := respond_of_idle factory now haction hloads "" .empty
          rw [hrespond]
          exact .done _
      | true =>
          obtain ⟨name, huses⟩ := action.exists_uses
          cases hs : factory.store name with
          | error e =>
              rw [respond_of_unknown now haction hloads huses hs]
              exact .done _
          | ok s =>
              cases hinit : action.isInit with
              | false =>
                  obtain ⟨result, hrespond, -⟩ :=
                    respond_of_loads now haction hloads hinit huses hs ""
                  rw [hrespond]
                  exact .load fun d => .save fun saved => .done _
              | true =>
                  cases action with
                  | init store? =>
                      subst huses
                      rw [respond_of_init haction hs]
                      exact .load fun d => operates_identify hs _ _ d fun result saved =>
                        withoutBody request.method
                          { reply result with cookies := saved.1.jar.headers }
                  | _ => cases hinit

/-- The world after some requests, each with the calls that are refused meanwhile. -/
def worldAfter (factory : SessionFactory) (w : World) :
    List (Visit × (Call → Option Error)) → World
  | [] => w
  | (v, refuse?) :: more =>
    worldAfter factory ((respond factory (v.now / 1000) v.request).run
      (World.respond.refusing refuse?) (w.withNow v.now)).2 more

/-- **Requests make of the world what operations make of it**, but for the clock, which requests set
that do nothing. -/
theorem exists_events_of_requests (factory : SessionFactory) (w : World)
    (visits : List (Visit × (Call → Option Error))) :
    ∃ events : List Event, ∀ now,
      (worldAfter factory w visits).withNow now = (w.after events).withNow now := by
  induction visits generalizing w with
  | nil => exact ⟨[], fun _ => rfl⟩
  | cons v more ih =>
      obtain ⟨first, -, hfirst⟩ := World.exists_events_of_operates v.2
        (operates_respond factory (v.1.now / 1000) v.1.request) (w := w.withNow v.1.now) rfl
      obtain ⟨events, hevents⟩ := ih ((w.withNow v.1.now).after first)
      refine ⟨first ++ events, fun now => ?_⟩
      rw [worldAfter, hfirst, hevents, ← World.after_append, World.withNow_after]

end Service

end WebSession
