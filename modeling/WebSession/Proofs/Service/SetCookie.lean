import WebSession.Proofs.Service.AfterLoad
import WebSession.Proofs.Service.Ids

/-!
# WebSession.Proofs.Service.SetCookie

**When a response sets the cookie** (`cookie_is_set_iff`): if a session was loaded that the cookie
can carry, the whole of it or its id. A response that sets none has changed nothing.

What counts is the session as the action leaves it, and not whether the action succeeds: one that
fails after the session was loaded has it saved all the same.
-/

namespace WebSession

open Plan

namespace Service

open Http

/-! ### What is saved -/

namespace Turn

/-- A request as it comes into a world. -/
def inWorld (w : World) (request : Request) : Turn World where
  now := w.seconds
  request := request
  respond := World.respond
  state := w

variable {σ : Type} {factory : SessionFactory} {name : String} {s : SessionStore} {action : Action}
  {t : Turn σ}

/-- Unless it makes an id, a request saves what the map becomes. -/
theorem saved_of_kept (h : t.Opens factory action name s)
    (hkept : ¬ (action.isInit ∧ (t.load s).1.id? = none)) :
    t.saved factory = [(sessionKey, outcome factory name action (t.load s).1)] := by
  cases hinit : action.isInit with
  | false =>
      obtain ⟨result, (hperform : (perform factory t.now action).run.run _ = _), -⟩ :=
        run_perform h.loads hinit h.uses h.store_eq t.jar ""
      simp only [saved, h.action_eq]
      rw [hperform, Plan.run_bind]
      rfl
  | true =>
      obtain ⟨store?, rfl⟩ := isInit_iff.mp hinit
      obtain ⟨id, hid⟩ := Option.ne_none_iff_exists'.mp fun hnone => hkept ⟨rfl, hnone⟩
      have hstep : SessionMap.step "" (t.load s).1.values (.init store?) =
          (⟨200, SessionMap.object "session_id" (.str id)⟩, (t.load s).1.values) := by
        rw [SessionMap.step, SessionMap.id?_values, hid]
      have huses : RequestSessions.keyOr SessionFactory.cookieName store? = name := h.uses
      rw [saved_of_identifies h
        (identifies_of_id h.store_init t.jar t.now (t.load s).1 t.respond (t.load s).2 hid),
        outcome, hstep, identified, huses]
      rfl

/-- A request that makes an id saves the session with it. -/
theorem saved_of_minted {store? : Option String} (h : t.Opens factory (.init store?) name s)
    (hnone : (t.load s).1.id? = none) {fresh : String} {t' : σ}
    (hgenerate : (SessionId.generate SessionId.octets).run.run t.respond (t.load s).2 =
      (.ok fresh, t')) :
    t.saved factory = [(sessionKey,
      { data := (t.load s).1.insert SessionData.idKey (.str fresh)
        store := name
        config := factory.defaultConfig })] := by
  have huses : RequestSessions.keyOr SessionFactory.cookieName store? = name := h.uses
  rw [saved_of_identifies h
    (identifies_of_fresh h.store_init t.jar t.now (t.load s).1 t.respond (t.load s).2 hnone
      hgenerate), identified, huses]

variable {w : World} {request : Request}

/-- The id that a request makes is that of the next random octets. -/
theorem exists_run_generate (s : SessionStore) (request : Request) (hw : w.entropy.broken = false) :
    ∃ w', (SessionId.generate SessionId.octets).run.run (inWorld w request).respond
      ((inWorld w request).load s).2 = (.ok w.freshId, w') := by
  have hworld : ((inWorld w request).load s).2 = w := s.run_load_snd ..
  rw [hworld]
  exact ⟨_, World.run_generate hw⟩

theorem mints_freshId (h : (inWorld w request).Opens factory action name s)
    (hinit : action.isInit = true) (hnone : ((inWorld w request).load s).1.id? = none)
    (hw : w.entropy.broken = false) : (inWorld w request).Mints factory w.freshId := by
  obtain ⟨w', hgenerate⟩ := exists_run_generate s request hw
  exact ⟨action, name, s, h, hinit, hnone, congrArg Prod.fst hgenerate⟩

theorem eq_freshId_of_mints {id : String} (h : (inWorld w request).Mints factory id)
    (hw : w.entropy.broken = false) : id = w.freshId := by
  obtain ⟨action, name, s, -, -, -, hmade⟩ := h
  obtain ⟨w', hgenerate⟩ := exists_run_generate s request hw
  cases hmade.symm.trans (congrArg Prod.fst hgenerate)
  rfl

theorem saved_of_fresh (h : (inWorld w request).Opens factory action name s)
    (hinit : action.isInit = true) (hnone : ((inWorld w request).load s).1.id? = none)
    (hw : w.entropy.broken = false) : (inWorld w request).saved factory = [(sessionKey,
      { data := ((inWorld w request).load s).1.insert SessionData.idKey (.str w.freshId)
        store := name
        config := factory.defaultConfig })] := by
  obtain ⟨w', hgenerate⟩ := exists_run_generate s request hw
  obtain ⟨store?, rfl⟩ := isInit_iff.mp hinit
  exact saved_of_minted h hnone hgenerate

end Turn

/-- The id of what the map becomes is the one it had. -/
theorem id?_outcome {factory : SessionFactory} {name : String} {action : Action} {d : SessionData}
    (hkept : ¬ (action.isInit ∧ d.id? = none)) : (outcome factory name action d).data.id? = d.id? := by
  rw [outcome, ← SessionMap.id?_values, SessionMap.id?_step, SessionMap.id?_values]
  split
  · rename_i hinit
    obtain ⟨id, hid⟩ := Option.ne_none_iff_exists'.mp fun hnone => hkept ⟨hinit, hnone⟩
    rw [hid]
    rfl
  · rfl

/-! ### Setting the cookie -/

/-- The headers set the session cookie and nothing else. -/
def Sets (headers : List String) : Prop :=
  ∃ header value, headers = [header] ∧ valueSet? header = some value

variable {factory : SessionFactory} {name : String} {s : SessionStore} {action : Action}
  {info : SessionInfo} {now : Int} {method : Method} {answer : Answer} {w : World}

theorem sets_setting {d : SessionData} {text : String} {config : SessionConfig}
    (htext : s.Writes sessionKey now d text) (hpath : Cookie.isHeaderText config.path = true)
    (hdomain : Cookie.isHeaderText config.domain = true) : Sets (setting config (some text)) := by
  obtain ⟨b, rfl⟩ := htext.exists_encode
  exact ⟨_, _, headers_add rfl b hpath hdomain, valueSet?_ofSession b config⟩

/-- Without anything to carry nothing happens. -/
theorem settle_of_not_carries (h : ¬ s.Carries info.data) (now : Int) (method : Method)
    (answer : Answer) :
    settle s now method answer info none = .done (answer.response method []) := by
  rw [settle, SessionStore.savedText_of_not_carries h]
  rfl

section

variable (hs : s.Signs) (hw : w.entropy.broken = false)
  (hpath : Cookie.isHeaderText info.config.path = true)
  (hdomain : Cookie.isHeaderText info.config.domain = true)

include hs hw hpath hdomain

/-- What can be carried is. -/
theorem sets_settle (hcarries : s.Carries info.data)
    (hvalid : ∀ id, s.kind ≠ .cookie → info.data.id? = some id → SessionId.isValid id = true)
    {earlier? : Option String}
    (hrun : (settle s now method answer info earlier?).Unfailing World.respond w) :
    Sets ((settle s now method answer info earlier?).run World.respond w).1.cookies := by
  rw [settle, unfailing_bind] at hrun
  obtain ⟨text, w', hsaved, -, d, hwrites⟩ :=
    SessionStore.exists_run_savedText hs hw hcarries hvalid hrun.1
  rw [settle, Plan.run_bind, hsaved, run_done, Answer.cookies_response]
  exact sets_setting hwrites hpath hdomain

/-- A fresh id is carried. -/
theorem sets_establish {fresh : String} (hfresh : SessionId.isValid fresh = true)
    (hrun : (establish s now method info fresh).Unfailing World.respond w) :
    Sets ((establish s now method info fresh).run World.respond w).1.cookies := by
  have hcarries : s.Carries (info.data.insert SessionData.idKey (.str fresh)) :=
    Or.inr (by rw [SessionData.id?_insert_id]; exact Option.some_ne_none _)
  have hvalid : ∀ id, s.kind ≠ .cookie →
      (info.data.insert SessionData.idKey (.str fresh)).id? = some id →
        SessionId.isValid id = true := by
    intro id _ hid
    rw [SessionData.id?_insert_id] at hid
    cases hid
    exact hfresh
  rw [establish, unfailing_bind] at hrun
  obtain ⟨hfirst, hsecond⟩ := hrun
  obtain ⟨text, w₁, hsaved, hw₁, -⟩ :=
    SessionStore.exists_run_savedText hs hw hcarries hvalid hfirst
  rw [hsaved] at hsecond
  rw [establish, Plan.run_bind, hsaved]
  refine sets_settle hs hw₁ ?_ ?_ hcarries hvalid hsecond
  · exact hpath
  · exact hdomain

theorem sets_mint (hrun : (mint s now method info).Unfailing World.respond w) :
    Sets ((mint s now method info).run World.respond w).1.cookies := by
  obtain ⟨w₁, hgenerate, hw₁⟩ : ∃ w₁, (SessionId.generate SessionId.octets).run.run World.respond w =
      (.ok w.freshId, w₁) ∧ w₁.entropy.broken = false := ⟨_, World.run_generate hw, hw⟩
  rw [mint, unfailing_bind, hgenerate] at hrun
  rw [mint, Plan.run_bind, hgenerate]
  exact sets_establish hs hw₁ hpath hdomain w.isValid_freshId hrun.2

end

/-! ### The account -/

section

variable {request : Request} (h : (Turn.inWorld w request).Opens factory action name s)

include h

/-- A request that loads a session goes on with it in the world as it was. -/
theorem run_respond_of_opens :
    (respond factory w.seconds request).run World.respond w =
      (proceed factory w.seconds name s request.method action
        ((Turn.inWorld w request).load s).1).run World.respond w := by
  have hrespond : respond factory w.seconds request = _ :=
    respond_eq_load w.seconds h.action_eq h.loads h.uses h.store_eq
  rw [hrespond, Plan.run_bind, s.run_load_snd]
  rfl

theorem unfailing_proceed_of_opens
    (hrun : (respond factory w.seconds request).Unfailing World.respond w) :
    (proceed factory w.seconds name s request.method action
      ((Turn.inWorld w request).load s).1).Unfailing World.respond w := by
  have hrespond : respond factory w.seconds request = _ :=
    respond_eq_load w.seconds h.action_eq h.loads h.uses h.store_eq
  rw [hrespond, unfailing_bind, s.run_load_snd] at hrun
  exact hrun.2

/-- **A request that loads a session** sets the cookie if that can carry the session, and else it
does nothing. -/
theorem exists_told (hw : w.entropy.broken = false)
    (hrun : (respond factory w.seconds request).Unfailing World.respond w)
    (hpath : Cookie.isHeaderText factory.defaultConfig.path = true)
    (hdomain : Cookie.isHeaderText factory.defaultConfig.domain = true)
    (hkeys : ∀ f ∈ (Turn.inWorld w request).saved factory, ∀ s,
      factory.store f.2.store = .ok s → s.Carries f.2.data → s.Signs) :
    ∃ info : SessionInfo, (Turn.inWorld w request).saved factory = [(sessionKey, info)] ∧
      info.store = name ∧
      (s.Carries info.data →
        Sets ((respond factory w.seconds request).run World.respond w).1.cookies) ∧
      (¬ s.Carries info.data → ∃ response, response.cookies = [] ∧
        (respond factory w.seconds request).run World.respond w = (response, w)) := by
  have hproceed := unfailing_proceed_of_opens h hrun
  rw [run_respond_of_opens h]
  by_cases hmints : action.isInit ∧ ((Turn.inWorld w request).load s).1.id? = none
  · have hsaved := Turn.saved_of_fresh h hmints.1 hmints.2 hw
    have hcarries : s.Carries
        (((Turn.inWorld w request).load s).1.insert SessionData.idKey (.str w.freshId)) :=
      Or.inr (by rw [SessionData.id?_insert_id]; exact Option.some_ne_none _)
    have hsigns : s.Signs := hkeys _ (hsaved ▸ List.mem_singleton_self _) s h.store_eq hcarries
    rw [proceed, if_pos hmints] at hproceed ⊢
    exact ⟨_, hsaved, rfl, fun _ => sets_mint hsigns hw hpath hdomain hproceed,
      fun hnot => absurd hcarries hnot⟩
  · have hsaved := Turn.saved_of_kept h hmints
    rw [proceed, if_neg hmints] at hproceed ⊢
    refine ⟨_, hsaved, rfl, fun hcarries => ?_, fun hnot => ?_⟩
    · have hsigns : s.Signs :=
        hkeys _ (hsaved ▸ List.mem_singleton_self _) s h.store_eq hcarries
      refine sets_settle hsigns hw ?_ ?_ hcarries (fun id hkind hid => ?_) hproceed
      · rw [outcome, path_config]
        exact hpath
      · rw [outcome, domain_config]
        exact hdomain
      · -- the id is the one that the session was loaded with
        rw [id?_outcome hmints] at hid
        obtain ⟨-, -, -, hvalid⟩ := SessionStore.exists_of_id?_load hid
        exact hvalid hkind
    · rw [settle_of_not_carries hnot]
      exact ⟨_, Answer.cookies_response .., rfl⟩

end

/-- **When a response sets the cookie.** In a run without failures, in which the store has a key if a
session is to be encoded,

* a session is loaded if the request asks for an action, which does not set the reserved key, in a
  store that is known;
* the response sets the session cookie and no other, or none;
* it sets it if the session, as the action leaves it, is kept in the cookie or has an id;
* if it sets none the world is as it was. -/
theorem cookie_is_set_iff (factory : SessionFactory) {w : World} {request : Request}
    (hw : w.entropy.broken = false)
    (hrun : (respond factory w.seconds request).Unfailing World.respond w)
    (hpath : Cookie.isHeaderText factory.defaultConfig.path = true)
    (hdomain : Cookie.isHeaderText factory.defaultConfig.domain = true)
    (hkeys : ∀ f ∈ (Turn.inWorld w request).saved factory, ∀ s,
      factory.store f.2.store = .ok s → s.Carries f.2.data → s.Signs) :
    let after := (respond factory w.seconds request).run World.respond w
    ((Turn.inWorld w request).saved factory ≠ [] ↔
        ∃ action name s, (Turn.inWorld w request).Opens factory action name s) ∧
      (after.1.cookies = [] ∨ Sets after.1.cookies) ∧
      (after.1.cookies ≠ [] ↔ ∃ f ∈ (Turn.inWorld w request).saved factory, ∃ s,
        factory.store f.2.store = .ok s ∧ (s.kind = .cookie ∨ f.2.data.id? ≠ none)) ∧
      (after.1.cookies = [] → after.2 = w) := by
  rcases Turn.opens_or_answered factory (Turn.inWorld w request) with
    ⟨action, name, s, hopens⟩ | ⟨response, hanswered⟩
  · -- the request opens a session, which is the one that is saved
    obtain ⟨info, hsaved, hname, hsets, hidle⟩ := exists_told hopens hw hrun hpath hdomain hkeys
    have hcarries : (∃ f ∈ (Turn.inWorld w request).saved factory, ∃ s,
        factory.store f.2.store = .ok s ∧ (s.kind = .cookie ∨ f.2.data.id? ≠ none)) ↔
          s.Carries info.data := by
      rw [hsaved]
      constructor
      · rintro ⟨f, hf, s', hs', hcarries⟩
        rw [List.mem_singleton.mp hf, hname, hopens.store_eq] at hs'
        cases hs'
        rw [List.mem_singleton.mp hf] at hcarries
        exact hcarries
      · intro hcarries
        exact ⟨_, List.mem_singleton_self _, s, hname ▸ hopens.store_eq, hcarries⟩
    refine ⟨⟨fun _ => ⟨action, name, s, hopens⟩, fun _ => ?_⟩, ?_⟩
    · rw [hsaved]
      exact List.cons_ne_nil _ _
    · by_cases h : s.Carries info.data
      · -- the session can be kept, so its cookie is set
        have hcookie := hsets h
        have hset : ((respond factory w.seconds request).run World.respond w).1.cookies ≠ [] := by
          obtain ⟨header, value, hheaders, -⟩ := hcookie
          rw [hheaders]
          exact List.cons_ne_nil _ _
        exact ⟨Or.inr hcookie, ⟨fun _ => hcarries.mpr h, fun _ => hset⟩, fun hnone => absurd hnone hset⟩
      · -- a session in records without an id: nothing is called for
        obtain ⟨response, hnone, hsame⟩ := hidle h
        rw [hsame]
        exact ⟨Or.inl hnone, ⟨fun hset => absurd hnone hset, fun hf => absurd (hcarries.mp hf) h⟩,
          fun _ => rfl⟩
  · -- the request is answered without any session
    have hdone : respond factory w.seconds request = .done response := hanswered.respond_eq
    rw [hanswered.saved_eq, hdone, run_done]
    refine ⟨⟨fun h => absurd rfl h, ?_⟩, Or.inl hanswered.cookies_eq,
      ⟨fun hset => absurd hanswered.cookies_eq hset, ?_⟩, fun _ => rfl⟩
    · rintro ⟨action, name, s, hopens⟩
      obtain ⟨info, -, hserves⟩ := Turn.exists_serves hopens
      have hsaved := hserves.saved_eq
      rw [hanswered.saved_eq] at hsaved
      cases hsaved
    · rintro ⟨f, hf, -⟩
      cases hf

/-! ### A sample -/

/-- The world of the sample at a moment. -/
def sampleMoment : World := sampleWorld.withNow 1000000

theorem unfailing_sampleMoment (request : Request)
    (hname : ∀ action, Action.ofRequest request = .ok action → action.Uses "memory") :
    (respond sampleFactory sampleMoment.seconds request).Unfailing World.respond sampleMoment :=
  ((makes_respond store_sample hname _).unfailing World.succeeds_of_inMemory
    (show sampleMoment.InMemory sampleStore from inMemory_sample)).1

theorem uses_idRequest :
    ∀ action, Action.ofRequest idRequest = .ok action → action.Uses "memory" := by
  intro action haction
  rw [ofRequest_id] at haction
  cases haction
  rfl

theorem uses_showRequest :
    ∀ action, Action.ofRequest showRequest = .ok action → action.Uses "memory" := by
  intro action haction
  rw [ofRequest_show] at haction
  cases haction
  rfl

/-- Whoever looks at the values of a session that has no id gets no cookie, and changes nothing; the
cookie comes with the id. -/
theorem cookie_comes_with_id :
    ((respond sampleFactory sampleMoment.seconds showRequest).run World.respond
        sampleMoment).1.cookies = [] ∧
      ((respond sampleFactory sampleMoment.seconds showRequest).run World.respond
        sampleMoment).2 = sampleMoment ∧
      Sets ((respond sampleFactory sampleMoment.seconds idRequest).run World.respond
        sampleMoment).1.cookies := by
  have hkeys : ∀ request, ∀ f ∈ (Turn.inWorld sampleMoment request).saved sampleFactory, ∀ s,
      sampleFactory.store f.2.store = .ok s → s.Carries f.2.data → s.Signs := by
    intro request f _ s hs _
    exact SessionStore.Keyed.signs ⟨List.cons_ne_nil _ _, keys_sample _ s hs⟩
  obtain ⟨-, -, hshown, hidle⟩ := cookie_is_set_iff sampleFactory (w := sampleMoment) rfl
    (unfailing_sampleMoment showRequest uses_showRequest) (by decide) (by decide)
    (hkeys showRequest)
  obtain ⟨-, hsets, hset, -⟩ := cookie_is_set_iff sampleFactory (w := sampleMoment) rfl
    (unfailing_sampleMoment idRequest uses_idRequest) (by decide) (by decide) (hkeys idRequest)
  have hnone : ((respond sampleFactory sampleMoment.seconds showRequest).run World.respond
      sampleMoment).1.cookies = [] := by
    by_contra hcookie
    obtain ⟨f, hf, s, hs, hcarries⟩ := hshown.mp hcookie
    have hopens : (Turn.inWorld sampleMoment showRequest).Opens sampleFactory
        (.showValues (some "memory")) "memory" sampleStore :=
      ⟨ofRequest_show, rfl, rfl, store_sample⟩
    -- without a cookie the session is empty
    have hread : sampleStore.readCookie (Turn.inWorld sampleMoment showRequest).jar sessionKey
        sampleMoment.seconds = .error .noSession := rfl
    have hload : ((Turn.inWorld sampleMoment showRequest).load sampleStore).1 = .empty :=
      congrArg (fun p => (p.run World.respond sampleMoment).1) (SessionStore.load_of_unread hread)
    rw [Turn.saved_of_kept hopens (by simp [Action.isInit]), hload, List.mem_singleton] at hf
    subst hf
    cases store_sample.symm.trans hs
    rcases hcarries with hkind | hid
    · cases hkind
    · exact hid rfl
  refine ⟨hnone, hidle hnone, hsets.resolve_left (hset.mpr ?_)⟩
  have hsaved : (Turn.inWorld sampleMoment idRequest).saved sampleFactory = _ := saved_initTurn
  rw [hsaved]
  refine ⟨_, List.mem_singleton_self _, sampleStore, store_sample, Or.inr ?_⟩
  rw [show identifiedSample.data.id? = _ from SessionData.id?_ofId]
  exact Option.some_ne_none _

end Service

end WebSession
