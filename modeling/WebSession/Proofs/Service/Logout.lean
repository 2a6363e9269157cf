import WebSession.Proofs.Service.Client
import WebSession.Proofs.Service.Locality
import WebSession.Proofs.SessionStore.Operations
import WebSession.Proofs.SessionStore.Secrecy

/-!
# WebSession.Proofs.Service.Logout

**Logging out of a server-side store revokes the session** (`revoked_by_logout`). The record is gone,
and the cookies of the store never held more than the id. So until a session with the id is saved
again, each of them loads the id and nothing else, or nothing at all when it is too old. What happens
until then is any run of operations (`World.after`), and all that requests do is one
(`exists_events_of_requests`).

A cookie of second zero has no time and is never read, however young it is (`unread_at_second_zero`).
-/

namespace WebSession

open Plan

/-! ### The cookies of a store -/

namespace SessionStore

variable {s : SessionStore} {records key id text : String} {jar jar' : Cookie.Jar} {made now : Int}
  {info : SessionInfo}

/-- In some run the store set the cookie of a session with an id to a text. -/
def Issued (s : SessionStore) (key : String) (made : Int) (id text : String) : Prop :=
  ∃ (σ : Type) (respond : Responder σ) (t : σ) (jar jar' : Cookie.Jar) (info : SessionInfo),
    info.data.id? = some id ∧ ((s.save jar key made info).run.run respond t).1 = .ok jar' ∧
      jar'.get? key = some text

theorem Issued.writes (hk : s.kind = .serverSide records) (h : s.Issued key made id text) :
    s.Writes key made (.ofId id) text := by
  obtain ⟨σ, respond, t, jar, jar', info, hid, hsave, hget⟩ := h
  obtain ⟨text', rfl, hwrites⟩ := exists_of_save hk hid hsave
  have hself : (jar.add (Cookie.ofSession key text' info.config)).get? key = some text' :=
    Cookie.Jar.get?_add_self
  rw [hself] at hget
  cases hget
  exact hwrites

/-- Without a cipher the text does not depend on the run. -/
theorem issued_of_plain {e : Encoder} {more : List Encoder}
    {authenticate : Bytes → Sha256.Digest} (hk : s.kind = .serverSide records)
    (he : s.encoders = e :: more) (hkey : e.authenticate? = some authenticate)
    (hblock : e.block? = none) (hvalid : SessionId.isValid id = true) (key : String) (made : Int) :
    s.Issued key made id (Encoder.signed authenticate key
      (Base64Url.encode (SessionData.ofId id).serialize) (Numeral.text (e.clock made))) := by
  -- even with no record to be had the cookie of an id that stands alone is set
  exact ⟨Unit, fun call t => (call.refusal .noSession, t), (), {}, _, ⟨.ofId id, "", {}⟩,
    SessionData.id?_ofId, run_save_of_ofId hk he hkey hblock hvalid rfl {} key made "" {},
    Cookie.Jar.get?_add_self⟩

/-- **Where the record is gone, a cookie loads the id** that it holds, if it is read. -/
theorem load_of_gone {pairs : List KeyPair} (hkeyed : s.Keyed pairs)
    (hk : s.kind = .serverSide records) (hvalid : SessionId.isValid id = true)
    (htext : s.Writes key made (.ofId id) text) (hmade : Range.isInt64 made = true)
    {w : World} (hgone : w.Gone records id) (refuse? : Call → Option Error)
    (hjar : jar.get? key = some text) :
    ((s.load jar key now).run (World.respond.refusing refuse?) w).1 =
      if made = 0 ∨ made < now - SessionConfig.defaultMaxAge then .empty else .ofId id := by
  split
  · rename_i hold
    rw [load_of_old hkeyed htext hmade hold hjar]
    rfl
  · rename_i hyoung
    obtain ⟨hzero, hage⟩ := not_or.mp hyoung
    have hserver : s.kind ≠ .cookie := kind_ne_cookie hk
    have hread := decode_of_writes hkeyed htext (SessionData.representable_ofId hvalid) hmade hzero
      (by omega : now ≤ made + SessionConfig.defaultMaxAge) fun hcookie => absurd hcookie hserver
    obtain ⟨r, hr, hnone⟩ := hgone
    -- whether the call is refused or answered, there is no record
    have hrecord : ∃ e, (World.respond.refusing refuse? (.get records id) w).1 = .error e := by
      unfold Responder.refusing
      split
      · exact ⟨_, rfl⟩
      · refine ⟨.noSession, ?_⟩
        simp only [World.respond, hr]
        exact hnone w.now
    obtain ⟨e, he⟩ := hrecord
    rw [load_eq hk ⟨(readCookie_of_get? hjar).trans hread, hvalid⟩, run_ask, run_done, he]
    rfl

end SessionStore

/-! ### Logging out -/

namespace Service

open Http

variable {factory : SessionFactory} {name : String} {s : SessionStore} {request : Request}
  {store? : Option String}

/-- **A request that logs out** loads the session and saves what remains of it as one that ends. -/
theorem respond_of_logout (now : Int)
    (haction : Action.ofRequest request = .ok (.logout store?))
    (hname : RequestSessions.keyOr SessionFactory.cookieName store? = name)
    (hs : factory.store name = .ok s) :
    ∃ result : SessionData → Except Failure Body,
      respond factory now request =
        s.load (Cookie.Jar.ofHeaders request.cookies) sessionKey now >>= fun d =>
          (s.save (Cookie.Jar.ofHeaders request.cookies) sessionKey now
            { data := ended d
              store := name
              config := { factory.defaultConfig with maxAge := -1 } }).run >>= fun saved =>
            .done (withoutBody request.method
              { reply (result d) with
                cookies := (jarAfter (Cookie.Jar.ofHeaders request.cookies) saved).headers }) := by
  obtain ⟨result, hrespond, -⟩ := respond_of_loads now haction rfl rfl hname hs ""
  refine ⟨result, ?_⟩
  simp only [SessionMap.step, SessionMap.idOnly_values] at hrespond
  exact hrespond

/-- What is saved of a session with an id that ends. -/
def ending (factory : SessionFactory) (name id : String) : SessionInfo where
  data := .ofId id
  store := name
  config := { factory.defaultConfig with maxAge := -1 }

section

variable {records id : String} {w : World} (hs : factory.store name = .ok s)
  (hk : s.kind = .serverSide records)
  (haction : Action.ofRequest request = .ok (.logout store?))
  (hname : RequestSessions.keyOr SessionFactory.cookieName store? = name)
  (hid : ((s.load (Cookie.Jar.ofHeaders request.cookies) sessionKey w.seconds).run
    World.respond w).1.id? = some id)
  (hrun : (respond factory w.seconds request).Unfailing World.respond w)

include hs hk haction hname hid hrun

/-- Logging out comes to saving the id of the session that was loaded, and the first call of that
removes the record. -/
theorem run_respond_of_logout :
    SessionId.isValid id = true ∧
      (Call.remove records id).Succeeds (World.respond (.remove records id) w).1 ∧
      ∃ response : Response, (respond factory w.seconds request).run World.respond w =
        ((s.save (Cookie.Jar.ofHeaders request.cookies) sessionKey w.seconds
          (ending factory name id)).run >>= fun saved =>
            .done (withoutBody request.method
              { response with cookies :=
                  (jarAfter (Cookie.Jar.ofHeaders request.cookies) saved).headers })).run
          World.respond w := by
  have hserver : s.kind ≠ .cookie := SessionStore.kind_ne_cookie hk
  obtain ⟨-, -, -, hvalid⟩ := SessionStore.exists_of_id?_load hid
  obtain ⟨result, hrespond⟩ := respond_of_logout w.seconds haction hname hs
  have hended : ended ((s.load (Cookie.Jar.ofHeaders request.cookies) sessionKey w.seconds).run
      World.respond w).1 = .ofId id := by
    rw [ended, SessionData.idOnly?, hid]
    rfl
  rw [hrespond, unfailing_bind, s.run_load_snd, unfailing_bind, hended] at hrun
  obtain ⟨next, hsave, -⟩ := s.save_eq_remove (Cookie.Jar.ofHeaders request.cookies) sessionKey
    w.seconds (ending factory name id) hk SessionData.id?_ofId (hvalid hserver)
    (Or.inr (Nat.le_refl 1))
  have hsaved : ((s.save (Cookie.Jar.ofHeaders request.cookies) sessionKey w.seconds
      (ending factory name id)).run).Unfailing World.respond w := hrun.2.1
  rw [hsave] at hsaved
  refine ⟨hvalid hserver, hsaved.1, reply (result ((s.load (Cookie.Jar.ofHeaders request.cookies)
    sessionKey w.seconds).run World.respond w).1), ?_⟩
  rw [hrespond, Plan.run_bind, s.run_load_snd, hended]
  rfl

/-- The record is gone. -/
theorem gone_of_logout :
    ((respond factory w.seconds request).run World.respond w).2.Gone records id := by
  obtain ⟨hvalid, hremoved, response, hrespond⟩ :=
    run_respond_of_logout hs hk haction hname hid hrun
  obtain ⟨next, hsave, hnext⟩ := s.save_eq_remove (Cookie.Jar.ofHeaders request.cookies) sessionKey
    w.seconds (ending factory name id) hk SessionData.id?_ofId hvalid (Or.inr (Nat.le_refl 1))
  rw [hrespond, Plan.run_bind, hsave, run_ask, run_done, ← Responder.refusing_none World.respond]
  exact World.gone_of_quiet (hnext _) (World.gone_of_removed hremoved)

/-- The cookie ends, and it is one that the store writes of the id. -/
theorem cookies_of_logout {pairs : List KeyPair} (hkeyed : s.Keyed pairs)
    (hw : w.entropy.broken = false) (hpath : Cookie.isHeaderText factory.defaultConfig.path = true)
    (hdomain : Cookie.isHeaderText factory.defaultConfig.domain = true) :
    ∃ c : Cookie, ((respond factory w.seconds request).run World.respond w).1.cookies = [c.text] ∧
      c.name = sessionKey ∧ c.maxAge = some 0 ∧ valueSet? c.text = some c.value ∧
      s.Writes sessionKey w.seconds (.ofId id) c.value := by
  obtain ⟨hvalid, hremoved, response, hrespond⟩ :=
    run_respond_of_logout hs hk haction hname hid hrun
  obtain ⟨text, w', hset, hencodes, -⟩ := SessionStore.exists_run_save_of_drop hkeyed hw hk
    SessionData.id?_ofId hvalid (Cookie.Jar.ofHeaders request.cookies) sessionKey w.seconds
    (Or.inr (Nat.le_refl 1) : (ending factory name id).config.maxAge < 0 ∨
      (ending factory name id).data.length ≤ 1) hremoved
  obtain ⟨b, rfl⟩ := hencodes.writes.exists_encode
  refine ⟨_, ?_, rfl, rfl, valueSet?_ofSession b (ending factory name id).config, hencodes.writes⟩
  rw [hrespond, Plan.run_bind, hset, run_done, cookies_withoutBody]
  exact headers_add rfl b hpath hdomain

end

/-- **Logging out revokes the session.** It was loaded from a server-side store and had an id, and no
call for a record failed.

* The record is gone.
* If there are random octets and the cookie can be sent, it ends at once, and what it holds is the id.
* Until a session with the id is saved, every cookie that the store ever set for the id loads the id
  alone, or nothing when it has no time or is too old. -/
theorem revoked_by_logout {records id : String} {pairs : List KeyPair}
    (hs : factory.store name = .ok s) (hkeyed : s.Keyed pairs) (hk : s.kind = .serverSide records)
    (haction : Action.ofRequest request = .ok (.logout store?))
    (hname : RequestSessions.keyOr SessionFactory.cookieName store? = name) {w : World}
    (hid : ((s.load (Cookie.Jar.ofHeaders request.cookies) sessionKey w.seconds).run
      World.respond w).1.id? = some id)
    (hrun : (respond factory w.seconds request).Unfailing World.respond w) :
    let after := (respond factory w.seconds request).run World.respond w
    after.2.Gone records id ∧
      (w.entropy.broken = false → Cookie.isHeaderText factory.defaultConfig.path = true →
        Cookie.isHeaderText factory.defaultConfig.domain = true →
        ∃ c : Cookie, after.1.cookies = [c.text] ∧ c.name = sessionKey ∧ c.maxAge = some 0 ∧
          valueSet? c.text = some c.value ∧
          (Range.isInt64 w.seconds = true → w.seconds ≠ 0 →
            ∀ now ≤ w.seconds + SessionConfig.defaultMaxAge,
              Encoders.decode s.encoders sessionKey now c.value = .ok (.ofId id))) ∧
      ∀ made text, s.Issued sessionKey made id text → Range.isInt64 made = true →
        ∀ events, after.2.Unsaved records id events → ∀ refuse? now jar,
          jar.get? sessionKey = some text →
          ((s.load jar sessionKey (now / 1000)).run (World.respond.refusing refuse?)
              ((after.2.after events).withNow now)).1 =
            if made = 0 ∨ made < now / 1000 - SessionConfig.defaultMaxAge then .empty
            else .ofId id := by
  intro after
  have hserver : s.kind ≠ .cookie := SessionStore.kind_ne_cookie hk
  obtain ⟨hvalid, -, -⟩ := run_respond_of_logout hs hk haction hname hid hrun
  have hgone : after.2.Gone records id := gone_of_logout hs hk haction hname hid hrun
  refine ⟨hgone, ?_, ?_⟩
  · intro hw hpath hdomain
    obtain ⟨c, hcookies, hc, hends, hvalue, hwrites⟩ :=
      cookies_of_logout hs hk haction hname hid hrun hkeyed hw hpath hdomain
    refine ⟨c, hcookies, hc, hends, hvalue, fun hmade hzero now hage => ?_⟩
    exact SessionStore.decode_of_writes hkeyed hwrites (SessionData.representable_ofId hvalid) hmade
      hzero hage fun hcookie => absurd hcookie hserver
  · intro made text hissued hmade events hevents refuse? now jar hjar
    -- nothing that is done without saving the id brings the record back
    have hgone' : ((after.2.after events).withNow now).Gone records id :=
      World.gone_after hevents hgone
    exact SessionStore.load_of_gone hkeyed hk hvalid (hissued.writes hk) hmade hgone' refuse? hjar

/-! ### A sample -/

/-- A request to log out. -/
def logoutRequest : Request := { method := .post, path := "/logout", query := "store=memory" }

theorem ofRequest_logout : Action.ofRequest logoutRequest = .ok (.logout (some "memory")) := by
  with_unfolding_all rfl

/-- A client logs out with the cookie of a session, of second one hundred. -/
@[irreducible] def lastRequest (id : String) : Request :=
  { logoutRequest with cookies := cookieHeaders (some (sampleText 100 (.ofId id))) }

theorem ofRequest_lastRequest (id : String) :
    Action.ofRequest (lastRequest id) = .ok (.logout (some "memory")) := by
  rw [lastRequest]
  exact ofRequest_logout

/-- The jar of that request. -/
def lastJar (id : String) : Cookie.Jar := Cookie.Jar.ofHeaders (lastRequest id).cookies

theorem get?_lastJar (id : String) :
    (lastJar id).get? sessionKey = some (sampleText 100 (.ofId id)) := by
  rw [lastJar, lastRequest]
  exact get?_sampleText _ _

/-- What the service makes of it. -/
def served (id : String) (w : World) : Response × World :=
  (respond sampleFactory w.seconds (lastRequest id)).run World.respond w

section

variable {id : String} {w : World}

/-- No call of a request fails where the records are in memory, and there they are afterwards. -/
theorem unfailing_respond_sample {request : Request} {action : Action}
    (haction : Action.ofRequest request = .ok action) (huses : action.Uses "memory") (now : Int)
    (hw : w.InMemory sampleStore) :
    (respond sampleFactory now request).Unfailing World.respond w ∧
      ((respond sampleFactory now request).run World.respond w).2.InMemory sampleStore := by
  refine (makes_respond store_sample (fun action' haction' => ?_) now).unfailing
    World.succeeds_of_inMemory hw
  rw [haction] at haction'
  cases haction'
  exact huses

theorem unfailing_lastRequest (id : String) (hw : w.InMemory sampleStore) :
    (respond sampleFactory w.seconds (lastRequest id)).Unfailing World.respond w :=
  (unfailing_respond_sample (ofRequest_lastRequest id) rfl _ hw).1

variable (hvalid : SessionId.isValid id = true)
  (hage : w.seconds ≤ 100 + SessionConfig.defaultMaxAge)

include hvalid hage

theorem holdsId_lastJar : sampleStore.HoldsId (lastJar id) sessionKey w.seconds id := by
  refine ⟨?_, hvalid⟩
  rw [SessionStore.readCookie_of_get? (get?_lastJar id)]
  exact SessionStore.decode_of_writes keyed_sample (writes_sampleText 100 _)
    (SessionData.representable_ofId hvalid) (by decide) (by decide) hage
    fun hcookie => nomatch hcookie

/-- The session that is loaded has the id of the cookie, whatever the record holds. -/
theorem id?_lastRequest :
    ((sampleStore.load (lastJar id) sessionKey w.seconds).run World.respond w).1.id? = some id := by
  rw [SessionStore.run_load kind_sample (holdsId_lastJar hvalid hage)]
  exact SessionStore.id?_shown ..

end

/-- A session with a value. -/
def sampleData : SessionData := (SessionData.ofId "ab").insert "x" (.int 1)

/-- The sample service when it has the record of the session, at second two hundred. -/
def recordedWorld : World := World.single 200000 "memory" "ab" (sampleText 100 sampleData)

/-- The cookie of the session loads it. -/
theorem run_load_recorded :
    ((sampleStore.load (lastJar "ab") sessionKey recordedWorld.seconds).run World.respond
      recordedWorld).1 = sampleData := by
  have hshown : SessionStore.shown sampleStore sessionKey recordedWorld.seconds "ab"
      (Responder.record World.respond "memory" "ab" recordedWorld) = sampleData := by
    rw [recordedWorld, World.record_single]
    exact SessionStore.shown_of_decode (SessionStore.decode_of_writes keyed_sample
      (writes_sampleText 100 sampleData) ⟨by decide, by decide⟩ (by decide) (by decide) (by decide)
      fun hcookie => nomatch hcookie) rfl
  exact congrArg Prod.fst (SessionStore.run_load_of_shown kind_sample
    (holdsId_lastJar (by decide) (by decide)) hshown)

/-- A session with a value that is in memory when its client logs out, and afterwards with the cookie
it had. -/
theorem value_gone_after_logout :
    ((sampleStore.load (lastJar "ab") sessionKey recordedWorld.seconds).run World.respond
        recordedWorld).1 = sampleData ∧
      (served "ab" recordedWorld).2.Gone "memory" "ab" ∧
      ((sampleStore.load (lastJar "ab") sessionKey (300000 / 1000)).run World.respond
        ((served "ab" recordedWorld).2.withNow 300000)).1 = .ofId "ab" := by
  have hmemory : recordedWorld.InMemory sampleStore := by
    intro records hk
    cases hk
    exact ⟨_, Dict.get?_set_self⟩
  obtain ⟨hgone, -, hlater⟩ := revoked_by_logout store_sample keyed_sample kind_sample
    (ofRequest_lastRequest "ab") rfl (w := recordedWorld)
    (id?_lastRequest (by decide) (by decide)) (unfailing_lastRequest "ab" hmemory)
  refine ⟨run_load_recorded, hgone, ?_⟩
  have hissued : sampleStore.Issued sessionKey 100 "ab" (sampleText 100 (.ofId "ab")) := by
    rw [sampleText]
    exact SessionStore.issued_of_plain kind_sample encoders_sample rfl rfl (by decide) sessionKey 100
  have hloaded := hlater 100 _ hissued (by decide) [] trivial (fun _ => none) 300000 _
    (get?_lastJar "ab")
  have hyoung : ¬ ((100 : Int) = 0 ∨ (100 : Int) < 300000 / 1000 - SessionConfig.defaultMaxAge) := by
    decide
  rw [Responder.refusing_none, if_neg hyoung, World.after_nil] at hloaded
  exact hloaded

/-- The sample service at second zero, after it was asked for an id at second one hundred. -/
def openedWorld : World :=
  ((respond sampleFactory 100 idRequest).run World.respond (sampleWorld.withNow 100000)).2.withNow 0

/-- **At second zero the cookie is not read again.** The session was loaded and had an id, nothing
failed, and still no one decodes the cookie that logging out sets, which loads nothing at once. -/
theorem unread_at_second_zero :
    let id := sampleWorld.freshId
    ((sampleStore.load (lastJar id) sessionKey 0).run World.respond openedWorld).1.id? = some id ∧
      (respond sampleFactory 0 (lastRequest id)).Unfailing World.respond openedWorld ∧
      ∃ c : Cookie, (served id openedWorld).1.cookies = [c.text] ∧ c.name = sessionKey ∧
        Encoders.decode sampleStore.encoders sessionKey 0 c.value ≠ .ok (.ofId id) ∧
        ∀ jar, jar.get? sessionKey = some c.value →
          ((sampleStore.load jar sessionKey 0).run World.respond
            (served id openedWorld).2).1 = .empty := by
  intro id
  have hbegun : (sampleWorld.withNow 100000).InMemory sampleStore := inMemory_sample
  have hmemory : openedWorld.InMemory sampleStore :=
    (unfailing_respond_sample ofRequest_id rfl 100 hbegun).2
  have hbroken : openedWorld.entropy.broken = false :=
    (World.follows_run (Prod.eta _).symm).broken_eq
  have hzero : openedWorld.seconds = 0 := rfl
  have hid : ((sampleStore.load (lastJar id) sessionKey openedWorld.seconds).run World.respond
      openedWorld).1.id? = some id :=
    id?_lastRequest (World.isValid_freshId sampleWorld) (by rw [hzero]; decide)
  have hrun := unfailing_lastRequest id hmemory
  have hpath : Cookie.isHeaderText sampleFactory.defaultConfig.path = true := by decide
  have hdomain : Cookie.isHeaderText sampleFactory.defaultConfig.domain = true := by decide
  obtain ⟨c, hcookies, hc, -, -, hwrites⟩ := cookies_of_logout store_sample kind_sample
    (ofRequest_lastRequest id) rfl hid hrun keyed_sample hbroken hpath hdomain
  have hmade : Range.isInt64 openedWorld.seconds = true := by rw [hzero]; decide
  refine ⟨hid, hrun, c, hcookies, hc, ?_, fun jar hjar => ?_⟩
  · exact SessionStore.not_decode_of_writes keyed_sample hwrites hmade (Or.inl hzero) _
  · rw [SessionStore.load_of_old keyed_sample hwrites hmade (Or.inl hzero) hjar]
    rfl

end Service

end WebSession
