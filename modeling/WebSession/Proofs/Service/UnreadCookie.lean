import WebSession.Proofs.Service.AfterLoad

/-!
# WebSession.Proofs.Service.UnreadCookie

**A cookie that cannot be loaded is like no cookie** (`unread_cookie_is_no_cookie`), for whatever
reason and in whatever store: the response, the calls and what they leave behind are those of the
same request without it.

Loading says why it failed before it calls for anything, and what follows starts from an empty
session in either case.
-/

namespace WebSession

open Plan

/-! ### Loading -/

namespace SessionStore

variable {σ : Type} {respond : Responder σ} {t : σ} {s : SessionStore} {jar : Cookie.Jar}
  {key : String} {now : Int} {e : Error}

/-- Loading that ends with an error has failed before the first call. -/
theorem load?_of_failed (h : ((s.load? jar key now).run.run respond t).1 = .error e) :
    (s.load? jar key now).run = .done (.error e) := by
  cases hk : s.kind with
  | cookie =>
      have hload : (s.load? jar key now).run = .done (s.readCookie jar key now) := by
        simp only [load?, hk]
        rfl
      rw [hload] at h ⊢
      exact congrArg Plan.done h
  | serverSide records =>
      have hload : s.load? jar key now = s.loadRecord records jar key now := by
        simp only [load?, hk]
      rw [hload] at h ⊢
      unfold loadRecord at h ⊢
      split
      · rename_i e' hread
        simp only [hread] at h
        cases h
        rfl
      · rename_i d hread
        simp only [hread] at h
        split
        · rename_i hid
          simp only [hid] at h
          cases h
          rfl
        · rename_i id hid
          simp only [hid] at h
          split
          · rename_i e' hvalid
            simp only [hvalid] at h
            cases h
            rfl
          · -- the record is asked for, and whatever is answered there is a session
            rename_i hvalid
            simp only [hvalid] at h
            cases h

/-- **What fails to load** is an empty session. -/
theorem load_of_failed (h : ((s.load? jar key now).run.run respond t).1 = .error e) :
    s.load jar key now = .done .empty := by
  rw [load, load?_of_failed h]
  rfl

end SessionStore

namespace Service

open Http

variable {σ : Type} {factory : SessionFactory} {name : String} {s : SessionStore} {request : Request}
  {cookies : List String} {now : Int}

/-- Two requests that differ in their cookies alone get the same response if they load the same. -/
theorem respond_of_load_eq (hs : factory.store name = .ok s)
    (hname : ∀ action, Action.ofRequest request = .ok action → action.Uses name)
    (hload : s.load (Cookie.Jar.ofHeaders request.cookies) sessionKey now =
      s.load (Cookie.Jar.ofHeaders cookies) sessionKey now) :
    respond factory now request = respond factory now { request with cookies := cookies } := by
  have hsame : Action.ofRequest { request with cookies := cookies } = Action.ofRequest request := rfl
  cases haction : Action.ofRequest request with
  | error response =>
      rw [(respond_of_refused factory now haction).1,
        (respond_of_refused factory now (hsame.trans haction)).1]
  | ok action =>
      cases hloads : action.loads with
      | false =>
          simp only [respond, hsame, haction, act]
          cases action with
          | live => rfl
          | setValues store? fields =>
              have hreserved : fields.contains SessionData.idKey = true := by
                simpa [Action.loads] using hloads
              simp only [perform, hreserved]
              rfl
          | _ => cases hloads
      | true =>
          rw [respond_eq_load now haction hloads (hname _ haction) hs,
            respond_eq_load now (hsame.trans haction) hloads (hname _ haction) hs, hload]

/-- **A cookie that cannot be loaded is like no cookie.** Whoever answers the calls of the request,
the response and the state in the end are those of the same request without the cookie, and so are
the calls that are made, random octets included. -/
theorem unread_cookie_is_no_cookie (hs : factory.store name = .ok s)
    (hname : ∀ action, Action.ofRequest request = .ok action → action.Uses name)
    {respond : Responder σ} {t : σ} {e : Error}
    (hfailed : ((s.load? (Cookie.Jar.ofHeaders request.cookies) sessionKey now).run.run
      respond t).1 = .error e)
    (hnone : (Cookie.Jar.ofHeaders cookies).get? sessionKey = none) :
    (Service.respond factory now request).run respond t =
        (Service.respond factory now { request with cookies := cookies }).run respond t ∧
      (Service.respond factory now request).trace respond t =
        (Service.respond factory now { request with cookies := cookies }).trace respond t := by
  have hload : s.load (Cookie.Jar.ofHeaders request.cookies) sessionKey now =
      s.load (Cookie.Jar.ofHeaders cookies) sessionKey now := by
    rw [SessionStore.load_of_failed hfailed, SessionStore.load_of_none hnone]
  rw [respond_of_load_eq hs hname hload]
  exact ⟨rfl, rfl⟩

/-- A cookie that was tampered with, in a request for the values of a session. -/
theorem tampered_cookie_is_no_cookie :
    (Service.respond sampleFactory 0 { showRequest with cookies := ["s=x"] }).run World.respond
        sampleWorld =
      (Service.respond sampleFactory 0 showRequest).run World.respond sampleWorld := by
  have hget : (Cookie.Jar.ofHeaders ["s=x"]).get? sessionKey = some "x" := by
    with_unfolding_all rfl
  have hdecode : Encoders.decode sampleStore.encoders sessionKey 0 "x" = .error .authentication := by
    with_unfolding_all rfl
  have hread : sampleStore.readCookie (Cookie.Jar.ofHeaders ["s=x"]) sessionKey 0 =
      .error .authentication := by
    rw [SessionStore.readCookie, hget]
    exact hdecode
  have hfailed : ((sampleStore.load? (Cookie.Jar.ofHeaders ["s=x"]) sessionKey 0).run.run
      World.respond sampleWorld).1 = .error .authentication := by
    simp only [SessionStore.load?, kind_sample, SessionStore.loadRecord, hread]
    rfl
  have hname : ∀ action, Action.ofRequest { showRequest with cookies := ["s=x"] } = .ok action →
      action.Uses "memory" := by
    intro action haction
    rw [show Action.ofRequest { showRequest with cookies := ["s=x"] } =
      Action.ofRequest showRequest from rfl, ofRequest_show] at haction
    cases haction
    rfl
  exact (unread_cookie_is_no_cookie store_sample hname hfailed rfl).1

end Service

end WebSession
