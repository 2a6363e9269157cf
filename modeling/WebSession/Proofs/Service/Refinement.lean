import Mathlib.Data.List.Chain
import WebSession.Proofs.Service.Locality
import WebSession.Proofs.Service.Steps

/-!
# WebSession.Proofs.Service.Refinement

**The service is a map for each client** (`answers_eq`): a client that always sends back its session
cookie is answered as the map answers it (`SessionMap.run`), for every run of requests about one
store, be it one of cookies or of records.

What is kept from request to request (`Kept`) is that the cookie which the client holds loads the
session. One request keeps it (`Kept.visit`), so all requests do (`Kept.serve`).

A request that is refused loads no session and sets no cookie, so that it does not count as a visit:
the age of a session runs from the last request that loaded it. Thirty days later the session is gone,
however many requests were refused in between (`forgotten_in_between`).
-/

namespace WebSession.Service

open Plan Http

variable {factory : SessionFactory} {name : String} {s : SessionStore} {pairs : List KeyPair}
  {action : Action} {request : Request} {w : World} {d : SessionData} {maxAge : Int}

/-! ### The session of the client -/

/-- What is kept from request to request, with the moment of the last one that loaded the session:
what the client holds makes the next request load the session. In a server-side store it has had a
valid id ever since. -/
structure Kept (s : SessionStore) (maxAge : Int) (last? : Option Int) (held? : Option String)
    (w : World) (d : SessionData) : Prop where
  supplied : w.entropy.broken = false
  loads : ∀ now, now < Records.Memory.lastMoment → (∀ made ∈ last?, s.Within maxAge made now) →
    (s.load (Cookie.Jar.ofHeaders (cookieHeaders held?)) sessionKey (now / 1000)).run World.respond
      (w.withNow now) = (d, w.withNow now)
  isValid : s.kind ≠ .cookie → ∀ id, d.id? = some id → SessionId.isValid id = true
  isSome : s.kind ≠ .cookie → last?.isSome = true → d.id?.isSome = true

/-- The first request loads an empty session. -/
theorem kept_first (hw : w.entropy.broken = false) : Kept s maxAge none none w .empty where
  supplied := hw
  loads := by
    intro now _ _
    have hread : s.readCookie (Cookie.Jar.ofHeaders (cookieHeaders none)) sessionKey (now / 1000) =
        .error .noSession := rfl
    rw [SessionStore.load_of_unread hread]
    rfl
  isValid := by
    intro _ id hid
    cases hid
  isSome := by
    intro _ h
    cases h

/-- In a server-side store every action that loads the session leaves a valid id. -/
theorem Kept.exists_id_step {last? : Option Int} {held? : Option String} {fresh : String}
    (h : Kept s maxAge last? held? w d) (hk : s.kind ≠ .cookie)
    (hfresh : SessionId.isValid fresh = true)
    (hfirst : last? = none → action.isInit = true) :
    ∃ id, SessionId.isValid id = true ∧
      SessionData.id? ⟨(SessionMap.step fresh d.values action).2⟩ = some id := by
  rw [← SessionMap.id?_values, SessionMap.id?_step, SessionMap.id?_values]
  have hvalid := h.isValid hk
  cases hid : d.id? with
  | some id =>
      refine ⟨id, hvalid id hid, ?_⟩
      split <;> rfl
  | none =>
      -- it was never loaded before, so this is the request that gives it one
      have hinit : action.isInit = true := by
        cases hlast : last? with
        | none => exact hfirst hlast
        | some made =>
            have hsome := h.isSome hk (by rw [hlast]; rfl)
            rw [hid] at hsome
            cases hsome
      rw [if_pos hinit]
      exact ⟨fresh, hfresh, rfl⟩

/-- The store can keep what an action leaves. -/
theorem Kept.keeps_step {last? : Option Int} {held? : Option String} {fresh : String}
    (h : Kept s maxAge last? held? w d) (ho : Offers factory name s pairs)
    (hfresh : SessionId.isValid fresh = true)
    (hfirst : s.kind ≠ .cookie → last? = none → action.isInit = true)
    (hd : SessionData.Representable ⟨(SessionMap.step fresh d.values action).2⟩) :
    s.Keeps factory.defaultConfig.maxAge
      { data := ⟨(SessionMap.step fresh d.values action).2⟩
        store := name
        config := action.config factory.defaultConfig } where
  representable := hd
  exists_id := by
    intro hk
    exact h.exists_id_step hk hfresh (hfirst hk)
  age := by
    intro hk
    cases action with
    -- who logs out changes the age, but leaves nothing that needs a record
    | logout store? => exact Or.inr (SessionMap.length_idOnly_le d.values)
    | _ => exact Or.inl ⟨rfl, ho.maxAge hk⟩

/-- Every text that the headers give the session cookie is short enough for the store. -/
def Fits (s : SessionStore) (headers : List String) : Prop :=
  s.kind = .cookie → ∀ header ∈ headers, ∀ value ∈ valueSet? header,
    value.utf8ByteSize ≤ SessionStore.cookieMaxLength

/-- What was saved is kept by a client that gets the headers. -/
theorem Saved.kept {headers : List String} {w' : World}
    (h : Saved s maxAge w.now d headers w') (hw : w'.entropy.broken = false)
    (hfits : Fits s headers)
    (hid : s.kind ≠ .cookie → ∃ id, SessionId.isValid id = true ∧ d.id? = some id)
    (held? : Option String) : Kept s maxAge (some w.now) (latest held? headers) w' d := by
  obtain ⟨b, header, rfl, hvalue, -, hreloads⟩ := h
  have hlength : s.kind = .cookie →
      (Base64Url.encode b).utf8ByteSize ≤ SessionStore.cookieMaxLength := by
    intro hk
    exact hfits hk header (List.mem_singleton.mpr rfl) _ hvalue
  refine ⟨hw, ?_, ?_, ?_⟩
  · intro now hlast hwithin
    rw [latest_of_valueSet? hvalue]
    exact hreloads hlength now _ hlast (hwithin _ rfl) (get?_cookieHeaders b)
  · intro hk id hid'
    obtain ⟨id', hvalid, hid''⟩ := hid hk
    rw [hid''] at hid'
    cases hid'
    exact hvalid
  · intro hk _
    obtain ⟨id', -, hid'⟩ := hid hk
    rw [hid']
    rfl

/-- What is kept does not wear out while the clock goes on. -/
theorem Kept.withNow {last? : Option Int} {held? : Option String}
    (h : Kept s maxAge last? held? w d) (now : Int) : Kept s maxAge last? held? (w.withNow now) d :=
  ⟨h.supplied, h.loads, h.isValid, h.isSome⟩

/-- A request that loads the session is a step of the map, whatever it asks for. -/
theorem Kept.takes {last? : Option Int} {held? : Option String}
    (h : Kept s factory.defaultConfig.maxAge last? held? w d) (ho : Offers factory name s pairs)
    (hnow : Moment w.now) (hcookies : request.cookies = cookieHeaders held?)
    (haction : Action.ofRequest request = .ok action) (hloads : action.loads = true)
    (hname : action.Uses name)
    (hwithin : ∀ made ∈ last?, s.Within factory.defaultConfig.maxAge made w.now)
    (hfirst : s.kind ≠ .cookie → last? = none → action.isInit = true)
    (hd : SessionData.Representable ⟨(SessionMap.step w.freshId d.values action).2⟩)
    (hrun : (respond factory w.seconds request).Unfailing World.respond w) :
    ∃ response w', (respond factory w.seconds request).run World.respond w = (response, w') ∧
      Takes s factory.defaultConfig.maxAge request (SessionMap.step w.freshId d.values action) w
        response w' := by
  have hkeeps := h.keeps_step ho (World.isValid_freshId w) hfirst hd
  have hload := h.loads w.now hnow.lt_last hwithin
  rw [← hcookies] at hload
  cases hinit : action.isInit with
  | false => exact takes_of_loads ho h.supplied hnow haction hloads hinit hname _ hload hkeeps hrun
  | true =>
      cases action with
      | init store? => exact takes_of_init ho h.supplied hnow haction hname hload hkeeps hrun
      | _ => cases hinit

/-- In memory nothing stands in the way of that. -/
theorem Kept.takes_of_inMemory {last? : Option Int} {held? : Option String}
    (h : Kept s factory.defaultConfig.maxAge last? held? w d) (ho : Offers factory name s pairs)
    (hmemory : w.InMemory s) (hnow : Moment w.now)
    (hcookies : request.cookies = cookieHeaders held?)
    (haction : Action.ofRequest request = .ok action) (hloads : action.loads = true)
    (hname : action.Uses name)
    (hwithin : ∀ made ∈ last?, s.Within factory.defaultConfig.maxAge made w.now)
    (hfirst : s.kind ≠ .cookie → last? = none → action.isInit = true)
    (hd : SessionData.Representable ⟨(SessionMap.step w.freshId d.values action).2⟩) :
    ∃ response w', (respond factory w.seconds request).run World.respond w = (response, w') ∧
      Takes s factory.defaultConfig.maxAge request (SessionMap.step w.freshId d.values action) w
        response w' := by
  have huses : ∀ action', Action.ofRequest request = .ok action' → action'.Uses name := by
    intro action' haction'
    rw [haction] at haction'
    cases haction'
    exact hname
  exact h.takes ho hnow hcookies haction hloads hname hwithin hfirst hd
    ((makes_respond ho.store_eq huses w.seconds).unfailing World.succeeds_of_inMemory hmemory).1

/-- **One request**: it is answered as the map answers it, and what the map becomes is kept. -/
theorem Kept.visit {last? : Option Int} {held? : Option String} {v : Visit}
    (h : Kept s factory.defaultConfig.maxAge last? held? w d) (ho : Offers factory name s pairs)
    (hclock : w.now = v.now) (hnow : Moment v.now) (hname : ∀ action ∈ v.action?, action.Uses name)
    (hwithin : v.loads = true → ∀ made ∈ last?, s.Within factory.defaultConfig.maxAge made v.now)
    (hfirst : s.kind ≠ .cookie → last? = none → v.loads = true → v.inits = true)
    (hd : SessionData.Representable ⟨(SessionMap.answer w.freshId d.values v.request).2⟩)
    (hrun : (respond factory w.seconds (v.sent held?)).Unfailing World.respond w)
    (hfits : Fits s ((respond factory w.seconds (v.sent held?)).run World.respond w).1.cookies) :
    ∃ response w', (respond factory w.seconds (v.sent held?)).run World.respond w = (response, w') ∧
      Answer.ofResponse response = (SessionMap.answer w.freshId d.values v.request).1 ∧
      Kept s factory.defaultConfig.maxAge (if v.loads then some v.now else last?)
        (latest held? response.cookies) w'
        ⟨(SessionMap.answer w.freshId d.values v.request).2⟩ := by
  cases haction : Action.ofRequest v.request with
  | error refused =>
      -- the client keeps the cookie that it has, and the session grows older
      have hsent : Action.ofRequest (v.sent held?) = .error refused := haction
      have hidle : v.loads = false := by
        rw [Visit.loads, Visit.action?_of_error haction]
        rfl
      obtain ⟨hrespond, hcookies⟩ := respond_of_refused factory w.seconds hsent
      rw [hrespond, SessionMap.answer_of_error haction, hidle]
      refine ⟨_, w, rfl, ofResponse_withoutBody _ _, ?_⟩
      rw [cookies_withoutBody, hcookies]
      exact h
  | ok action =>
      have hsent : Action.ofRequest (v.sent held?) = .ok action := haction
      have hasked := Visit.action?_of_ok haction
      rw [Visit.loads, hasked, Option.any_some] at hwithin hfirst ⊢
      rw [Visit.inits, hasked, Option.any_some] at hfirst
      rw [SessionMap.answer_of_ok haction] at hd ⊢
      cases hload : action.loads with
      | false =>
          obtain ⟨response, hrespond, hcookies, htold, hsame⟩ :=
            respond_of_idle factory w.seconds hsent hload w.freshId d.values
          rw [hrespond]
          refine ⟨response, w, rfl, htold, ?_⟩
          rw [hcookies, hsame]
          exact h
      | true =>
          have hinit : s.kind ≠ .cookie → last? = none → action.isInit = true := by
            intro hk hlast
            exact hfirst hk hlast hload
          rw [← hclock] at hnow hwithin ⊢
          obtain ⟨response, w', hrespond, htakes⟩ := h.takes ho hnow rfl hsent hload
            (hname action hasked) (hwithin hload) hinit hd hrun
          rw [hrespond] at hfits ⊢
          have hsupplied : w'.entropy.broken = false :=
            (World.follows_run hrespond).broken_eq.trans h.supplied
          exact ⟨response, w', rfl, htakes.answer, htakes.saved.kept hsupplied hfits
            (fun hk => h.exists_id_step hk (World.isValid_freshId w) (hinit hk)) held?⟩

/-! ### Sessions that come to their end -/

/-- What a request that loads the session is answered depends on what is loaded alone. -/
theorem answer_of_loads (ho : Offers factory name s pairs)
    (haction : Action.ofRequest request = .ok action) (hloads : action.loads = true)
    (hinit : action.isInit = false) (hname : action.Uses name) (fresh : String)
    (hload : s.load (Cookie.Jar.ofHeaders request.cookies) sessionKey w.seconds = .done d) :
    Answer.ofResponse ((respond factory w.seconds request).run World.respond w).1 =
      (SessionMap.step fresh d.values action).1.forMethod request.method := by
  obtain ⟨result, hrespond, hanswer⟩ :=
    respond_of_loads w.seconds haction hloads hinit hname ho.store_eq fresh
  rw [hrespond, hload, done_bind, Plan.run_bind, run_done, ofResponse_withoutBody, ← hanswer d]
  rfl

/-- **Too old a session is forgotten**: the request is answered as that of someone who has none. -/
theorem Saved.answer_of_old {headers : List String} {made now : Int} {w' w'' : World}
    (h : Saved s maxAge made d headers w') (ho : Offers factory name s pairs) (hnow : Moment made)
    (hold : made / 1000 < now / 1000 - SessionConfig.defaultMaxAge) {held? : Option String}
    (hcookies : request.cookies = cookieHeaders (latest held? headers))
    (haction : Action.ofRequest request = .ok action) (hloads : action.loads = true)
    (hinit : action.isInit = false) (hname : action.Uses name) (fresh : String) :
    Answer.ofResponse ((respond factory (w''.withNow now).seconds request).run World.respond
        (w''.withNow now)).1 =
      (SessionMap.step fresh .empty action).1.forMethod request.method := by
  obtain ⟨b, header, rfl, hvalue, ⟨d', hwrites⟩, -⟩ := h
  have hload : s.load (Cookie.Jar.ofHeaders request.cookies) sessionKey (w''.withNow now).seconds =
      .done .empty := by
    rw [hcookies, latest_of_valueSet? hvalue]
    exact SessionStore.load_of_old ho.keyed hwrites hnow.isInt64 (Or.inr hold)
      (get?_cookieHeaders b)
  exact answer_of_loads ho haction hloads hinit hname fresh hload

/-- The client does not notice: a request that is refused in between does not keep the session. -/
theorem exists_serve_of_old {held? : Option String} (v₁ v₂ v₃ : Visit) {response refused : Response}
    {w' : World} (hrespond : (respond factory (w.withNow v₁.now).seconds (v₁.sent held?)).run
      World.respond (w.withNow v₁.now) = (response, w'))
    (hsaved : Saved s maxAge v₁.now d response.cookies w') (ho : Offers factory name s pairs)
    (hnow : Moment v₁.now) (hrefused : Action.ofRequest v₂.request = .error refused)
    (haction : Action.ofRequest v₃.request = .ok action) (hloads : action.loads = true)
    (hinit : action.isInit = false) (hname : action.Uses name)
    (hold : v₁.now / 1000 < v₃.now / 1000 - SessionConfig.defaultMaxAge) (fresh : String) :
    ∃ x₁ x₂ x₃, serve factory held? w [v₁, v₂, v₃] = [x₁, x₂, x₃] ∧
      Answer.ofResponse x₃.response =
        (SessionMap.step fresh .empty action).1.forMethod v₃.request.method := by
  have hrefused' : Action.ofRequest (v₂.sent (latest held? response.cookies)) = .error refused :=
    hrefused
  obtain ⟨hidle, hcookies⟩ := respond_of_refused factory (w'.withNow v₂.now).seconds hrefused'
  have hlatest : latest (latest held? response.cookies)
      (withoutBody v₂.request.method refused).cookies = latest held? response.cookies := by
    rw [cookies_withoutBody, hcookies, latest_nil]
  have hasked : Action.ofRequest (v₃.sent (latest (latest held? response.cookies)
      (withoutBody v₂.request.method refused).cookies)) = .ok action := haction
  refine ⟨_, _, _, rfl, ?_⟩
  simp only [hrespond, hidle, run_done]
  exact hsaved.answer_of_old ho hnow hold (congrArg cookieHeaders hlatest) hasked hloads hinit hname
    fresh

/-! ### All requests -/

/-- What a client asks for, each request with the id that the session could be given then. -/
def asked (exchanges : List Exchange) (visits : List Visit) : List (String × Request) :=
  (exchanges.map fun x => x.world.freshId).zip (visits.map Visit.request)

/-- **Many requests**, by what every one of them keeps. -/
theorem Kept.serve {last? : Option Int} {held? : Option String} {visits : List Visit}
    (h : Kept s factory.defaultConfig.maxAge last? held? w d) (ho : Offers factory name s pairs)
    (hmoments : ∀ v ∈ visits, Moment v.now)
    (hname : ∀ v ∈ visits, ∀ action ∈ v.action?, action.Uses name)
    (hgaps : (last?.toList ++ (visits.filter Visit.loads).map Visit.now).IsChain
      (s.Within factory.defaultConfig.maxAge))
    (hfirst : s.kind ≠ .cookie → last? = none → ∀ v ∈ (visits.filter Visit.loads).head?,
      v.inits = true)
    (hrun : ∀ x ∈ serve factory held? w visits,
      (respond factory x.world.seconds x.request).Unfailing World.respond x.world)
    (hfits : ∀ x ∈ serve factory held? w visits, Fits s x.response.cookies)
    (hd : ∀ p ∈ SessionMap.run d.values (asked (serve factory held? w visits) visits),
      SessionData.Representable ⟨p.2⟩) :
    (serve factory held? w visits).map (fun x => Answer.ofResponse x.response) =
      (SessionMap.run d.values (asked (serve factory held? w visits) visits)).map Prod.fst := by
  induction visits generalizing last? held? w d with
  | nil => rfl
  | cons v more ih =>
      have hwithin : v.loads = true →
          ∀ made ∈ last?, s.Within factory.defaultConfig.maxAge made v.now := by
        intro hloads made hmade
        cases hmade
        rw [List.filter_cons_of_pos hloads] at hgaps
        exact (List.isChain_cons_cons.mp hgaps).1
      -- only a first request has to give the session an id
      have hinits : s.kind ≠ .cookie → last? = none → v.loads = true → v.inits = true := by
        intro hk hlast hloads
        refine hfirst hk hlast v ?_
        rw [List.filter_cons_of_pos hloads]
        rfl
      obtain ⟨response, w', hrespond, hanswer, hkept⟩ :=
        (h.withNow v.now).visit ho rfl (hmoments v (List.mem_cons_self ..))
          (hname v (List.mem_cons_self ..)) hwithin hinits (hd _ (List.mem_cons_self ..))
          (hrun _ (List.mem_cons_self ..)) (hfits _ (List.mem_cons_self ..))
      have hserve : Service.serve factory held? w (v :: more) =
          { request := v.sent held?, world := w.withNow v.now, response := response } ::
            Service.serve factory (latest held? response.cookies) w' more := by
        rw [Service.serve, hrespond]
      -- the last moment moves on with the requests that load the session, and with no others
      have hgaps' : ((if v.loads then some v.now else last?).toList ++
          (more.filter Visit.loads).map Visit.now).IsChain
            (s.Within factory.defaultConfig.maxAge) := by
        by_cases hloads : v.loads = true
        · rw [List.filter_cons_of_pos hloads] at hgaps
          rw [if_pos hloads]
          exact hgaps.right_of_append
        · rw [List.filter_cons_of_neg hloads] at hgaps
          rw [if_neg hloads]
          exact hgaps
      have hfirst' : s.kind ≠ .cookie → (if v.loads then some v.now else last?) = none →
          ∀ v ∈ (more.filter Visit.loads).head?, v.inits = true := by
        intro hk hlast
        by_cases hloads : v.loads = true
        · rw [if_pos hloads] at hlast
          cases hlast
        · rw [if_neg hloads] at hlast
          rw [List.filter_cons_of_neg hloads] at hfirst
          exact hfirst hk hlast
      rw [hserve] at hrun hfits hd ⊢
      have hrest := ih hkept (fun v hv => hmoments v (List.mem_cons_of_mem _ hv))
        (fun v hv => hname v (List.mem_cons_of_mem _ hv)) hgaps' hfirst'
        (fun x hx => hrun x (List.mem_cons_of_mem _ hx))
        (fun x hx => hfits x (List.mem_cons_of_mem _ hx))
        (fun p hp => hd p (List.mem_cons_of_mem _ hp))
      exact List.cons_eq_cons.mpr ⟨hanswer, hrest⟩

/-- What a client may expect an answer to: requests about one store, the first of which that loads a
session gives it an id if the store keeps records, at moments that the clock can tell, with random
octets and records at hand, and never with more in the session than its cookie or its record can
hold. -/
structure Regular (factory : SessionFactory) (name : String) (s : SessionStore)
    (pairs : List KeyPair) (w : World) (visits : List Visit) : Prop where
  offers : Offers factory name s pairs
  supplied : w.entropy.broken = false
  moments : ∀ v ∈ visits, Moment v.now
  uses : ∀ v ∈ visits, ∀ action ∈ v.action?, action.Uses name
  inits : s.kind ≠ .cookie → ∀ v ∈ (visits.filter Visit.loads).head?, v.inits = true
  unfailing : ∀ x ∈ serve factory none w visits,
    (respond factory x.world.seconds x.request).Unfailing World.respond x.world
  fits : ∀ x ∈ serve factory none w visits, Fits s x.response.cookies
  representable : ∀ p ∈ SessionMap.run .empty (asked (serve factory none w visits) visits),
    SessionData.Representable ⟨p.2⟩

/-- **The service is a map for each client**: it gives the answers of the map, as long as the session
comes to no end between two requests that load it. -/
theorem answers_eq {visits : List Visit} (h : Regular factory name s pairs w visits)
    (hgaps : ((visits.filter Visit.loads).map Visit.now).IsChain
      (s.Within factory.defaultConfig.maxAge)) :
    (serve factory none w visits).map (fun x => Answer.ofResponse x.response) =
      (SessionMap.run .empty (asked (serve factory none w visits) visits)).map Prod.fst :=
  (kept_first h.supplied).serve h.offers h.moments h.uses hgaps (fun hk _ => h.inits hk) h.unfailing
    h.fits h.representable

/-! ### A client -/

/-- A request to set a value, and one that forgets what to set. -/
def valueRequest : Request where
  method := .post
  path := "/session"
  query := "store=memory"
  contentType? := some "application/json"
  body := Bytes.ofText "\x7b\"x\":1\x7d"

def bareRequest : Request := { method := .post, path := "/session", query := "store=memory" }

theorem ofRequest_value : Action.ofRequest valueRequest =
    .ok (.setValues (some "memory") (Dict.empty.set "x" (.int 1))) := by
  with_unfolding_all rfl

theorem ofRequest_bare : Action.ofRequest bareRequest =
    .error { status := 415, body := .refusal .mediaType } := by
  with_unfolding_all rfl

/-- All of them. -/
def sampleRequests : List Request := [idRequest, valueRequest, bareRequest, showRequest]

theorem uses_sample {v : Visit} (hv : v.request ∈ sampleRequests) :
    ∀ action ∈ v.action?, action.Uses "memory" := by
  intro action haction
  simp only [sampleRequests, List.mem_cons, List.not_mem_nil, or_false] at hv
  rcases hv with h | h | h | h <;> rw [Visit.action?, h] at haction
  · rw [ofRequest_id] at haction
    cases haction
    rfl
  · rw [ofRequest_value] at haction
    cases haction
    rfl
  · rw [ofRequest_bare] at haction
    cases haction
  · rw [ofRequest_show] at haction
    cases haction
    rfl

theorem offers_sample : Offers sampleFactory "memory" sampleStore [{ hashKey := [1, 2] }] where
  store_eq := rfl
  keyed := keyed_sample
  path := by decide
  domain := by decide
  maxAge := by decide

/-- Whoever begins by asking for an id may ask for anything in the sample. -/
theorem regular_sample {now : Int} {more : List Visit}
    (hmoments : ∀ v ∈ (⟨now, idRequest⟩ :: more : List Visit), Moment v.now)
    (hmore : ∀ v ∈ more, v.request ∈ sampleRequests)
    (hd : ∀ p ∈ SessionMap.run .empty
        (asked (serve sampleFactory none sampleWorld (⟨now, idRequest⟩ :: more))
          (⟨now, idRequest⟩ :: more)),
      SessionData.Representable ⟨p.2⟩) :
    Regular sampleFactory "memory" sampleStore [{ hashKey := [1, 2] }] sampleWorld
      (⟨now, idRequest⟩ :: more) := by
  have hrequests : ∀ v ∈ (⟨now, idRequest⟩ :: more : List Visit), v.request ∈ sampleRequests :=
    List.forall_mem_cons.mpr ⟨List.mem_cons_self .., hmore⟩
  have huses := fun v hv => uses_sample (hrequests v hv)
  have hasked : (⟨now, idRequest⟩ : Visit).action? = some (.init (some "memory")) :=
    Visit.action?_of_ok ofRequest_id
  refine ⟨offers_sample, rfl, hmoments, huses, ?_, ?_, ?_, hd⟩
  · intro _ v hv
    have hloads : (⟨now, idRequest⟩ : Visit).loads = true := by rw [Visit.loads, hasked]; rfl
    rw [List.filter_cons_of_pos hloads] at hv
    cases hv
    rw [Visit.inits, hasked]
    rfl
  · exact unfailing_serve offers_sample.store_eq huses inMemory_sample none
  · intro x _ hk
    cases hk

def sampleVisits : List Visit :=
  [{ now := 1000, request := idRequest }, { now := 2000, request := valueRequest },
    { now := 3000, request := bareRequest }, { now := 4000, request := showRequest }]

/-- The map of the sample. -/
def sampleMap : SessionMap := (SessionData.ofId sampleWorld.freshId).values.set "x" (.int 1)

theorem run_sample (f₂ f₃ f₄ : String) :
    SessionMap.run .empty [(sampleWorld.freshId, idRequest), (f₂, valueRequest), (f₃, bareRequest),
        (f₄, showRequest)] =
      [(⟨200, SessionMap.object "session_id" (.str sampleWorld.freshId)⟩,
          (SessionData.ofId sampleWorld.freshId).values),
        (⟨200, sampleMap.shown⟩, sampleMap), (⟨415, .refusal .mediaType⟩, sampleMap),
        (⟨200, sampleMap.shown⟩, sampleMap)] := by
  have hset : ∀ fresh (m : SessionMap),
      m.step fresh (.setValues (some "memory") (Dict.empty.set "x" (.int 1))) =
        (⟨200, SessionMap.shown (m.set "x" (.int 1))⟩, m.set "x" (.int 1)) := by
    intro fresh m
    have hvalue : Value.ofJson (.int 1) = .int 1 := by
      rw [Value.ofJson]
      rfl
    have hoverride : m.override (Dict.empty.set "x" (.int 1)) = m.set "x" (.int 1) :=
      congrArg (Dict.set m "x") hvalue
    rw [SessionMap.step, hoverride]
    rfl
  simp only [SessionMap.run, SessionMap.answer_of_ok ofRequest_id,
    SessionMap.answer_of_ok ofRequest_value, SessionMap.answer_of_error ofRequest_bare,
    SessionMap.answer_of_ok ofRequest_show, hset]
  rfl

theorem asked_sample : ∃ f₂ f₃ f₄,
    asked (serve sampleFactory none sampleWorld sampleVisits) sampleVisits =
      [(sampleWorld.freshId, idRequest), (f₂, valueRequest), (f₃, bareRequest),
        (f₄, showRequest)] :=
  ⟨_, _, _, rfl⟩

theorem loads_sample : sampleVisits.filter Visit.loads =
    [{ now := 1000, request := idRequest }, { now := 2000, request := valueRequest },
      { now := 4000, request := showRequest }] := by
  have hfree : Fields.contains SessionData.idKey (Dict.empty.set "x" (Json.int 1)) = false := rfl
  simp [sampleVisits, Visit.loads, Visit.action?, ofRequest_id, ofRequest_value, ofRequest_bare,
    ofRequest_show, Except.toOption, Action.loads, hfree]

theorem regular_sampleVisits :
    Regular sampleFactory "memory" sampleStore [{ hashKey := [1, 2] }] sampleWorld
      sampleVisits := by
  refine regular_sample ?_ ?_ ?_
  · simp only [List.forall_mem_cons]
    exact ⟨⟨by decide, by decide, by decide⟩, ⟨by decide, by decide, by decide⟩,
      ⟨by decide, by decide, by decide⟩, ⟨by decide, by decide, by decide⟩, by simp⟩
  · simp [sampleRequests]
  · obtain ⟨f₂, f₃, f₄, hasked⟩ := asked_sample
    rw [← sampleVisits, hasked, run_sample]
    have hsample : SessionData.Representable ⟨sampleMap⟩ := ⟨by decide, by decide⟩
    simp only [List.forall_mem_cons]
    exact ⟨SessionData.representable_ofId (World.isValid_freshId _), hsample, hsample, hsample,
      by simp⟩

/-- The value that was set is shown, and so is the id. -/
theorem set_value_shown :
    Regular sampleFactory "memory" sampleStore [{ hashKey := [1, 2] }] sampleWorld sampleVisits ∧
      (serve sampleFactory none sampleWorld sampleVisits).map
          (fun x => Answer.ofResponse x.response) =
        [⟨200, SessionMap.object "session_id" (.str sampleWorld.freshId)⟩, ⟨200, sampleMap.shown⟩,
          ⟨415, .refusal .mediaType⟩, ⟨200, sampleMap.shown⟩] := by
  have hgaps : ((sampleVisits.filter Visit.loads).map Visit.now).IsChain
      (sampleStore.Within sampleFactory.defaultConfig.maxAge) := by
    rw [loads_sample]
    simp only [List.map_cons, List.map_nil, List.isChain_cons_cons]
    exact ⟨⟨by decide, by decide⟩, ⟨by decide, by decide⟩, .singleton _⟩
  obtain ⟨f₂, f₃, f₄, hasked⟩ := asked_sample
  refine ⟨regular_sampleVisits, ?_⟩
  rw [answers_eq regular_sampleVisits hgaps, hasked, run_sample]
  rfl

/-- Someone asks for an id, forgets after twenty days what to set, and asks for the values after
twenty more. -/
def lateVisits : List Visit :=
  [{ now := 1000, request := idRequest }, { now := 1728001000, request := bareRequest },
    { now := 3456001000, request := showRequest }]

theorem run_late (f₂ f₃ : String) :
    SessionMap.run .empty [(sampleWorld.freshId, idRequest), (f₂, bareRequest), (f₃, showRequest)] =
      [(⟨200, SessionMap.object "session_id" (.str sampleWorld.freshId)⟩,
          (SessionData.ofId sampleWorld.freshId).values),
        (⟨415, .refusal .mediaType⟩, (SessionData.ofId sampleWorld.freshId).values),
        (⟨200, SessionMap.shown (SessionData.ofId sampleWorld.freshId).values⟩,
          (SessionData.ofId sampleWorld.freshId).values)] := by
  simp only [SessionMap.run, SessionMap.answer_of_ok ofRequest_id,
    SessionMap.answer_of_error ofRequest_bare, SessionMap.answer_of_ok ofRequest_show]
  rfl

theorem asked_late : ∃ f₂ f₃,
    asked (serve sampleFactory none sampleWorld lateVisits) lateVisits =
      [(sampleWorld.freshId, idRequest), (f₂, bareRequest), (f₃, showRequest)] := ⟨_, _, rfl⟩

theorem regular_lateVisits :
    Regular sampleFactory "memory" sampleStore [{ hashKey := [1, 2] }] sampleWorld lateVisits := by
  refine regular_sample ?_ ?_ ?_
  · simp only [List.forall_mem_cons]
    exact ⟨⟨by decide, by decide, by decide⟩, ⟨by decide, by decide, by decide⟩,
      ⟨by decide, by decide, by decide⟩, by simp⟩
  · simp [sampleRequests]
  · obtain ⟨f₂, f₃, hasked⟩ := asked_late
    have hid := SessionData.representable_ofId (World.isValid_freshId sampleWorld)
    rw [← lateVisits, hasked, run_late]
    simp only [List.forall_mem_cons]
    exact ⟨hid, hid, hid, by simp⟩

/-- The first request of the sample is answered with a cookie. -/
theorem saved_sample : ∃ response w', (respond sampleFactory (sampleWorld.withNow 1000).seconds
      (Visit.sent ⟨1000, idRequest⟩ none)).run World.respond (sampleWorld.withNow 1000) =
        (response, w') ∧
    Saved sampleStore sampleFactory.defaultConfig.maxAge 1000
      (SessionData.ofId sampleWorld.freshId) response.cookies w' := by
  have hkept : Kept sampleStore sampleFactory.defaultConfig.maxAge none none
      (sampleWorld.withNow 1000) .empty := kept_first rfl
  have hsent : Action.ofRequest (Visit.sent ⟨1000, idRequest⟩ none) = .ok (.init (some "memory")) :=
    ofRequest_id
  obtain ⟨response, w', hrespond, htakes⟩ := hkept.takes_of_inMemory offers_sample inMemory_sample
    ⟨by decide, by decide, by decide⟩ rfl hsent rfl rfl (by simp) (fun _ _ => rfl)
    (SessionData.representable_ofId (World.isValid_freshId _))
  exact ⟨response, w', hrespond, htakes.saved⟩

/-- **A request that is refused does not keep the session**: here no two requests are thirty days
apart, and still the last one finds the session gone. -/
theorem forgotten_in_between :
    Regular sampleFactory "memory" sampleStore [{ hashKey := [1, 2] }] sampleWorld lateVisits ∧
      (lateVisits.map Visit.now).IsChain
        (sampleStore.Within sampleFactory.defaultConfig.maxAge) ∧
      (serve sampleFactory none sampleWorld lateVisits).map
          (fun x => Answer.ofResponse x.response) ≠
        (SessionMap.run .empty
          (asked (serve sampleFactory none sampleWorld lateVisits) lateVisits)).map Prod.fst := by
  refine ⟨regular_lateVisits, ?_, ?_⟩
  · simp only [lateVisits, List.map_cons, List.map_nil, List.isChain_cons_cons]
    exact ⟨⟨by decide, by decide⟩, ⟨by decide, by decide⟩, .singleton _⟩
  intro heq
  obtain ⟨f₂, f₃, hasked⟩ := asked_late
  rw [hasked, run_late] at heq
  obtain ⟨response, w', hrespond, hsaved⟩ := saved_sample
  obtain ⟨x₁, x₂, x₃, hserve, hlast⟩ := exists_serve_of_old ⟨1000, idRequest⟩
    ⟨1728001000, bareRequest⟩ ⟨3456001000, showRequest⟩ hrespond hsaved offers_sample
    ⟨by decide, by decide, by decide⟩ ofRequest_bare ofRequest_show rfl rfl rfl (by decide) ""
  rw [lateVisits, hserve] at heq
  simp only [List.map_cons, List.map_nil, List.cons.injEq, hlast] at heq
  have hshown : SessionMap.shown .empty =
      SessionMap.shown (SessionData.ofId sampleWorld.freshId).values :=
    congrArg Answer.body heq.2.2.1
  cases hshown

end WebSession.Service
