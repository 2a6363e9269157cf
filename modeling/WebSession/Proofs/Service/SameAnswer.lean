import WebSession.Proofs.Service.SetCookie
import WebSession.Proofs.Service.UnreadCookie
import WebSession.Proofs.SessionStore.SameReading

/-!
# WebSession.Proofs.Service.SameAnswer

**One request in two worlds** (`respond_alike`). If the cookies are read alike, if the records of the
ids in view tell the same, and if the same id is drawn where one is made, then status and body of the
response are the same, the cookies are read alike again, and so are the records afterwards.

A request is about the id that it loads or makes: its calls are (`Turn.bears_of_mem_calls`), and so
are the cookies that it sets (`Turn.exists_names_of_mem`). So a request about another id is not seen.
-/

namespace WebSession

open Plan

/-! ### The values of cookies -/

/-- The text is one that the store may write of an id at a second. -/
structure SessionStore.Names (s : SessionStore) (made : Int) (id text : String) : Prop where
  isValid : SessionId.isValid id = true
  isInt64 : Range.isInt64 made = true
  writes : s.Writes Service.sessionKey made (.ofId id) text

section

variable {s : SessionStore} {pairs : List KeyPair} {made now : Int} {id text text' records : String}
  {d : SessionData}

theorem SessionStore.Names.readAlike (hkeyed : s.Keyed pairs) (hk : s.kind = .serverSide records)
    (h : s.Names made id text) (h' : s.Names made id text') :
    s.ReadAlike Service.sessionKey text text' :=
  readAlike_of_writes hkeyed h.writes h'.writes h.isInt64 hk
    (SessionData.representable_ofId h.isValid)

theorem SessionStore.Names.eq_ofId (hkeyed : s.Keyed pairs) (h : s.Names made id text)
    (hread : Encoders.decode s.encoders Service.sessionKey now text = .ok d) : d = .ofId id :=
  eq_of_decode_of_writes hkeyed.2 hkeyed.2 h.writes (SessionData.representable_ofId h.isValid)
    h.isInt64 hread

end

namespace Service

open Http

/-- The values that a response gives the session cookie. -/
def valuesSet (r : Response) : List String := r.cookies.filterMap valueSet?

theorem valuesSet_response (a : Answer) (method : Method) (cookies : List String) :
    valuesSet (a.response method cookies) = cookies.filterMap valueSet? := by
  rw [valuesSet, Answer.cookies_response]

/-- Whether a client is told of a text depends on the configuration alone. -/
theorem filterMap_setting (b : Bytes) (config : SessionConfig) :
    (setting config (some (Base64Url.encode b))).filterMap valueSet? =
      if Cookie.isHeaderText (Cookie.ofSession sessionKey "" config).text then [Base64Url.encode b]
      else [] := by
  have hlist : ∀ c : Cookie, (Dict.empty.set c.name c).toList = [(c.name, c)] :=
    fun _ => Fields.toList_cons
  rw [← Cookie.isHeaderText_text_congr sessionKey (Base64Url.encode b)]
  simp only [setting, Cookie.Jar.headers, Cookie.Jar.add, hlist, List.map_cons, List.map_nil,
    List.filter_cons, List.filter_nil]
  split
  · rw [List.filterMap_cons, valueSet?_ofSession]
    rfl
  · rfl

variable {s : SessionStore} {pairs : List KeyPair} {records : String} {ids : String → Prop}
  {now : Int} {method : Method} {answer : Answer} {info : SessionInfo}

/-- Two values name the same id, which is in view, since the same second. -/
def SameName (s : SessionStore) (ids : String → Prop) (value value' : String) : Prop :=
  ∃ id made, ids id ∧ s.Names made id value ∧ s.Names made id value'

/-- Two lists of values name the same, one by one. -/
def SameNames (s : SessionStore) (ids : String → Prop) (values values' : List String) : Prop :=
  ∃ twins : List (String × String), values = twins.map Prod.fst ∧ values' = twins.map Prod.snd ∧
    ∀ t ∈ twins, SameName s ids t.1 t.2

theorem sameNames_nil (s : SessionStore) (ids : String → Prop) : SameNames s ids [] [] :=
  ⟨[], rfl, rfl, fun _ h => nomatch h⟩

theorem SameNames.append {front front' back back' : List String}
    (h : SameNames s ids front front') (hback : SameNames s ids back back') :
    SameNames s ids (front ++ back) (front' ++ back') := by
  obtain ⟨twins, rfl, rfl, hsame⟩ := h
  obtain ⟨more, rfl, rfl, hmore⟩ := hback
  refine ⟨twins ++ more, (List.map_append ..).symm, (List.map_append ..).symm, fun t ht => ?_⟩
  rcases List.mem_append.mp ht with ht | ht
  · exact hsame t ht
  · exact hmore t ht

/-- Two responses have the same status and body, and set cookies that name the same. -/
structure SameTold (s : SessionStore) (ids : String → Prop) (r r' : Response) : Prop where
  answer_eq : Answer.ofResponse r = Answer.ofResponse r'
  values : SameNames s ids (valuesSet r) (valuesSet r')

/-- A response that sets no cookie tells the same as itself. -/
theorem sameTold_of_no_cookies {r : Response} (h : r.cookies = []) : SameTold s ids r r := by
  refine ⟨rfl, ?_⟩
  rw [valuesSet, h]
  exact sameNames_nil s ids

theorem sameTold_setting {id text text' : String} {config : SessionConfig} (hid : ids id)
    (htext : s.Names now id text) (htext' : s.Names now id text') :
    SameTold s ids (answer.response method (setting config (some text)))
      (answer.response method (setting config (some text'))) := by
  refine ⟨?_, ?_⟩
  · rw [Answer.ofResponse_response, Answer.ofResponse_response]
  · have hsame : SameName s ids text text' := ⟨id, now, hid, htext, htext'⟩
    obtain ⟨b, rfl⟩ := htext.writes.exists_encode
    obtain ⟨b', rfl⟩ := htext'.writes.exists_encode
    rw [valuesSet_response, valuesSet_response, filterMap_setting, filterMap_setting]
    split
    · exact ⟨[(_, _)], rfl, rfl, fun t ht => List.mem_singleton.mp ht ▸ hsame⟩
    · exact sameNames_nil s ids

/-! ### Saving in two worlds -/

section

variable (hkeyed : s.Keyed pairs) (hk : s.kind = .serverSide records)
  (hnow : Range.isInt64 now = true) {id : String} (hid : ids id)
  (hvalid : SessionId.isValid id = true)

include hkeyed hk hnow hid hvalid

/-- **The end of a request** is told alike, whether the cookie was set before or not. -/
theorem coupled_settle (hinfo : info.data.id? = some id) (hd : s.Determines info.data)
    (earlier? earlier'? : Option String) :
    (settle s now method answer info earlier?).Coupled (s.view sessionKey records ids)
      (SameTold s ids) (settle s now method answer info earlier'?) := by
  refine (SessionStore.coupled_savedText hkeyed hk hnow hid hd hinfo hvalid).bind ?_
  rintro _ _ ⟨text, text', rfl, rfl, hwrites, hwrites', -⟩
  exact .done (sameTold_setting hid ⟨hvalid, hnow, hwrites⟩ ⟨hvalid, hnow, hwrites'⟩)

/-- A session gets the same id in both. -/
theorem coupled_establish (hd : s.Determines (info.data.insert SessionData.idKey (.str id))) :
    (establish s now method info id).Coupled (s.view sessionKey records ids) (SameTold s ids)
      (establish s now method info id) := by
  have hinfo : (info.data.insert SessionData.idKey (.str id)).id? = some id :=
    SessionData.id?_insert_id
  refine (SessionStore.coupled_savedText hkeyed hk hnow hid hd hinfo hvalid).bind ?_
  rintro _ _ ⟨text, text', rfl, rfl, -⟩
  exact coupled_settle hkeyed hk hnow hid hvalid hinfo hd _ _

end

/-! ### A request in two worlds -/

variable {factory : SessionFactory} {name : String} {action : Action} {request : Request}
  {w w' : World} {d : SessionData} {cookies : List String}

namespace Turn

/-- Cookies that are read alike load alike. -/
theorem load_of_read_alike
    (hread : (s.readCookie (Cookie.Jar.ofHeaders request.cookies) sessionKey w.seconds).toOption =
      (s.readCookie (Cookie.Jar.ofHeaders cookies) sessionKey w.seconds).toOption) :
    (Turn.inWorld w { request with cookies := cookies }).load s = (Turn.inWorld w request).load s :=
  congrArg (fun p => p.run World.respond w) (SessionStore.load_congr hread).symm

/-- The same cookies load alike in two worlds that tell the same. -/
theorem load_alike (hk : s.kind = .serverSide records) (hnow' : w'.now = w.now)
    (hw : (s.view sessionKey records ids).Alike w.now w w')
    (hids : ∀ d id, s.readCookie (Cookie.Jar.ofHeaders request.cookies) sessionKey w.seconds = .ok d →
      d.id? = some id → ids id) :
    ((Turn.inWorld w' request).load s).1 = ((Turn.inWorld w request).load s).1 := by
  have hseconds : w'.seconds = w.seconds := congrArg (· / 1000) hnow'
  obtain ⟨hsame, -⟩ := (SessionStore.coupled_load hk hids).run rfl hnow' hw
  show ((s.load _ sessionKey w'.seconds).run World.respond w').1 = _
  rw [hseconds]
  exact hsame.symm

end Turn

section

variable (hkeyed : s.Keyed pairs) (hk : s.kind = .serverSide records)
  (hclock : Range.isInt64 w.seconds = true) (hnow' : w'.now = w.now)
  (hw : (s.view sessionKey records ids).Alike w.now w w')
  (hloaded : ∀ id, d.id? = some id → ids id ∧ SessionId.isValid id = true)

include hkeyed hk hclock hnow' hw hloaded

/-- What follows on loading is told alike if the session keeps its id, or has none. -/
theorem proceed_alike_of_kept (hkept : ¬ (action.isInit ∧ d.id? = none))
    (hd : s.Determines (outcome factory name action d).data) :
    let p := proceed factory w.seconds name s method action d
    SameTold s ids (p.run World.respond w).1 (p.run World.respond w').1 ∧
      (s.view sessionKey records ids).Alike w.now (p.run World.respond w).2
        (p.run World.respond w').2 := by
  intro p
  have hp : p = settle s w.seconds method (SessionMap.step "" d.values action).1
      (outcome factory name action d) none := if_neg hkept
  have hinfo : (outcome factory name action d).data.id? = d.id? := id?_outcome hkept
  rw [hp]
  cases hid : d.id? with
  | none =>
      have hnot : ¬ s.Carries (outcome factory name action d).data := by
        rintro (hcookie | hsome)
        · exact SessionStore.kind_ne_cookie hk hcookie
        · exact hsome (hinfo.trans hid)
      rw [settle_of_not_carries hnot]
      exact ⟨sameTold_of_no_cookies (Answer.cookies_response ..), hw⟩
  | some id =>
      obtain ⟨hseen, hvalid⟩ := hloaded id hid
      exact (coupled_settle hkeyed hk hclock hseen hvalid (hinfo.trans hid) hd none none).run
        rfl hnow' hw

omit hloaded in
/-- It is told alike too if the session gets the same id. -/
theorem proceed_alike_of_minted (hinit : action.isInit = true) (hnone : d.id? = none)
    (hseen : ids w.freshId) (hsame : w'.freshId = w.freshId)
    (hd : s.Determines (d.insert SessionData.idKey (.str w.freshId))) :
    let p := proceed factory w.seconds name s method action d
    SameTold s ids (p.run World.respond w).1 (p.run World.respond w').1 ∧
      (s.view sessionKey records ids).Alike w.now (p.run World.respond w).2
        (p.run World.respond w').2 := by
  intro p
  have hp : p = mint s w.seconds method
      { data := d, store := name, config := factory.defaultConfig } := if_pos ⟨hinit, hnone⟩
  rw [hp, mint, Plan.run_bind, Plan.run_bind, World.run_generate hw.supplied,
    World.run_generate hw.supplied', hsame]
  -- what was drawn for the id is no record
  have hdrawn : (s.view sessionKey records ids).Alike w.now
      { w with entropy := { w.entropy with position := w.entropy.position + SessionId.octets } }
      { w' with
        entropy := { w'.entropy with position := w'.entropy.position + SessionId.octets } } :=
    ⟨hw.supplied, hw.supplied', hw.records⟩
  exact (coupled_establish hkeyed hk hclock hseen w.isValid_freshId hd).run rfl hnow' hdrawn

end

/-- **A request in two worlds** that read its cookies alike is told alike, and leaves them alike, if
the same id is drawn where one is made. -/
theorem respond_alike (hs : factory.store name = .ok s) (hkeyed : s.Keyed pairs)
    (hk : s.kind = .serverSide records)
    (hname : ∀ action, Action.ofRequest request = .ok action → action.Uses name)
    (hclock : Range.isInt64 w.seconds = true) (hnow' : w'.now = w.now)
    (hw : (s.view sessionKey records ids).Alike w.now w w')
    (hread : (s.readCookie (Cookie.Jar.ofHeaders request.cookies) sessionKey w.seconds).toOption =
      (s.readCookie (Cookie.Jar.ofHeaders cookies) sessionKey w.seconds).toOption)
    (hids : ∀ d id, s.readCookie (Cookie.Jar.ofHeaders request.cookies) sessionKey w.seconds = .ok d →
      d.id? = some id → ids id)
    (hfresh : (Turn.inWorld w request).Mints factory w.freshId →
      (Turn.inWorld w' { request with cookies := cookies }).Mints factory w'.freshId →
        ids w.freshId ∧ w'.freshId = w.freshId)
    (hdata : ∀ f ∈ (Turn.inWorld w request).saved factory, s.Determines f.2.data) :
    let after := (respond factory w.seconds request).run World.respond w
    let after' :=
      (respond factory w'.seconds { request with cookies := cookies }).run World.respond w'
    SameTold s ids after.1 after'.1 ∧
      (s.view sessionKey records ids).Alike w.now after.2 after'.2 := by
  have hseconds : w'.seconds = w.seconds := congrArg (· / 1000) hnow'
  -- the cookies count when the session is loaded, so both worlds run the same plan
  rw [hseconds, ← respond_of_load_eq hs hname (SessionStore.load_congr hread)]
  rcases Turn.opens_or_answered factory (Turn.inWorld w request) with
    ⟨action, name', s', hopens⟩ | ⟨response, hanswered⟩
  · have huses := hname action hopens.action_eq
    have hopens : (Turn.inWorld w request).Opens factory action name s :=
      ⟨hopens.action_eq, hopens.loads, huses, hs⟩
    have hopens' : (Turn.inWorld w' request).Opens factory action name s :=
      ⟨hopens.action_eq, hopens.loads, huses, hs⟩
    have hsame : ((Turn.inWorld w' request).load s).1 = ((Turn.inWorld w request).load s).1 :=
      Turn.load_alike hk hnow' hw hids
    have hloaded : ∀ id, ((Turn.inWorld w request).load s).1.id? = some id →
        ids id ∧ SessionId.isValid id = true := by
      intro id hid
      obtain ⟨d, hd, hid, hvalid⟩ := SessionStore.exists_of_id?_load hid
      exact ⟨hids d id hd hid, hvalid (SessionStore.kind_ne_cookie hk)⟩
    have hrun' := run_respond_of_opens hopens'
    rw [hseconds, hsame] at hrun'
    rw [run_respond_of_opens hopens, hrun']
    -- a request that makes an id, which is the same on both sides, or one that keeps what is there
    by_cases hmints : action.isInit ∧ ((Turn.inWorld w request).load s).1.id? = none
    · have hread' := hread
      rw [← hseconds] at hread'
      have hmints' : (Turn.inWorld w' { request with cookies := cookies }).Mints factory
          w'.freshId := by
        refine Turn.mints_freshId ⟨hopens.action_eq, hopens.loads, huses, hs⟩ hmints.1 ?_
          hw.supplied'
        rw [Turn.load_of_read_alike hread', hsame]
        exact hmints.2
      obtain ⟨hseen, hfresh⟩ :=
        hfresh (Turn.mints_freshId hopens hmints.1 hmints.2 hw.supplied) hmints'
      have hsaved := Turn.saved_of_fresh hopens hmints.1 hmints.2 hw.supplied
      exact proceed_alike_of_minted hkeyed hk hclock hnow' hw hmints.1 hmints.2 hseen hfresh
        (hdata _ (hsaved ▸ List.mem_singleton_self _))
    · exact proceed_alike_of_kept hkeyed hk hclock hnow' hw hloaded hmints
        (hdata _ (Turn.saved_of_kept hopens hmints ▸ List.mem_singleton_self _))
  · have hdone : respond factory w.seconds request = .done response := hanswered.respond_eq
    rw [hdone]
    exact ⟨sameTold_of_no_cookies hanswered.cookies_eq, hw⟩

/-! ### What a request is about -/

section

variable {σ : Type} {respond : Responder σ} {t : σ} (hk : s.kind = .serverSide records)
  (hnow : Range.isInt64 now = true) {value : String}

include hk hnow

/-- The cookie names the id of the session that is saved. -/
theorem exists_names_of_settle {earlier? : Option String}
    (hearlier : ∀ text, earlier? = some text → ∃ id, info.data.id? = some id ∧ s.Names now id text)
    (h : value ∈ valuesSet ((settle s now method answer info earlier?).run respond t).1) :
    ∃ id, info.data.id? = some id ∧ s.Names now id value := by
  rw [settle, Plan.run_bind, run_done, valuesSet_response] at h
  cases hset : Option.or ((s.savedText sessionKey now info).run.run respond t).1.toOption
      earlier? with
  | none =>
      rw [hset] at h
      cases h
  | some text =>
      have htext : ∃ id, info.data.id? = some id ∧ s.Names now id text := by
        cases hmade : ((s.savedText sessionKey now info).run.run respond t).1 with
        | ok made =>
            rw [hmade] at hset
            cases hset
            obtain ⟨id, hid, hvalid, hwrites⟩ := SessionStore.exists_of_run_savedText hk hmade
            exact ⟨id, hid, hvalid, hnow, hwrites⟩
        | error e =>
            rw [hmade] at hset
            exact hearlier text hset
      obtain ⟨id, hid, hnames⟩ := htext
      obtain ⟨b, rfl⟩ := hnames.writes.exists_encode
      rw [hset, filterMap_setting] at h
      split at h
      · rw [List.mem_singleton.mp h]
        exact ⟨id, hid, hnames⟩
      · cases h

theorem exists_names_of_establish {fresh : String}
    (h : value ∈ valuesSet ((establish s now method info fresh).run respond t).1) :
    ∃ id, (info.data.insert SessionData.idKey (.str fresh)).id? = some id ∧ s.Names now id value := by
  rw [establish, Plan.run_bind] at h
  split at h
  · refine exists_names_of_settle hk hnow ?_ h
    rintro _ ⟨⟩
  · rename_i text hmade
    refine exists_names_of_settle hk hnow ?_ h
    rintro _ ⟨⟩
    obtain ⟨id, hid, hvalid, hwrites⟩ := SessionStore.exists_of_run_savedText hk hmade
    exact ⟨id, hid, hvalid, hnow, hwrites⟩

end

namespace Turn

variable {σ : Type} {t : Turn σ} {id value : String}

/-- The request is about an id: that of the session that it loads, or one that it makes. -/
def Bears (factory : SessionFactory) (t : Turn σ) (id : String) : Prop :=
  (∃ d, t.Loads factory d ∧ d.id? = some id) ∨ t.Mints factory id

/-- The session that is saved has the id that the request is about. -/
theorem Serves.bears (h : t.Serves factory d info) (hloads : t.Loads factory d)
    (hid : info.data.id? = some id) : t.Bears factory id := by
  cases hd : d.id? with
  | none => exact Or.inr (h.mints hd id hid)
  | some id' =>
      have hkept := h.keeps id' hd
      rw [hid] at hkept
      cases hkept
      exact Or.inl ⟨d, hloads, hd⟩

/-- **The calls of a request** are about no other id. -/
theorem bears_of_mem_calls {call : Call} (hcall : call ∈ t.calls factory)
    (hid : call.id? = some id) : t.Bears factory id := by
  rcases opens_or_idles factory t with ⟨action, name, s, hopens⟩ | hidles
  · obtain ⟨info, -, hserves⟩ := exists_serves hopens
    exact hserves.bears ⟨action, name, s, hopens, rfl⟩ (hserves.calls call hcall id hid)
  · rw [hidles.calls_eq] at hcall
    cases hcall

/-- **The cookies of a response** name no other id. -/
theorem exists_names_of_mem (hs : factory.store name = .ok s) (hk : s.kind = .serverSide records)
    (hname : ∀ action, Action.ofRequest request = .ok action → action.Uses name)
    (hclock : Range.isInt64 w.seconds = true) (hw : w.entropy.broken = false)
    (h : value ∈ valuesSet ((Service.respond factory w.seconds request).run World.respond w).1) :
    ∃ id, (inWorld w request).Bears factory id ∧ s.Names w.seconds id value := by
  rcases opens_or_answered factory (inWorld w request) with
    ⟨action, name', s', hopens⟩ | ⟨response, hanswered⟩
  · have hopens : (inWorld w request).Opens factory action name s :=
      ⟨hopens.action_eq, hopens.loads, hname action hopens.action_eq, hs⟩
    obtain ⟨info, -, hserves⟩ := exists_serves hopens
    have hsaved := hserves.saved_eq
    suffices hnames : ∃ id, info.data.id? = some id ∧ s.Names w.seconds id value by
      obtain ⟨id, hid, hnames⟩ := hnames
      exact ⟨id, hserves.bears ⟨action, name, s, hopens, rfl⟩ hid, hnames⟩
    rw [run_respond_of_opens hopens] at h
    by_cases hmints : action.isInit ∧ ((inWorld w request).load s).1.id? = none
    · rw [saved_of_fresh hopens hmints.1 hmints.2 hw] at hsaved
      cases hsaved
      rw [proceed, if_pos hmints, mint, Plan.run_bind, World.run_generate hw] at h
      exact exists_names_of_establish hk hclock h
    · rw [saved_of_kept hopens hmints] at hsaved
      cases hsaved
      rw [proceed, if_neg hmints] at h
      refine exists_names_of_settle hk hclock ?_ h
      rintro _ ⟨⟩
  · have hdone : Service.respond factory w.seconds request = .done response := hanswered.respond_eq
    rw [hdone, run_done, valuesSet, hanswered.cookies_eq] at h
    cases h

end Turn

end Service

end WebSession
