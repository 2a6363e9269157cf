import WebSession.Proofs.Cookie.Setting
import WebSession.Proofs.Service.Actions
import WebSession.Proofs.SessionStore.Serving

/-!
# WebSession.Proofs.Service.Client

**A client that always sends back its session cookie** (`serve`): it keeps the value that a response
gives the cookie, as it stands in the header, and sends it with every request until it gets another.

What a session was saved as is thereby what the next request is about (`latest_of_valueSet?`,
`get?_cookieHeaders`).
-/

namespace WebSession

namespace Service

open Http

/-! ### The cookie of the client -/

/-- The headers of a client that holds a value of its session cookie, or none yet. -/
def cookieHeaders (held? : Option String) : List String :=
  (held?.map fun value => sessionKey ++ "=" ++ value).toList

/-- The value that a header gives the session cookie: what stands behind the first equals sign and in
front of the first semicolon. -/
def valueSet? (header : String) : Option String :=
  match (header.toList.takeWhile (· ≠ ';')).span (· ≠ '=') with
  | (_, []) => none
  | (name, _ :: value) =>
    if String.ofList name = sessionKey then some (String.ofList value) else none

/-- The value that a client holds after a response with some headers. -/
def latest (held? : Option String) (headers : List String) : Option String :=
  (headers.filterMap valueSet?).getLast?.or held?

@[simp] theorem latest_nil (held? : Option String) : latest held? [] = held? := rfl

/-! ### Visits -/

/-- A request and the millisecond at which it comes in. -/
structure Visit where
  now : Int
  request : Request

namespace Visit

variable (v : Visit)

/-- What the client asks for, unless the request is refused. -/
def action? : Option Action := (Action.ofRequest v.request).toOption

theorem action?_of_ok {v : Visit} {action : Action} (h : Action.ofRequest v.request = .ok action) :
    v.action? = some action := by
  rw [action?, h]
  rfl

theorem action?_of_error {v : Visit} {response : Response}
    (h : Action.ofRequest v.request = .error response) : v.action? = none := by
  rw [action?, h]
  rfl

/-- The request loads the session. -/
def loads : Bool := v.action?.any Action.loads

/-- The request gives the session an id. -/
def inits : Bool := v.action?.any Action.isInit

/-- The request as it is sent by a client that holds a value of its session cookie, or none yet. -/
def sent (held? : Option String) : Request := { v.request with cookies := cookieHeaders held? }

end Visit

/-- A request as it was sent, the world that it came into, and the response. -/
structure Exchange where
  request : Request
  world : World
  response : Response

/-- The exchanges of a client that sends one request after the other. -/
def serve (factory : SessionFactory) : Option String → World → List Visit → List Exchange
  | _, _, [] => []
  | held?, w, v :: more =>
    let w := w.withNow v.now
    let after := (respond factory w.seconds (v.sent held?)).run World.respond w
    { request := v.sent held?, world := w, response := after.1 } ::
      serve factory (latest held? after.1.cookies) after.2 more

/-! ### What was saved -/

theorem isBare_sessionKey : ∀ c ∈ sessionKey.toList, Cookie.isBare c = true :=
  List.all_eq_true.mp (by decide : sessionKey.toList.all Cookie.isBare = true)

/-- The client sends what it holds. -/
theorem get?_cookieHeaders (b : Bytes) :
    (Cookie.Jar.ofHeaders (cookieHeaders (some (Base64Url.encode b)))).get? sessionKey =
      some (Base64Url.encode b) :=
  Cookie.Jar.get?_ofHeaders_bare isBare_sessionKey (by decide) fun _ => Cookie.isBare_of_mem_encode

/-- The client reads the text of the cookie off the header that sets it. -/
theorem valueSet?_ofSession (b : Bytes) (config : SessionConfig) :
    valueSet? (Cookie.ofSession sessionKey (Base64Url.encode b) config).text =
      some (Base64Url.encode b) := by
  have hname : Cookie.percentEncode sessionKey = sessionKey := by decide
  have htake : (Cookie.ofSession sessionKey (Base64Url.encode b) config).text.toList.takeWhile
      (· ≠ ';') = sessionKey.toList ++ '=' :: (Base64Url.encode b).toList := by
    have hfront := congrArg String.toList
      (Cookie.front_text (Cookie.ofSession sessionKey (Base64Url.encode b) config))
    rw [Cookie.front, String.toList_ofList, Cookie.toList_part] at hfront
    simp only [Cookie.ofSession, hname, Cookie.percentEncode_encode] at hfront
    exact hfront
  rw [valueSet?, htake, Cookie.span_of_inert fun c hc =>
    Cookie.isInert_of_isBare (isBare_sessionKey c hc)]
  simp

/-- Of two cookies with one name only the second is set. -/
theorem add_add (jar : Cookie.Jar) {c c' : Cookie} (hname : c.name = c'.name) :
    (jar.add c).add c' = jar.add c' := by
  have hset : (jar.changes.set c.name c).set c'.name c' = jar.changes.set c'.name c' := by
    refine Fields.ext_get? fun name => ?_
    by_cases h : name = c'.name
    · subst h
      rw [Dict.get?_set_self, Dict.get?_set_self]
    · rw [Dict.get?_set_of_ne h, Dict.get?_set_of_ne (hname ▸ h), Dict.get?_set_of_ne h]
  simp only [Cookie.Jar.add, hset]

/-- A jar in which nothing else is set sets the cookie of a session. -/
theorem headers_add {jar : Cookie.Jar} (hjar : jar.changes = .empty) (b : Bytes)
    {config : SessionConfig} (hpath : Cookie.isHeaderText config.path = true)
    (hdomain : Cookie.isHeaderText config.domain = true) :
    (jar.add (Cookie.ofSession sessionKey (Base64Url.encode b) config)).headers =
      [(Cookie.ofSession sessionKey (Base64Url.encode b) config).text] := by
  have hlist (c : Cookie) : (Dict.empty.set c.name c).toList = [(c.name, c)] := Fields.toList_cons
  rw [Cookie.Jar.headers, Cookie.Jar.add, hjar]
  simp only [hlist, List.map_cons, List.map_nil]
  rw [List.filter_cons_of_pos (Cookie.isHeaderText_text hpath hdomain _ _), List.filter_nil]

/-- **The client holds** the value that the only header gives the session cookie. -/
theorem latest_of_valueSet? {header value : String} (h : valueSet? header = some value)
    (held? : Option String) : latest held? [header] = some value := by
  rw [latest, List.filterMap_cons, h]
  rfl

/-! ### A sample -/

/-- A service that keeps sessions in memory. -/
def sampleStore : SessionStore where
  kind := .serverSide "memory"
  encoders := [{ Encoder.ofKeys [1, 2] none with maxAge := SessionConfig.defaultMaxAge }]

def sampleFactory : SessionFactory where
  stores := Dict.empty.set "memory" sampleStore

theorem store_sample : sampleFactory.store "memory" = .ok sampleStore := rfl

theorem kind_sample : sampleStore.kind = .serverSide "memory" := rfl

theorem encoders_sample : sampleStore.encoders =
    [{ Encoder.ofKeys [1, 2] none with maxAge := SessionConfig.defaultMaxAge }] := rfl

theorem keyed_sample : sampleStore.Keyed [{ hashKey := [1, 2] }] := ⟨List.cons_ne_nil _ _, rfl⟩

/-- The service at its start. -/
def sampleWorld : World where
  now := 0
  entropy := { octet := fun _ => 0 }
  records := Dict.empty.set "memory" (.memory {})

theorem inMemory_sample : sampleWorld.InMemory sampleStore := by
  intro records hk
  cases hk
  exact ⟨_, Dict.get?_set_self⟩

/-- A text of the sample store. It has no cipher, so there is one for each session and second. -/
@[irreducible] def sampleText (made : Int) (d : SessionData) : String :=
  Encoder.signed (Sha256.authenticate [1, 2]) sessionKey (Base64Url.encode d.serialize)
    (Numeral.text made)

theorem writes_sampleText (made : Int) (d : SessionData) :
    sampleStore.Writes sessionKey made d (sampleText made d) := by
  rw [sampleText]
  exact ⟨_, [], rfl, Encoder.writes_plain rfl rfl sessionKey made d⟩

theorem get?_sampleText (made : Int) (d : SessionData) :
    (Cookie.Jar.ofHeaders (cookieHeaders (some (sampleText made d)))).get? sessionKey =
      some (sampleText made d) := by
  rw [sampleText, Encoder.signed_eq]
  exact get?_cookieHeaders _

/-- A request for an id, and one for the values. -/
def idRequest : Request :=
  { method := .post, path := "/session/init", query := "store=memory" }

def showRequest : Request := { path := "/session", query := "store=memory" }

theorem ofRequest_id : Action.ofRequest idRequest = .ok (.init (some "memory")) := by
  with_unfolding_all rfl

theorem ofRequest_show : Action.ofRequest showRequest = .ok (.showValues (some "memory")) := by
  with_unfolding_all rfl

end Service

end WebSession
