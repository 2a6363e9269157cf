import WebSession.Proofs.Service.AfterLoad
import WebSession.Proofs.Service.Ids

/-!
# WebSession.Proofs.Service.Composing

**What the service writes**: every record in a call (`Turn.composed_of_add`) and every header that sets
a cookie (`Turn.composed_of_header`) has a text that the first encoder of some store composes. This
holds of any request at any moment, whoever answers its calls.

It is shown of a request from its operations. Each is a plan that makes calls of one kind and ends
with a text of one kind (`Plan.Yields`), and what comes after it has to be right for such texts alone.
-/

namespace WebSession

open Plan

/-! ### Saving -/

/-- A call that writes a record writes a good text. -/
def Call.WritesOnly (good : String → Prop) (call : Call) : Prop :=
  ∀ store id record maxAge, call = .add store id record maxAge → good record

theorem Call.writesOnly_random (good : String → Prop) (count : Nat) :
    WritesOnly good (.random count) := fun _ _ _ _ h => nomatch h

namespace SessionStore

variable {s : SessionStore} {key : String} {now : Int} {info : SessionInfo}

/-- The text is one that the store may compose: its first encoder makes it of some session. -/
def Composes (s : SessionStore) (key : String) (now : Int) (text : String) : Prop :=
  ∃ e more d, s.encoders = e :: more ∧ e.Composes key now d text

theorem quiet_encode_composes (s : SessionStore) (key : String) (now : Int) (d : SessionData) :
    (Encoders.encode s.encoders key now d).run.Quiet fun encoded =>
      ∀ text, encoded = .ok text → s.Composes key now text := by
  cases he : s.encoders with
  | nil => exact .done fun _ h => nomatch h
  | cons e more =>
      exact (e.quiet_encode_composes key now d).mono fun _ h text htext =>
        ⟨e, more, d, he, h text htext⟩

/-- A text that was not made need not be one that the store composes. -/
theorem composes_of_error (e : Error) (text : String) (h : .error e = Except.ok text) :
    s.Composes key now text := nomatch h

/-- A record that is written has a text that the store composes. -/
theorem makes_writeRecord (s : SessionStore) (records key : String) (now : Int) (id : String)
    (info : SessionInfo) :
    (s.writeRecord records key now id info).run.Makes (Call.WritesOnly (s.Composes key now)) := by
  unfold writeRecord
  split
  · refine .ask (fun _ _ _ _ h => nomatch h) fun removed => ?_
    cases removed with
    | ok _ => exact .done _
    | error e => cases e <;> exact .done _
  · rw [ExceptT.run_bind]
    refine (s.quiet_encode_composes key now info.data).bind_makes (Call.writesOnly_random _) ?_
    intro encoded h
    cases encoded with
    | error e => exact .done _
    | ok record =>
        refine .ask (fun store id' record' maxAge heq => ?_) fun added => .done _
        cases heq
        exact h record rfl

/-- **Saving** composes the record and the text of the cookie. -/
theorem yields_savedText (s : SessionStore) (key : String) (now : Int) (info : SessionInfo) :
    (s.savedText key now info).run.Yields (Call.WritesOnly (s.Composes key now)) fun made =>
      ∀ text, made = .ok text → s.Composes key now text := by
  have hencode := fun d => (s.quiet_encode_composes key now d).yields
    (Call.writesOnly_random (s.Composes key now))
  cases hk : s.kind with
  | cookie =>
      simp only [savedText, hk]
      exact hencode info.data
  | serverSide records =>
      cases hid : info.data.id? with
      | none =>
          simp only [savedText, hk, hid]
          exact .done (composes_of_error _)
      | some id =>
          cases hvalid : SessionId.isValid id with
          | false =>
              simp only [savedText, hk, hid, SessionId.validate, hvalid]
              exact .done (composes_of_error _)
          | true =>
              rw [run_savedText_of_id hk hid hvalid]
              refine (s.makes_writeRecord records key now id info).yields.bind fun written _ => ?_
              cases written with
              | error e => exact .done (composes_of_error e)
              | ok _ => exact hencode (SessionData.ofId id)

end SessionStore

/-! ### Requests -/

namespace Service

open Http

variable {factory : SessionFactory} {s : SessionStore} {now : Int} {method : Method}
  {info : SessionInfo}

/-- Every header of the response sets the session cookie to a good text. -/
def SetsOnly (good : String → Prop) (response : Response) : Prop :=
  ∀ header ∈ response.cookies, ∃ text config, good text ∧
    header = (Cookie.ofSession sessionKey text config).text

theorem mem_setting {config : SessionConfig} {text? : Option String} {header : String}
    (h : header ∈ setting config text?) :
    ∃ text, text? = some text ∧ header = (Cookie.ofSession sessionKey text config).text := by
  cases text? with
  | none => cases h
  | some text =>
      have hmem := List.mem_of_mem_filter h
      exact ⟨text, rfl, List.mem_singleton.mp hmem⟩

/-- The plan writes texts that the store composes, in records and in cookies, and nothing else. -/
abbrev OnlyComposes (s : SessionStore) (now : Int) (p : Plan Response) : Prop :=
  p.Yields (Call.WritesOnly (s.Composes sessionKey now)) (SetsOnly (s.Composes sessionKey now))

theorem onlyComposes_settle (s : SessionStore) (now : Int) (method : Method) (answer : Answer)
    (info : SessionInfo) {earlier? : Option String}
    (hearlier : ∀ text, earlier? = some text → s.Composes sessionKey now text) :
    OnlyComposes s now (settle s now method answer info earlier?) := by
  refine (s.yields_savedText sessionKey now info).bind fun made hmade => .done fun header h => ?_
  rw [Answer.cookies_response] at h
  obtain ⟨text, htext, rfl⟩ := mem_setting h
  refine ⟨text, info.config, ?_, rfl⟩
  cases made with
  | error e => exact hearlier text htext
  | ok text' =>
      cases htext
      exact hmade text rfl

theorem onlyComposes_establish (s : SessionStore) (now : Int) (method : Method) (info : SessionInfo)
    (fresh : String) : OnlyComposes s now (establish s now method info fresh) := by
  refine (s.yields_savedText sessionKey now _).bind fun made hmade => ?_
  cases made with
  | error e => exact onlyComposes_settle s now method _ _ fun _ h => nomatch h
  | ok text =>
      refine onlyComposes_settle s now method _ _ fun text' h => ?_
      cases h
      exact hmade text rfl

theorem onlyComposes_mint (s : SessionStore) (now : Int) (method : Method) (info : SessionInfo) :
    OnlyComposes s now (mint s now method info) := by
  refine (SessionId.quiet_generate.yields (Call.writesOnly_random _)).bind fun generated _ => ?_
  cases generated with
  | error e => exact onlyComposes_settle s now method _ _ fun _ h => nomatch h
  | ok fresh => exact onlyComposes_establish s now method info fresh

theorem onlyComposes_proceed (factory : SessionFactory) (now : Int) (name : String)
    (s : SessionStore) (method : Method) (action : Action) (d : SessionData) :
    OnlyComposes s now (proceed factory now name s method action d) := by
  unfold proceed
  split
  · exact onlyComposes_mint s now method _
  · exact onlyComposes_settle s now method _ _ fun _ h => nomatch h

/-- Loading writes nothing. -/
theorem makes_load_nothing (s : SessionStore) (jar : Cookie.Jar) (now : Int)
    (good : String → Prop) : (s.load jar sessionKey now).Makes (Call.WritesOnly good) := by
  refine (s.makes_load jar sessionKey now).mono fun call hcall => ?_
  cases hcall with
  | get => exact fun _ _ _ _ h => nomatch h

/-- The text is one that some store of the service may compose. -/
def Composed (factory : SessionFactory) (now : Int) (text : String) : Prop :=
  ∃ name s, factory.store name = .ok s ∧ s.Composes sessionKey now text

namespace Turn

variable {σ : Type} {t : Turn σ} {action : Action} {name : String}

/-- **A request that opens a session** writes what its store composes. -/
theorem onlyComposes_of_opens (h : t.Opens factory action name s) :
    OnlyComposes s t.now (Service.respond factory t.now t.request) := by
  rw [respond_eq_load t.now h.action_eq h.loads h.uses h.store_eq]
  exact (makes_load_nothing ..).yields.bind fun d _ => onlyComposes_proceed ..

/-- **Records** have composed texts. -/
theorem composed_of_add {store id record : String} {maxAge : Int}
    (h : .add store id record maxAge ∈ t.calls factory) : Composed factory t.now record := by
  rcases opens_or_answered factory t with ⟨action, name, s, hopens⟩ | ⟨answer, hanswered⟩
  · have hwrites := (onlyComposes_of_opens hopens).makes.of_mem_trace h
    exact ⟨name, s, hopens.store_eq, hwrites _ _ _ _ rfl⟩
  · rw [hanswered.idles.calls_eq] at h
    cases h

/-- **Cookies** are set to composed texts. -/
theorem composed_of_header {header : String} (h : header ∈ (t.response factory).cookies) :
    ∃ text config, Composed factory t.now text ∧
      header = (Cookie.ofSession sessionKey text config).text := by
  rcases opens_or_answered factory t with ⟨action, name, s, hopens⟩ | ⟨answer, hanswered⟩
  · obtain ⟨text, config, hcomposes, hheader⟩ :=
      (onlyComposes_of_opens hopens).good_run t.respond t.state header h
    exact ⟨text, config, ⟨name, s, hopens.store_eq, hcomposes⟩, hheader⟩
  · rw [response, hanswered.respond_eq, run_done, hanswered.cookies_eq] at h
    cases h

end Turn

end Service

end WebSession
