import WebSession.Proofs.Json
import WebSession.Proofs.Service.Refinement
import WebSession.Proofs.Service.SetCookie

/-!
# WebSession.Proofs.Service.Nesting

**What the service saves is not too high to be read** (`saved_sessions_are_readable`): in a run of
requests through stores of the same keys, a saved session is two levels higher at most than the values
that were posted, however often these are loaded, merged and saved again and however many messages are
added.

The levels do not add up because a message is put beside the others and not around them. So the
invariant is one of messages: those of every value, which are the items of a list and else the value
itself, are no higher than what was posted (`Low`). One action keeps it (`low_step`), and what is
loaded was saved before.

Values that are posted are low by themselves, unless the body holds embedded texts, each of which may
have as many levels again as reading follows.
-/

namespace WebSession

open Plan

namespace Service

open Http

/-! ### Low sessions -/

/-- The messages of every value are no higher than a height. -/
def Low (n : Nat) (m : SessionMap) : Prop :=
  ∀ key v, m.get? key = some v → ∀ message ∈ SessionMap.messagesOf v, message.height ≤ n

variable {n : Nat} {m : SessionMap}

theorem low_empty (n : Nat) : Low n .empty := fun _ _ h => nomatch h

theorem Low.set {key : String} {v : Value} (h : Low n m)
    (hv : ∀ message ∈ SessionMap.messagesOf v, message.height ≤ n) : Low n (m.set key v) := by
  intro other w hw
  by_cases hother : other = key
  · subst hother
    rw [Dict.get?_set_self] at hw
    cases hw
    exact hv
  · rw [Dict.get?_set_of_ne hother] at hw
    exact h other w hw

theorem Low.erase (h : Low n m) (key : String) : Low n (m.erase key) := by
  intro other w hw
  by_cases hother : other = key
  · rw [hother, Fields.get?_erase_self] at hw
    cases hw
  · rw [Fields.get?_erase_of_ne hother] at hw
    exact h other w hw

/-- The messages of a value are no higher than the value. -/
theorem height_of_mem_messagesOf {v message : Value} (h : message ∈ SessionMap.messagesOf v) :
    message.height ≤ v.height := by
  cases v with
  | list messages => exact Nat.le_of_lt (Value.height_lt_of_mem_list h)
  | _ => rw [List.mem_singleton.mp h]

/-- A value is at most one level higher than its messages. -/
theorem height_le_of_messagesOf {v : Value}
    (h : ∀ message ∈ SessionMap.messagesOf v, message.height ≤ n) : v.height ≤ n + 1 := by
  cases v with
  | list messages => exact Nat.succ_le_succ (Value.heightOfItems_le_iff.mpr h)
  | _ => exact Nat.le_succ_of_le (h _ (List.mem_singleton_self _))

/-- **A low session** is at most two levels higher than its messages. -/
theorem Low.height_le {d : SessionData} (h : Low n d.values) : d.height ≤ n + 2 := by
  refine Nat.succ_le_succ (Value.heightOfFields_le_iff.mpr fun f hf => ?_)
  exact height_le_of_messagesOf (h f.1 f.2 (Fields.mem_toList_iff.mp hf))

theorem Low.override (h : Low n m) {fields : Dict Json}
    (hfields : ∀ f ∈ fields.toList, f.2.height ≤ n) : Low n (m.override fields) := by
  rw [SessionMap.override]
  generalize fields.toList = l at hfields
  induction l generalizing m with
  | nil => exact h
  | cons f more ih =>
      refine ih (h.set fun message hmessage => ?_) fun g hg => hfields g (List.mem_cons_of_mem _ hg)
      have hf := hfields f List.mem_cons_self
      rw [← Value.height_ofJson] at hf
      exact Nat.le_trans (height_of_mem_messagesOf hmessage) hf

/-- A text is low. -/
theorem low_str (s : String) :
    ∀ message ∈ SessionMap.messagesOf (.str s), message.height ≤ n := by
  intro message hmessage
  rw [List.mem_singleton.mp hmessage]
  exact Nat.zero_le _

/-- **One action keeps a session low**, if what it posts is. A message is put beside the others. -/
theorem low_step (h : Low n m) {action : Action}
    (hposted : ∀ store? fields, action = .setValues store? fields →
      ∀ f ∈ fields.toList, f.2.height ≤ n) (fresh : String) : Low n (m.step fresh action).2 := by
  cases action with
  | live => exact h
  | showValues store? => exact h
  | setValues store? fields =>
      rw [SessionMap.step]
      split
      · exact h
      · exact h.override (hposted store? fields rfl)
  | init store? =>
      rw [SessionMap.step]
      split
      · exact h
      · exact h.set (low_str _)
  | takeFlashes store? =>
      rw [SessionMap.step]
      split
      · exact h.erase _
      · exact h
  | addFlash store? message =>
      refine h.set fun kept hkept => ?_
      -- a message that was there before, or the new one, which is a text
      rcases List.mem_append.mp hkept with hkept | hkept
      · unfold SessionMap.messages at hkept
        cases hget : m.get? SessionMap.flashKey with
        | none =>
            rw [hget] at hkept
            cases hkept
        | some v =>
            rw [hget] at hkept
            exact h _ v hget kept hkept
      · rw [List.mem_singleton.mp hkept]
        exact Nat.zero_le _
  | logout store? =>
      rw [SessionMap.step, SessionMap.idOnly]
      split
      · exact (low_empty n).set (low_str _)
      · exact low_empty n

/-! ### Bodies -/

/-- What comes of two readings comes of both. -/
theorem exists_of_bind {ε α β : Type} {x : Except ε α} {f : α → Except ε β} {b : β}
    (h : x >>= f = .ok b) : ∃ a, x = .ok a ∧ f a = .ok b := by
  cases x with
  | error e => cases h
  | ok a => exact ⟨a, rfl, h⟩

variable {request : Request} {store? : Option String} {fields : Dict Json}

/-- The values to set are those of the body. -/
theorem fields_of_read {endpoint : Endpoint}
    (h : Action.read request endpoint = .ok (.setValues store? fields)) :
    Input.fields request = .ok fields := by
  cases endpoint with
  | live => cases h
  | setValues =>
      obtain ⟨_, -, h⟩ := exists_of_bind h
      obtain ⟨read, hread, h⟩ := exists_of_bind h
      cases h
      exact hread
  | addFlash =>
      obtain ⟨_, -, h⟩ := exists_of_bind h
      obtain ⟨_, -, h⟩ := exists_of_bind h
      cases h
  | showValues | init | takeFlashes | logout =>
      obtain ⟨_, -, h⟩ := exists_of_bind h
      cases h

theorem fields_of_ofRequest (h : Action.ofRequest request = .ok (.setValues store? fields)) :
    Input.fields request = .ok fields := by
  unfold Action.ofRequest at h
  split at h
  · cases h
  · split at h
    · cases h
    · split at h
      · rename_i endpoint _ action hread
        cases h
        exact fields_of_read hread
      · cases h

/-- They were read off the front of it. -/
theorem exists_readFields? (h : Input.fields request = .ok fields) :
    ∃ rest, Json.readFields? request.body = .ok (fields, rest) := by
  obtain ⟨body, hbody, h⟩ := exists_of_bind h
  have heq : body = request.body := by
    unfold Input.jsonBody at hbody
    split at hbody
    · cases hbody
    · split at hbody
      · cases hbody
      · exact (Except.ok.inj hbody).symm
  subst heq
  cases hread : Json.readFields? request.body with
  | error fault =>
      rw [hread] at h
      cases h
  | ok p =>
      rw [hread] at h
      cases h
      exact ⟨p.2, rfl⟩

/-! ### One request -/

variable {σ : Type} {factory : SessionFactory} {s : SessionStore}

namespace Turn

/-- The values that the request posts are no higher than a height. -/
def Posts (n : Nat) (t : Turn σ) : Prop :=
  ∀ store? fields, Action.ofRequest t.request = .ok (.setValues store? fields) →
    ∀ f ∈ fields.toList, f.2.height ≤ n

/-- Reading the body of the request comes to no embedded text. -/
def Plain (t : Turn σ) : Prop :=
  Json.readFields? t.request.body = Json.readPlain? t.request.body

/-- The request comes with a text: it is in its cookie, or a record is. -/
def Brings (t : Turn σ) (text : String) : Prop :=
  t.jar.get? sessionKey = some text ∨
    ∃ records id, (t.respond (.get records id) t.state).1 = .ok text

/-- **What is loaded** was read of a text that came with the request. -/
theorem load_of_brings (t : Turn σ) (s : SessionStore) :
    (t.load s).1 = .empty ∨ ∃ text, t.Brings text ∧
      Encoders.decode s.encoders sessionKey t.now text = .ok (t.load s).1 := by
  -- what a cookie holds was read of the text in the jar
  have hcookie : ∀ d, s.readCookie t.jar sessionKey t.now = .ok d →
      ∃ text, t.Brings text ∧ Encoders.decode s.encoders sessionKey t.now text = .ok d := by
    intro d hread
    cases hget : t.jar.get? sessionKey with
    | none =>
        rw [SessionStore.readCookie, hget] at hread
        cases hread
    | some text =>
        rw [SessionStore.readCookie_of_get? hget] at hread
        exact ⟨text, Or.inl hget, hread⟩
  cases hk : s.kind with
  | cookie =>
      rw [load, SessionStore.load_of_cookie hk]
      cases hread : s.readCookie t.jar sessionKey t.now with
      | error e => exact Or.inl rfl
      | ok d => exact Or.inr (hcookie d hread)
  | serverSide records =>
      -- the cookie leads to a record, which is taken only if it can be read and has the same id
      rcases SessionStore.load_cases hk t.jar sessionKey t.now with h | ⟨d, id, hread, -, -, h⟩
      · rw [load, h]
        exact Or.inl rfl
      · rw [load, h, run_ask, run_done]
        refine Or.inr ?_
        cases hrecord : (t.respond (.get records id) t.state).1 with
        | error e => exact hcookie d hread
        | ok text =>
            simp only [SessionStore.preferRecord]
            cases hdecode : Encoders.decode s.encoders sessionKey t.now text with
            | error e => exact hcookie d hread
            | ok d' =>
                dsimp only
                split
                · exact ⟨text, Or.inr ⟨records, id, hrecord⟩, hdecode⟩
                · exact hcookie d hread

/-- **A request saves a low session** if it loads one and posts nothing that is higher. -/
theorem low_saved {t : Turn σ} {action : Action} {name : String} (h : t.Opens factory action name s)
    (hloaded : Low n (t.load s).1.values) (hposts : t.Posts n) :
    ∀ f ∈ t.saved factory, Low n f.2.data.values := by
  have hsingle : ∀ {info : SessionInfo}, t.saved factory = [(sessionKey, info)] →
      Low n info.data.values → ∀ f ∈ t.saved factory, Low n f.2.data.values := by
    intro info hsaved hinfo f hf
    rw [hsaved, List.mem_singleton] at hf
    rw [hf]
    exact hinfo
  by_cases hkept : action.isInit ∧ (t.load s).1.id? = none
  · obtain ⟨hinit, hnone⟩ := hkept
    obtain ⟨store?, rfl⟩ := isInit_iff.mp hinit
    cases hgenerate : (SessionId.generate SessionId.octets).run.run t.respond (t.load s).2 with
    | mk generated t' =>
    cases generated with
    | error e =>
        exact hsingle (saved_of_identifies h (identifies_of_failed h.store_init t.jar t.now
          (t.load s).1 t.respond (t.load s).2 hnone hgenerate)) hloaded
    | ok fresh =>
        exact hsingle (saved_of_minted h hnone hgenerate) (hloaded.set (low_str fresh))
  · refine hsingle (saved_of_kept h hkept) (low_step hloaded (fun store? fields hset => ?_) "")
    exact hposts store? fields (hset ▸ h.action_eq)

/-- **A body without embedded texts** posts values that leave room for the body around them. -/
theorem posts_of_plain {t : Turn σ} (h : t.Plain) : t.Posts (Json.maxHeight - 1) := by
  intro store? fields haction
  obtain ⟨rest, hread⟩ := exists_readFields? (fields_of_ofRequest haction)
  rw [Plain, hread] at h
  exact Json.height_of_readPlain? h.symm

end Turn

/-! ### Runs -/

/-- In a run, told from its latest request back, every text that comes with a request and that some
store reads was written by a request before. -/
def Authored (factory : SessionFactory) : List (Turn σ) → Prop
  | [] => True
  | t :: before =>
    (∀ name s text d, factory.store name = .ok s → t.Brings text →
      Encoders.decode s.encoders sessionKey t.now text = .ok d →
        ∃ u ∈ before, u.Produces factory text) ∧
      Authored factory before

/-- **What the run saves is low**, if all that is posted is. -/
theorem low_of_saved {pairs : List KeyPair} (hkeys : ∀ name s, factory.store name = .ok s →
      KeyPair.encoders pairs s.maxLength = .ok s.encoders)
    {history : List (Turn σ)} (hauthored : Authored factory history)
    (hclock : ∀ u ∈ history, Range.isInt64 u.now = true)
    (hbreadth : ∀ u ∈ history, ∀ f ∈ u.saved factory,
      f.2.data.breadth < MessagePack.lengthBound)
    (hn : n + 2 ≤ Value.maxHeight) (hposts : ∀ u ∈ history, u.Posts n) :
    ∀ u ∈ history, ∀ f ∈ u.saved factory, Low n f.2.data.values := by
  induction history with
  | nil => exact fun u hu => nomatch hu
  | cons t before ih =>
      have hbefore := ih hauthored.2 (fun u hu => hclock u (List.mem_cons_of_mem _ hu))
        (fun u hu => hbreadth u (List.mem_cons_of_mem _ hu))
        (fun u hu => hposts u (List.mem_cons_of_mem _ hu))
      intro u hu
      rcases List.mem_cons.mp hu with rfl | hu
      · rcases Turn.opens_or_idles factory u with ⟨action, name, s, hopens⟩ | hidles
        · refine Turn.low_saved hopens ?_ (hposts u List.mem_cons_self)
          rcases u.load_of_brings s with hempty | ⟨text, hbrings, hdecode⟩
          · rw [hempty]
            exact low_empty n
          · obtain ⟨v, hv, f, hf, s₀, d₀, hs₀, hwritten, hwrites⟩ :=
              hauthored.1 name s text _ hopens.store_eq hbrings hdecode
            have hlow := hbefore v hv f hf
            have hrep : f.2.data.Representable :=
              ⟨Nat.le_trans hlow.height_le hn, hbreadth v (List.mem_cons_of_mem _ hv) f hf⟩
            -- whichever store wrote the text, this one reads what was written
            have hsame := SessionStore.eq_of_decode_of_writes (hkeys _ _ hs₀)
              (hkeys _ _ hopens.store_eq) hwrites (hwritten.representable hrep)
              (hclock v (List.mem_cons_of_mem _ hv)) hdecode
            rw [hsame]
            rcases hwritten with rfl | ⟨id, -, -, rfl⟩
            · exact hlow
            · exact (low_empty n).set (low_str id)
        · rw [hidles.saved_eq]
          exact fun f hf => nomatch hf
      · exact hbefore u hu

/-- **Every session that is saved can be read back**, from whatever form of it is written. In a run
through stores of the same keys in which every text that is read was written before, a saved session is
two levels higher at most than what was posted, and where no body comes to an embedded text it has at
most 128 levels. -/
theorem saved_sessions_are_readable {pairs : List KeyPair}
    (hkeys : ∀ name s, factory.store name = .ok s →
      KeyPair.encoders pairs s.maxLength = .ok s.encoders)
    {history : List (Turn σ)} (hauthored : Authored factory history)
    (hclock : ∀ u ∈ history, Range.isInt64 u.now = true)
    (hbreadth : ∀ u ∈ history, ∀ f ∈ u.saved factory,
      f.2.data.breadth < MessagePack.lengthBound) :
    (∀ n, n + 2 ≤ Value.maxHeight → (∀ u ∈ history, u.Posts n) →
        ∀ u ∈ history, ∀ f ∈ u.saved factory, f.2.data.height ≤ n + 2 ∧
          ∀ b, f.2.data.WrittenAs b → SessionData.deserialize b = .ok f.2.data) ∧
      ((∀ u ∈ history, u.Plain) →
        ∀ u ∈ history, ∀ f ∈ u.saved factory, f.2.data.height ≤ 128 ∧
          ∀ b, f.2.data.WrittenAs b → SessionData.deserialize b = .ok f.2.data) := by
  have hreadable : ∀ n, n + 2 ≤ Value.maxHeight → (∀ u ∈ history, u.Posts n) →
      ∀ u ∈ history, ∀ f ∈ u.saved factory, f.2.data.height ≤ n + 2 ∧
        ∀ b, f.2.data.WrittenAs b → SessionData.deserialize b = .ok f.2.data := by
    intro n hn hposts u hu f hf
    have hheight : f.2.data.height ≤ n + 2 :=
      (low_of_saved hkeys hauthored hclock hbreadth hn hposts u hu f hf).height_le
    refine ⟨hheight, fun b hb => ?_⟩
    have hread := SessionData.deserialize_of_writtenAs hb
      ⟨Nat.le_trans hheight hn, hbreadth u hu f hf⟩ []
    rwa [List.append_nil] at hread
  exact ⟨hreadable, fun hplain =>
    hreadable (Json.maxHeight - 1) (by decide) fun u hu => Turn.posts_of_plain (hplain u hu)⟩

/-! ### A sample -/

/-- Someone who asked for an id posts a value. -/
def postTurn : Turn World where
  now := 2000
  request :=
    { valueRequest with
      cookies := cookieHeaders (some (sampleText 1000 (.ofId sampleWorld.freshId))) }
  respond := World.respond
  state := sampleWorld.withNow 2000000

/-- The body is a plain one. -/
theorem plain_postTurn : postTurn.Plain := by
  have hread : Json.readFields? valueRequest.body =
      .ok (Dict.empty.set "x" (.int 1), []) := by with_unfolding_all rfl
  have hplain : Json.readPlain? valueRequest.body =
      .ok (Dict.empty.set "x" (.int 1), []) := by with_unfolding_all rfl
  exact hread.trans hplain.symm

theorem get?_postTurn : postTurn.jar.get? sessionKey =
    some (sampleText 1000 (.ofId sampleWorld.freshId)) := get?_sampleText _ _

/-- There are no records yet. -/
theorem exists_record_sample (now : Int) (records id : String) :
    ∃ e, World.respond.record records id (sampleWorld.withNow now) = .error e := by
  by_cases hname : records = "memory"
  · subst hname
    exact ⟨.noSession, rfl⟩
  · have hnone : (sampleWorld.withNow now).records.get? records = none := Dict.get?_set_of_ne hname
    exact ⟨.noStore, World.record_of_none hnone⟩

/-- So the second request loads the id of its cookie. -/
theorem load_postTurn : (postTurn.load sampleStore).1 = .ofId sampleWorld.freshId := by
  have hvalid := World.isValid_freshId sampleWorld
  have hread : sampleStore.readCookie postTurn.jar sessionKey postTurn.now =
      .ok (.ofId sampleWorld.freshId) := by
    rw [SessionStore.readCookie_of_get? get?_postTurn]
    exact SessionStore.decode_of_writes keyed_sample (writes_sampleText 1000 _)
      (SessionData.representable_ofId hvalid) (by decide) (by decide) (by decide)
      fun hcookie => nomatch hcookie
  obtain ⟨e, hrecord⟩ := exists_record_sample 2000000 "memory" sampleWorld.freshId
  rw [Turn.load, SessionStore.run_load kind_sample ⟨hread, hvalid⟩]
  dsimp only
  rw [show postTurn.respond.record "memory" sampleWorld.freshId postTurn.state = _ from hrecord]
  rfl

/-- And saves it with the value. -/
theorem saved_postTurn : ∃ info, postTurn.saved sampleFactory = [(sessionKey, info)] ∧
    info.data = ⟨sampleMap⟩ := by
  have hopens : postTurn.Opens sampleFactory
      (.setValues (some "memory") (Dict.empty.set "x" (.int 1))) "memory" sampleStore :=
    ⟨ofRequest_value, rfl, rfl, store_sample⟩
  refine ⟨_, Turn.saved_of_kept hopens (by simp [Action.isInit]), ?_⟩
  have hvalue : Value.ofJson (.int 1) = .int 1 := by
    rw [Value.ofJson]
    rfl
  have hset : SessionMap.override (SessionData.ofId sampleWorld.freshId).values
      (Dict.empty.set "x" (.int 1)) = sampleMap :=
    congrArg (Dict.set (SessionData.ofId sampleWorld.freshId).values "x") hvalue
  rw [outcome, load_postTurn, SessionMap.step, hset]
  rfl

theorem authored_sample : Authored sampleFactory [postTurn, initTurn] := by
  refine ⟨fun name s text d hs hbrings hread => ?_, fun name s text d hs hbrings hread => ?_, trivial⟩
  · rcases hbrings with hget | ⟨records, id, hrecord⟩
    · rw [get?_postTurn] at hget
      cases hget
      exact ⟨initTurn, List.mem_singleton_self _, produces_initTurn⟩
    · obtain ⟨e, he⟩ := exists_record_sample 2000000 records id
      cases he.symm.trans hrecord
  · rcases hbrings with hget | ⟨records, id, hrecord⟩
    · cases hget
    · obtain ⟨e, he⟩ := exists_record_sample 1000000 records id
      cases he.symm.trans hrecord

/-- The value is posted to a session with an id, and what is saved can be read back. -/
theorem posted_value_is_readable :
    (∃ info, postTurn.saved sampleFactory = [(sessionKey, info)] ∧ info.data = ⟨sampleMap⟩) ∧
      SessionData.deserialize (SessionData.serialize ⟨sampleMap⟩) = .ok ⟨sampleMap⟩ := by
  refine ⟨saved_postTurn, ?_⟩
  obtain ⟨info, hsaved, hdata⟩ := saved_postTurn
  have hclock : ∀ u ∈ [postTurn, initTurn], Range.isInt64 u.now = true := by
    simp only [List.forall_mem_cons]
    exact ⟨by decide, by decide, List.forall_mem_nil _⟩
  have hbreadth : ∀ u ∈ [postTurn, initTurn], ∀ f ∈ u.saved sampleFactory,
      f.2.data.breadth < MessagePack.lengthBound := by
    simp only [List.forall_mem_cons, hsaved, saved_initTurn]
    refine ⟨⟨?_, List.forall_mem_nil _⟩, ⟨?_, List.forall_mem_nil _⟩, List.forall_mem_nil _⟩
    · rw [hdata]
      decide
    · exact (SessionData.representable_ofId (World.isValid_freshId _)).breadth_lt
  have hplain : ∀ u ∈ [postTurn, initTurn], u.Plain := by
    simp only [List.forall_mem_cons]
    exact ⟨plain_postTurn, rfl, List.forall_mem_nil _⟩
  have hreadable := ((saved_sessions_are_readable keys_sample authored_sample hclock hbreadth).2
    hplain postTurn List.mem_cons_self (sessionKey, info)
    (hsaved ▸ List.mem_singleton_self _)).2
  rw [hdata] at hreadable
  exact hreadable _ (SessionData.writtenAs_serialize _)

end Service

end WebSession
