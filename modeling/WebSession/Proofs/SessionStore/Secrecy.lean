import WebSession.Proofs.Cookie
import WebSession.Proofs.Plan.Alike
import WebSession.Proofs.SessionStore.Serving

/-!
# WebSession.Proofs.SessionStore.Secrecy

**Of a server-side session only its id reaches the client** (`only_id_reaches_client`). The cookie
that is set is read as the session with the id and nothing else, and two sessions with one id that
are saved alike leave the same jar: what tells between them is the text of the record alone
(`alike_save`).

Not every success sets a cookie that can be read (`cookie_not_set_or_not_read`): initializing leaves
a session that has an id alone, a time of zero is none, and an encoder may be given a limit that is
shorter than all its texts.
-/

namespace WebSession

open Plan

/-! ### What is read of a text -/

/-- A text that was written at one time is read as a session, whenever it is not too long and its
age is right. -/
def Encoder.Reads (e : Encoder) (key : String) (made : Int) (text : String) (d : SessionData) :
    Prop :=
  ∀ now, e.decode key now text =
    if e.maxLength ≠ 0 ∧ e.maxLength < text.utf8ByteSize then .error .maxLength
    else e.checkAge (e.clock made) (e.clock now) >>= fun _ => .ok d

theorem Encoder.Writes.reads {e : Encoder} {key text : String} {made : Int} {d : SessionData}
    (h : e.Writes key made d text) (hd : d.Representable)
    (hmade : Range.isInt64 (e.clock made) = true) : e.Reads key made text d := by
  intro now
  rw [Encoder.decode_of_writes h hmade, SessionData.deserialize_serialize hd]

namespace SessionStore

variable {σ : Type} {respond : Responder σ} {t : σ} {s : SessionStore} {records key id : String}
  {jar jar' : Cookie.Jar} {now : Int} {info info' : SessionInfo}

/-! ### The cookie -/

/-- What is saved has a valid id. -/
theorem exists_id_of_save (hk : s.kind = .serverSide records)
    (h : ((s.save jar key now info).run.run respond t).1 = .ok jar') :
    ∃ id, info.data.id? = some id ∧ SessionId.isValid id = true := by
  cases hid : info.data.id? with
  | none =>
      simp only [save, hk, saveRecord, hid] at h
      cases h
  | some id =>
      refine ⟨id, rfl, ?_⟩
      cases hv : SessionId.isValid id with
      | true => rfl
      | false =>
          simp only [save, hk, saveRecord, hid, SessionId.validate, hv] at h
          cases h

/-- **A server-side store sets a cookie to the id** of the session it saves, and to nothing else. -/
theorem exists_of_save (hk : s.kind = .serverSide records) (hid : info.data.id? = some id)
    (h : ((s.save jar key now info).run.run respond t).1 = .ok jar') :
    ∃ text, jar' = jar.add (Cookie.ofSession key text info.config) ∧
      s.Writes key now (.ofId id) text := by
  obtain ⟨id', hid', hvalid⟩ := exists_id_of_save hk h
  cases hid.symm.trans hid'
  rw [save_eq hk hid hvalid, Plan.run_bind] at h
  cases hwritten : (s.writeRecord records key now id info).run.run respond t with
  | mk written t' =>
  rw [hwritten] at h
  cases written with
  | error e => cases h
  | ok u =>
      dsimp only at h
      rw [setCookie, ExceptT.run_bind, Plan.run_bind] at h
      cases hencode : (Encoders.encode s.encoders key now (SessionData.ofId id)).run.run
          respond t' with
      | mk encoded t'' =>
      rw [hencode] at h
      cases encoded with
      | error e => cases h
      | ok text =>
          cases h
          exact ⟨text, rfl, writes_of_encode (congrArg Prod.fst hencode)⟩

/-- The jar is another one with a cookie that is read as the id of a session and nothing else. -/
def ShowsId (e : Encoder) (key : String) (now : Int) (jar : Cookie.Jar) (info : SessionInfo)
    (jar' : Cookie.Jar) : Prop :=
  ∃ id text, info.data.id? = some id ∧ jar' = jar.add (Cookie.ofSession key text info.config) ∧
    e.Reads key now text (.ofId id)

/-- **Saving with success** sets a cookie that shows the id. -/
theorem showsId_of_save {e : Encoder} {more : List Encoder} (hk : s.kind = .serverSide records)
    (he : s.encoders = e :: more) (hnow : Range.isInt64 (e.clock now) = true)
    (h : ((s.save jar key now info).run.run respond t).1 = .ok jar') :
    ShowsId e key now jar info jar' := by
  obtain ⟨id, hid, hvalid⟩ := exists_id_of_save hk h
  obtain ⟨text, rfl, e', more', he', hwrites⟩ := exists_of_save hk hid h
  cases he.symm.trans he'
  exact ⟨id, text, hid, rfl, hwrites.reads (SessionData.representable_ofId hvalid) hnow⟩

/-- **Initializing with success** does so too, or the session had an id and nothing happened. -/
theorem showsId_of_init {e : Encoder} {more : List Encoder} (hk : s.kind = .serverSide records)
    (he : s.encoders = e :: more) (hnow : Range.isInt64 (e.clock now) = true)
    (h : ((s.init jar key now info).run respond t).1 = (info', .ok jar')) :
    (info.data.id? = none → ShowsId e key now jar info' jar') ∧
      (info.data.id? ≠ none → info' = info ∧ jar' = jar) := by
  unfold init at h
  split at h
  · rename_i hid
    cases h
    exact ⟨fun hnone => absurd hid (by simp [hnone]), fun _ => ⟨rfl, rfl⟩⟩
  · rename_i hid
    rw [Option.not_isSome_iff_eq_none] at hid
    refine ⟨fun _ => ?_, fun hsome => absurd hid hsome⟩
    rw [Plan.run_bind] at h
    cases hgenerate : (SessionId.generate SessionId.octets).run.run respond t with
    | mk generated t' =>
    rw [hgenerate] at h
    cases generated with
    | error e => cases h
    | ok fresh =>
        dsimp only at h
        rw [Plan.run_bind] at h
        obtain ⟨rfl, hsaved⟩ := Prod.mk.injEq .. ▸ h
        exact showsId_of_save hk he hnow hsaved

/-! ### Two sessions -/

/-- Whether octets are sealed is decided by those that are drawn. -/
theorem alike_sealed (e : Encoder) (plain plain' : Bytes) :
    (e.sealed plain).run.Alike SameFate (e.sealed plain').run := by
  unfold Encoder.sealed
  cases e.block? with
  | none => exact .done trivial
  | some block =>
      have hdraw : (Encoder.draw CounterMode.blockSize).run.Alike SameFate
          (Encoder.draw CounterMode.blockSize).run := by
        refine .draw fun octets => ?_
        cases octets with
        | none => exact .done rfl
        | some octets => exact .done trivial
      exact hdraw.bind_attempt fun counter counter' =>
        hdraw.bind_attempt fun salt salt' => .done trivial

/-- What is encoded makes no difference to whether it is. -/
theorem alike_encode (encoders : List Encoder) (key : String) (now : Int) (d d' : SessionData) :
    (Encoders.encode encoders key now d).run.Alike SameFate
      (Encoders.encode encoders key now d').run := by
  cases encoders with
  | nil => exact .done rfl
  | cons e more =>
      rw [Encoders.encode, Encoders.encode]
      cases hkey : e.authenticate? with
      | none =>
          rw [Encoder.encode, Encoder.encode, hkey]
          exact .done rfl
      | some authenticate =>
          rw [Encoder.encode, Encoder.encode, hkey]
          exact (alike_sealed e _ _).bind_attempt fun octets octets' => .done trivial

/-- **Two sessions are saved alike** if both have something to keep under one id. -/
theorem alike_save {info₁ info₂ : SessionInfo} (hk : s.kind = .serverSide records)
    (hid₁ : info₁.data.id? = some id) (hid₂ : info₂.data.id? = some id)
    (hvalid : SessionId.isValid id = true) (hlength₁ : 2 ≤ info₁.data.length)
    (hlength₂ : 2 ≤ info₂.data.length) (hconfig : info₂.config = info₁.config)
    (hage : 0 ≤ info₁.config.maxAge) (jar : Cookie.Jar) (key : String) (now : Int) :
    (s.save jar key now info₁).run.Alike Eq (s.save jar key now info₂).run := by
  have hkeep₁ : ¬ (info₁.config.maxAge < 0 ∨ info₁.data.length ≤ 1) := by omega
  have hkeep₂ : ¬ (info₂.config.maxAge < 0 ∨ info₂.data.length ≤ 1) := by
    rw [hconfig]
    omega
  rw [save_eq hk hid₁ hvalid, save_eq hk hid₂ hvalid, writeRecord, writeRecord, if_neg hkeep₁,
    if_neg hkeep₂, hconfig]
  have hrecord : ∀ text text', (ExceptT.mk (Plan.add records id text info₁.config.maxAge)).run.Alike
      SameFate (ExceptT.mk (Plan.add records id text' info₁.config.maxAge)).run :=
    fun _ _ => .add (.done trivial)
  refine ((alike_encode s.encoders key now _ _).bind_attempt hrecord).bind ?_
  intro written written' hwritten
  cases written with
  | error e =>
      cases written' with
      | error e' =>
          cases (hwritten : e = e')
          exact .done rfl
      | ok u => cases hwritten
  | ok u =>
      cases written' with
      | error e' => cases hwritten
      | ok u' => exact (s.quiet_setCookie ..).alike

/-- **Only the id of a session reaches the client** through a server-side store. Saving with success
sets one cookie, which is read as the session with the id and nothing else; so does initializing a
session without an id, and one that has an id it leaves alone. And of two sessions with one id and
more beside it, saved with the same random octets and with their records written, the jar does not
tell which one it was. -/
theorem only_id_reaches_client {e : Encoder} {more : List Encoder}
    (hk : s.kind = .serverSide records) (he : s.encoders = e :: more)
    (hnow : Range.isInt64 (e.clock now) = true) (respond : Responder σ) (jar : Cookie.Jar)
    (key : String) :
    (∀ (t : σ) (info : SessionInfo) (jar' : Cookie.Jar),
      ((s.save jar key now info).run.run respond t).1 = .ok jar' →
        ShowsId e key now jar info jar') ∧
    (∀ (t : σ) (info info' : SessionInfo) (jar' : Cookie.Jar),
      ((s.init jar key now info).run respond t).1 = (info', .ok jar') →
        (info.data.id? = none → ShowsId e key now jar info' jar') ∧
          (info.data.id? ≠ none → info' = info ∧ jar' = jar)) ∧
    ∀ (same : σ → σ → Prop) (t₁ t₂ : σ) (id : String) (info₁ info₂ : SessionInfo),
      DrawsAlike respond same → same t₁ t₂ →
      info₁.data.id? = some id → info₂.data.id? = some id → SessionId.isValid id = true →
      2 ≤ info₁.data.length → 2 ≤ info₂.data.length → info₂.config = info₁.config →
      0 ≤ info₁.config.maxAge →
      (s.save jar key now info₁).run.Unfailing respond t₁ →
      (s.save jar key now info₂).run.Unfailing respond t₂ →
        ((s.save jar key now info₁).run.run respond t₁).1 =
          ((s.save jar key now info₂).run.run respond t₂).1 := by
  refine ⟨fun t info jar' h => showsId_of_save hk he hnow h,
    fun t info info' jar' h => showsId_of_init hk he hnow h, ?_⟩
  intro same t₁ t₂ id info₁ info₂ hrespond hsame hid₁ hid₂ hvalid hlength₁ hlength₂ hconfig hage
    hrun₁ hrun₂
  exact (alike_save hk hid₁ hid₂ hvalid hlength₁ hlength₂ hconfig hage jar key now).run hrespond
    hsame hrun₁ hrun₂

/-- Two users of one session, whose cookies are the same. -/
theorem users_not_told_apart :
    let e : Encoder := { Encoder.ofKeys [1, 2] none with maxAge := SessionConfig.defaultMaxAge }
    let s : SessionStore := { kind := .serverSide "memory", encoders := [e] }
    let info (user : String) : SessionInfo :=
      { data := (SessionData.ofId "ab").insert "user" (.str user), store := "memory" }
    let w : World := { now := 100000, entropy := { octet := fun _ => 7 },
                       records := Dict.empty.set "memory" (.memory {}) }
    ∃ text, e.decode "s" 200 text = .ok (SessionData.ofId "ab") ∧
      ∀ user ∈ ["ann", "bob"], ((s.save {} "s" 100 (info user)).run.run World.respond w).1 =
        .ok (Cookie.Jar.add {} (Cookie.ofSession "s" text {})) := by
  intro e s info w
  let f := SessionFactory.new.setStore "memory" { kind := .serverSide "memory" }
  have hkeys : f.setStoreKeys "memory" [{ hashKey := [1, 2] }] = .ok (f.setStore "memory" s) := rfl
  have hkeyed : s.Keyed [{ hashKey := [1, 2] }] :=
    keyed_of_setStoreKeys hkeys rfl (List.cons_ne_nil _ _)
  have hk : s.kind = .serverSide "memory" := rfl
  have hid : ∀ user, (info user).data.id? = some "ab" := fun _ => rfl
  have hserves : ∀ user, w.Serves s (info user).data := fun user =>
    World.InMemory.serves (fun _ hk => by cases hk; exact ⟨_, Dict.get?_set_self⟩) rfl (hid user)
      (by decide)
  have hrun : ∀ user, (s.save {} "s" 100 (info user)).run.Unfailing World.respond w := by
    intro user
    have hok : ∀ call (w : World), s.SaveCall (info user) call → w.Serves s (info user).data →
        call.Succeeds (World.respond call w).1 ∧
          (World.respond call w).2.Serves s (info user).data :=
      fun _ _ hcall hw => hcall.succeeds hw
    exact ((s.makes_save ..).unfailing hok (hserves user)).1
  obtain ⟨text, w', hann, -⟩ := exists_run_save_of_serves hkeyed (info "ann") (hserves "ann")
    ⟨by decide, by decide⟩ (by decide) {} "s"
  replace hann := congrArg Prod.fst hann
  have he : s.encoders = [e] := rfl
  have hnow : Range.isInt64 (e.clock 100) = true := by decide
  obtain ⟨hshows, -, htwo⟩ := only_id_reaches_client hk he hnow World.respond {} "s"
  refine ⟨text, ?_, ?_⟩
  · -- the cookie of the first user holds the id alone
    obtain ⟨id, text', hid', hjar, hreads⟩ := hshows _ _ _ hann
    cases (hid "ann").symm.trans hid'
    have htext : some text = some text' := congrArg (·.get? "s") hjar
    cases htext
    exact hreads 200
  · intro user _
    -- both save under the same id in the same world, so the jars are the same
    have hsame := htwo _ w w "ab" (info user) (info "ann") drawsAlike_world rfl (hid user)
      (hid "ann") (by decide) (Nat.le_refl 2) (Nat.le_refl 2) rfl
      (by decide : 0 ≤ SessionConfig.maxAge {}) (hrun user) (hrun "ann")
    exact hsame.trans hann

/-! ### Cookies that are not set or not read -/

/-- Saving a session that holds its id alone, when its text is not encrypted. -/
theorem run_save_of_ofId {e : Encoder} {more : List Encoder}
    {authenticate : Bytes → Sha256.Digest} (hk : s.kind = .serverSide records)
    (he : s.encoders = e :: more) (hkey : e.authenticate? = some authenticate)
    (hblock : e.block? = none) (hvalid : SessionId.isValid id = true)
    (hremoved : (respond (.remove records id) t).1 = .error .noSession) (jar : Cookie.Jar)
    (key : String) (now : Int) (store : String) (config : SessionConfig) :
    ((s.save jar key now ⟨.ofId id, store, config⟩).run.run respond t).1 =
      .ok (jar.add (Cookie.ofSession key
        (Encoder.signed authenticate key (Base64Url.encode (SessionData.ofId id).serialize)
          (Numeral.text (e.clock now))) config)) := by
  generalize htext : Encoder.signed _ _ _ _ = text
  have hdrop : config.maxAge < 0 ∨ (SessionData.ofId id).length ≤ 1 := Or.inr (Nat.le_refl 1)
  have hdropped : ((dropRecord records id).run.run respond t).1 = .ok () := by
    simp only [dropRecord, ExceptT.run_mk, Plan.remove, ask_bind, done_bind, run_ask, hremoved]
    rfl
  rw [save_eq hk SessionData.id?_ofId hvalid, writeRecord, if_pos hdrop, Plan.run_bind, hdropped]
  dsimp only
  rw [setCookie, ExceptT.run_bind, Plan.run_bind, he, Encoders.encode,
    Encoder.run_encode_of_plain hkey hblock, htext]
  rfl

/-- No signed text is as short as one octet. -/
theorem one_lt_utf8ByteSize_signed (authenticate : Bytes → Sha256.Digest)
    (key payload timestamp : String) :
    1 < (Encoder.signed authenticate key payload timestamp).utf8ByteSize := by
  rw [Encoder.signed_eq]
  refine Nat.lt_of_lt_of_le (Base64Url.two_le_length_toList_encode fun hnil => ?_)
    (Bytes.length_toList_le_utf8ByteSize _)
  have hsize := congrArg List.length hnil
  rw [Bytes.length_ofText] at hsize
  simp [Encoder.joined] at hsize

/-- **A success may leave no cookie that can be read**: none is set when a session that has an id is
initialized, one that is set at second zero is never read, and none is that is longer than its
encoder reads. -/
theorem cookie_not_set_or_not_read :
    let e : Encoder := { Encoder.ofKeys [1, 2] none with maxAge := SessionConfig.defaultMaxAge }
    let s (e : Encoder) : SessionStore := { kind := .serverSide "memory", encoders := [e] }
    let info : SessionInfo := { data := SessionData.ofId "ab", store := "memory" }
    let w : World := { now := 0, entropy := { octet := fun _ => 7 },
                       records := Dict.empty.set "memory" (.memory {}) }
    (((s e).init {} "s" 100 info).run World.respond w).1 = (info, .ok {}) ∧
    (∃ text, (((s e).save {} "s" 0 info).run.run World.respond w).1 =
        .ok (Cookie.Jar.add {} (Cookie.ofSession "s" text {})) ∧
      ∀ now, e.decode "s" now text = .error .badTimestamp) ∧
    ∃ text, (((s { e with maxLength := 1 }).save {} "s" 100 info).run.run World.respond w).1 =
        .ok (Cookie.Jar.add {} (Cookie.ofSession "s" text {})) ∧
      ∀ now, Encoder.decode { e with maxLength := 1 } "s" now text = .error .maxLength := by
  intro e s info w
  have hvalid : SessionId.isValid "ab" = true := by decide
  have hremoved : (World.respond (.remove "memory" "ab") w).1 = .error .noSession := by
    rw [World.respond_remove_of_some Dict.get?_set_self]
    rfl
  have hd := SessionData.representable_ofId hvalid
  refine ⟨rfl, ⟨_, run_save_of_ofId rfl rfl rfl rfl hvalid hremoved {} "s" 0 "memory" {},
    fun now => ?_⟩, _, run_save_of_ofId rfl rfl rfl rfl hvalid hremoved {} "s" 100 "memory" {},
    fun now => ?_⟩
  · exact (Encoder.writes_plain rfl rfl "s" 0 _).reads hd (by decide) now
  · rw [(Encoder.writes_plain rfl rfl "s" 100 _).reads hd (by decide) now, if_pos]
    exact ⟨Nat.one_ne_zero, one_lt_utf8ByteSize_signed ..⟩

end SessionStore

end WebSession
