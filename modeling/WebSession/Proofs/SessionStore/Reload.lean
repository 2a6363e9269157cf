import WebSession.Proofs.Plan.Unfailing
import WebSession.Proofs.SessionFactory
import WebSession.Proofs.SessionStore

/-!
# WebSession.Proofs.SessionStore.Reload

**What is saved is loaded** (`exists_run_save`): in a run without failures, the cookie that saving
sets makes later requests load the session that was saved, until the first limit on its age.

For a cookie store this is the round trip of the cookie. A server-side store answers with what the
record shows, and a session that holds its id alone needs no record. Both are one statement, so that
nothing above the stores has to tell them apart.
-/

namespace WebSession

open Plan

/-! ### The world -/

namespace World

/-- The world when its clock shows another moment. -/
def withNow (w : World) (now : Int) : World := { w with now := now }

/-- Octets were drawn, and nothing else happened. -/
def Drawn (w w' : World) : Prop :=
  ∃ position, w' = { w with entropy := { w.entropy with position := position } }

theorem supplies_drawn {w : World} (hw : w.entropy.broken = false) :
    Responder.Supplies World.respond w.Drawn where
  random := by
    intro w' count h
    obtain ⟨position, rfl⟩ := h
    simp [World.respond, Entropy.draw, hw]
  keeps := by
    intro w' count h
    obtain ⟨position, rfl⟩ := h
    refine ⟨position + count, ?_⟩
    simp [World.respond, Entropy.draw, hw]

/-- Drawing leaves the records. -/
theorem record_withNow_of_drawn {w w' : World} (h : w.Drawn w') (store id : String) (now : Int) :
    Responder.record World.respond store id (w'.withNow now) =
      Responder.record World.respond store id (w.withNow now) := by
  obtain ⟨position, rfl⟩ := h
  simp only [Responder.record, World.respond, withNow]
  split <;> rfl

/-- One world comes after another without a request in between: the clock stands, and the stream of
octets is as sound as it was. -/
structure Follows (w w' : World) : Prop where
  now_eq : w'.now = w.now
  broken_eq : w'.entropy.broken = w.entropy.broken

theorem Follows.refl (w : World) : w.Follows w := ⟨rfl, rfl⟩

theorem Follows.trans {w w' w'' : World} (h : w.Follows w') (h' : w'.Follows w'') :
    w.Follows w'' := ⟨h'.now_eq.trans h.now_eq, h'.broken_eq.trans h.broken_eq⟩

theorem follows_respond (call : Call) (w : World) : w.Follows (respond call w).2 := by
  cases call with
  | random count =>
      simp only [respond, Entropy.draw]
      split <;> exact ⟨rfl, rfl⟩
  | add store id record maxAge => simp only [respond]; split <;> exact ⟨rfl, rfl⟩
  | get store id => simp only [respond]; split <;> exact ⟨rfl, rfl⟩
  | remove store id => simp only [respond]; split <;> exact ⟨rfl, rfl⟩

theorem follows_run {α : Type} {p : Plan α} {w w' : World} {a : α}
    (h : p.run respond w = (a, w')) : w.Follows w' := by
  induction p generalizing w with
  | done b =>
      cases h
      exact .refl _
  | ask call next ih => exact (follows_respond call w).trans (ih _ h)

/-- Reading a record changes nothing. -/
theorem respond_get_eq (store id : String) (w : World) :
    (respond (.get store id) w).2 = w := by
  simp only [respond]
  split <;> rfl

variable {w : World} {store id : String}

/-- A record that was removed is never there again by itself. -/
theorem record_of_removed
    (h : (Call.remove store id).Succeeds (World.respond (.remove store id) w).1) (now : Int) :
    Responder.record World.respond store id ((World.respond (.remove store id) w).2.withNow now) =
      .error .noSession := by
  cases hstore : w.records.get? store with
  | none =>
      rw [respond_remove_of_none hstore] at h
      rcases h with h | h <;> cases h
  | some records =>
      rw [respond_remove_of_some hstore] at h ⊢
      have hrecords : ((w.withRecords store (records.remove w.now id).2).withNow
          now).records.get? store = some (records.remove w.now id).2 := Dict.get?_set_self
      rw [record_of_some hrecords]
      exact Records.get_remove_of_gone h _

/-- A record that was added is there until its deadline. -/
theorem record_of_added {record : String} {maxAge now : Int}
    (h : (World.respond (.add store id record maxAge) w).1 = .ok ())
    (hlive : ∀ t, Records.Memory.deadline? w.now maxAge = some t → now < t) :
    Responder.record World.respond store id
      ((World.respond (.add store id record maxAge) w).2.withNow now) = .ok record := by
  cases hstore : w.records.get? store with
  | none =>
      rw [respond_add_of_none hstore] at h
      cases h
  | some records =>
      rw [respond_add_of_some hstore] at h ⊢
      have hrecords : ((w.withRecords store (records.add w.now id record maxAge).2).withNow
          now).records.get? store = some (records.add w.now id record maxAge).2 :=
        Dict.get?_set_self
      rw [record_of_some hrecords]
      exact Records.get_add_of_ok h hlive

end World

/-! ### Moments -/

/-- A moment that timestamps and deadlines can tell. -/
structure Moment (now : Int) : Prop where
  isInt64 : Range.isInt64 (now / 1000) = true
  ne_zero : now / 1000 ≠ 0
  lt_last : now < Records.Memory.lastMoment

namespace SessionStore

/-- A session that was saved at one moment has not come to its end at another. The age of records
counts in server-side stores alone. -/
structure Within (s : SessionStore) (maxAge made now : Int) : Prop where
  lt_default : now < made + 1000 * SessionConfig.defaultMaxAge
  lt_maxAge : s.kind ≠ .cookie → 0 < maxAge → now < made + 1000 * maxAge

/-- What was written at one moment can still be had at another: its texts are not too old in whole
seconds, and its record has not reached its deadline. -/
structure Lasts (s : SessionStore) (maxAge made now : Int) : Prop where
  le_default : now / 1000 ≤ made / 1000 + SessionConfig.defaultMaxAge
  lt_deadline : s.kind ≠ .cookie → ∀ t, Records.Memory.deadline? made maxAge = some t → now < t

/-- A deadline that stops at the greatest number comes after all that is not too old. -/
theorem lasts_of_lt {s : SessionStore} {maxAge made now : Int}
    (hdefault : now / 1000 ≤ made / 1000 + SessionConfig.defaultMaxAge)
    (hage : s.kind ≠ .cookie → 0 < maxAge → now < made + 1000 * maxAge)
    (hlast : now < Records.Memory.lastMoment) : s.Lasts maxAge made now where
  le_default := hdefault
  lt_deadline := by
    intro hkind t ht
    have hlong : 1000 * (SessionConfig.defaultMaxAge + 1) ≤ Records.Memory.lastMoment := by decide
    unfold Records.Memory.deadline? at ht
    split at ht
    · rename_i hpositive
      have hlate := hage hkind hpositive
      cases ht
      omega
    · cases ht

theorem Within.lasts {s : SessionStore} {maxAge made now : Int} (h : s.Within maxAge made now)
    (hlast : now < Records.Memory.lastMoment) : s.Lasts maxAge made now := by
  have hearly := h.lt_default
  exact lasts_of_lt (by omega) h.lt_maxAge hlast

/-- The encoders of the store are those of key pairs, of one at least. -/
def Keyed (s : SessionStore) (pairs : List KeyPair) : Prop :=
  pairs ≠ [] ∧ KeyPair.encoders pairs s.maxLength = .ok s.encoders

variable {s : SessionStore} {pairs : List KeyPair} {key id records text : String} {d : SessionData}
  {w : World} {jar : Cookie.Jar} {made now maxAge : Int}

/-- The store is keyed with the pairs that it was given. -/
theorem keyed_of_setStoreKeys {f f' : SessionFactory} {name : String}
    (h : f.setStoreKeys name pairs = .ok f') (hs : f'.store name = .ok s) (hpairs : pairs ≠ []) :
    s.Keyed pairs := by
  obtain ⟨s₀, -, hkind, hencoders⟩ := SessionFactory.store_of_setStoreKeys h hs
  refine ⟨hpairs, ?_⟩
  rw [SessionStore.maxLength, hkind]
  exact hencoders

theorem Keyed.exists_encoder (h : s.Keyed pairs) :
    ∃ (pair : KeyPair) (e : Encoder) (more : List Encoder),
      s.encoders = e :: more ∧ pair.encoder s.maxLength = .ok e := by
  obtain ⟨pair, more, hpairs⟩ := List.exists_cons_of_ne_nil h.1
  have hencoders := h.2
  rw [hpairs] at hencoders
  obtain ⟨e, more, he, hpair, -⟩ := KeyPair.encoders_cons hencoders
  exact ⟨pair, e, more, he, hpair⟩

/-! ### Texts -/

/-- The text is one that the store may write of a session. -/
def Writes (s : SessionStore) (key : String) (now : Int) (d : SessionData) (text : String) : Prop :=
  ∃ e more, s.encoders = e :: more ∧ e.Writes key now d text

/-- What a store writes is in base 64. -/
theorem Writes.exists_encode (h : s.Writes key now d text) : ∃ b, text = Base64Url.encode b := by
  obtain ⟨e, more, -, authenticate, payload, -, -, rfl, -⟩ := h
  exact ⟨_, Encoder.signed_eq ..⟩

/-- The text is what the store writes of a session in some world. -/
def Encodes (s : SessionStore) (key : String) (now : Int) (d : SessionData) (text : String) :
    Prop :=
  ∃ w : World, ((Encoders.encode s.encoders key now d).run.run World.respond w).1 = .ok text

/-- Whatever octets are given, a text that comes out is one that the store writes. -/
theorem quiet_encode_writes (s : SessionStore) (key : String) (now : Int) (d : SessionData) :
    (Encoders.encode s.encoders key now d).run.Quiet fun encoded =>
      ∀ text, encoded = .ok text → s.Writes key now d text := by
  cases he : s.encoders with
  | nil => exact .done fun _ h => nomatch h
  | cons e more =>
      exact (e.quiet_encode_writes key now d).mono fun _ h text htext => ⟨e, more, he, h text htext⟩

theorem writes_of_encode {σ : Type} {respond : Responder σ} {t : σ}
    (h : ((Encoders.encode s.encoders key now d).run.run respond t).1 = .ok text) :
    s.Writes key now d text :=
  (s.quiet_encode_writes key now d).good_run respond t text h

theorem Encodes.writes (h : s.Encodes key now d text) : s.Writes key now d text := by
  obtain ⟨w, h⟩ := h
  exact writes_of_encode h

/-- **The texts of a store are read back** within the default age, if they are short enough. -/
theorem decode_of_writes (h : s.Keyed pairs) (htext : s.Writes key made d text)
    (hd : d.Representable) (hmade : Range.isInt64 made = true) (hzero : made ≠ 0)
    (hage : now ≤ made + SessionConfig.defaultMaxAge)
    (hlength : s.kind = .cookie → text.utf8ByteSize ≤ cookieMaxLength) :
    Encoders.decode s.encoders key now text = .ok d := by
  have hlength : s.maxLength = 0 ∨ text.utf8ByteSize ≤ s.maxLength := by
    rw [SessionStore.maxLength]
    cases hk : s.kind with
    | cookie => exact Or.inr (hlength hk)
    | serverSide records => exact Or.inl rfl
  obtain ⟨pair, e, more, he, hpair⟩ := h.exists_encoder
  obtain ⟨e', more', he', hwrites⟩ := htext
  rw [he] at he'
  cases he'
  rw [he]
  have hpasses : e.Passes made now text := KeyPair.passes hpair hmade hzero hage hlength
  exact Encoders.decode_of_first (Encoder.decode_of_writes_of_passes hwrites hpasses hd)

/-- **What is read is what was written**, whichever store with the same pairs reads it: it passed the
limits of one encoder, so it passes those of the first. -/
theorem eq_of_decode_of_writes {s' : SessionStore} {d' : SessionData}
    (h : KeyPair.encoders pairs s.maxLength = .ok s.encoders)
    (h' : KeyPair.encoders pairs s'.maxLength = .ok s'.encoders) (htext : s.Writes key made d text)
    (hd : d.Representable) (hmade : Range.isInt64 made = true)
    (hread : Encoders.decode s'.encoders key now text = .ok d') : d' = d := by
  obtain ⟨writer, more, hencoders, hwrites⟩ := htext
  rw [hencoders] at h
  cases pairs with
  | nil => cases h
  | cons pair pairs =>
      obtain ⟨e, more', he, hpair, -⟩ := KeyPair.encoders_cons h
      cases he
      have hclock : writer.clock = id := by
        obtain ⟨block?, rfl⟩ := KeyPair.encoder_eq hpair
        rfl
      obtain ⟨e', he', hread'⟩ := Encoders.exists_of_decode hread
      obtain ⟨pair', -, hpair'⟩ := KeyPair.exists_of_mem_encoders h' he'
      obtain ⟨hlength, hzero, hage⟩ := KeyPair.limits_of_decode hpair' hwrites
        (by rw [hclock]; exact hmade) hread'
      rw [hclock] at hzero hage
      obtain ⟨first, rest, hfirst, hpair₁, -⟩ := KeyPair.encoders_cons h'
      have hsame := KeyPair.encoder_withLength hpair s'.maxLength
      rw [hpair₁] at hsame
      cases hsame
      have hdecode := Encoder.decode_of_writes_of_passes (e := { writer with maxLength := s'.maxLength })
        hwrites (KeyPair.passes hpair₁ hmade hzero hage hlength) hd
      rw [hfirst, Encoders.decode_of_first hdecode] at hread
      exact (Except.ok.inj hread).symm

/-- **What has no time or is too old is not read**: neither a text of second zero nor one that was
written more than the default age ago. -/
theorem not_decode_of_writes (h : s.Keyed pairs) (htext : s.Writes key made d text)
    (hmade : Range.isInt64 made = true)
    (hold : made = 0 ∨ made < now - SessionConfig.defaultMaxAge) (d' : SessionData) :
    Encoders.decode s.encoders key now text ≠ .ok d' := by
  obtain ⟨pair, e, more, he, hpair⟩ := h.exists_encoder
  obtain ⟨writer, more', he', hwrites⟩ := htext
  rw [he] at he'
  cases he'
  have hclock : e.clock = id := by
    obtain ⟨block?, rfl⟩ := KeyPair.encoder_eq hpair
    rfl
  intro hread
  obtain ⟨e', he', hd⟩ := Encoders.exists_of_decode hread
  obtain ⟨pair', -, hpair'⟩ := KeyPair.exists_of_mem_encoders h.2 he'
  exact KeyPair.decode_of_old hpair' hwrites (by rw [hclock]; exact hmade)
    (by rw [hclock]; exact hold) d' hd

/-- The store has an encoder that writes, and this one has a key. -/
def Signs (s : SessionStore) : Prop :=
  ∃ e more, s.encoders = e :: more ∧ e.authenticate?.isSome = true

theorem Keyed.signs (h : s.Keyed pairs) : s.Signs := by
  obtain ⟨pair, e, more, he, hpair⟩ := h.exists_encoder
  exact ⟨e, more, he, KeyPair.isSome_authenticate? hpair⟩

/-- **Writing a text** draws and ends with one. -/
theorem exists_run_encode (h : s.Signs) (hw : w.entropy.broken = false) (key : String)
    (now : Int) (d : SessionData) :
    ∃ text w', (Encoders.encode s.encoders key now d).run.run World.respond w = (.ok text, w') ∧
      s.Encodes key now d text ∧ w.Drawn w' := by
  obtain ⟨e, more, he, hkey⟩ := h
  obtain ⟨⟨text, hrun, -⟩, hdrawn⟩ := Plan.run_of_draws (World.supplies_drawn hw)
    (Encoder.draws_encode hkey key now d) ⟨w.entropy.position, rfl⟩
  have hencode : ((Encoders.encode s.encoders key now d).run.run World.respond w).1 = .ok text := by
    rw [he]
    exact hrun
  refine ⟨text, _, Prod.ext hencode rfl, ⟨w, hencode⟩, ?_⟩
  rw [he]
  exact hdrawn

theorem exists_run_setCookie (h : s.Keyed pairs) (hw : w.entropy.broken = false) (jar : Cookie.Jar)
    (key : String) (now : Int) (d : SessionData) (config : SessionConfig) :
    ∃ text w', (s.setCookie jar key now d config).run.run World.respond w =
        (.ok (jar.add (Cookie.ofSession key text config)), w') ∧
      s.Encodes key now d text ∧ w.Drawn w' := by
  obtain ⟨text, w', hrun, hencodes, hdrawn⟩ := exists_run_encode h.signs hw key now d
  refine ⟨text, w', ?_, hencodes, hdrawn⟩
  rw [setCookie, ExceptT.run_bind, Plan.run_bind, hrun]
  rfl

/-! ### Loading -/

theorem run_load_of_cookie (hk : s.kind = .cookie) (hread : s.readCookie jar key now = .ok d)
    (w : World) : (s.load jar key now).run World.respond w = (d, w) := by
  simp only [load, load?, hk, hread]
  rfl

theorem run_load_of_shown (hk : s.kind = .serverSide records) (hc : s.HoldsId jar key now id)
    (hshown : s.shown key now id (Responder.record World.respond records id w) = d) :
    (s.load jar key now).run World.respond w = (d, w) := by
  rw [run_load hk hc, hshown, World.respond_get_eq]

/-- Of a cookie that cannot be read every store makes an empty session. -/
theorem load_of_unread {failure : Error} (h : s.readCookie jar key now = .error failure) :
    s.load jar key now = .done .empty := by
  cases hk : s.kind with
  | cookie =>
      simp only [load, load?, hk, h]
      rfl
  | serverSide records =>
      simp only [load, load?, hk, loadRecord, h]
      rfl

/-- Without a cookie there is nothing to load. -/
theorem load_of_none (h : jar.get? key = none) : s.load jar key now = .done .empty := by
  have hread : s.readCookie jar key now = .error .noSession := by
    rw [readCookie, h]
  exact load_of_unread hread

/-- **What is not read is not loaded**: a text of second zero, or one that was written more than the
default age ago, makes an empty session. -/
theorem load_of_old (h : s.Keyed pairs) (htext : s.Writes key made d text)
    (hmade : Range.isInt64 made = true)
    (hold : made = 0 ∨ made < now - SessionConfig.defaultMaxAge)
    (hjar : jar.get? key = some text) : s.load jar key now = .done .empty := by
  cases hread : s.readCookie jar key now with
  | ok d' =>
      rw [readCookie_of_get? hjar] at hread
      exact absurd hread (not_decode_of_writes h htext hmade hold d')
  | error failure => exact load_of_unread hread

/-! ### Saving -/

theorem run_dropRecord (h : (Call.remove records id).Succeeds
      (World.respond (.remove records id) w).1) :
    (dropRecord records id).run.run World.respond w =
      (.ok (), (World.respond (.remove records id) w).2) := by
  simp only [dropRecord, ExceptT.run_mk, Plan.remove, ask_bind, done_bind, run_ask]
  rcases h with h | h
  · rw [h]
    rfl
  · rw [h]
    rfl

/-- What is there of a session that was saved: a text in the cookie, and in a server-side store the
record, unless the session holds its id alone. -/
inductive Stored (s : SessionStore) (key : String) (maxAge made : Int) (d : SessionData)
    (text : String) (w : World) : Prop where
  /-- The session is in the cookie. -/
  | inCookie : s.kind = .cookie → s.Encodes key (made / 1000) d text →
      Stored s key maxAge made d text w
  /-- The session holds its id alone, and there is no record. -/
  | bare {records id : String} : s.kind = .serverSide records → SessionId.isValid id = true →
      d = .ofId id → s.Encodes key (made / 1000) (.ofId id) text →
      (∀ now, Responder.record World.respond records id (w.withNow now) = .error .noSession) →
      Stored s key maxAge made d text w
  /-- The session is in the record until its deadline. -/
  | inRecord {records id record : String} : s.kind = .serverSide records →
      SessionId.isValid id = true → d.id? = some id →
      s.Encodes key (made / 1000) (.ofId id) text → s.Encodes key (made / 1000) d record →
      (∀ now, (∀ t, Records.Memory.deadline? made maxAge = some t → now < t) →
        Responder.record World.respond records id (w.withNow now) = .ok record) →
      Stored s key maxAge made d text w

/-- The cookie of a stored session has a text of the store. -/
theorem Stored.exists_writes (h : s.Stored key maxAge made d text w) :
    ∃ d', s.Writes key (made / 1000) d' text := by
  cases h with
  | inCookie _ htext => exact ⟨_, htext.writes⟩
  | bare _ _ _ htext _ => exact ⟨_, htext.writes⟩
  | inRecord _ _ _ htext _ _ => exact ⟨_, htext.writes⟩

/-- The sessions that the texts of a stored session hold: itself, or its id alone. -/
def WrittenFor (d d' : SessionData) : Prop :=
  d' = d ∨ ∃ id, SessionId.isValid id = true ∧ d.id? = some id ∧ d' = .ofId id

theorem WrittenFor.representable {d' : SessionData} (h : WrittenFor d d') (hd : d.Representable) :
    d'.Representable := by
  rcases h with rfl | ⟨id, hvalid, -, rfl⟩
  · exact hd
  · exact SessionData.representable_ofId hvalid

/-- **What is stored is loaded** while it lasts, in any world in which its record is as it was, and
also by a store with other encoders that read its texts. -/
theorem Stored.run_load {s' : SessionStore} {later : World} (h : s.Stored key maxAge made d text w)
    (hkind : s'.kind = s.kind) (hlasts : s.Lasts maxAge made now)
    (hrecords : ∀ records id, s.kind = .serverSide records → d.id? = some id →
      Responder.record World.respond records id later =
        Responder.record World.respond records id (w.withNow now))
    (hread : ∀ d' text', WrittenFor d d' → s.Encodes key (made / 1000) d' text' →
      (s.kind = .cookie → text' = text) →
        Encoders.decode s'.encoders key (now / 1000) text' = .ok d')
    (hjar : jar.get? key = some text) :
    (s'.load jar key (now / 1000)).run World.respond later = (d, later) := by
  cases h with
  | inCookie hk htext =>
      refine run_load_of_cookie (hkind.trans hk) ?_ _
      rw [readCookie_of_get? hjar]
      exact hread d text (Or.inl rfl) htext fun _ => rfl
  | bare hk hvalid honly htext hgone =>
      subst honly
      refine run_load_of_shown (hkind.trans hk) ⟨?_, hvalid⟩ ?_
      · rw [readCookie_of_get? hjar]
        exact hread _ text (Or.inl rfl) htext fun _ => rfl
      · rw [hrecords _ _ hk SessionData.id?_ofId, hgone]
        rfl
  | inRecord hk hvalid hid htext hrecord hthere =>
      have hserver : s.kind ≠ .cookie := kind_ne_cookie hk
      refine run_load_of_shown (hkind.trans hk) ⟨?_, hvalid⟩ ?_
      · rw [readCookie_of_get? hjar]
        exact hread _ text (Or.inr ⟨_, hvalid, hid, rfl⟩) htext fun _ => rfl
      · rw [hrecords _ _ hk hid, hthere now (hlasts.lt_deadline hserver)]
        exact shown_of_decode
          (hread d _ (Or.inl rfl) hrecord fun hcookie => absurd hcookie hserver) hid

/-- A store that has the encoder of the texts in front reads them, if the cookie is short enough. -/
theorem Stored.run_load_of_keyed {s' : SessionStore} {later : World}
    (h : s.Stored key maxAge made d text w) (hkeyed : s'.Keyed pairs) (hkind : s'.kind = s.kind)
    (hwrites : ∀ d' text', s.Writes key (made / 1000) d' text' → s'.Writes key (made / 1000) d' text')
    (hd : d.Representable) (hmade : Range.isInt64 (made / 1000) = true) (hzero : made / 1000 ≠ 0)
    (hlasts : s.Lasts maxAge made now)
    (hrecords : ∀ records id, s.kind = .serverSide records → d.id? = some id →
      Responder.record World.respond records id later =
        Responder.record World.respond records id (w.withNow now))
    (hlength : s.kind = .cookie → text.utf8ByteSize ≤ cookieMaxLength)
    (hjar : jar.get? key = some text) :
    (s'.load jar key (now / 1000)).run World.respond later = (d, later) := by
  refine h.run_load hkind hlasts hrecords (fun d' text' hd' htext hsame => ?_) hjar
  refine decode_of_writes hkeyed (hwrites d' text' htext.writes) (hd'.representable hd) hmade hzero
    hlasts.le_default fun hk => ?_
  rw [hkind] at hk
  rw [hsame hk]
  exact hlength hk

/-- The store can keep the session: it is not too high or too broad for the format, and in a
server-side store it has an id, and the age of all records unless it holds its id alone. -/
structure Keeps (s : SessionStore) (maxAge : Int) (info : SessionInfo) : Prop where
  representable : info.data.Representable
  exists_id : s.kind ≠ .cookie → ∃ id, SessionId.isValid id = true ∧ info.data.id? = some id
  age : s.kind ≠ .cookie → info.config.maxAge = maxAge ∧ 0 ≤ maxAge ∨ info.data.length ≤ 1

section

variable (h : s.Keyed pairs) (hw : w.entropy.broken = false) {info : SessionInfo}
  (hk : s.kind = .serverSide records) (hid : info.data.id? = some id)
  (hvalid : SessionId.isValid id = true)

include h hw hk hid hvalid

/-- Where there is nothing to keep, saving drops the record and sets the cookie of the id. -/
theorem exists_run_save_of_drop (jar : Cookie.Jar) (key : String) (now : Int)
    (hdrop : info.config.maxAge < 0 ∨ info.data.length ≤ 1)
    (hremoved : (Call.remove records id).Succeeds (World.respond (.remove records id) w).1) :
    ∃ text w', (s.save jar key now info).run.run World.respond w =
        (.ok (jar.add (Cookie.ofSession key text info.config)), w') ∧
      s.Encodes key now (.ofId id) text ∧
      ∀ now, Responder.record World.respond records id (w'.withNow now) = .error .noSession := by
  rw [save_eq hk hid hvalid, Plan.run_bind, writeRecord, if_pos hdrop, run_dropRecord hremoved]
  have hfollows := World.follows_respond (.remove records id) w
  obtain ⟨text, w', hset, hencodes, hdrawn⟩ := exists_run_setCookie h
    (hfollows.broken_eq.trans hw) jar key now (SessionData.ofId id) info.config
  refine ⟨text, w', hset, hencodes, fun now => ?_⟩
  rw [World.record_withNow_of_drawn hdrawn, World.record_of_removed hremoved]

/-- Else it writes the record first, which is there until its deadline. -/
theorem exists_run_save_of_keep (jar : Cookie.Jar) (key : String) (now : Int)
    (hkeep : ¬ (info.config.maxAge < 0 ∨ info.data.length ≤ 1))
    (hrun : (s.writeRecord records key now id info).run.Unfailing World.respond w) :
    ∃ record text w', (s.save jar key now info).run.run World.respond w =
        (.ok (jar.add (Cookie.ofSession key text info.config)), w') ∧
      s.Encodes key now (.ofId id) text ∧ s.Encodes key now info.data record ∧
      ∀ now, (∀ t, Records.Memory.deadline? w.now info.config.maxAge = some t → now < t) →
        Responder.record World.respond records id (w'.withNow now) = .ok record := by
  rw [writeRecord, if_neg hkeep] at hrun
  rw [save_eq hk hid hvalid, Plan.run_bind, writeRecord, if_neg hkeep]
  obtain ⟨record, w₁, hencode, hencodes, -⟩ := exists_run_encode h.signs hw key now info.data
  have hfollows := World.follows_run hencode
  rw [ExceptT.run_bind, unfailing_bind, hencode] at hrun
  rw [ExceptT.run_bind, Plan.run_bind, hencode]
  have hadded : (World.respond (.add records id record info.config.maxAge) w₁).1 = .ok () :=
    hrun.2.1
  have hwritten : (ExceptT.mk (Plan.add records id record info.config.maxAge)).run.run
      World.respond w₁ = (.ok (), (World.respond (.add records id record info.config.maxAge) w₁).2) :=
    Prod.ext hadded rfl
  have hfollows' := World.follows_respond (.add records id record info.config.maxAge) w₁
  obtain ⟨text, w', hset, hcookie, hdrawn⟩ := exists_run_setCookie h
    ((hfollows'.broken_eq.trans hfollows.broken_eq).trans hw) jar key now (SessionData.ofId id)
    info.config
  refine ⟨record, text, w', ?_, hcookie, hencodes, fun now hlive => ?_⟩
  · dsimp only
    rw [hwritten]
    exact hset
  · -- setting the cookie only draws octets, so the record is the one that was written
    rw [World.record_withNow_of_drawn hdrawn]
    refine World.record_of_added hadded ?_
    rw [hfollows.now_eq]
    exact hlive

end

/-- **What is saved is stored.** Saving sets a cookie and does not fail, if no call fails. -/
theorem exists_run_save_stored (h : s.Keyed pairs) (hw : w.entropy.broken = false)
    (jar : Cookie.Jar) {info : SessionInfo} (hinfo : s.Keeps maxAge info)
    (hrun : (s.save jar key (w.now / 1000) info).run.Unfailing World.respond w) :
    ∃ text w', (s.save jar key (w.now / 1000) info).run.run World.respond w =
        (.ok (jar.add (Cookie.ofSession key text info.config)), w') ∧
      s.Stored key maxAge w.now info.data text w' := by
  cases hk : s.kind with
  | cookie =>
      obtain ⟨text, w', hset, hencodes, -⟩ :=
        exists_run_setCookie h hw jar key (w.now / 1000) info.data info.config
      refine ⟨text, w', ?_, .inCookie hk hencodes⟩
      rw [save, hk]
      exact hset
  | serverSide records =>
      have hkind : s.kind ≠ .cookie := kind_ne_cookie hk
      obtain ⟨id, hvalid, hid⟩ := hinfo.exists_id hkind
      rw [save_eq hk hid hvalid, unfailing_bind] at hrun
      have hrecord := hrun.1
      by_cases hdrop : info.config.maxAge < 0 ∨ info.data.length ≤ 1
      · have hshort : info.data.length ≤ 1 := by
          have := hinfo.age hkind
          omega
        rw [writeRecord, if_pos hdrop] at hrecord
        obtain ⟨text, w', hsave, hencodes, hgone⟩ := exists_run_save_of_drop h hw hk hid hvalid jar
          key (w.now / 1000) hdrop hrecord.1
        exact ⟨text, w', hsave,
          .bare hk hvalid (SessionData.eq_ofId hid hshort) hencodes hgone⟩
      · obtain ⟨hmaxAge, -⟩ := (hinfo.age hkind).resolve_right (not_or.mp hdrop).2
        obtain ⟨record, text, w', hsave, hcookie, hencodes, hthere⟩ := exists_run_save_of_keep h hw
          hk hid hvalid jar key (w.now / 1000) hdrop hrecord
        rw [hmaxAge] at hthere
        exact ⟨text, w', hsave, .inRecord hk hvalid hid hcookie hencodes hthere⟩

/-- Until the session ends, whoever sends the text of its cookie loads it. -/
def Reloads (s : SessionStore) (key text : String) (maxAge made : Int) (d : SessionData)
    (w : World) : Prop :=
  ∀ now jar, now < Records.Memory.lastMoment → s.Within maxAge made now →
    jar.get? key = some text →
      (s.load jar key (now / 1000)).run World.respond (w.withNow now) = (d, w.withNow now)

/-- **What is saved is loaded.** Saving sets a cookie, and its text reloads the session; in a cookie
store it has to be short enough for that. -/
theorem exists_run_save (h : s.Keyed pairs) (hw : w.entropy.broken = false) (hnow : Moment w.now)
    (jar : Cookie.Jar) {info : SessionInfo} (hinfo : s.Keeps maxAge info)
    (hrun : (s.save jar key (w.now / 1000) info).run.Unfailing World.respond w) :
    ∃ text w', (s.save jar key (w.now / 1000) info).run.run World.respond w =
        (.ok (jar.add (Cookie.ofSession key text info.config)), w') ∧
      (∃ d, s.Writes key (w.now / 1000) d text) ∧
      ((s.kind = .cookie → text.utf8ByteSize ≤ cookieMaxLength) →
        s.Reloads key text maxAge w.now info.data w') := by
  obtain ⟨text, w', hsave, hstored⟩ := exists_run_save_stored h hw jar hinfo hrun
  refine ⟨text, w', hsave, hstored.exists_writes, ?_⟩
  intro hlength now jar' hlast hwithin hjar
  exact hstored.run_load_of_keyed h rfl (fun _ _ htext => htext) hinfo.representable hnow.isInt64
    hnow.ne_zero (hwithin.lasts hlast) (fun _ _ _ _ => rfl) hlength hjar

end SessionStore

end WebSession
