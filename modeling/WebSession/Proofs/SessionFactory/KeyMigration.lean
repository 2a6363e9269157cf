import WebSession.Proofs.Encoder.Authenticity
import WebSession.Proofs.SessionFactory.KeyRotation
import WebSession.Proofs.SessionStore.Faults
import WebSession.Proofs.SessionStore.Serving

/-!
# WebSession.Proofs.SessionFactory.KeyMigration

**One request moves a session to the new keys** (`load_after_migration`). While a store has the new
and the old pair, it reads what either wrote and writes with the new one. So a session that was
loaded and saved once in that time can be loaded without the old pair.

It takes that the new pair refuses the texts of the old one. If it verifies them, it reads what was
encrypted with another key (`SessionFactory.decode_after_rotation`).
-/

namespace WebSession

open Plan

/-! ### Refused texts -/

/-- For its code an encoder refuses every text that another may write of a session at a time. -/
def Encoder.Refuses (e writer : Encoder) (key : String) (made : Int) (d : SessionData) : Prop :=
  ∀ (w : World) (text : String) (now : Int),
    ((writer.encode key made d).run.run World.respond w).1 = .ok text →
      e.decode key now text = .error .authentication

/-- A signed text is not verified with another code of its message. -/
theorem Encoder.verified?_of_ne {authenticate authenticate' : Bytes → Sha256.Digest}
    {key payload timestamp : String} (hp : '|' ∉ payload.toList) (ht : '|' ∉ timestamp.toList)
    (hne : authenticate (message key payload timestamp) ≠
      authenticate' (message key payload timestamp)) :
    verified? authenticate key (signed authenticate' key payload timestamp) = none := by
  refine Option.eq_none_iff_forall_ne_some.mpr fun content hverified => ?_
  obtain ⟨payload', timestamp'⟩ := content
  obtain ⟨hp', ht', hsigned⟩ := verified?_eq_some_iff.mp hverified
  obtain ⟨rfl, rfl⟩ := signed_injective hp ht hp' ht' hsigned
  rw [signed_eq, signed_eq] at hsigned
  have hjoined := Bytes.ofText_injective (Base64Url.encode_injective hsigned)
  obtain ⟨-, -, hcode⟩ := joined_injective hp ht hp' ht' hjoined
  exact hne (Vector.toList_inj.mp (Base64Url.encode_injective hcode)).symm

/-- A limit on the length does not make an encoder read what it refuses for its code. -/
theorem Encoder.exists_error_of_authentication {e : Encoder} {key text : String} {now : Int}
    (h : ({ e with maxLength := 0 } : Encoder).decode key now text = .error .authentication) :
    ∃ failure, e.decode key now text = .error failure := by
  cases he : e.authenticate? with
  | none => exact ⟨.missingHash, by rw [decode, he]⟩
  | some authenticate =>
      have hunverified := (decode_eq_authentication_iff (e := { e with maxLength := 0 }) he rfl).mp h
      rw [decode_of_not_verified he hunverified]
      split
      · exact ⟨_, rfl⟩
      · exact ⟨_, rfl⟩

namespace KeyPair

/-- For its code a pair refuses what another pair writes of a session at a time. -/
def Refuses (new old : KeyPair) (key : String) (made : Int) (d : SessionData) : Prop :=
  ∀ n o, new.encoder 0 = .ok n → old.encoder 0 = .ok o → n.Refuses o key made d

variable {new old : KeyPair} {maxLength : Nat} {n o : Encoder} {key text : String} {made now : Int}
  {d : SessionData}

/-- Without a cipher a pair writes one text of a session at a time, and it is refused if its code is
another. -/
theorem refuses_of_ne {hashKey hashKey' : Bytes}
    (h : Sha256.authenticate hashKey
        (Encoder.message key (Base64Url.encode d.serialize) (Numeral.text made)) ≠
      Sha256.authenticate hashKey'
        (Encoder.message key (Base64Url.encode d.serialize) (Numeral.text made))) :
    Refuses { hashKey := hashKey } { hashKey := hashKey' } key made d := by
  intro n o hn ho w text now htext
  unfold encoder at hn ho
  split at hn
  · cases hn
  · split at ho
    · cases ho
    · cases hn
      cases ho
      rw [Encoder.run_encode_of_plain rfl rfl] at htext
      rw [← Except.ok.inj htext]
      exact (Encoder.decode_eq_authentication_iff rfl rfl).mpr (Encoder.verified?_of_ne
        (Base64Url.bar_not_mem_encode _) (Numeral.bar_not_mem_text _) h)

/-- **What the new pair refuses is read by the old one** behind it. -/
theorem decode_of_refuses (h : new.Refuses old key made d) (hn : new.encoder maxLength = .ok n)
    (ho : old.encoder maxLength = .ok o) {w : World}
    (htext : ((o.encode key made d).run.run World.respond w).1 = .ok text) :
    Encoders.decode [n, o] key now text = Encoders.decode [o] key now text := by
  have hrefused := h _ _ (encoder_withLength hn 0) (encoder_withLength ho 0) w text now htext
  obtain ⟨failure, hn⟩ := Encoder.exists_error_of_authentication hrefused
  rw [Encoders.decode_pair, hn]
  simp only [Encoders.decode, Encoders.decode.go]
  cases o.decode key now text <;> rfl

end KeyPair

/-! ### Migration -/

namespace SessionFactory

/-- A store in turn with the old pair, with both pairs, and with the new one. -/
structure Migrates (f : SessionFactory) (name : String) (old new : KeyPair)
    (before during after : SessionStore) : Prop where
  before : ∃ f', f.setStoreKeys name [old] = .ok f' ∧ f'.store name = .ok before
  during : ∃ f', f.setStoreKeys name [new, old] = .ok f' ∧ f'.store name = .ok during
  after : ∃ f', f.setStoreKeys name [new] = .ok f' ∧ f'.store name = .ok after

variable {f : SessionFactory} {name : String} {old new : KeyPair}
  {before during after : SessionStore}

/-- The store stays of its kind, and its encoders are those of the pairs it has. -/
theorem Migrates.exists_encoders (h : f.Migrates name old new before during after) :
    during.kind = before.kind ∧ after.kind = before.kind ∧
      ∃ n o, new.encoder before.maxLength = .ok n ∧ old.encoder before.maxLength = .ok o ∧
        before.Keyed [old] ∧ before.encoders = [o] ∧
        during.Keyed [new, old] ∧ during.encoders = [n, o] ∧
        after.Keyed [new] ∧ after.encoders = [n] := by
  obtain ⟨f₁, hkeys₁, hstore₁⟩ := h.before
  obtain ⟨f₂, hkeys₂, hstore₂⟩ := h.during
  obtain ⟨f₃, hkeys₃, hstore₃⟩ := h.after
  obtain ⟨s, hs, hkind₁, -⟩ := store_of_setStoreKeys hkeys₁ hstore₁
  obtain ⟨s₂, hs₂, hkind₂, -⟩ := store_of_setStoreKeys hkeys₂ hstore₂
  obtain ⟨s₃, hs₃, hkind₃, -⟩ := store_of_setStoreKeys hkeys₃ hstore₃
  rw [hs] at hs₂ hs₃
  cases hs₂
  cases hs₃
  have hduring : during.kind = before.kind := hkind₂.trans hkind₁.symm
  have hafter : after.kind = before.kind := hkind₃.trans hkind₁.symm
  -- the greatest length of a text is a matter of the kind alone
  have hlength : ∀ s' : SessionStore, s'.kind = before.kind → s'.maxLength = before.maxLength := by
    intro s' hkind
    rw [SessionStore.maxLength, SessionStore.maxLength, hkind]
  have hkeyed₁ := SessionStore.keyed_of_setStoreKeys hkeys₁ hstore₁ (List.cons_ne_nil _ _)
  have hkeyed₂ := SessionStore.keyed_of_setStoreKeys hkeys₂ hstore₂ (List.cons_ne_nil _ _)
  have hkeyed₃ := SessionStore.keyed_of_setStoreKeys hkeys₃ hstore₃ (List.cons_ne_nil _ _)
  obtain ⟨o, ho, hold⟩ := KeyPair.encoders_one hkeyed₁.2
  obtain ⟨n, hn, hnew⟩ := KeyPair.encoders_one hkeyed₃.2
  obtain ⟨n', more, hboth, hnew', hmore⟩ := KeyPair.encoders_cons hkeyed₂.2
  obtain ⟨o', rfl, hold'⟩ := KeyPair.encoders_one hmore
  rw [hlength after hafter] at hnew
  rw [hlength during hduring] at hnew' hold'
  rw [hnew] at hnew'
  cases hnew'
  rw [hold] at hold'
  cases hold'
  exact ⟨hduring, hafter, n, o, hnew, hold, hkeyed₁, ho, hkeyed₂, hboth, hkeyed₃, hn⟩

/-- **One request moves a session to the new keys.** It was saved with the old pair; with both pairs
it is loaded, and when it was saved as it is, it is loaded with the new pair alone. In a cookie store
both cookies have to be short enough. -/
theorem load_after_migration (h : f.Migrates name old new before during after) {w : World}
    {key : String} {d : SessionData} (hd : d.Representable) (hw : w.Serves before d)
    (hmade : Range.isInt64 (w.now / 1000) = true) (hzero : w.now / 1000 ≠ 0)
    (hrefuses : new.Refuses old key (w.now / 1000) d)
    (hrefusesId : ∀ id, d.id? = some id → new.Refuses old key (w.now / 1000) (.ofId id))
    (jar : Cookie.Jar) {config : SessionConfig} (hage : 0 ≤ config.maxAge) :
    ∃ text w', (before.save jar key (w.now / 1000)
        { data := d, store := name, config := config }).run.run World.respond w =
          (.ok (jar.add (Cookie.ofSession key text config)), w') ∧
      ∀ (now : Int) (jar : Cookie.Jar) (config' : SessionConfig),
        before.Lasts config.maxAge w.now now →
        (before.kind = .cookie → text.utf8ByteSize ≤ SessionStore.cookieMaxLength) →
        jar.get? key = some text → Range.isInt64 (now / 1000) = true → now / 1000 ≠ 0 →
        0 ≤ config'.maxAge →
        (during.load jar key (now / 1000)).run World.respond (w'.withNow now) =
            (d, w'.withNow now) ∧
          ∃ text' w'', (during.touch jar key (now / 1000) name config').run World.respond
              (w'.withNow now) = (.ok (jar.add (Cookie.ofSession key text' config')), w'') ∧
            ∀ (later : Int) (jar : Cookie.Jar), during.Lasts config'.maxAge now later →
              (during.kind = .cookie → text'.utf8ByteSize ≤ SessionStore.cookieMaxLength) →
              jar.get? key = some text' →
              (after.load jar key (later / 1000)).run World.respond (w''.withNow later) =
                (d, w''.withNow later) := by
  obtain ⟨hkind, hkind', n, o, hn, ho, hbefore, hencoders, hduring, hencoders', hafter,
    hencoders''⟩ := h.exists_encoders
  obtain ⟨text, w', hsave, hstored, hserves⟩ :=
    SessionStore.exists_run_save_of_serves hbefore
      { data := d, store := name, config := config } hw hd hage jar key
  refine ⟨text, w', hsave, ?_⟩
  intro now jar₂ config' hlasts hlength hjar hmade' hzero' hage'
  -- both pairs read what the old one wrote, since the new one refuses it
  have hload : (during.load jar₂ key (now / 1000)).run World.respond (w'.withNow now) =
      (d, w'.withNow now) := by
    refine hstored.run_load hkind hlasts (fun _ _ _ _ => rfl) (fun d' text' hd' htext hsame => ?_)
      hjar
    have hrefused : new.Refuses old key (w.now / 1000) d' := by
      rcases hd' with rfl | ⟨id, -, hid, rfl⟩
      · exact hrefuses
      · exact hrefusesId id hid
    have hread := SessionStore.decode_of_writes hbefore htext.writes (hd'.representable hd) hmade
      hzero hlasts.le_default fun hk => (hsame hk).symm ▸ hlength hk
    obtain ⟨w₀, htext⟩ := htext
    rw [hencoders] at htext hread
    rw [hencoders', KeyPair.decode_of_refuses hrefused hn ho htext, hread]
  have hserves' : (w'.withNow now).Serves during d :=
    ⟨hserves.supplied, fun records hk => by
      obtain ⟨id, hvalid, hid, hworks⟩ := hserves.works records (hkind ▸ hk)
      exact ⟨id, hvalid, hid, hworks.supplied, hworks.works⟩⟩
  -- the first of both pairs is the new one, and it writes
  obtain ⟨text', w'', hsave', hstored', -⟩ := SessionStore.exists_run_save_of_serves hduring
    { data := d, store := name, config := config' } hserves' hd hage' jar₂ key
  refine ⟨hload, text', w'', ?_, ?_⟩
  · rw [SessionStore.touch, Plan.run_bind, hload]
    exact hsave'
  · intro later jar₃ hlasts' hlength' hjar'
    -- the encoder that is left is the one that wrote
    refine hstored'.run_load_of_keyed hafter (hkind'.trans hkind.symm) (fun d' text₃ htext => ?_) hd
      hmade' hzero' hlasts' (fun _ _ _ _ => rfl) hlength' hjar'
    obtain ⟨e, more, he, hwrites⟩ := htext
    rw [hencoders'] at he
    cases he
    exact ⟨n, [], hencoders'', hwrites⟩

/-- A session with a value that is in memory while the authentication key is changed. -/
theorem value_kept_by_migration :
    let old : KeyPair := { hashKey := [1, 2] }
    let new : KeyPair := { hashKey := [3, 4] }
    let w : World :=
      { now := 100000
        entropy := { octet := fun _ => 0 }
        records := Dict.empty.set "memory" (.memory {}) }
    let d := (SessionData.ofId "ab").insert "x" (.int 1)
    ∃ before during after text w' text' w'',
      unkeyed.Migrates "memory" old new before during after ∧
      (before.save {} "s" 100 { data := d, store := "memory" }).run.run World.respond w =
        (.ok (Cookie.Jar.add {} (Cookie.ofSession "s" text {})), w') ∧
      (during.touch (Cookie.Jar.add {} (Cookie.ofSession "s" text {})) "s" 200 "memory" {}).run
          World.respond (w'.withNow 200000) =
        (.ok ((Cookie.Jar.add {} (Cookie.ofSession "s" text {})).add
          (Cookie.ofSession "s" text' {})), w'') ∧
      ((after.load (Cookie.Jar.add {} (Cookie.ofSession "s" text' {})) "s" 300).run World.respond
        (w''.withNow 300000)).1 = d := by
  intro old new w d
  let o : Encoder := { Encoder.ofKeys [1, 2] none with maxAge := SessionConfig.defaultMaxAge }
  let n : Encoder := { Encoder.ofKeys [3, 4] none with maxAge := SessionConfig.defaultMaxAge }
  let store (encoders : List Encoder) : SessionStore :=
    { kind := .serverSide "memory", encoders := encoders }
  have hmigrates : unkeyed.Migrates "memory" old new (store [o]) (store [n, o]) (store [n]) :=
    ⟨⟨_, rfl, rfl⟩, ⟨_, rfl, rfl⟩, ⟨_, rfl, rfl⟩⟩
  have hserves : w.Serves (store [o]) d :=
    ⟨rfl, fun records hk => by
      cases hk
      exact ⟨"ab", by decide, rfl, rfl, _, Dict.get?_set_self, trivial⟩⟩
  have hd : d.Representable := ⟨by decide, by decide⟩
  have hrefuses : new.Refuses old "s" 100 d := KeyPair.refuses_of_ne (by decide +kernel)
  have hrefusesId : ∀ id, d.id? = some id → new.Refuses old "s" 100 (.ofId id) := by
    intro id hid
    cases hid
    exact KeyPair.refuses_of_ne (by decide +kernel)
  have hlasts : ∀ s : SessionStore, s.Lasts (SessionConfig.maxAge {}) 100000 200000 ∧
      s.Lasts (SessionConfig.maxAge {}) 200000 300000 := fun s =>
    ⟨SessionStore.lasts_of_lt (by decide) (fun _ _ => by decide) (by decide),
      SessionStore.lasts_of_lt (by decide) (fun _ _ => by decide) (by decide)⟩
  obtain ⟨text, w', hsave, hmore⟩ := load_after_migration hmigrates hd hserves (by decide)
    (by decide) hrefuses hrefusesId {} (by decide : 0 ≤ SessionConfig.maxAge {})
  obtain ⟨-, text', w'', htouch, hlater⟩ := hmore 200000
    (Cookie.Jar.add {} (Cookie.ofSession "s" text {})) {} (hlasts _).1 (fun hk => nomatch hk)
    Cookie.Jar.get?_add_self (by decide) (by decide) (by decide)
  have hload := hlater 300000 (Cookie.Jar.add {} (Cookie.ofSession "s" text' {})) (hlasts _).2
    (fun hk => nomatch hk) Cookie.Jar.get?_add_self
  exact ⟨_, _, _, text, w', text', w'', hmigrates, hsave, htouch, congrArg Prod.fst hload⟩

end SessionFactory

end WebSession
