import Mathlib.Algebra.Order.Floor.Div
import WebSession.Proofs.SessionStore.SameText

/-!
# WebSession.Proofs.SessionStore.CookieSize

**A cookie is read if and only if it is short enough** (`load_of_saved_cookie`). Saving asks for no
length, and loading makes an empty session of what is longer than `cookieMaxLength`, whichever of the
keys it tries.

How long the text is hangs on the size of the session, on the digits of the time and on whether there
is a cipher (`cookieSize`). What is short enough is never too high nor too broad to be read, since each
level and each item takes octets.
-/

namespace WebSession

open Plan

/-- So many octets in base 64 are a third more, rounded up. -/
theorem Base64Url.size_eq_ceilDiv (n : Nat) : size n = 4 * n ⌈/⌉ 3 := by
  rw [size, Nat.ceilDiv_eq_add_pred_div]
  rfl

/-- The characters of a numeral take one octet each. -/
theorem Numeral.utf8ByteSize_text (n : Int) : (text n).utf8ByteSize = (text n).length := by
  rw [Bytes.utf8ByteSize_of_ascii, String.length_toList]
  intro c hc
  rw [toList_text, List.mem_append] at hc
  rcases hc with hsign | hdigit
  · split at hsign
    · rw [List.mem_singleton.mp hsign]
      rfl
    · cases hsign
  · have hdigit := isDigit_of_mem_toDigits hdigit
    simp only [isDigit, Bool.and_eq_true, decide_eq_true_eq] at hdigit
    have hascii : c.toNat ≤ 127 := Nat.le_trans hdigit.2 (by decide)
    exact Char.utf8Size_eq_one_iff.mpr hascii

namespace SessionStore

variable {s : SessionStore} {pairs : List KeyPair} {key text : String} {made now : Int}
  {d : SessionData}

/-- The number of characters of a cookie, of the octets of its session and the digits of its time. A
cipher adds a counter and a salt; two bars and the code are 45 characters. -/
def cookieSize (encrypted : Bool) (length digits : Nat) : Nat :=
  4 * (4 * (length + if encrypted then 32 else 0) ⌈/⌉ 3 + digits + 45) ⌈/⌉ 3

/-- A longer session has no shorter cookie. -/
theorem cookieSize_mono (encrypted : Bool) (digits : Nat) :
    Monotone fun length => cookieSize encrypted length digits := by
  intro length length' hle
  simp only [cookieSize, Nat.ceilDiv_eq_add_pred_div]
  omega

theorem le_cookieSize (encrypted : Bool) (length digits : Nat) :
    length + 45 ≤ cookieSize encrypted length digits := by
  simp only [cookieSize, Nat.ceilDiv_eq_add_pred_div]
  omega

/-- **The size of a text** that the encoder of a pair makes. -/
theorem textSize_eq_cookieSize {pair : KeyPair} {maxLength : Nat} {e : Encoder}
    (h : pair.encoder maxLength = .ok e) (made : Int) (d : SessionData) :
    e.textSize made d =
      cookieSize pair.blockKey?.isSome d.serialize.length (Numeral.text made).length := by
  have hsealed : e.sealedLength d.serialize.length =
      d.serialize.length + if pair.blockKey?.isSome then 32 else 0 := by
    rw [← KeyPair.isSome_block?_encoder h, Encoder.sealedLength]
    cases e.block? with
    | none => rfl
    | some block =>
        simp only [CounterMode.blockSize, Option.isSome_some, if_true]
        omega
  have hclock : e.clock made = made := by
    obtain ⟨block?, rfl⟩ := KeyPair.encoder_eq h
    rfl
  have hcode : Base64Url.size 32 = 43 := rfl
  rw [Encoder.textSize, hsealed, hclock, Numeral.utf8ByteSize_text, hcode, cookieSize,
    ← Base64Url.size_eq_ceilDiv, ← Base64Url.size_eq_ceilDiv]
  congr 1
  omega

/-- What fits a cookie fits the format. -/
theorem representable_of_cookieSize_le {encrypted : Bool} {digits : Nat}
    (h : cookieSize encrypted d.serialize.length digits ≤ cookieMaxLength) : d.Representable := by
  by_contra hd
  have hlong := SessionData.lt_length_serialize hd
  have hsize := le_cookieSize encrypted d.serialize.length digits
  rw [cookieMaxLength] at h
  rw [Value.maxHeight] at hlong
  omega

/-- **Loading a cookie** gives its session if the text is short enough, and else an empty one. -/
theorem load_of_isText (hk : s.kind = .cookie) (hkeyed : s.Keyed pairs)
    (htext : s.IsText key made d text) (hd : text.utf8ByteSize ≤ cookieMaxLength → d.Representable)
    (hmade : Range.isInt64 made = true) (hzero : made ≠ 0)
    (hage : now ≤ made + SessionConfig.defaultMaxAge) {jar : Cookie.Jar}
    (hjar : jar.get? key = some text) :
    s.load jar key now =
      .done (if text.utf8ByteSize ≤ cookieMaxLength then d else .empty) := by
  have hcookie : s.readCookie jar key now = Encoders.decode s.encoders key now text :=
    readCookie_of_get? hjar
  by_cases hshort : text.utf8ByteSize ≤ cookieMaxLength
  · rw [if_pos hshort, load_of_cookie hk, hcookie,
      decode_of_writes hkeyed htext.writes (hd hshort) hmade hzero hage fun _ => hshort]
    rfl
  · rw [if_neg hshort]
    -- every encoder has the limit, so none of them reads what oversteps it
    cases hread : Encoders.decode s.encoders key now text with
    | ok d' => exact absurd (short_of_decode hkeyed hmade htext hk hread) hshort
    | error failure => exact load_of_unread (hcookie.trans hread)

/-- **A saved cookie is read exactly if it is short enough.** Saving in a keyed cookie store always
succeeds, and sets the cookie to a text whose length is that of the sizes, whatever octets are drawn.
For the default age whoever sends it gets the session if the length is within the limit, and an empty
session if not, however many keys there are. A longer session never has a shorter cookie. -/
theorem load_of_saved_cookie {f f' : SessionFactory} {name : String} {pair : KeyPair}
    {more : List KeyPair} (hkeys : f.setStoreKeys name (pair :: more) = .ok f')
    (hs : f'.store name = .ok s) (hk : s.kind = .cookie) {σ : Type} {respond : Responder σ}
    {ok : σ → Prop} (hr : respond.Supplies ok) {t : σ} (ht : ok t) {made : Int}
    (hmade : Range.isInt64 made = true) (hzero : made ≠ 0) (jar : Cookie.Jar) (key : String)
    (info : SessionInfo) :
    let size := fun length =>
      cookieSize pair.blockKey?.isSome length (Numeral.text made).length
    Monotone size ∧
    ∃ text, ((s.save jar key made info).run.run respond t).1 =
        .ok (jar.add (Cookie.ofSession key text info.config)) ∧
      text.utf8ByteSize = size info.data.serialize.length ∧
      ∀ (now : Int) (jar : Cookie.Jar), now ≤ made + SessionConfig.defaultMaxAge →
        jar.get? key = some text →
        s.load jar key now =
          .done (if size info.data.serialize.length ≤ 4096 then info.data else .empty) := by
  intro size
  have hkeyed := keyed_of_setStoreKeys hkeys hs (List.cons_ne_nil _ _)
  obtain ⟨e, rest, he, hpair, -⟩ := KeyPair.encoders_cons hkeyed.2
  obtain ⟨⟨text, hrun, -⟩, -⟩ := Plan.run_of_draws hr
    (Encoder.draws_encode (KeyPair.isSome_authenticate? hpair) key made info.data) ht
  have hencode : ((Encoders.encode s.encoders key made info.data).run.run respond t).1 =
      .ok text := by
    rw [he]
    exact hrun
  have htext : s.IsText key made info.data text := ⟨σ, respond, t, hencode⟩
  have hsize : text.utf8ByteSize = size info.data.serialize.length :=
    (htext.size_eq he).trans (textSize_eq_cookieSize hpair made info.data)
  refine ⟨cookieSize_mono _ _, text, ?_, hsize, fun now jar' hage hjar => ?_⟩
  · rw [run_save_eq, Plan.run_bind, savedText, hk]
    dsimp only
    rw [hencode]
    rfl
  · -- a short cookie is of a session that fits the format, so it is read as that one
    rw [load_of_isText hk hkeyed htext (fun hshort => ?_) hmade hzero hage hjar, hsize]
    · rfl
    · rw [hsize] at hshort
      exact representable_of_cookieSize_le hshort

/-- With a cipher and an older key, one letter is read back and five thousand are not. -/
theorem long_cookie_unread :
    let pair : KeyPair := { hashKey := [1, 2], blockKey? := some (List.replicate 16 7) }
    let older : KeyPair := { hashKey := [3] }
    let w : World := { now := 0, entropy := { octet := fun _ => 7 } }
    let letters : Nat → SessionInfo := fun n =>
      { data := SessionData.empty.insert "x" (.str (String.ofList (List.replicate n 'x')))
        store := "cookie" }
    let jar : String → Cookie.Jar := fun text => Cookie.Jar.add {} (Cookie.ofSession "s" text {})
    ∃ f s, SessionFactory.new.setStoreKeys "cookie" [pair, older] = .ok f ∧
      f.store "cookie" = .ok s ∧
      (∃ text, ((s.save {} "s" 100 (letters 1)).run.run World.respond w).1 = .ok (jar text) ∧
        s.load (jar text) "s" 200 = .done (letters 1).data) ∧
      ∃ text, ((s.save {} "s" 100 (letters 5000)).run.run World.respond w).1 = .ok (jar text) ∧
        s.load (jar text) "s" 200 = .done .empty := by
  intro pair older w letters jar
  refine ⟨_, _, rfl, rfl, ?_⟩
  have hjar : ∀ text, (jar text).get? "s" = some text := fun text => Cookie.Jar.get?_add_self
  have hread := fun n => load_of_saved_cookie
    (rfl : SessionFactory.new.setStoreKeys "cookie" [pair, older] = .ok _) rfl rfl World.supplies
    (t := w) rfl (by decide : Range.isInt64 100 = true) (by decide) {} "s" (letters n)
  have hage : (200 : Int) ≤ 100 + SessionConfig.defaultMaxAge := by decide
  have hshort : (letters 1).data.serialize.length = 10 := by decide +kernel
  -- a form is at least as long as any text in it
  have hheld : ∀ value : String, value.utf8ByteSize ≤
      (SessionData.empty.insert "x" (.str value)).serialize.length := by
    intro value
    have hbreadth : value.utf8ByteSize ≤ (SessionData.empty.insert "x" (.str value)).breadth := by
      show _ ≤ max 1 (max (max 1 value.utf8ByteSize) 0)
      omega
    exact Nat.le_trans hbreadth (SessionData.extent_le _).2
  have hletters : ∀ n, (String.ofList (List.replicate n 'x')).utf8ByteSize = n := by
    intro n
    rw [Bytes.utf8ByteSize_of_ascii, String.toList_ofList, List.length_replicate]
    intro c hc
    rw [String.toList_ofList] at hc
    rw [List.eq_of_mem_replicate hc]
    rfl
  constructor
  · obtain ⟨-, text, hsave, -, hload⟩ := hread 1
    refine ⟨text, hsave, ?_⟩
    rw [hload 200 _ hage (hjar text), hshort, if_pos (by decide)]
  · obtain ⟨-, text, hsave, -, hload⟩ := hread 5000
    refine ⟨text, hsave, ?_⟩
    have hlong : 5000 ≤ (letters 5000).data.serialize.length :=
      Nat.le_trans (hletters 5000).ge (hheld _)
    have hsize := le_cookieSize true (letters 5000).data.serialize.length 3
    rw [hload 200 _ hage (hjar text), if_neg]
    exact Nat.not_le.mpr (Nat.lt_of_lt_of_le (by omega) hsize)

end SessionStore

end WebSession
