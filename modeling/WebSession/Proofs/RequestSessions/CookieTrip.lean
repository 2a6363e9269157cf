import Mathlib.Data.List.Nodup
import WebSession.Proofs.Cookie.RoundTrip
import WebSession.Proofs.RequestSessions.SavedTexts

/-!
# WebSession.Proofs.RequestSessions.CookieTrip

**Sessions that are saved in cookies come back with the next request** (`sessions_come_back`), whatever
their keys are.

A save sets cookies of sessions alone (`setsSessions_saveAll`), and these come back as they were sent
(`Cookie.Jar.SetsSessions.comesBack`). What is left to tell is what was sent: to each session a text of
it, since nothing but a lack of random octets keeps a store with keys from making one
(`errors_saveAll_of_supplies`).
-/

namespace WebSession.RequestSessions

open Plan SessionStore

variable {factory : SessionFactory} {now : Int} {l : List (String × SessionInfo)} {jar : Cookie.Jar}
  {σ : Type} {respond : Responder σ} {t : σ}

/-- The cookie of a session can be set and sent. -/
structure Sendable (f : String × SessionInfo) : Prop where
  key_ne : f.1 ≠ ""
  path : Cookie.isHeaderText f.2.config.path = true
  domain : Cookie.isHeaderText f.2.config.domain = true

/-- The session is in a cookie store that has a key. -/
def InCookie (factory : SessionFactory) (f : String × SessionInfo) : Prop :=
  ∃ s, factory.store f.2.store = .ok s ∧ s.kind = .cookie ∧ s.Signs

/-- The response sets the cookie of a session to a text of all its data. -/
def SentIn (factory : SessionFactory) (now : Int) (jar : Cookie.Jar) (f : String × SessionInfo) :
    Prop :=
  ∃ s text, factory.store f.2.store = .ok s ∧ s.IsText f.1 now f.2.data text ∧
    jar.sent.get? f.1 = some text

/-! ### What is sent -/

/-- **The cookie under a key** is of a text of its session, or there was an error. -/
theorem cookie_saveAll_savedIn (factory : SessionFactory) (now : Int) (respond : Responder σ) (t : σ)
    (l : List (String × SessionInfo)) (jar : Cookie.Jar) (key : String) :
    let saved := ((saveAll factory now l jar).run respond t).1
    (∃ f ∈ l, f.1 = key ∧ ∃ s text, SavedIn factory now f s text ∧
      saved.1.changes.get? key = some (Cookie.ofSession f.1 text f.2.config)) ∨
    ((∃ f ∈ l, f.1 = key) → saved.2 ≠ []) ∧
      saved.1.changes.get? key = jar.changes.get? key := by
  rcases @cookie_saveAll_cases factory now l jar σ respond t (fun _ => True)
    (fun _ _ _ _ => trivial) trivial key with
    ⟨f, hf, hkey, text, ⟨t', -, hmade⟩, hset⟩ | ⟨hfails, hkept⟩
  · obtain ⟨s, hsaved, -⟩ := exists_savedIn hmade
    exact Or.inl ⟨f, hf, hkey, s, text, hsaved, hset⟩
  · refine Or.inr ⟨fun ⟨f, hf, hkey⟩ => ?_, hkept⟩
    obtain ⟨e, he, -⟩ := hfails f hf hkey
    exact List.ne_nil_of_mem he

/-- **A save** sets cookies of sessions alone. -/
theorem setsSessions_saveAll (hjar : jar.SetsSessions) (hsend : ∀ f ∈ l, Sendable f)
    (respond : Responder σ) (t : σ) :
    ((saveAll factory now l jar).run respond t).1.1.SetsSessions := by
  intro key c hc
  rcases cookie_saveAll_savedIn factory now respond t l jar key with
    ⟨f, hf, rfl, s, text, ⟨-, htext⟩, hset⟩ | ⟨-, hkept⟩
  · obtain ⟨b, rfl⟩ := htext.writes.exists_encode
    cases hset.symm.trans hc
    exact ⟨(hsend f hf).key_ne, b, f.2.config, rfl, (hsend f hf).path, (hsend f hf).domain⟩
  · exact hjar key c (hkept.symm.trans hc)

/-- **The cookie of a session** is set to a text of it, unless there was an error. -/
theorem sentIn_saveAll (hkeys : (l.map Prod.fst).Nodup) {f : String × SessionInfo} (hf : f ∈ l)
    (hstore : InCookie factory f) (jar : Cookie.Jar) (respond : Responder σ) (t : σ) :
    let saved := ((saveAll factory now l jar).run respond t).1
    SentIn factory now saved.1 f ∨
      (saved.2 ≠ [] ∧ saved.1.sent.get? f.1 = jar.sent.get? f.1) := by
  rcases cookie_saveAll_savedIn factory now respond t l jar f.1 with
    ⟨f', hf', hkey, s, text, ⟨hs, htext⟩, hset⟩ | ⟨herrors, hkept⟩
  · obtain rfl : f' = f := List.inj_on_of_nodup_map hkeys hf' hf hkey
    obtain ⟨s', hs', hk, -⟩ := hstore
    obtain rfl : s = s' := Except.ok.inj (hs.symm.trans hs')
    have hcarried : s.carried f'.2.data = f'.2.data := by rw [carried, hk]
    rw [hcarried] at htext
    refine Or.inl ⟨s, text, hs, htext, ?_⟩
    rw [Cookie.Jar.get?_sent, hset]
    rfl
  · refine Or.inr ⟨herrors ⟨f, hf, rfl⟩, ?_⟩
    rw [Cookie.Jar.get?_sent, hkept, Cookie.Jar.get?_sent]

/-- No other cookie is set. -/
theorem sent_saveAll_of_not_mem {key : String} (hkey : key ∉ l.map Prod.fst) (jar : Cookie.Jar)
    (respond : Responder σ) (t : σ) :
    ((saveAll factory now l jar).run respond t).1.1.sent.get? key = jar.sent.get? key := by
  rcases cookie_saveAll_savedIn factory now respond t l jar key with ⟨f, hf, rfl, -⟩ | ⟨-, hkept⟩
  · exact absurd (List.mem_map_of_mem hf) hkey
  · rw [Cookie.Jar.get?_sent, hkept, Cookie.Jar.get?_sent]

/-! ### What fails -/

/-- When octets are given a text is made, and others are still given. -/
theorem run_textOne_of_supplies {ok : σ → Prop} (hr : respond.Supplies ok) (ht : ok t)
    {f : String × SessionInfo} (hstore : InCookie factory f) :
    (∃ text, ((textOne factory now f).run.run respond t).1 = .ok text) ∧
      ok ((textOne factory now f).run.run respond t).2 := by
  obtain ⟨s, hs, hk, e, more, he, hkey⟩ := hstore
  have hencode : textOne factory now f = e.encode f.1 now f.2.data := by
    simp only [textOne, hs, savedText, hk, he, Encoders.encode]
  obtain ⟨⟨text, hmade, -⟩, hok⟩ := run_of_draws hr (Encoder.draws_encode hkey f.1 now f.2.data) ht
  rw [hencode]
  exact ⟨⟨text, hmade⟩, hok⟩

/-- **As long as octets are given** no session is left out. -/
theorem errors_saveAll_of_supplies {ok : σ → Prop} (hr : respond.Supplies ok) (ht : ok t)
    (hstores : ∀ f ∈ l, InCookie factory f) (jar : Cookie.Jar) :
    ((saveAll factory now l jar).run respond t).1.2 = [] := by
  refine List.eq_nil_iff_forall_not_mem.mpr fun e he => ?_
  have hgood : ∀ f ∈ l, ∀ t, ok t → ok ((textOne factory now f).run.run respond t).2 :=
    fun f hf t ht => (run_textOne_of_supplies hr ht (hstores f hf)).2
  obtain ⟨f, hf, t', ht', hmade⟩ := exists_of_mem_errors hgood ht he
  have hmakes : ∃ text, ((textOne factory now f).run.run respond t').1 = .ok text :=
    (run_textOne_of_supplies hr ht' (hstores f hf)).1
  obtain ⟨text, htext⟩ := hmakes
  rw [hmade] at htext
  cases htext

/-! ### A request -/

/-- **Sessions that are saved in cookies come back with the next request.** Their keys may be any
different texts but the empty one, and their paths and domains whatever a header can hold. In front of
the first semicolon of each header that the response sets stand the name and the value of a cookie, in
which nothing ends them early, and the value as the encoder made it. A request that joins these parts in
any order has a jar of the same names and values. They are those of the sessions, all of them as long as
random octets are given, besides those of sessions that the response set before. -/
theorem sessions_come_back (respond : Responder σ) (t : σ) (factory : SessionFactory) (now : Int)
    (r : RequestSessions) (hjar : r.jar.SetsSessions) (hkeys : (r.loaded.map Prod.fst).Nodup)
    (hstores : ∀ f ∈ r.loaded, InCookie factory f) (hsend : ∀ f ∈ r.loaded, Sendable f) :
    let saved := ((save factory now r).run respond t).1
    saved.1.jar.ComesBack ∧
      (∀ f ∈ r.loaded, SentIn factory now saved.1.jar f ∨
        (saved.2 ≠ [] ∧ saved.1.jar.sent.get? f.1 = r.jar.sent.get? f.1)) ∧
      (∀ key, key ∉ r.loaded.map Prod.fst →
        saved.1.jar.sent.get? key = r.jar.sent.get? key) ∧
      ∀ ok : σ → Prop, respond.Supplies ok → ok t → saved.2 = [] := by
  simp only [run_save_eq_saveAll]
  refine ⟨?_, ?_, ?_, ?_⟩
  · exact (setsSessions_saveAll hjar hsend respond t).comesBack
  · exact fun f hf => sentIn_saveAll hkeys hf (hstores f hf) r.jar respond t
  · exact fun key hkey => sent_saveAll_of_not_mem hkey r.jar respond t
  · exact fun ok hr ht => errors_saveAll_of_supplies hr ht hstores r.jar

/-- Two sessions with odd keys, which come back in the other order. -/
theorem odd_keys_come_back :
    let pair : KeyPair := { hashKey := [1, 2], blockKey? := some (List.replicate 16 7) }
    let w : World := { now := 0, entropy := { octet := fun _ => 7 } }
    let info : String → SessionInfo := fun x =>
      { data := SessionData.empty.insert "x" (.str x), store := "cookie" }
    let r : RequestSessions := { loaded := [("a;b", info "1"), (" ü=%\n", info "2")] }
    ∃ f, SessionFactory.new.setStoreKeys "cookie" [pair] = .ok f ∧
      let saved := ((save f 100 r).run World.respond w).1
      let sent := saved.1.jar.sent
      saved.2 = [] ∧ (sent.get? "a;b").isSome ∧ (sent.get? " ü=%\n").isSome ∧
        sent.get? "a" = none ∧
        Cookie.Jar.ofHeaders ["; ".intercalate (saved.1.jar.headers.map Cookie.front).reverse] =
          { received := sent } := by
  intro pair w info r
  obtain ⟨f, hf⟩ : ∃ f, SessionFactory.new.setStoreKeys "cookie" [pair] = .ok f := ⟨_, rfl⟩
  refine ⟨f, hf, ?_⟩
  have hstore : ∃ s, f.store "cookie" = .ok s ∧ s.kind = .cookie ∧ s.Signs := by
    cases hf
    have hkeyed := keyed_of_setStoreKeys
      (rfl : SessionFactory.new.setStoreKeys "cookie" [pair] = .ok _) rfl (List.cons_ne_nil _ _)
    exact ⟨_, rfl, rfl, hkeyed.signs⟩
  have hstores : ∀ g ∈ r.loaded, InCookie f g :=
    List.forall_mem_cons.mpr ⟨hstore, List.forall_mem_singleton.mpr hstore⟩
  have hsend : ∀ f ∈ r.loaded, Sendable f :=
    List.forall_mem_cons.mpr ⟨⟨by decide, by decide, by decide⟩,
      List.forall_mem_singleton.mpr ⟨by decide, by decide, by decide⟩⟩
  obtain ⟨hback, hsent, hkept, herrors⟩ := sessions_come_back World.respond w f 100 r
    (Cookie.Jar.setsSessions_of_empty rfl) (by decide) hstores hsend
  have hnone := herrors _ World.supplies rfl
  have hsome : ∀ g ∈ r.loaded,
      (((save f 100 r).run World.respond w).1.1.jar.sent.get? g.1).isSome := by
    intro g hg
    obtain ⟨s, text, -, -, htext⟩ := (hsent g hg).resolve_right fun h => h.1 hnone
    rw [htext]
    rfl
  have hfirst := hsome _ List.mem_cons_self
  have hsecond := hsome _ (List.mem_cons_of_mem _ List.mem_cons_self)
  exact ⟨hnone, hfirst, hsecond, hkept "a" (by decide), hback.next_eq _ (List.reverse_perm _)⟩

end WebSession.RequestSessions
