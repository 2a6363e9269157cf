import WebSession.Proofs.RequestSessions
import WebSession.Proofs.SessionStore.SameText

/-!
# WebSession.Proofs.RequestSessions.SavedTexts

**What saving the sessions of a request comes to, session by session** (`run_saveAll_cons`): a text is
made for each, and where there is one the cookie of the session is set to it.

The run lemma `cookie_saveAll_cases` tells the cookie under a key, and `exists_of_mem_errors` the errors,
by the texts that were made on the way. What all states on the way have in common is left to the caller.
-/

namespace WebSession.RequestSessions

open Plan SessionStore

variable {factory : SessionFactory} {now : Int} {l : List (String × SessionInfo)} {jar : Cookie.Jar}
  {σ : Type} {respond : Responder σ} {t : σ}

/-! ### One session -/

/-- The text to which saving one session sets its cookie. -/
def textOne (factory : SessionFactory) (now : Int) (f : String × SessionInfo) :
    ExceptT Error Plan String :=
  match factory.store f.2.store with
  | .ok s => s.savedText f.1 now f.2
  | .error e => throw e

/-- The jar with the cookie of a session. -/
def withCookie (jar : Cookie.Jar) (f : String × SessionInfo) (text : String) : Cookie.Jar :=
  jar.add (Cookie.ofSession f.1 text f.2.config)

/-- **Saving a session** makes a text and sets its cookie to it. -/
theorem run_saveOne (respond : Responder σ) (t : σ) (f : String × SessionInfo) (jar : Cookie.Jar) :
    (saveOne factory now f jar).run respond t =
      (((textOne factory now f).run.run respond t).1.map (withCookie jar f),
        ((textOne factory now f).run.run respond t).2) := by
  rw [saveOne, textOne]
  cases factory.store f.2.store with
  | error e => rfl
  | ok s =>
      dsimp only
      rw [s.run_save_eq, Plan.run_bind]
      rfl

/-- The text is one in which a store saves a session: it is of what the cookie carries. -/
def SavedIn (factory : SessionFactory) (now : Int) (f : String × SessionInfo) (s : SessionStore)
    (text : String) : Prop :=
  factory.store f.2.store = .ok s ∧ s.IsText f.1 now (s.carried f.2.data) text

theorem exists_savedIn {f : String × SessionInfo} {text : String}
    (h : ((textOne factory now f).run.run respond t).1 = .ok text) :
    ∃ s, SavedIn factory now f s text ∧ (s.Determines (s.carried f.2.data) ∨ s.kind = .cookie) := by
  unfold textOne at h
  cases hs : factory.store f.2.store with
  | error e =>
      rw [hs] at h
      cases h
  | ok s =>
      rw [hs] at h
      obtain ⟨htext, hdetermines⟩ := isText_of_savedText h
      exact ⟨s, ⟨hs, htext⟩, hdetermines⟩

/-! ### One session after the other -/

theorem failure_map {α β : Type} (made : Except Error α) (g : α → β) :
    failure (made.map g) = failure made := by
  cases made <;> rfl

/-- A save goes on after each session, whether it was saved or not. -/
theorem run_saveAll_cons (respond : Responder σ) (t : σ) (f : String × SessionInfo)
    (l : List (String × SessionInfo)) (jar : Cookie.Jar) :
    (saveAll factory now (f :: l) jar).run respond t =
      let made := (textOne factory now f).run.run respond t
      let rest := (saveAll factory now l (handedOn jar (made.1.map (withCookie jar f)))).run
        respond made.2
      ((rest.1.1, failure made.1 ++ rest.1.2), rest.2) := by
  rw [saveAll_cons, Plan.run_bind, run_saveOne, Plan.run_bind, failure_map]
  rfl

theorem run_save_eq_saveAll (respond : Responder σ) (t : σ) (r : RequestSessions) :
    (save factory now r).run respond t =
      (({ r with jar := ((saveAll factory now r.loaded r.jar).run respond t).1.1 },
        ((saveAll factory now r.loaded r.jar).run respond t).1.2),
        ((saveAll factory now r.loaded r.jar).run respond t).2) := by
  rw [save, Plan.run_bind]
  rfl

/-- No cookie that the client sent is changed. -/
theorem received_saveAll (respond : Responder σ) (t : σ) :
    ((saveAll factory now l jar).run respond t).1.1.received = jar.received := by
  induction l generalizing t jar with
  | nil => rfl
  | cons f more ih =>
      rw [run_saveAll_cons]
      dsimp only
      rw [ih]
      cases ((textOne factory now f).run.run respond t).1 <;> rfl

/-- **One session** sets its cookie if a text was made for it, and no other. -/
theorem cookie_handedOn (jar : Cookie.Jar) (f : String × SessionInfo) (made : Except Error String)
    (key : String) :
    let after := handedOn jar (made.map (withCookie jar f))
    (f.1 = key ∧ ∃ text, made = .ok text ∧
      after.changes.get? key = some (Cookie.ofSession f.1 text f.2.config)) ∨
    (f.1 = key → ∃ e ∈ failure made, made = .error e) ∧
      after.changes.get? key = jar.changes.get? key := by
  cases made with
  | error e => exact Or.inr ⟨fun _ => ⟨e, List.mem_singleton_self e, rfl⟩, rfl⟩
  | ok text =>
      by_cases hkey : f.1 = key
      · subst hkey
        exact Or.inl ⟨rfl, text, rfl, Dict.get?_set_self⟩
      · exact Or.inr ⟨fun h => absurd h hkey, Dict.get?_set_of_ne (Ne.symm hkey)⟩

/-- Making the text of a session comes to a result in one of the good states. -/
def ComesTo (factory : SessionFactory) (now : Int) (respond : Responder σ) (good : σ → Prop)
    (f : String × SessionInfo) (made : Except Error String) : Prop :=
  ∃ t, good t ∧ ((textOne factory now f).run.run respond t).1 = made

variable {good : σ → Prop}

/-- **The cookie under a key** is one that was set, or is as before. -/
theorem cookie_saveAll_cases
    (hgood : ∀ f ∈ l, ∀ t, good t → good ((textOne factory now f).run.run respond t).2)
    (ht : good t) (key : String) :
    let after := ((saveAll factory now l jar).run respond t).1
    (∃ f ∈ l, f.1 = key ∧ ∃ text, ComesTo factory now respond good f (.ok text) ∧
      after.1.changes.get? key = some (Cookie.ofSession f.1 text f.2.config)) ∨
    (∀ f ∈ l, f.1 = key → ∃ e ∈ after.2, ComesTo factory now respond good f (.error e)) ∧
      after.1.changes.get? key = jar.changes.get? key := by
  induction l generalizing t jar with
  | nil => exact Or.inr ⟨by simp, rfl⟩
  | cons f more ih =>
      rw [run_saveAll_cons]
      dsimp only
      -- what was set last stays, so it is the sessions behind that are asked first
      rcases ih (fun f' hf' => hgood f' (List.mem_cons_of_mem f hf'))
        (hgood f List.mem_cons_self t ht) with ⟨f', hf', hset⟩ | ⟨hfails, hafter⟩
      · exact Or.inl ⟨f', List.mem_cons_of_mem f hf', hset⟩
      · rcases cookie_handedOn jar f ((textOne factory now f).run.run respond t).1 key with
          ⟨hkey, text, hmade, hset⟩ | ⟨hfails', hkept⟩
        · exact Or.inl ⟨f, List.mem_cons_self, hkey, text, ⟨t, ht, hmade⟩, hafter.trans hset⟩
        · refine Or.inr ⟨List.forall_mem_cons.mpr ⟨fun hkey => ?_, fun f' hf' hkey => ?_⟩,
            hafter.trans hkept⟩
          · obtain ⟨e, he, hmade⟩ := hfails' hkey
            exact ⟨e, List.mem_append_left _ he, t, ht, hmade⟩
          · obtain ⟨e, he, hcomes⟩ := hfails f' hf' hkey
            exact ⟨e, List.mem_append_right _ he, hcomes⟩

/-- **An error** is that of a session for which no text was made. -/
theorem exists_of_mem_errors
    (hgood : ∀ f ∈ l, ∀ t, good t → good ((textOne factory now f).run.run respond t).2)
    (ht : good t) {e : Error}
    (he : e ∈ ((saveAll factory now l jar).run respond t).1.2) :
    ∃ f ∈ l, ComesTo factory now respond good f (.error e) := by
  induction l generalizing t jar with
  | nil => cases he
  | cons f more ih =>
      rw [run_saveAll_cons] at he
      rcases List.mem_append.mp he with he | he
      · refine ⟨f, List.mem_cons_self, t, ht, ?_⟩
        cases hmade : ((textOne factory now f).run.run respond t).1 with
        | ok text =>
            rw [hmade] at he
            cases he
        | error e' =>
            rw [hmade] at he
            rw [List.mem_singleton.mp he]
      · obtain ⟨f', hf', hcomes⟩ := ih (fun f' hf' => hgood f' (List.mem_cons_of_mem f hf'))
          (hgood f List.mem_cons_self t ht) he
        exact ⟨f', List.mem_cons_of_mem f hf', hcomes⟩

end WebSession.RequestSessions
