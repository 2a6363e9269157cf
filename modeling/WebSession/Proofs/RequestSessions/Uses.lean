import WebSession.Proofs.RequestSessions
import WebSession.Proofs.SessionStore.SavedText

/-!
# WebSession.Proofs.RequestSessions.Uses

**What is done with the sessions of a request** (`SessionUse`), and what one use does.

A use that asks for a session fails and changes nothing if the store is not known
(`run_of_unknown`) or not the one of the session at hand (`run_of_mismatch`); else it edits the
session at hand (`run_of_found`) or the one that it loads (`run_of_none`). All four kinds of such uses
are one program (`exists_of_target`). Saving and initializing visit the sessions one by one: they set
no cookies but those of the sessions that they visit (`get?_saveAll`, `get?_initAll`), and a session
is initialized for itself (`find?_initAll`).
-/

namespace WebSession

open Plan

/-! ### Uses -/

/-- What is done with the sessions of a request. -/
inductive SessionUse where
  | session (key? store? : Option String)
  /-- The session is asked for and its data changed. -/
  | change (key? store? : Option String) (f : SessionData → SessionData)
  | config (key? : Option String)
  | changeConfig (key? : Option String) (f : SessionConfig → SessionConfig)
  | addFlash (message : Value) (flash? key? store? : Option String)
  | flashes (flash? key? store? : Option String)
  | save
  | init

namespace SessionUse

open RequestSessions

/-- The use as an operation. -/
def operation (factory : SessionFactory) (now : Int) : SessionUse → OnSessions Unit
  | .session key? store? => do let _ ← RequestSessions.session factory now key? store?
  | .change key? store? f => modifySession factory now key? store? fun d => ((), f d)
  | .config key? => do let _ ← RequestSessions.config key?
  | .changeConfig key? f => do let _ ← modifyConfig key? f
  | .addFlash message flash? key? store? =>
    RequestSessions.addFlash factory now message flash? key? store?
  | .flashes flash? key? store? => do let _ ← RequestSessions.flashes factory now flash? key? store?
  | .save => ExceptT.mk fun r => r.save factory now >>= fun saved => .done (.ok (), saved.1)
  | .init => ExceptT.mk fun r => r.init factory now >>= fun inited => .done (.ok (), inited.1)

/-- The key of the session that the use asks for, and the store. -/
def target? : SessionUse → Option (String × String)
  | .session key? store? | .change key? store? _ | .addFlash _ _ key? store?
  | .flashes _ key? store? =>
    some (keyOr defaultSessionKey key?, keyOr SessionFactory.cookieName store?)
  | .config _ | .changeConfig .. | .save | .init => none

/-- What the use makes of the data of the session that it asks for. -/
def edit : SessionUse → SessionData → SessionData
  | .change _ _ f => f
  | .addFlash message flash? _ _ => pushFlash (keyOr defaultFlashKey flash?) message
  | .flashes flash? _ _ => fun d => (takeFlashes (keyOr defaultFlashKey flash?) d).2
  | _ => id

/-- Does the use with the sessions of a request, in a state of whoever answers: both afterwards. -/
def run {σ : Type} (factory : SessionFactory) (respond : Responder σ) (now : Int) (use : SessionUse)
    (c : RequestSessions × σ) : RequestSessions × σ :=
  let after := ((use.operation factory now).run.run c.1).run respond c.2
  (after.1.2, after.2)

/-- Does uses one after the other, each at its own second. -/
def runAll {σ : Type} (factory : SessionFactory) (respond : Responder σ)
    (uses : List (Int × SessionUse)) (c : RequestSessions × σ) : RequestSessions × σ :=
  uses.foldl (fun c u => u.2.run factory respond u.1 c) c

/-- The store to which the use binds a key that is not bound yet. -/
def binds? (factory : SessionFactory) (key : String) (use : SessionUse) : Option String :=
  match use.target? with
  | some (key', name) => if key' = key ∧ (factory.store name).isOk then some name else none
  | none => none

end SessionUse

namespace RequestSessions

/-- The store of the first use that asks for the session with a key and can have it. -/
def firstStore? (factory : SessionFactory) (key : String) (uses : List (Int × SessionUse)) :
    Option String :=
  uses.findSome? fun u => u.2.binds? factory key

variable {α σ : Type} {factory : SessionFactory} {respond : Responder σ} {now : Int}
  {key? store? : Option String} {key name : String} {r r' : RequestSessions} {info : SessionInfo}

/-! ### Loaded sessions -/

theorem find?_eq_none_iff : r.find? key = none ↔ ∀ f ∈ r.loaded, f.1 ≠ key := by
  simp [find?]

theorem find?_append (jar : Cookie.Jar) (loaded : List (String × SessionInfo)) (key' : String) :
    find? { jar := jar, loaded := loaded ++ [(key', info)] } key =
      (find? { jar := jar, loaded := loaded } key).or (if key' = key then some info else none) := by
  simp only [find?, List.find?_append, Option.map_or]
  congr 1
  by_cases hkey : key' = key <;> simp [hkey]

theorem find?_replace_self (h : r.find? key = some info) (info' : SessionInfo) :
    (r.replace key info').find? key = some info' := by
  obtain ⟨jar, loaded⟩ := r
  induction loaded with
  | nil => cases h
  | cons f more ih =>
      obtain ⟨key', info''⟩ := f
      by_cases hkey : key' = key
      · simp [replace, find?, hkey]
      · simp only [replace, find?, List.map_cons, if_neg hkey, List.find?_cons,
          decide_eq_false hkey] at h ih ⊢
        exact ih h

theorem find?_replace_of_ne {other : String} (hne : other ≠ key) (info' : SessionInfo) :
    (r.replace key info').find? other = r.find? other := by
  obtain ⟨jar, loaded⟩ := r
  induction loaded with
  | nil => rfl
  | cons f more ih =>
      obtain ⟨key', info''⟩ := f
      by_cases hkey : key' = key
      · subst hkey
        simp only [replace, find?, List.map_cons, if_pos, List.find?_cons,
          decide_eq_false (Ne.symm hne)] at ih ⊢
        exact ih
      · by_cases hother : key' = other
        · simp only [replace, find?, List.map_cons, if_neg hkey, List.find?_cons,
            decide_eq_true hother]
        · simp only [replace, find?, List.map_cons, if_neg hkey, List.find?_cons,
            decide_eq_false hother] at ih ⊢
          exact ih

/-! ### Asking for a session -/

/-- The session that is at hand when it was loaded. -/
def loadedInfo (factory : SessionFactory) (name : String) (d : SessionData) : SessionInfo :=
  { data := d, store := name, config := factory.defaultConfig }

/-- **Asking for a session**: the store must be known, and be the one of a session that is at hand;
one that is not is loaded. -/
theorem run_sessionInfo_eq (factory : SessionFactory) (now : Int) (key? store? : Option String)
    (r : RequestSessions) :
    (sessionInfo factory now key? store?).run.run r =
      match factory.store (keyOr SessionFactory.cookieName store?) with
      | .error e => .done (.error e, r)
      | .ok s =>
        match r.find? (keyOr defaultSessionKey key?) with
        | some info =>
          if info.store = keyOr SessionFactory.cookieName store? then .done (.ok info, r)
          else .done (.error .storeMismatch, r)
        | none => s.load r.jar (keyOr defaultSessionKey key?) now >>= fun d =>
            let info := loadedInfo factory (keyOr SessionFactory.cookieName store?) d
            .done (.ok info, { r with loaded := r.loaded ++ [(keyOr defaultSessionKey key?, info)] }) := by
  cases hs : factory.store (keyOr SessionFactory.cookieName store?) with
  | error e =>
      simp only [sessionInfo, hs]
      rfl
  | ok s =>
      have hget : (get : OnSessions RequestSessions).run.run r = .done (.ok r, r) := rfl
      simp only [sessionInfo, hs]
      rw [run_run_bind, hget, done_bind]
      dsimp only
      cases hfind : r.find? (keyOr defaultSessionKey key?) with
      | some info =>
          by_cases hstore : info.store = keyOr SessionFactory.cookieName store?
          · simp only [if_pos hstore]
            rfl
          · simp only [if_neg hstore]
            rfl
      | none =>
          dsimp only
          rw [run_run_bind, run_run_liftPlan, Plan.bind_assoc]
          rfl

/-- There is one session now with a key, and nothing else has changed. -/
structure Edited (key : String) (info : SessionInfo) (r r' : RequestSessions) : Prop where
  jar_eq : r'.jar = r.jar
  self : r'.find? key = some info
  other : ∀ other, other ≠ key → r'.find? other = r.find? other

theorem Edited.refl (h : r.find? key = some info) : Edited key info r r := ⟨rfl, h, fun _ _ => rfl⟩

theorem Edited.replace (h : r.find? key = some info) (info' : SessionInfo) :
    Edited key info' r (r.replace key info') :=
  ⟨rfl, find?_replace_self h _, fun _ hne => find?_replace_of_ne hne _⟩

/-- Changing a session edits it once it is at hand. -/
theorem exists_modifySession (factory : SessionFactory) (now : Int) (key? store? : Option String)
    (change : SessionData → α × SessionData) :
    ∃ g : SessionInfo → OnSessions α,
      modifySession factory now key? store? change = sessionInfo factory now key? store? >>= g ∧
      ∀ info r, r.find? (keyOr defaultSessionKey key?) = some info →
        ∃ r', (g info).run.run r = .done (.ok (change info.data).1, r') ∧
          Edited (keyOr defaultSessionKey key?) { info with data := (change info.data).2 } r r' := by
  refine ⟨fun info => do
    modify fun r => r.replace (keyOr defaultSessionKey key?)
      { info with data := (change info.data).2 }
    pure (change info.data).1, rfl, fun info r hfind => ?_⟩
  exact ⟨_, rfl, Edited.replace hfind _⟩

/-- **A use that asks for a session** edits it once it is at hand. -/
theorem exists_of_target {use : SessionUse} (h : use.target? = some (key, name))
    (factory : SessionFactory) (now : Int) :
    ∃ (key? store? : Option String) (g : SessionInfo → OnSessions Unit),
      key = keyOr defaultSessionKey key? ∧ name = keyOr SessionFactory.cookieName store? ∧
      use.operation factory now = sessionInfo factory now key? store? >>= g ∧
      ∀ info r, r.find? key = some info →
        ∃ result r', (g info).run.run r = .done (result, r') ∧
          Edited key { info with data := use.edit info.data } r r' := by
  cases use with
  | session key? store? =>
      cases h
      refine ⟨key?, store?, fun info => pure (), rfl, rfl, ?_, fun info r hfind => ?_⟩
      · simp only [SessionUse.operation, session, LawfulMonad.bind_assoc, LawfulMonad.pure_bind]
      · exact ⟨_, r, rfl, Edited.refl hfind⟩
  | change key? store? f =>
      cases h
      obtain ⟨g, hg, hedit⟩ := exists_modifySession factory now key? store? fun d => ((), f d)
      refine ⟨key?, store?, g, rfl, rfl, hg, fun info r hfind => ?_⟩
      exact ⟨_, hedit info r hfind⟩
  | addFlash message flash? key? store? =>
      cases h
      obtain ⟨g, hg, hedit⟩ := exists_modifySession factory now key? store? fun d =>
        ((), pushFlash (keyOr defaultFlashKey flash?) message d)
      refine ⟨key?, store?, g, rfl, rfl, hg, fun info r hfind => ?_⟩
      exact ⟨_, hedit info r hfind⟩
  | flashes flash? key? store? =>
      cases h
      obtain ⟨g, hg, hedit⟩ := exists_modifySession factory now key? store?
        (takeFlashes (keyOr defaultFlashKey flash?))
      -- messages are taken first, and a session that has none is left as it was
      refine ⟨key?, store?, fun info => do
        let taken? ← g info
        taken?.elim (throw .noFlashes) fun _ => pure (), rfl, rfl, ?_, fun info r hfind => ?_⟩
      · simp only [SessionUse.operation, RequestSessions.flashes, hg, LawfulMonad.bind_assoc]
        refine congrArg (sessionInfo factory now key? store? >>= ·) (funext fun info => ?_)
        refine congrArg (g info >>= ·) (funext fun taken? => ?_)
        cases taken? <;> rfl
      · obtain ⟨r', hrun, hr'⟩ := hedit info r hfind
        rw [run_run_bind, hrun, done_bind]
        dsimp only
        cases (takeFlashes (keyOr defaultFlashKey flash?) info.data).1 with
        | none => exact ⟨_, r', rfl, hr'⟩
        | some messages => exact ⟨_, r', rfl, hr'⟩
  | config key? => cases h
  | changeConfig key? f => cases h
  | save => cases h
  | init => cases h

/-- Only a store that is not registered is not known. -/
theorem eq_noStore {e : Error} (hs : factory.store name = .error e) : e = .noStore := by
  unfold SessionFactory.store at hs
  split at hs
  · cases hs
  · cases hs
    rfl

section

variable {use : SessionUse} (now) (htarget : use.target? = some (key, name))

include htarget

/-- In a store that is not known no session is to be had. -/
theorem run_of_unknown {e : Error} (hs : factory.store name = .error e) :
    (use.operation factory now).run.run r = .done (.error .noStore, r) := by
  obtain ⟨key?, store?, g, rfl, rfl, hoperation, -⟩ := exists_of_target htarget factory now
  rw [hoperation, run_run_bind, run_sessionInfo_eq, hs, eq_noStore hs]
  rfl

variable {s : SessionStore} (hs : factory.store name = .ok s)

include hs

/-- A session that is at hand is not to be had from another store. -/
theorem run_of_mismatch (hfind : r.find? key = some info) (hne : info.store ≠ name) :
    (use.operation factory now).run.run r = .done (.error .storeMismatch, r) := by
  obtain ⟨key?, store?, g, rfl, rfl, hoperation, -⟩ := exists_of_target htarget factory now
  rw [hoperation, run_run_bind, run_sessionInfo_eq, hs]
  simp only [hfind, if_neg hne]
  rfl

/-- From its own it is, and is not loaded again. -/
theorem run_of_found (hfind : r.find? key = some info) (hstore : info.store = name) :
    ∃ result r', (use.operation factory now).run.run r = .done (result, r') ∧
      Edited key { info with data := use.edit info.data } r r' := by
  obtain ⟨key?, store?, g, rfl, rfl, hoperation, hedit⟩ := exists_of_target htarget factory now
  obtain ⟨result, r', hrun, hr'⟩ := hedit info r hfind
  refine ⟨result, r', ?_, hr'⟩
  rw [hoperation, run_run_bind, run_sessionInfo_eq, hs]
  simp only [hfind, if_pos hstore]
  exact hrun

/-- One that is not at hand is loaded. -/
theorem run_of_none (hfind : r.find? key = none) :
    ∃ after : SessionData → Except Error Unit × RequestSessions,
      (use.operation factory now).run.run r = s.load r.jar key now >>= (fun d => .done (after d)) ∧
      ∀ d, Edited key (loadedInfo factory name (use.edit d))
        { r with loaded := r.loaded ++ [(key, loadedInfo factory name d)] } (after d).2 := by
  obtain ⟨key?, store?, g, rfl, rfl, hoperation, hedit⟩ := exists_of_target htarget factory now
  have hloaded : ∀ d, find?
      { r with loaded := r.loaded ++ [(keyOr defaultSessionKey key?,
          loadedInfo factory (keyOr SessionFactory.cookieName store?) d)] }
      (keyOr defaultSessionKey key?) =
        some (loadedInfo factory (keyOr SessionFactory.cookieName store?) d) := by
    intro d
    have hnone : find? { jar := r.jar, loaded := r.loaded } (keyOr defaultSessionKey key?) = none :=
      hfind
    rw [find?_append, hnone, if_pos rfl]
    rfl
  choose result r' hrun hr' using fun d => hedit _ _ (hloaded d)
  refine ⟨fun d => (result d, r' d), ?_, hr'⟩
  rw [hoperation, run_run_bind, run_sessionInfo_eq, hs]
  simp only [hfind, Plan.bind_assoc]
  refine congrArg (s.load r.jar _ now >>= ·) (funext fun d => ?_)
  exact hrun d

end

/-! ### Saving and initializing -/

section

variable {s : SessionStore} {jar jar' : Cookie.Jar} {t : σ} {other : String}

/-- Saving a session leaves the cookies of other keys. -/
theorem get?_of_save (hne : other ≠ key)
    (h : ((s.save jar key now info).run.run respond t).1 = .ok jar') :
    jar'.get? other = jar.get? other := by
  rw [SessionStore.run_save_eq, Plan.run_bind, run_done] at h
  cases hmade : ((s.savedText key now info).run.run respond t).1 with
  | error e =>
      rw [hmade] at h
      cases h
  | ok text =>
      rw [hmade] at h
      cases h
      exact Cookie.Jar.get?_add_of_ne hne

/-- So does initializing one; and of the session it leaves all but a missing id. -/
theorem get?_of_init (hne : other ≠ key)
    (h : ((s.init jar key now info).run respond t).1.2 = .ok jar') :
    jar'.get? other = jar.get? other := by
  unfold SessionStore.init at h
  split at h
  · cases h
    rfl
  · rw [Plan.run_bind] at h
    cases hid : ((SessionId.generate SessionId.octets).run.run respond t).1 with
    | error e =>
        rw [hid] at h
        cases h
    | ok id =>
        rw [hid] at h
        dsimp only at h
        rw [Plan.run_bind] at h
        exact get?_of_save hne h

/-- The cookies of keys that have no session among those that are saved stay. -/
theorem get?_saveAll {sessions : List (String × SessionInfo)} (h : ∀ f ∈ sessions, f.1 ≠ other) :
    ((saveAll factory now sessions jar).run respond t).1.1.get? other = jar.get? other := by
  induction sessions generalizing jar t with
  | nil => rfl
  | cons f more ih =>
      rw [saveAll_cons, Plan.run_bind, Plan.run_bind, run_done,
        ih fun g hg => h g (List.mem_cons_of_mem _ hg), saveOne]
      cases factory.store f.2.store with
      | error e => rfl
      | ok s =>
          dsimp only
          cases hsaved : ((s.save jar f.1 now f.2).run.run respond t).1 with
          | error e => rfl
          | ok jar' => exact get?_of_save (h f List.mem_cons_self).symm hsaved

/-- So do they when sessions are initialized. -/
theorem get?_initAll {sessions : List (String × SessionInfo)} (h : ∀ f ∈ sessions, f.1 ≠ other) :
    ((initAll factory now sessions jar).run respond t).1.2.1.get? other = jar.get? other := by
  induction sessions generalizing jar t with
  | nil => rfl
  | cons f more ih =>
      rw [initAll_cons, Plan.run_bind, Plan.run_bind, run_done,
        ih fun g hg => h g (List.mem_cons_of_mem _ hg), initOne]
      cases factory.store f.2.store with
      | error e => rfl
      | ok s =>
          dsimp only
          cases hinit : ((s.init jar f.1 now f.2).run respond t).1.2 with
          | error e => rfl
          | ok jar' => exact get?_of_init (h f List.mem_cons_self).symm hinit

end

/-- A session is what initializing makes of one, with some jar and in some state. -/
def Initialized (factory : SessionFactory) (respond : Responder σ) (now : Int) (key : String)
    (info info' : SessionInfo) : Prop :=
  ∃ jar t, info' = ((initOne factory now (key, info) jar).run respond t).1.1

/-- **Initializing** gives a session a missing id and leaves the rest. -/
theorem Initialized.kept {info' : SessionInfo} (h : Initialized factory respond now key info info') :
    info'.store = info.store ∧ info'.config = info.config ∧
      (info'.data = info.data ∨ info.data.id? = none ∧
        ∃ id, info'.data = info.data.insert SessionData.idKey (.str id)) := by
  obtain ⟨jar, t, rfl⟩ := h
  unfold initOne
  split
  · unfold SessionStore.init
    split
    · exact ⟨rfl, rfl, Or.inl rfl⟩
    · rename_i hid
      rw [Option.not_isSome_iff_eq_none] at hid
      rw [Plan.run_bind]
      cases ((SessionId.generate SessionId.octets).run.run respond t).1 with
      | error e => exact ⟨rfl, rfl, Or.inl rfl⟩
      | ok id =>
          dsimp only
          rw [Plan.run_bind]
          exact ⟨rfl, rfl, Or.inr ⟨hid, id, rfl⟩⟩
  · exact ⟨rfl, rfl, Or.inl rfl⟩

/-- Each session is initialized for itself. -/
theorem find?_initAll {sessions : List (String × SessionInfo)} {jar jar₁ jar₂ : Cookie.Jar} {t : σ} :
    Option.Rel (Initialized factory respond now key)
      (find? { jar := jar₁, loaded := sessions } key)
      (find? { jar := jar₂,
               loaded := ((initAll factory now sessions jar).run respond t).1.1 } key) := by
  induction sessions generalizing jar t with
  | nil => exact .none
  | cons f more ih =>
      obtain ⟨key', info⟩ := f
      have hcons : ∀ (jar : Cookie.Jar) (info : SessionInfo) (more : List (String × SessionInfo)),
          find? { jar := jar, loaded := (key', info) :: more } key =
            if key' = key then some info else find? { jar := jar, loaded := more } key := by
        intro jar info more
        by_cases hkey : key' = key <;> simp [find?, hkey]
      rw [initAll_cons, Plan.run_bind, Plan.run_bind, run_done, hcons, hcons]
      split
      · rename_i hkey
        subst hkey
        exact .some ⟨jar, t, rfl⟩
      · exact ih

end RequestSessions

end WebSession
