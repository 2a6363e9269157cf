import WebSession.Proofs.RequestSessions.Uses
import WebSession.Proofs.SessionStore.SameReading

/-!
# WebSession.Proofs.RequestSessions.Binding

**A session key is bound to one store for a whole request** (`binds_to_first_store`), whatever is done
with the sessions of the request and in which order: to the store of the first use that asked for the
session with success. From then on the session is at hand, as the uses of its own key have left it,
and it is never loaded again.

What one use leaves of the session with a key is a relation of the two (`Leaves`), which knows nothing
of the sessions with other keys (`leaves_step`). The binding of a whole run follows by induction
(`store_runAll`), with the cookies of the keys that are not bound yet as the invariant: they are
those that came with the request (`Untouched`).
-/

namespace WebSession

open Plan

namespace RequestSessions

variable {σ : Type} {factory : SessionFactory} {respond : Responder σ} {now : Int}
  {key name : String} {r r' : RequestSessions} {info : SessionInfo}

/-! ### One use -/

/-- A key is only bound to stores that are registered. -/
theorem exists_store_of_binds {use : SessionUse} (h : use.binds? factory key = some name) :
    ∃ s, factory.store name = .ok s := by
  unfold SessionUse.binds? at h
  split at h
  · split at h
    · rename_i hregistered
      cases h
      cases hs : factory.store name with
      | ok s => exact ⟨s, rfl⟩
      | error e =>
          rw [hs] at hregistered
          cases hregistered.2
    · cases h
  · cases h

/-- What is left of the session with a key, which may be at hand or not, by a use that asks for it in a
store, or for another session: the first loads it, from the cookie that came with the request, and
later ones edit what is there, if they ask for it in the store that it came from. -/
def Asked (factory : SessionFactory) (respond : Responder σ) (jar : Cookie.Jar) (key : String)
    (now : Int) (t : σ) (edit : SessionData → SessionData) :
    Option String → Option SessionInfo → Option SessionInfo → Prop
  | none, slot, slot' => slot' = slot
  | some name, some info, slot' =>
    slot' = some (if info.store = name then { info with data := edit info.data } else info)
  | some name, none, slot' => ∃ s, factory.store name = .ok s ∧
      slot' = some (loadedInfo factory name (edit ((s.load jar key now).run respond t).1))

/-- What a use leaves of the session with a key. -/
def Leaves (factory : SessionFactory) (respond : Responder σ) (jar : Cookie.Jar) (key : String)
    (now : Int) (t : σ) : SessionUse → Option SessionInfo → Option SessionInfo → Prop
  | .init, slot, slot' => Option.Rel (Initialized factory respond now key) slot slot'
  | .changeConfig key? f, slot, slot' =>
    slot' = if keyOr defaultSessionKey key? = key then
      slot.map fun info => { info with config := f info.config } else slot
  | use, slot, slot' =>
    Asked factory respond jar key now t use.edit (use.binds? factory key) slot slot'

variable {jar : Cookie.Jar} {t : σ} {use : SessionUse} {slot slot' : Option SessionInfo}

theorem Asked.store_eq {edit : SessionData → SessionData} {name? : Option String}
    (h : Asked factory respond jar key now t edit name? slot slot') :
    slot'.map SessionInfo.store = (slot.map SessionInfo.store).or name? := by
  cases name? with
  | none =>
      cases (h : slot' = slot)
      rw [Option.or_none]
  | some name =>
      cases slot with
      | none =>
          obtain ⟨s, -, rfl⟩ := h
          rfl
      | some info =>
          cases (h : slot' = _)
          by_cases hstore : info.store = name
          · simp [if_pos hstore]
          · simp [if_neg hstore]

/-- **A key that is bound stays bound**, and a use that can have the session binds it. -/
theorem Leaves.store_eq (h : Leaves factory respond jar key now t use slot slot') :
    slot'.map SessionInfo.store = (slot.map SessionInfo.store).or (use.binds? factory key) := by
  cases use with
  | init =>
      cases (h : Option.Rel _ slot slot') with
      | none => rfl
      | some hinit => simp [hinit.kept.1]
  | changeConfig key? f =>
      cases (h : slot' = _)
      split <;> cases slot <;> rfl
  | session key? store? => exact Asked.store_eq h
  | change key? store? f => exact Asked.store_eq h
  | addFlash message flash? key? store? => exact Asked.store_eq h
  | flashes flash? key? store? => exact Asked.store_eq h
  | config key? =>
      cases (h : slot' = slot)
      exact Option.or_none.symm
  | save =>
      cases (h : slot' = slot)
      exact Option.or_none.symm

/-- The cookies of keys that have no session at hand are those that came with the request. -/
def Untouched (jar : Cookie.Jar) (r : RequestSessions) : Prop :=
  ∀ key, r.find? key = none → r.jar.get? key = jar.get? key

/-- Where no session is at hand, what came with the request is loaded. -/
theorem Untouched.load_eq (h : Untouched jar r) (hfind : r.find? key = none) (s : SessionStore)
    (now : Int) : s.load r.jar key now = s.load jar key now := by
  apply SessionStore.load_congr
  rw [SessionStore.readCookie, SessionStore.readCookie, h key hfind]

/-- Editing a session sets no cookie. -/
theorem Untouched.edited (h : Untouched jar r) (hedited : Edited key info r r') :
    Untouched jar r' := by
  intro other hother
  have hne : other ≠ key := by
    rintro rfl
    rw [hedited.self] at hother
    cases hother
  rw [hedited.other other hne] at hother
  rw [hedited.jar_eq]
  exact h other hother

section

variable {asked : String} (htarget : use.target? = some (asked, name))

include htarget

theorem binds?_of_error {e : Error} (hs : factory.store name = .error e) (key : String) :
    use.binds? factory key = none := by
  simp only [SessionUse.binds?, htarget, hs]
  exact if_neg fun h => nomatch h.2

theorem binds?_of_ok {s : SessionStore} (hs : factory.store name = .ok s) (key : String) :
    use.binds? factory key = if asked = key then some name else none := by
  simp only [SessionUse.binds?, htarget, hs]
  by_cases hkey : asked = key
  · rw [if_pos hkey]
    exact if_pos ⟨hkey, rfl⟩
  · rw [if_neg hkey]
    exact if_neg fun h => hkey h.1

/-- A session that is not at hand is loaded, and edited then. -/
theorem asked_of_none {s : SessionStore} (hs : factory.store name = .ok s)
    (hfind : r.find? asked = none) (h : Untouched jar r) (t : σ) :
    Untouched jar (use.run factory respond now (r, t)).1 ∧
      ∀ key, Asked factory respond jar key now t use.edit (use.binds? factory key) (r.find? key)
        ((use.run factory respond now (r, t)).1.find? key) := by
  obtain ⟨after, hrun, hedited⟩ := run_of_none now htarget hs hfind
  rw [SessionUse.run, hrun, Plan.run_bind, run_done, h.load_eq hfind]
  generalize hd : ((s.load jar asked now).run respond t).1 = d
  replace hedited := hedited d
  have hother : ∀ key, asked ≠ key → (after d).2.find? key = r.find? key := by
    intro key hkey
    rw [hedited.other key (Ne.symm hkey), find?_append, if_neg hkey, Option.or_none]
  refine ⟨fun key hkey => ?_, fun key => ?_⟩
  · have hne : asked ≠ key := by
      rintro rfl
      rw [hedited.self] at hkey
      cases hkey
    rw [hother key hne] at hkey
    rw [hedited.jar_eq]
    exact h key hkey
  · rw [binds?_of_ok htarget hs]
    by_cases hkey : asked = key
    · subst hkey
      rw [if_pos rfl, hfind]
      exact ⟨s, hs, by rw [hd]; exact hedited.self⟩
    · rw [if_neg hkey]
      exact hother key hkey

/-- One that is at hand is edited, if it is asked for in its own store. -/
theorem asked_of_some {s : SessionStore} {info : SessionInfo} (hs : factory.store name = .ok s)
    (hfind : r.find? asked = some info) (h : Untouched jar r) (t : σ) :
    Untouched jar (use.run factory respond now (r, t)).1 ∧
      ∀ key, Asked factory respond jar key now t use.edit (use.binds? factory key) (r.find? key)
        ((use.run factory respond now (r, t)).1.find? key) := by
  by_cases hstore : info.store = name
  · obtain ⟨result, r', hrun, hedited⟩ := run_of_found now htarget hs hfind hstore
    rw [SessionUse.run, hrun]
    refine ⟨h.edited hedited, fun key => ?_⟩
    rw [binds?_of_ok htarget hs]
    by_cases hkey : asked = key
    · subst hkey
      rw [if_pos rfl, hfind]
      exact hedited.self.trans (by rw [if_pos hstore])
    · rw [if_neg hkey]
      exact hedited.other key (Ne.symm hkey)
  · rw [SessionUse.run, run_of_mismatch now htarget hs hfind hstore]
    refine ⟨h, fun key => ?_⟩
    rw [binds?_of_ok htarget hs]
    by_cases hkey : asked = key
    · subst hkey
      rw [if_pos rfl, hfind]
      exact hfind.trans (by rw [if_neg hstore])
    · rw [if_neg hkey]
      rfl

/-- **A use that asks for a session** leaves each of them as it should. -/
theorem asked_of_target (h : Untouched jar r) (t : σ) :
    Untouched jar (use.run factory respond now (r, t)).1 ∧
      ∀ key, Asked factory respond jar key now t use.edit (use.binds? factory key) (r.find? key)
        ((use.run factory respond now (r, t)).1.find? key) := by
  cases hs : factory.store name with
  | error e =>
      rw [SessionUse.run, run_of_unknown now htarget hs]
      refine ⟨h, fun key => ?_⟩
      rw [binds?_of_error htarget hs]
      rfl
  | ok s =>
      cases hfind : r.find? asked with
      | some info => exact asked_of_some htarget hs hfind h t
      | none => exact asked_of_none htarget hs hfind h t

end

/-- The configuration of a session that is at hand. -/
theorem run_config (key? : Option String) (r : RequestSessions) :
    (config key?).run.run r = .done
      (match r.find? (keyOr defaultSessionKey key?) with
        | some info => .ok info.config
        | none => .error .noSession, r) := by
  have hget : (get : OnSessions RequestSessions).run.run r = .done (.ok r, r) := rfl
  rw [config, run_run_bind, hget, done_bind]
  dsimp only
  cases r.find? (keyOr defaultSessionKey key?) <;> rfl

/-- It is changed for this session alone. -/
theorem run_modifyConfig (key? : Option String) (f : SessionConfig → SessionConfig)
    (r : RequestSessions) :
    (modifyConfig key? f).run.run r = .done
      (match r.find? (keyOr defaultSessionKey key?) with
        | some info => (.ok (f info.config),
            r.replace (keyOr defaultSessionKey key?) { info with config := f info.config })
        | none => (.error .noSession, r)) := by
  have hget : (get : OnSessions RequestSessions).run.run r = .done (.ok r, r) := rfl
  rw [modifyConfig, run_run_bind, hget, done_bind]
  dsimp only
  cases r.find? (keyOr defaultSessionKey key?) <;> rfl

/-- Saving changes the jar alone. -/
theorem run_save (factory : SessionFactory) (respond : Responder σ) (now : Int)
    (r : RequestSessions) (t : σ) :
    (SessionUse.run factory respond now .save (r, t)).1 =
      { r with jar := ((saveAll factory now r.loaded r.jar).run respond t).1.1 } := by
  show (Plan.run respond (r.save factory now >>= fun saved =>
    .done ((.ok () : Except Error Unit), saved.1)) t).1.2 = _
  rw [Plan.run_bind, save, Plan.run_bind]
  rfl

/-- Initializing changes the jar and the sessions. -/
theorem run_init (factory : SessionFactory) (respond : Responder σ) (now : Int)
    (r : RequestSessions) (t : σ) :
    (SessionUse.run factory respond now .init (r, t)).1 =
      { jar := ((initAll factory now r.loaded r.jar).run respond t).1.2.1
        loaded := ((initAll factory now r.loaded r.jar).run respond t).1.1 } := by
  show (Plan.run respond (r.init factory now >>= fun inited =>
    .done ((.ok () : Except Error Unit), inited.1)) t).1.2 = _
  rw [Plan.run_bind, init, Plan.run_bind]
  rfl

/-- Changing a configuration changes the one of its session. -/
theorem leaves_changeConfig (factory : SessionFactory) (respond : Responder σ) (now : Int)
    (h : Untouched jar r) (t : σ) (key? : Option String) (f : SessionConfig → SessionConfig) :
    Untouched jar (SessionUse.run factory respond now (.changeConfig key? f) (r, t)).1 ∧
      ∀ key, Leaves factory respond jar key now t (.changeConfig key? f) (r.find? key)
        ((SessionUse.run factory respond now (.changeConfig key? f) (r, t)).1.find? key) := by
  have hrun : (SessionUse.run factory respond now (.changeConfig key? f) (r, t)).1 =
      match r.find? (keyOr defaultSessionKey key?) with
      | some info => r.replace (keyOr defaultSessionKey key?) { info with config := f info.config }
      | none => r := by
    rw [SessionUse.run, SessionUse.operation, run_run_bind, run_modifyConfig, done_bind]
    cases r.find? (keyOr defaultSessionKey key?) <;> rfl
  -- what is left of a key, spelled out: its session with the other configuration
  have hleaves : ∀ {r' : RequestSessions} {key : String}, r'.find? key =
      (if keyOr defaultSessionKey key? = key then
        (r.find? key).map fun info => { info with config := f info.config } else r.find? key) →
      Leaves factory respond jar key now t (.changeConfig key? f) (r.find? key) (r'.find? key) :=
    fun h => h
  rw [hrun]
  cases hfind : r.find? (keyOr defaultSessionKey key?) with
  | none =>
      dsimp only
      refine ⟨h, fun key => hleaves ?_⟩
      split
      · rename_i hkey
        rw [← hkey, hfind]
        rfl
      · rfl
  | some info =>
      dsimp only
      have hedited := Edited.replace hfind { info with config := f info.config }
      refine ⟨h.edited hedited, fun key => hleaves ?_⟩
      split
      · rename_i hkey
        rw [← hkey, hfind]
        exact hedited.self
      · rename_i hkey
        exact hedited.other key (Ne.symm hkey)

/-- Initializing leaves the keys without a session untouched. -/
theorem Untouched.init (h : Untouched jar r) (factory : SessionFactory) (respond : Responder σ)
    (now : Int) (t : σ) :
    Untouched jar (SessionUse.run factory respond now .init (r, t)).1 := by
  rw [run_init]
  intro key hkey
  have hbefore : r.find? key = none := by
    have hrel : Option.Rel (Initialized factory respond now key) (r.find? key)
        (find? { jar := ((initAll factory now r.loaded r.jar).run respond t).1.2.1
                 loaded := ((initAll factory now r.loaded r.jar).run respond t).1.1 } key) :=
      find?_initAll
    rw [hkey] at hrel
    cases hfind : r.find? key with
    | none => rfl
    | some info =>
        rw [hfind] at hrel
        cases hrel
  exact (get?_initAll (find?_eq_none_iff.mp hbefore)).trans (h key hbefore)

/-- **One use**, whatever came before it. -/
theorem leaves_step (factory : SessionFactory) (respond : Responder σ) (now : Int)
    (h : Untouched jar r) (t : σ) (use : SessionUse) :
    Untouched jar (use.run factory respond now (r, t)).1 ∧
      ∀ key, Leaves factory respond jar key now t use (r.find? key)
        ((use.run factory respond now (r, t)).1.find? key) := by
  cases use with
  | session key? store? => exact asked_of_target rfl h t
  | change key? store? f => exact asked_of_target rfl h t
  | addFlash message flash? key? store? => exact asked_of_target rfl h t
  | flashes flash? key? store? => exact asked_of_target rfl h t
  | config key? =>
      have hrun : (SessionUse.run factory respond now (.config key?) (r, t)).1 = r := by
        rw [SessionUse.run, SessionUse.operation, run_run_bind, run_config, done_bind]
        cases r.find? (keyOr defaultSessionKey key?) <;> rfl
      rw [hrun]
      exact ⟨h, fun key => rfl⟩
  | changeConfig key? f => exact leaves_changeConfig factory respond now h t key? f
  | save =>
      rw [run_save]
      refine ⟨fun key hkey => ?_, fun key => rfl⟩
      exact (get?_saveAll (find?_eq_none_iff.mp hkey)).trans (h key hkey)
  | init =>
      refine ⟨h.init factory respond now t, fun key => ?_⟩
      rw [run_init]
      exact find?_initAll

/-! ### A request -/

/-- **The uses of a request** bind a key to the store of the first that asks for its session. -/
theorem store_runAll (factory : SessionFactory) (respond : Responder σ) (h : Untouched jar r) (t : σ)
    (uses : List (Int × SessionUse)) (key : String) :
    Untouched jar (SessionUse.runAll factory respond uses (r, t)).1 ∧
      ((SessionUse.runAll factory respond uses (r, t)).1.find? key).map SessionInfo.store =
        ((r.find? key).map SessionInfo.store).or (firstStore? factory key uses) := by
  induction uses generalizing r t with
  | nil => exact ⟨h, (Option.or_none).symm⟩
  | cons u more ih =>
      obtain ⟨now, use⟩ := u
      obtain ⟨hafter, hleaves⟩ := leaves_step factory respond now h t use
      obtain ⟨huntouched, hstore⟩ := ih hafter (use.run factory respond now (r, t)).2
      refine ⟨huntouched, hstore.trans ?_⟩
      have hfirst : firstStore? factory key ((now, use) :: more) =
          (use.binds? factory key).or (firstStore? factory key more) := by
        rw [firstStore?, List.findSome?_cons]
        cases use.binds? factory key <;> rfl
      rw [(hleaves key).store_eq, Option.or_assoc, hfirst]

/-- The use is one of another session: it does not ask for the session with the key, does not change
its configuration, and does not initialize all sessions. -/
structure Spares (key : String) (use : SessionUse) : Prop where
  asks : ∀ name, use.target? ≠ some (key, name)
  configures : ∀ key? f, use = .changeConfig key? f → keyOr defaultSessionKey key? ≠ key
  initializes : use ≠ .init

/-- A use of another session leaves this one as it is. -/
theorem Leaves.eq_of_spares (h : Leaves factory respond jar key now t use slot slot')
    (hspares : Spares key use) : slot' = slot := by
  have hbinds : use.binds? factory key = none := by
    cases htarget : use.target? with
    | none => simp only [SessionUse.binds?, htarget]
    | some target =>
        obtain ⟨asked, name⟩ := target
        have hne : asked ≠ key := fun heq => hspares.asks name (heq ▸ htarget)
        simp only [SessionUse.binds?, htarget]
        exact if_neg fun h => hne h.1
  have hasked (h : Asked factory respond jar key now t use.edit (use.binds? factory key) slot slot') :
      slot' = slot := by
    rw [hbinds] at h
    exact h
  cases use with
  | init => exact absurd rfl hspares.initializes
  | changeConfig key? f => exact (h : slot' = _).trans (if_neg (hspares.configures key? f rfl))
  | session key? store? => exact hasked h
  | change key? store? f => exact hasked h
  | addFlash message flash? key? store? => exact hasked h
  | flashes flash? key? store? => exact hasked h
  | config key? => exact h
  | save => exact h

/-- So do any number of them. -/
theorem find?_runAll_of_spares (h : Untouched jar r) (t : σ) {uses : List (Int × SessionUse)}
    (hspares : ∀ u ∈ uses, Spares key u.2) :
    (SessionUse.runAll factory respond uses (r, t)).1.find? key = r.find? key := by
  induction uses generalizing r t with
  | nil => rfl
  | cons u more ih =>
      obtain ⟨hafter, hleaves⟩ := leaves_step factory respond u.1 h t u.2
      refine (ih hafter _ fun u' hu' => hspares u' (List.mem_cons_of_mem _ hu')).trans ?_
      exact (hleaves key).eq_of_spares (hspares u List.mem_cons_self)

/-- What holds of the sessions of a request after some uses of them. -/
structure Binds (factory : SessionFactory) (respond : Responder σ) (jar : Cookie.Jar)
    (uses : List (Int × SessionUse)) (r : RequestSessions) (t : σ) : Prop where
  /-- A key is bound to the store of the first use that asked for its session and could have it. -/
  store_eq : ∀ key, (r.find? key).map SessionInfo.store = firstStore? factory key uses
  /-- In a store that is not registered no session is to be had, and nothing changes. -/
  unknown : ∀ now (use : SessionUse) key name, use.target? = some (key, name) →
    factory.stores.get? name = none →
      (use.operation factory now).run.run r = .done (.error .noStore, r)
  /-- Nor in a registered one, if the key is bound to another. -/
  mismatch : ∀ now (use : SessionUse) key name bound s, use.target? = some (key, name) →
    factory.stores.get? name = some s → firstStore? factory key uses = some bound → bound ≠ name →
      (use.operation factory now).run.run r = .done (.error .storeMismatch, r)
  /-- From the store that the key is bound to, the session is had as it is at hand, without a call. -/
  again : ∀ now key? store?, firstStore? factory (keyOr defaultSessionKey key?) uses =
      some (keyOr SessionFactory.cookieName store?) →
    ∃ info, r.find? (keyOr defaultSessionKey key?) = some info ∧
      (session factory now key? store?).run.run r = .done (.ok info.data, r)
  /-- There is a configuration exactly for the keys that are bound. -/
  config : ∀ key?, (RequestSessions.config key?).run.run r = .done (.error .noSession, r) ↔
    firstStore? factory (keyOr defaultSessionKey key?) uses = none
  /-- None is changed for a key that is not bound. -/
  changeConfig : ∀ key? f, firstStore? factory (keyOr defaultSessionKey key?) uses = none →
    (modifyConfig key? f).run.run r = .done (.error .noSession, r)
  /-- The next use leaves of each session what it should. -/
  leaves : ∀ now (use : SessionUse) key, Leaves factory respond jar key now t use (r.find? key)
    ((use.run factory respond now (r, t)).1.find? key)
  /-- Uses of other sessions leave a session as it is, however many there are. -/
  spares : ∀ key more, (∀ u ∈ more, Spares key u.2) →
    (SessionUse.runAll factory respond more (r, t)).1.find? key = r.find? key

/-- **A key is bound to one store for a whole request**, for any uses of its sessions by any handlers,
and with any answers to the calls that they make. -/
theorem binds_to_first_store (factory : SessionFactory) (respond : Responder σ) (jar : Cookie.Jar) (t : σ)
    (uses : List (Int × SessionUse)) :
    Binds factory respond jar uses
      (SessionUse.runAll factory respond uses ({ jar := jar }, t)).1
      (SessionUse.runAll factory respond uses ({ jar := jar }, t)).2 := by
  have hstart : Untouched jar { jar := jar } := fun _ _ => rfl
  -- every use keeps to the store that the first use of a key asked for
  have hrun := store_runAll factory respond hstart t uses
  generalize SessionUse.runAll factory respond uses ({ jar := jar }, t) = after at hrun
  obtain ⟨r, t'⟩ := after
  have huntouched : Untouched jar r := (hrun defaultSessionKey).1
  have hstore : ∀ key, (r.find? key).map SessionInfo.store = firstStore? factory key uses :=
    fun key => (hrun key).2
  have hnone : ∀ {key}, firstStore? factory key uses = none → r.find? key = none := by
    intro key hkey
    rw [← hstore key, Option.map_eq_none_iff] at hkey
    exact hkey
  have hsome : ∀ {key name}, firstStore? factory key uses = some name →
      ∃ info, r.find? key = some info ∧ info.store = name := by
    intro key name hkey
    rw [← hstore key, Option.map_eq_some_iff] at hkey
    exact hkey
  refine
    { store_eq := hstore
      unknown := fun now use key name htarget hname => ?_
      mismatch := fun now use key name bound s htarget hname hbound hne => ?_
      again := fun now key? store? hbound => ?_
      config := fun key? => ⟨fun hconfig => ?_, fun hkey => ?_⟩
      changeConfig := fun key? f hkey => ?_
      leaves := fun now use => (leaves_step factory respond now huntouched t' use).2
      spares := fun key more => find?_runAll_of_spares huntouched t' }
  · exact run_of_unknown now htarget (by rw [SessionFactory.store, hname])
  · obtain ⟨info, hfind, rfl⟩ := hsome hbound
    exact run_of_mismatch now htarget (by rw [SessionFactory.store, hname]) hfind hne
  · obtain ⟨info, hfind, hinfo⟩ := hsome hbound
    obtain ⟨u, -, hu⟩ := List.exists_of_findSome?_eq_some hbound
    obtain ⟨s, hs⟩ := exists_store_of_binds hu
    exact ⟨info, hfind, run_session_of_found hs hfind hinfo⟩
  · -- only a key that no use has bound is without a configuration
    cases hfirst : firstStore? factory (keyOr defaultSessionKey key?) uses with
    | none => rfl
    | some name =>
        obtain ⟨info, hfind, -⟩ := hsome hfirst
        rw [run_config, hfind] at hconfig
        cases hconfig
  · rw [run_config, hnone hkey]
  · rw [run_modifyConfig, hnone hkey]

end RequestSessions

end WebSession
