import WebSession.Proofs.Plan.Interleaving
import WebSession.Proofs.SessionStore

/-!
# WebSession.Proofs.SessionStore.Concurrency

**Requests that update a session at the same time are a shared register** (`simulates_run`).

Each of them reads the record once and writes it once, and draws besides. What they do to each
other is therefore told by the order of their reads and writes alone: a register with a copy for
each party takes the same steps, and the record shows what the register holds.

* `Updating` says which touches a plan has still before it, and with which copy.
* `Simulates` is the invariant between plans, record and register. One call preserves it
  (`simulates_call`), and so does a whole interleaving.
-/

namespace WebSession

open Plan

/-! ### The register -/

/-- What a call does to a record. -/
inductive Touch where
  | read
  /-- Removing is a way of writing. -/
  | write
  deriving DecidableEq

/-- What a call does to a record, if anything. -/
def Call.touch? : Call → Option Touch
  | .random _ => none
  | .get .. => some .read
  | .add .. => some .write
  | .remove .. => some .write

variable {ι : Type}

/-- The reads and writes of a trace. -/
def touches (trace : List (ι × Call)) : List (ι × Touch) :=
  trace.filterMap fun step => step.2.touch?.map (Prod.mk step.1)

theorem touches_cons_of_none {i : ι} {call : Call} (h : call.touch? = none)
    (trace : List (ι × Call)) : touches ((i, call) :: trace) = touches trace := by
  simp [touches, h]

theorem touches_cons_of_some {i : ι} {call : Call} {touch : Touch} (h : call.touch? = some touch)
    (trace : List (ι × Call)) : touches ((i, call) :: trace) = (i, touch) :: touches trace := by
  simp [touches, h]

theorem touches_append (a b : List (ι × Call)) : touches (a ++ b) = touches a ++ touches b :=
  List.filterMap_append

/-- The touches of a single party. -/
theorem touches_map (i : ι) (calls : List Call) :
    touches (calls.map (Prod.mk i)) = (calls.filterMap Call.touch?).map (Prod.mk i) := by
  rw [touches, List.filterMap_map, List.map_filterMap]
  rfl

variable [DecidableEq ι]

/-- What one party does. -/
def touchesOf (i : ι) (l : List (ι × Touch)) : List Touch :=
  (l.filter (·.1 = i)).map Prod.snd

theorem touchesOf_cons_self (i : ι) (touch : Touch) (l : List (ι × Touch)) :
    touchesOf i ((i, touch) :: l) = touch :: touchesOf i l := by
  simp [touchesOf]

theorem touchesOf_cons_of_ne {i j : ι} (h : j ≠ i) (touch : Touch) (l : List (ι × Touch)) :
    touchesOf i ((j, touch) :: l) = touchesOf i l := by
  simp [touchesOf, h]

theorem touchesOf_append (i : ι) (a b : List (ι × Touch)) :
    touchesOf i (a ++ b) = touchesOf i a ++ touchesOf i b := by
  simp [touchesOf]

theorem touchesOf_map_self (i : ι) (l : List Touch) : touchesOf i (l.map (Prod.mk i)) = l := by
  induction l with
  | nil => rfl
  | cons touch l ih => rw [List.map_cons, touchesOf_cons_self, ih]

theorem touchesOf_map_of_ne {i j : ι} (h : j ≠ i) (l : List Touch) :
    touchesOf i (l.map (Prod.mk j)) = [] := by
  induction l with
  | nil => rfl
  | cons touch l ih => rw [List.map_cons, touchesOf_cons_of_ne h, ih]

/-- A session that parties share, and the copy that each of them has. -/
structure Register (ι : Type) where
  value : SessionData
  copies : ι → SessionData

namespace Register

/-- Reading copies the shared session; writing replaces it by the changed copy. -/
def step (change : ι → SessionData → SessionData) (r : Register ι) : ι × Touch → Register ι
  | (i, .read) => { r with copies := Function.update r.copies i r.value }
  | (i, .write) => { r with value := change i (r.copies i) }

/-- Takes one step after the other. -/
def run (change : ι → SessionData → SessionData) (r : Register ι) (l : List (ι × Touch)) :
    Register ι := l.foldl (step change) r

/-- Every session in the register is good. -/
structure All (good : SessionData → Prop) (r : Register ι) : Prop where
  value : good r.value
  copies : ∀ i, good (r.copies i)

theorem all_step {good : SessionData → Prop} {change : ι → SessionData → SessionData}
    (hchange : ∀ i d, good d → good (change i d)) {r : Register ι} (h : r.All good)
    (x : ι × Touch) : (r.step change x).All good := by
  obtain ⟨i, touch⟩ := x
  cases touch with
  | read =>
      refine ⟨h.value, fun j => ?_⟩
      show good (Function.update r.copies i r.value j)
      by_cases hj : j = i
      · subst hj
        rw [Function.update_self]
        exact h.value
      · rw [Function.update_of_ne hj]
        exact h.copies j
  | write => exact ⟨hchange i _ (h.copies i), h.copies⟩

end Register

/-! ### A shared session -/

/-- The session with an id in a server-side store, written with an age and looked at at some
times. -/
structure SharedSession where
  store : SessionStore
  /-- The name of its records. -/
  records : String
  key : String
  id : String
  maxAge : Int
  /-- The seconds at which the session may be loaded. -/
  times : List Int

namespace SharedSession

variable (c : SharedSession)

/-- At all times the record shows the session. -/
def Shows (record : Except Error String) (d : SessionData) : Prop :=
  ∀ t ∈ c.times, c.store.shown c.key t c.id record = d

/-- The call makes the record show the session. -/
def Saves (d : SessionData) (call : Call) : Prop :=
  (call = .remove c.records c.id ∧ d = SessionData.ofId c.id) ∨
    ∃ text, call = .add c.records c.id text c.maxAge ∧ c.Shows (.ok text) d

/-- What a plan that updates the session has still to do, with a copy of the session. -/
inductive Updating {α : Type} (good : SessionData → Prop) (change : SessionData → SessionData) :
    List Touch → SessionData → Plan α → Prop where
  /-- It reads the session, changes it and writes it. -/
  | reading {copy : SessionData} {next : Except Error String → Plan α} :
      (∀ record d, c.Shows record d → good d → (next record).Calls (c.Saves (change d))) →
      Updating good change [.read, .write] copy (.ask (.get c.records c.id) next)
  /-- It writes the changed copy. -/
  | writing {copy : SessionData} {p : Plan α} : p.Calls (c.Saves (change copy)) →
      Updating good change [.write] copy p
  /-- It has written. -/
  | finished {copy : SessionData} {p : Plan α} : p.Quiet (fun _ => True) →
      Updating good change [] copy p

/-- A plan that reads begins with the call that reads. -/
theorem Updating.exists_ask {c : SharedSession} {α : Type} {good : SessionData → Prop}
    {change : SessionData → SessionData} {rest : List Touch} {copy : SessionData} {p : Plan α}
    (h : c.Updating good change (.read :: rest) copy p) :
    ∃ next, p = .ask (.get c.records c.id) next := by
  cases h with
  | reading _ => exact ⟨_, rfl⟩

variable {c} {σ : Type} {respond : Responder σ} {ok : σ → Prop}

theorem touch?_of_saves {d : SessionData} {call : Call} (h : c.Saves d call) :
    call.touch? = some .write := by
  rcases h with ⟨rfl, -⟩ | ⟨text, rfl, -⟩ <;> rfl

/-- A call that saves a session makes the record show it. -/
theorem shows_of_saves (hr : respond.Works ok c.records c.id c.maxAge) {d : SessionData}
    {call : Call} (h : c.Saves d call) {t : σ} (ht : ok t) :
    ok (respond call t).2 ∧ c.Shows (respond.record c.records c.id (respond call t).2) d := by
  rcases h with ⟨rfl, rfl⟩ | ⟨text, rfl, hshows⟩
  · refine ⟨hr.remove_keeps ht, fun now _ => ?_⟩
    rw [hr.record_remove_of_gone ht (hr.remove_works ht)]
    rfl
  · refine ⟨hr.add_keeps text ht, ?_⟩
    rw [hr.record_add_of_ok ht (hr.add_works text ht)]
    exact hshows

/-! ### The simulation -/

/-- The plans are at their touches, the record shows what the register holds, and both are in good
order. -/
structure Simulates {α : Type} (c : SharedSession) (respond : Responder σ) (ok : σ → Prop)
    (good : SessionData → Prop) (change : ι → SessionData → SessionData) (plans : ι → Plan α)
    (t : σ) (todo : ι → List Touch) (r : Register ι) : Prop where
  phase : ∀ i, c.Updating good (change i) (todo i) (r.copies i) (plans i)
  ok : ok t
  shows : c.Shows (respond.record c.records c.id t) r.value
  good : r.All good

variable {α : Type} {good : SessionData → Prop} {change : ι → SessionData → SessionData}

/-- One plan goes on while the others stay. -/
theorem phase_update {plans : ι → Plan α} {todo : ι → List Touch} {copies copies' : ι → SessionData}
    (h : ∀ i, c.Updating good (change i) (todo i) (copies i) (plans i)) (i : ι) {p : Plan α}
    {rest : List Touch} (hi : c.Updating good (change i) rest (copies' i) p)
    (hsame : ∀ j, j ≠ i → copies' j = copies j) (j : ι) :
    c.Updating good (change j) (Function.update todo i rest j) (copies' j)
      (Function.update plans i p j) := by
  by_cases hj : j = i
  · subst hj
    rw [Function.update_self, Function.update_self]
    exact hi
  · rw [Function.update_of_ne hj, Function.update_of_ne hj, hsame j hj]
    exact h j

/-- A draw takes a plan on and leaves the rest. -/
theorem simulates_draw (hr : respond.Works ok c.records c.id c.maxAge) {plans : ι → Plan α} {t : σ}
    {todo : ι → List Touch} {r : Register ι}
    (h : c.Simulates respond ok good change plans t todo r) (i : ι) {count : Nat}
    {next : Option (Vector UInt8 count) → Plan α}
    (hnext : ∀ octets, c.Updating good (change i) (todo i) (r.copies i) (next (some octets))) :
    c.Simulates respond ok good change
      (Function.update plans i (next (respond (.random count) t).1)) (respond (.random count) t).2
      todo r := by
  obtain ⟨octets, hoctets⟩ := hr.random count h.ok
  refine
    { phase := fun j => ?_
      ok := hr.keeps t count h.ok
      shows := by rw [hr.record_random count h.ok]; exact h.shows
      good := h.good }
  rw [hoctets]
  have hphase := phase_update h.phase i (hnext octets) (fun _ _ => rfl) j
  rwa [Function.update_eq_self] at hphase

/-- **One call** draws and leaves the register, or touches the record like the register. -/
theorem simulates_call (hr : respond.Works ok c.records c.id c.maxAge)
    (hchange : ∀ i d, good d → good (change i d)) {plans : ι → Plan α} {t : σ}
    {todo : ι → List Touch} {r : Register ι}
    (h : c.Simulates respond ok good change plans t todo r) {i : ι} {call : Call}
    {next : call.Answer → Plan α} (hcall : plans i = .ask call next) :
    let plans' := Function.update plans i (next (respond call t).1)
    let t' := (respond call t).2
    (call.touch? = none ∧ c.Simulates respond ok good change plans' t' todo r) ∨
      ∃ touch rest, call.touch? = some touch ∧ todo i = touch :: rest ∧
        c.Simulates respond ok good change plans' t' (Function.update todo i rest)
          (r.step change (i, touch)) := by
  -- what the plan still has to do tells which call it can be about to make
  have hphase := h.phase i
  generalize htodo : todo i = l at hphase
  rw [hcall] at hphase
  cases hphase with
  | reading hnext =>
      -- the record is read, and what the party goes on with is its copy
      refine Or.inr ⟨.read, [.write], rfl, rfl, ?_⟩
      have hsame := hr.get_same h.ok
      refine
        { phase := phase_update h.phase i (.writing ?_) fun j hj => Function.update_of_ne hj _ _
          ok := by rw [hsame]; exact h.ok
          shows := by rw [hsame]; exact h.shows
          good := Register.all_step hchange h.good _ }
      have hcopy : (r.step change (i, .read)).copies i = r.value := Function.update_self ..
      rw [hcopy]
      exact hnext _ _ h.shows h.good.value
  | writing hcalls =>
      cases hcalls with
      | draw hnext _ =>
          refine Or.inl ⟨rfl, simulates_draw hr h i fun octets => ?_⟩
          rw [htodo]
          exact .writing (hnext octets)
      | call hsaves hnext =>
          -- what the party makes of its copy is written over whatever is there
          refine Or.inr ⟨.write, [], touch?_of_saves hsaves, rfl, ?_⟩
          obtain ⟨hok, hshows⟩ := shows_of_saves hr hsaves h.ok
          exact
            { phase := phase_update h.phase i (.finished (hnext _)) fun _ _ => rfl
              ok := hok
              shows := hshows
              good := Register.all_step hchange h.good _ }
  | finished hquiet =>
      cases hquiet with
      | draw hnext =>
          refine Or.inl ⟨rfl, simulates_draw hr h i fun octets => ?_⟩
          rw [htodo]
          exact .finished (hnext (some octets))

/-- **A whole interleaving** takes the register through its reads and writes, and each plan through
its own. -/
theorem simulates_run (hr : respond.Works ok c.records c.id c.maxAge) {drift : σ → σ → Prop}
    (hdrift : ∀ {t t'}, drift t t' → ok t →
      ok t' ∧ respond.record c.records c.id t' = respond.record c.records c.id t)
    (hchange : ∀ i d, good d → good (change i d)) {plans : ι → Plan α} {t t' : σ}
    {trace : List (ι × Call)} (hrun : Interleaves respond drift plans t trace t')
    {todo : ι → List Touch} {r : Register ι}
    (h : c.Simulates respond ok good change plans t todo r) :
    ok t' ∧ c.Shows (respond.record c.records c.id t') (r.run change (touches trace)).value ∧
      ∀ i, touchesOf i (touches trace) = todo i := by
  induction hrun generalizing todo r with
  | done hdone =>
      refine ⟨h.ok, h.shows, fun i => ?_⟩
      obtain ⟨a, ha⟩ := hdone i
      have hphase := h.phase i
      generalize todo i = l at hphase
      rw [ha] at hphase
      cases hphase with
      | writing hcalls => cases hcalls
      | finished _ => rfl
  | drift hd _ ih =>
      -- time that passes between the calls leaves the record as it is read
      obtain ⟨hok, hrecord⟩ := hdrift hd h.ok
      exact ih ⟨h.phase, hok, by rw [hrecord]; exact h.shows, h.good⟩
  | call i hcall _ ih =>
      rcases simulates_call hr hchange h hcall with ⟨htouch, h'⟩ | ⟨touch, rest, htouch, htodo, h'⟩
      · rw [touches_cons_of_none htouch]
        exact ih h'
      · obtain ⟨hok, hshows, hof⟩ := ih h'
        rw [touches_cons_of_some htouch]
        refine ⟨hok, hshows, fun j => ?_⟩
        by_cases hj : i = j
        · subst hj
          rw [touchesOf_cons_self, hof, Function.update_self, htodo]
        · rw [touchesOf_cons_of_ne hj, hof, Function.update_of_ne (Ne.symm hj)]

end SharedSession

end WebSession
