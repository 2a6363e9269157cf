import WebSession.Proofs.Records.Others
import WebSession.Proofs.SessionId
import WebSession.Proofs.SessionStore.Calls
import WebSession.Proofs.SessionStore.Reload

/-!
# WebSession.Proofs.SessionStore.Operations

**What happens to one record while sessions come and go** (`World.after`): loads, saves and removals
through any stores, at any times, and with any calls refused.

Two invariants are carried through such a run, each by one lemma for a call, one for an operation and
an induction.

* A record in memory is read as it was when nothing writes or removes it and the clock does not go
  back (`World.agrees_after`). What is dropped for its age was past its deadline.
* A record that is gone stays gone, in stores of every kind, until a session with its id is saved
  (`World.gone_after`). That holds of saves that fail too: what lets the record be written also lets
  the cookie be set.
-/

namespace WebSession

open Plan

/-! ### Operations -/

/-- What is done with one session. -/
inductive Operation where
  | load (s : SessionStore) (jar : Cookie.Jar) (key : String)
  | save (s : SessionStore) (jar : Cookie.Jar) (key : String) (info : SessionInfo)
  /-- Remove a record. -/
  | remove (records id : String)
  /-- Make a fresh id. -/
  | generate

namespace Operation

/-- The calls of an operation, and whether it succeeds. -/
def plan (now : Int) : Operation → Plan Bool
  | .load s jar key => s.load jar key now >>= fun _ => .done true
  | .save s jar key info => (s.save jar key now info).run >>= fun saved => .done saved.isOk
  | .remove records id => Plan.remove records id >>= fun removed => .done removed.isOk
  | .generate => (SessionId.generate SessionId.octets).run >>= fun id => .done id.isOk

/-- The operation saves a session with an id in some records, or removes the record of the id. -/
def Concerns (records id : String) : Operation → Prop
  | .load .. => False
  | .save s _ _ info => s.kind = .serverSide records ∧ info.data.id? = some id
  | .remove records' id' => records' = records ∧ id' = id
  | .generate => False

end Operation

/-- An operation, the millisecond at which it is done, and the calls that are refused meanwhile. -/
structure Event where
  now : Int
  operation : Operation
  refuse? : Call → Option Error := fun _ => none

namespace Event

/-- Does the operation in a world: whether it succeeded, and the world afterwards. -/
def run (e : Event) (w : World) : Bool × World :=
  (e.operation.plan (e.now / 1000)).run (World.respond.refusing e.refuse?) (w.withNow e.now)

/-- The event saves a session with an id in some records, with success. -/
def Saves (records id : String) (e : Event) (w : World) : Prop :=
  ∃ s jar key info, e.operation = .save s jar key info ∧ s.kind = .serverSide records ∧
    info.data.id? = some id ∧ (e.run w).1 = true

end Event

/-- The world after some events. -/
def World.after (w : World) : List Event → World
  | [] => w
  | e :: more => (e.run w).2.after more

@[simp] theorem World.after_nil (w : World) : w.after [] = w := rfl

@[simp] theorem World.after_cons (w : World) (e : Event) (more : List Event) :
    w.after (e :: more) = (e.run w).2.after more := rfl

/-- None of some events saves a session with an id in some records. -/
def World.Unsaved (records id : String) (w : World) : List Event → Prop
  | [] => True
  | e :: more => ¬ e.Saves records id w ∧ (e.run w).2.Unsaved records id more

/-! ### Calls for other records -/

/-- The call writes or removes the record of an id. -/
def Call.Changes (store id : String) : Call → Prop
  | .random _ => False
  | .get .. => False
  | .add store' id' _ _ => store' = store ∧ id' = id
  | .remove store' id' => store' = store ∧ id' = id

variable {records id : String}

theorem SessionStore.LoadCall.not_changes {s : SessionStore} {jar : Cookie.Jar} {key : String}
    {now : Int} {call : Call} (h : s.LoadCall jar key now call) : ¬ call.Changes records id := by
  cases h
  exact fun h => h

/-- **An operation that does not concern a record** neither writes nor removes it. -/
theorem Operation.makes_plan {o : Operation} (h : ¬ o.Concerns records id) (now : Int) :
    (o.plan now).Makes fun call => ¬ call.Changes records id := by
  have hrandom : ∀ count, ¬ (Call.random count).Changes records id := fun _ h => h
  cases o with
  | load s jar key =>
      exact ((s.makes_load jar key now).mono fun call hcall => hcall.not_changes).bind
        fun _ => .done _
  | save s jar key info =>
      refine ((s.makes_save jar key now info).mono fun call hcall => ?_).bind fun _ => .done _
      cases hcall with
      | random count => exact hrandom count
      | add hk hid =>
          rintro ⟨rfl, rfl⟩
          exact h ⟨hk, hid⟩
      | remove hk hid =>
          rintro ⟨rfl, rfl⟩
          exact h ⟨hk, hid⟩
  | remove records' id' => exact .ask h fun _ => .done _
  | generate => exact (SessionId.quiet_generate.makes hrandom).bind fun _ => .done _

namespace World

variable {w : World}

/-- The clock stands while calls are answered. -/
theorem now_respond (call : Call) (w : World) : (respond call w).2.now = w.now :=
  (follows_respond call w).now_eq

/-- A condition that answered calls keep is kept when some are refused. -/
theorem keeps_refusing (ok : World → Prop) {refuse? : Call → Option Error} {call : Call}
    (h : ok w → ok (respond call w).2) (hw : ok w) :
    ok (respond.refusing refuse? call w).2 := by
  unfold Responder.refusing
  split
  · exact hw
  · exact h hw

/-- What changes no record of a store leaves the store. -/
theorem get?_respond {call : Call} (h : ∀ id, ¬ call.Changes records id) :
    (respond call w).2.records.get? records = w.records.get? records := by
  cases call with
  | random count => rfl
  | get store id =>
      simp only [respond]
      split <;> rfl
  | add store id text maxAge =>
      have hne : records ≠ store := fun heq => h id ⟨heq.symm, rfl⟩
      simp only [respond]
      split
      · rfl
      · exact Dict.get?_set_of_ne hne
  | remove store id =>
      have hne : records ≠ store := fun heq => h id ⟨heq.symm, rfl⟩
      simp only [respond]
      split
      · rfl
      · exact Dict.get?_set_of_ne hne

/-! ### Records in memory -/

/-- The records of a store are in memory, and from now on the record of an id is read as it is read
in given ones. -/
def Agrees (store id : String) (m : Records.Memory) (w : World) : Prop :=
  ∃ m', w.records.get? store = some (.memory m') ∧
    ∀ now, w.now ≤ now → m'.get now id = m.get now id

variable {m : Records.Memory}

/-- A call that does not change the record leaves what is read of it from now on. -/
theorem agrees_respond {call : Call} (hcall : ¬ call.Changes records id)
    (h : w.Agrees records id m) : (respond call w).2.Agrees records id m := by
  obtain ⟨m', hm, hget⟩ := h
  by_cases hother : ∃ id', call.Changes records id'
  · obtain ⟨id', hother⟩ := hother
    have hne : id ≠ id' := fun heq => hcall (heq ▸ hother)
    cases call with
    | random count => cases hother
    | get store id => cases hother
    | add store id' text maxAge =>
        obtain ⟨rfl, rfl⟩ := hother
        rw [respond_add_of_some hm]
        exact ⟨_, Dict.get?_set_self, fun now hle =>
          (Records.Memory.get_add_of_ne hne hle).trans (hget now hle)⟩
    | remove store id' =>
        obtain ⟨rfl, rfl⟩ := hother
        rw [respond_remove_of_some hm]
        exact ⟨_, Dict.get?_set_self, fun now hle =>
          (Records.Memory.get_remove_of_ne hne).trans (hget now hle)⟩
  · refine ⟨m', ?_, fun now hle => ?_⟩
    · rw [get?_respond fun id' h => hother ⟨id', h⟩, hm]
    · rw [now_respond] at hle
      exact hget now hle

/-- **An operation that does not concern the record**, at a time that is not past, leaves it. -/
theorem agrees_event {e : Event} (he : ¬ e.operation.Concerns records id) (hle : w.now ≤ e.now)
    (h : w.Agrees records id m) : (e.run w).2.Agrees records id m ∧ (e.run w).2.now = e.now := by
  have hnow : (w.withNow e.now).Agrees records id m := by
    obtain ⟨m', hm, hget⟩ := h
    exact ⟨m', hm, fun now hle' => hget now (Int.le_trans hle hle')⟩
  have hkeeps : ∀ call (w' : World), ¬ call.Changes records id →
      w'.Agrees records id m ∧ w'.now = e.now →
      (respond.refusing e.refuse? call w').2.Agrees records id m ∧
        (respond.refusing e.refuse? call w').2.now = e.now := by
    intro call w' hcall hw'
    exact keeps_refusing (fun w' => w'.Agrees records id m ∧ w'.now = e.now)
      (fun hw' => ⟨agrees_respond hcall hw'.1, (now_respond call w').trans hw'.2⟩) hw'
  exact (Operation.makes_plan he (e.now / 1000)).run hkeeps ⟨hnow, rfl⟩

/-- **Through a run** of such operations the record in memory is read as it was. -/
theorem agrees_after {events : List Event} {now : Int}
    (hevents : ∀ e ∈ events, ¬ e.operation.Concerns records id)
    (htimes : (w.now :: (events.map Event.now ++ [now])).IsChain (· ≤ ·))
    (h : w.Agrees records id m) : ((w.after events).withNow now).Agrees records id m := by
  induction events generalizing w with
  | nil =>
      obtain ⟨m', hm, hget⟩ := h
      have hle : w.now ≤ now := (List.isChain_cons_cons.mp htimes).1
      exact ⟨m', hm, fun now' hle' => hget now' (Int.le_trans hle hle')⟩
  | cons e more ih =>
      rw [List.map_cons, List.cons_append, List.isChain_cons_cons] at htimes
      obtain ⟨hafter, hnow⟩ := agrees_event (hevents e List.mem_cons_self) htimes.1 h
      refine ih (fun e' he' => hevents e' (List.mem_cons_of_mem _ he')) ?_ hafter
      rw [hnow]
      exact htimes.2

/-! ### Gone records -/

/-- A store has no record of an id. -/
def Gone (store id : String) (w : World) : Prop :=
  ∃ r, w.records.get? store = some r ∧ r.Gone id

/-- **Removing a record** makes it gone, if that does not fail. -/
theorem gone_of_removed
    (h : (Call.remove records id).Succeeds (respond (.remove records id) w).1) :
    (respond (.remove records id) w).2.Gone records id := by
  cases hr : w.records.get? records with
  | none =>
      rw [respond_remove_of_none hr] at h
      rcases h with h | h <;> cases h
  | some r =>
      rw [respond_remove_of_some hr] at h ⊢
      exact ⟨_, Dict.get?_set_self, Records.get_remove_of_gone h⟩

/-- A call leaves a record gone unless it writes it with success. -/
theorem gone_respond {call : Call}
    (hcall : ∀ text maxAge, call = .add records id text maxAge →
      (respond (.add records id text maxAge) w).1 ≠ .ok ())
    (h : w.Gone records id) : (respond call w).2.Gone records id := by
  obtain ⟨r, hr, hgone⟩ := h
  by_cases hother : ∃ id', call.Changes records id'
  · obtain ⟨id', hother⟩ := hother
    cases call with
    | random count => cases hother
    | get store id => cases hother
    | add store id' text maxAge =>
        obtain ⟨rfl, rfl⟩ := hother
        rw [respond_add_of_some hr]
        refine ⟨_, Dict.get?_set_self, ?_⟩
        by_cases hne : id = id'
        · subst hne
          have hfails := hcall text maxAge rfl
          rw [respond_add_of_some hr] at hfails
          cases hadd : (r.add w.now id text maxAge).1 with
          | ok u => exact absurd hadd hfails
          | error e => exact Records.gone_add_of_error hgone hadd
        · exact Records.gone_add_of_ne hgone hne
    | remove store id' =>
        obtain ⟨rfl, rfl⟩ := hother
        rw [respond_remove_of_some hr]
        exact ⟨_, Dict.get?_set_self, Records.gone_remove hgone _ _⟩
  · exact ⟨r, (get?_respond fun id' h => hother ⟨id', h⟩).trans hr, hgone⟩

variable {refuse? : Call → Option Error}

/-- Drawing leaves what is gone. -/
theorem gone_of_quiet {α : Type} {good : α → Prop} {p : Plan α} (hp : p.Quiet good)
    (h : w.Gone records id) : (p.run (respond.refusing refuse?) w).2.Gone records id := by
  have hkeeps : (respond.refusing refuse?).Keeps fun w : World => w.Gone records id :=
    fun w count hw => keeps_refusing _ (gone_respond fun _ _ h => nomatch h) hw
  exact (Plan.run_of_quiet hkeeps hp h).2

/-! ### Saves that fail -/

/-- So many random octets are to be had. -/
def Gives (refuse? : Call → Option Error) (count : Nat) (w : World) : Prop :=
  refuse? (.random count) = none ∧ w.entropy.broken = false

theorem exists_run_draw_of_gives {count : Nat} (h : w.Gives refuse? count) :
    ∃ octets w', (Encoder.draw count).run.run (respond.refusing refuse?) w = (.ok octets, w') ∧
      w'.entropy.broken = false := by
  have hrandom : respond.refusing refuse? (.random count) w = respond (.random count) w := by
    simp only [Responder.refusing, h.1]
  obtain ⟨octets, hoctets⟩ := World.supplies.random count h.2
  refine ⟨octets, (respond (.random count) w).2, ?_, World.supplies.keeps w count h.2⟩
  show (Plan.random count >>= _ : Plan _).run (respond.refusing refuse?) w = _
  rw [Plan.random, ask_bind, run_ask, hrandom, hoctets]
  rfl

theorem run_draw_of_not_gives {count : Nat} (h : ¬ w.Gives refuse? count) :
    ((Encoder.draw count).run.run (respond.refusing refuse?) w).1 =
      .error (.other "random error") := by
  have hrandom : (respond.refusing refuse? (.random count) w).1 = none := by
    cases hrefuse : refuse? (.random count) with
    | some e => simp only [Responder.refusing, hrefuse, Call.refusal]
    | none =>
        have hbroken : w.entropy.broken = true := by
          cases hw : w.entropy.broken with
          | true => rfl
          | false => exact absurd ⟨hrefuse, hw⟩ h
        simp only [Responder.refusing, hrefuse, respond, Entropy.draw, hbroken, if_true]
  show ((Plan.random count >>= _ : Plan _).run (respond.refusing refuse?) w).1 = _
  rw [Plan.random, ask_bind, run_ask, hrandom]
  rfl

/-- **A store that wrote one text writes any**: its first encoder has a key, and either all its draws
are answered or none is. -/
theorem exists_run_encode_again {encoders : List Encoder} {key key' text : String} {now now' : Int}
    {d d' : SessionData} {w' : World} (hsame : w'.entropy.broken = w.entropy.broken)
    (h : ((Encoders.encode encoders key now d).run.run (respond.refusing refuse?) w).1 = .ok text) :
    ∃ text' w'',
      (Encoders.encode encoders key' now' d').run.run (respond.refusing refuse?) w' =
        (.ok text', w'') := by
  cases encoders with
  | nil => cases h
  | cons e more =>
      rw [Encoders.encode] at h ⊢
      cases he : e.authenticate? with
      | none =>
          rw [Encoder.encode, he] at h
          cases h
      | some authenticate =>
          cases hblock : e.block? with
          | none => exact ⟨_, _, Encoder.run_encode_of_plain he hblock⟩
          | some block =>
              simp only [Encoder.encode, he, Encoder.sealed, hblock, ExceptT.run_bind] at h ⊢
              by_cases hgives : w.Gives refuse? CounterMode.blockSize
              · have hgives' : w'.Gives refuse? CounterMode.blockSize :=
                  ⟨hgives.1, hsame.trans hgives.2⟩
                obtain ⟨counter, w₁, hcounter, hw₁⟩ := exists_run_draw_of_gives hgives'
                obtain ⟨salt, w₂, hsalt, -⟩ := exists_run_draw_of_gives ⟨hgives.1, hw₁⟩
                simp only [Plan.run_bind, hcounter, hsalt]
                exact ⟨_, _, rfl⟩
              · simp only [Plan.run_bind, run_draw_of_not_gives hgives] at h
                cases h

/-- The stream of octets stays as sound as it is, whatever is refused. -/
theorem broken_refusing (refuse? : Call → Option Error) (call : Call) (w : World) :
    (respond.refusing refuse? call w).2.entropy.broken = w.entropy.broken := by
  unfold Responder.refusing
  split
  · rfl
  · exact (follows_respond call w).broken_eq

theorem broken_run {α : Type} {p : Plan α} {w' : World} {a : α}
    (h : p.run (respond.refusing refuse?) w = (a, w')) : w'.entropy.broken = w.entropy.broken := by
  induction p generalizing w with
  | done b =>
      cases h
      rfl
  | ask call next ih => exact (ih _ h).trans (broken_refusing refuse? call w)

/-- Adding a record is one call. -/
theorem run_add (text : String) (maxAge : Int) :
    (ExceptT.mk (Plan.add records id text maxAge)).run.run (respond.refusing refuse?) w =
      respond.refusing refuse? (.add records id text maxAge) w := rfl

/-- A record that could not be added, or was not let through, is still gone. -/
theorem gone_add {text : String} {maxAge : Int} {e : Error}
    (hadd : (respond.refusing refuse? (.add records id text maxAge) w).1 = .error e)
    (h : w.Gone records id) :
    (respond.refusing refuse? (.add records id text maxAge) w).2.Gone records id := by
  unfold Responder.refusing at hadd ⊢
  split at hadd
  · exact h
  · refine gone_respond (fun text' maxAge' hcall => ?_) h
    cases hcall
    rw [hadd]
    exact fun hok => nomatch hok

/-- **A save that fails leaves the record gone.** If its record was written, its cookie was set. -/
theorem gone_save {s : SessionStore} {jar : Cookie.Jar} {key : String} {now : Int}
    {info : SessionInfo} (hk : s.kind = .serverSide records) (hid : info.data.id? = some id)
    (hfails : ((s.save jar key now info).run.run (respond.refusing refuse?) w).1.isOk = false)
    (h : w.Gone records id) :
    ((s.save jar key now info).run.run (respond.refusing refuse?) w).2.Gone records id := by
  cases hv : SessionId.isValid id with
  | false =>
      -- the id is not accepted, and nothing is called for
      simp only [SessionStore.save, hk, SessionStore.saveRecord, hid, SessionId.validate, hv]
      exact h
  | true =>
      by_cases hdrop : info.config.maxAge < 0 ∨ info.data.length ≤ 1
      · -- the call is one to remove the record
        obtain ⟨next, hsave, hnext⟩ := SessionStore.save_eq_remove jar key now info hk hid hv hdrop
        rw [hsave, run_ask]
        refine gone_of_quiet (hnext _) (keeps_refusing _ (gone_respond fun _ _ hcall => ?_) h)
        cases hcall
      · rw [SessionStore.save_eq hk hid hv, SessionStore.writeRecord, if_neg hdrop,
          ExceptT.run_bind, Plan.run_bind, Plan.run_bind] at hfails ⊢
        have hencoded : ((Encoders.encode s.encoders key now info.data).run.run
            (respond.refusing refuse?) w).2.Gone records id :=
          gone_of_quiet (Encoders.quiet_encode ..) h
        cases hencode : (Encoders.encode s.encoders key now info.data).run.run
            (respond.refusing refuse?) w with
        | mk result w₁ =>
        rw [hencode] at hfails hencoded
        cases result with
        | error e => exact hencoded
        | ok text =>
            dsimp only at hfails ⊢
            rw [run_add] at hfails ⊢
            cases hadd : respond.refusing refuse? (.add records id text info.config.maxAge) w₁ with
            | mk added w₂ =>
            rw [hadd] at hfails
            cases added with
            | error e =>
                -- the record was refused, and a refused one is not there
                have hgone := gone_add (congrArg Prod.fst hadd) hencoded
                rw [hadd] at hgone
                exact hgone
            | ok u =>
                -- the record is written, so the cookie is set, and the save did not fail
                have hwritten := broken_refusing refuse? (.add records id text info.config.maxAge) w₁
                rw [hadd] at hwritten
                obtain ⟨text', w₃, hagain⟩ := exists_run_encode_again
                  (hwritten.trans (broken_run hencode)) (congrArg Prod.fst hencode)
                dsimp only at hfails
                rw [SessionStore.setCookie, ExceptT.run_bind, Plan.run_bind, hagain] at hfails
                cases hfails

/-- **An event that does not save a session with the id** leaves its record gone. -/
theorem gone_event {e : Event} (he : ¬ e.Saves records id w) (h : w.Gone records id) :
    (e.run w).2.Gone records id := by
  obtain ⟨now, o, refuse?⟩ := e
  have hnow : (w.withNow now).Gone records id := h
  by_cases hsave : ∃ s jar key info, o = .save s jar key info ∧ s.kind = .serverSide records ∧
      info.data.id? = some id
  · obtain ⟨s, jar, key, info, rfl, hk, hid⟩ := hsave
    simp only [Event.Saves, Event.run, Operation.plan, Plan.run_bind] at he ⊢
    refine gone_save hk hid ?_ hnow
    exact Bool.eq_false_iff.mpr fun hok => he ⟨s, jar, key, info, rfl, hk, hid, hok⟩
  · -- what else may be done does not add the record
    have hmakes : (o.plan (now / 1000)).Makes fun call => ∀ text maxAge,
        call ≠ .add records id text maxAge := by
      cases o with
      | load s jar key =>
          refine ((s.makes_load jar key _).mono fun call hcall => ?_).bind fun _ => .done _
          rintro text maxAge rfl
          cases hcall
      | save s jar key info =>
          refine ((s.makes_save jar key _ info).mono fun call hcall => ?_).bind fun _ => .done _
          rintro text maxAge rfl
          cases hcall with
          | add hk hid => exact hsave ⟨s, jar, key, info, rfl, hk, hid⟩
      | remove records' id' => exact .ask (fun _ _ hcall => nomatch hcall) fun _ => .done _
      | generate =>
          refine (SessionId.quiet_generate.makes fun count => ?_).bind fun _ => .done _
          exact fun _ _ hcall => nomatch hcall
    have hkeeps : ∀ call (w : World), (∀ text maxAge, call ≠ .add records id text maxAge) →
        w.Gone records id → (respond.refusing refuse? call w).2.Gone records id :=
      fun call w hcall hw =>
        keeps_refusing _ (gone_respond fun text maxAge heq => absurd heq (hcall text maxAge)) hw
    exact hmakes.run hkeeps hnow

/-- **Through a run** in which no session with the id is saved its record stays gone. -/
theorem gone_after {events : List Event} (hevents : w.Unsaved records id events)
    (h : w.Gone records id) : (w.after events).Gone records id := by
  induction events generalizing w with
  | nil => exact h
  | cons e more ih => exact ih hevents.2 (gone_event hevents.1 h)

end World

end WebSession
