import WebSession.Proofs.Fields
import WebSession.Proofs.RequestSessions
import WebSession.Proofs.Service.Locality

/-!
# WebSession.Proofs.RequestSessions.FlashMessages

**Flash messages are delivered once and in order** (`flashes_delivered_once`), over any number of
requests: asking for the messages under a key gives those that were added since it was last asked
for, and leaves the other keys as they are.

Two things are shared by what carries the messages from one request to another: the data, in which
the messages under one key are the whole value of that key (`Waiting`), and the cookie or the record,
from which the next request loads what the last one saved (`Course.Holds`).
-/

namespace WebSession

open Plan

/-! ### The cookies of the next request -/

namespace Cookie.Jar

/-- The jar of a client that sends back all the cookies that it has. -/
def sentBack (jar : Jar) : Jar where
  received := Dict.ofList jar.toList

theorem mem_toList_iff {jar : Jar} {name value : String} :
    (name, value) ∈ jar.toList ↔ jar.get? name = some value := by
  rw [toList, List.mem_append, List.mem_filter, List.mem_map, get?, Fields.mem_toList_iff]
  cases hchange : jar.changes.get? name with
  | none =>
      have hset : ∀ f ∈ jar.changes.toList, f.1 ≠ name := by
        rintro f hf rfl
        rw [Fields.mem_toList_iff, hchange] at hf
        cases hf
      simp only [Fields.contains, hchange]
      refine ⟨fun h => ?_, fun h => Or.inl ⟨h, rfl⟩⟩
      rcases h with ⟨h, -⟩ | ⟨f, hf, h⟩
      · exact h
      · exact absurd (congrArg Prod.fst h) (hset f hf)
  | some c =>
      simp only [Fields.contains, hchange]
      refine ⟨fun h => ?_, fun h => Or.inr ⟨(name, c), Fields.mem_toList_iff.mpr hchange, ?_⟩⟩
      · rcases h with ⟨-, h⟩ | ⟨f, hf, h⟩
        · cases h
        · cases h
          rw [Fields.mem_toList_iff, hchange] at hf
          cases hf
          rfl
      · cases h
        rfl

theorem nodup_names (jar : Jar) : (jar.toList.map Prod.fst).Nodup := by
  rw [toList, List.map_append, List.map_map, List.nodup_append]
  refine ⟨(jar.received.nodup_keys).sublist (List.filter_sublist.map _), jar.changes.nodup_keys,
    fun name hname name' hname' heq => ?_⟩
  obtain ⟨f, hf, rfl⟩ := List.mem_map.mp hname
  obtain ⟨f', hf', rfl⟩ := List.mem_map.mp hname'
  -- a cookie that was set is not among those that were only received
  have hset : jar.changes.get? f.1 = some f'.2 := heq ▸ Fields.mem_toList_iff.mp hf'
  simp [Fields.contains, hset] at hf

/-- What is sent back is what there was. -/
@[simp] theorem get?_sentBack (jar : Jar) (name : String) :
    jar.sentBack.get? name = jar.get? name := by
  have hreceived : jar.sentBack.get? name = (Dict.ofList jar.toList).get? name := rfl
  refine Option.ext fun value => ?_
  rw [hreceived, ← mem_toList_iff, ← Dict.mem_ofList_iff jar.nodup_names, Fields.mem_toList_iff]

end Cookie.Jar

namespace RequestSessions

/-! ### Messages in the data -/

section

variable {d : SessionData} {f key : String} {values : List Value}

/-- What stands under a key with some messages: nothing if there are none. -/
def Waiting (values : List Value) (d : SessionData) (f : String) : Prop :=
  d.get? f = if values.isEmpty then none else some (.list values)

theorem takeFlashes_of_waiting (h : Waiting values d f) :
    takeFlashes f d = if values.isEmpty then (none, d) else (some values, d.erase f) := by
  unfold Waiting at h
  rw [takeFlashes, h]
  cases values <;> rfl

/-- Whatever was under the key, nothing is when it was taken. -/
theorem waiting_takeFlashes (f : String) (d : SessionData) : Waiting [] (takeFlashes f d).2 f := by
  show (takeFlashes f d).2.get? f = none
  unfold takeFlashes
  split
  · exact SessionData.get?_erase_self
  · exact SessionData.get?_erase_self
  · assumption

/-- Taking the messages under one key leaves the others. -/
theorem get?_takeFlashes_of_ne (hne : key ≠ f) (d : SessionData) :
    (takeFlashes f d).2.get? key = d.get? key := by
  unfold takeFlashes
  split
  · exact SessionData.get?_erase_of_ne hne
  · exact SessionData.get?_erase_of_ne hne
  · rfl

/-- A message goes behind those that wait. -/
theorem waiting_pushFlash (h : Waiting values d f) (message : Value) :
    Waiting (values ++ [message]) (pushFlash f message d) f := by
  have hempty : (values ++ [message]).isEmpty = false := by simp
  rw [Waiting, hempty, pushFlash, takeFlashes_of_waiting h, SessionData.get?_insert_self]
  cases values <;> rfl

/-- Adding a message leaves the other keys. -/
theorem get?_pushFlash_of_ne (hne : key ≠ f) (message : Value) (d : SessionData) :
    (pushFlash f message d).get? key = d.get? key := SessionData.get?_insert_of_ne hne

end

end RequestSessions

/-! ### What is done with a session -/

/-- What is done with a session that has flash messages. -/
inductive FlashStep where
  | add (message : Value) (flash? : Option String)
  | take (flash? : Option String)
  | insert (key : String) (value : Value)
  | remove (key : String)
  /-- The session is saved, and the next request comes in at a moment. -/
  | next (now : Int)

namespace FlashStep

open RequestSessions

/-- The step as an operation on the sessions of the request. -/
def operation (factory : SessionFactory) (now : Int) (key? store? : Option String) :
    FlashStep → OnSessions Unit
  | .add message flash? => addFlash factory now message flash? key? store?
  | .take flash? => do let _ ← flashes factory now flash? key? store?
  | .insert key value => modifySession factory now key? store? fun d => ((), d.insert key value)
  | .remove key => modifySession factory now key? store? fun d => ((), d.erase key)
  | .next _ => pure ()

/-- What the step makes of the data. -/
def change : FlashStep → SessionData → SessionData
  | .add message flash? => pushFlash (keyOr defaultFlashKey flash?) message
  | .take flash? => fun d => (takeFlashes (keyOr defaultFlashKey flash?) d).2
  | .insert key value => fun d => d.insert key value
  | .remove key => fun d => d.erase key
  | .next _ => id

/-- The messages under a key after the step. -/
def pend (f : String) (values : List Value) : FlashStep → List Value
  | .add message flash? => if keyOr defaultFlashKey flash? = f then values ++ [message] else values
  | .take flash? => if keyOr defaultFlashKey flash? = f then [] else values
  | _ => values

end FlashStep

/-- The messages that were added under a key since they were last taken. -/
def pending (f : String) (steps : List FlashStep) : List Value :=
  steps.foldl (fun values step => step.pend f values) []

/-! ### Requests of one client -/

/-- A client in the course of its requests: the world, the sessions of the request at hand, and when
the session was saved last and with which age. -/
structure Course where
  world : World
  sessions : RequestSessions
  made : Int
  maxAge : Int

namespace Course

open RequestSessions

variable (factory : SessionFactory) (key? store? : Option String)

/-- Operates on the sessions of the request. -/
def operate {α : Type} (c : Course) (p : OnSessions α) : Except Error α × Course :=
  let after := (p.run.run c.sessions).run World.respond c.world
  (after.1.1, { c with world := after.2, sessions := after.1.2 })

/-- The same request when its session is loaded. -/
def within (c : Course) (key : String) (info : SessionInfo) : Course :=
  { c with sessions := { jar := c.sessions.jar, loaded := [(key, info)] } }

/-- The sessions and the world when the request has ended. -/
def ended (c : Course) : RequestSessions × World :=
  let after := (c.sessions.save factory c.world.seconds).run World.respond c.world
  (after.1.1, after.2)

/-- When the session was saved last, and with which age, after the request has ended. -/
def savedAt (c : Course) : Int × Int :=
  match c.sessions.find? (keyOr defaultSessionKey key?) with
  | some info => (c.world.now, info.config.maxAge)
  | none => (c.made, c.maxAge)

/-- Goes one step. -/
def advance (c : Course) : FlashStep → Course
  | .next now =>
    { world := (c.ended factory).2.withNow now
      sessions := { jar := (c.ended factory).1.jar.sentBack }
      made := (c.savedAt key?).1
      maxAge := (c.savedAt key?).2 }
  | step => (c.operate (step.operation factory c.world.seconds key? store?)).2

/-- Goes some steps. -/
def run (c : Course) (steps : List FlashStep) : Course :=
  steps.foldl (fun c step => c.advance factory key? store? step) c

/-- What the session is read as. -/
def Reads (c : Course) (d : SessionData) : Prop :=
  (c.operate (session factory c.world.seconds key? store?)).1 = .ok d

/-- The request may end, and the next come in at a moment: what is saved can be kept, no call of
saving it fails, and until then it has not come to its end. -/
structure Crosses (s : SessionStore) (c : Course) (now : Int) : Prop where
  lt_last : now < Records.Memory.lastMoment
  within : s.Within (c.savedAt key?).2 (c.savedAt key?).1 now
  keeps : ∀ info, c.sessions.find? (keyOr defaultSessionKey key?) = some info →
    Moment c.world.now ∧ s.Keeps info.config.maxAge info
  unfailing : (c.sessions.save factory c.world.seconds).Unfailing World.respond c.world
  length : s.kind = .cookie → ∀ text,
    (c.ended factory).1.jar.get? (keyOr defaultSessionKey key?) = some text →
      text.utf8ByteSize ≤ SessionStore.cookieMaxLength

/-- The step may be gone: it keeps flash keys and other keys apart, and requests end well. -/
def Allows (flashKey : String → Prop) (s : SessionStore) (c : Course) : FlashStep → Prop
  | .add _ flash? => flashKey (keyOr defaultFlashKey flash?)
  | .take flash? => flashKey (keyOr defaultFlashKey flash?)
  | .insert key _ => ¬ flashKey key
  | .remove key => ¬ flashKey key
  | .next now => c.Crosses factory key? s now

/-- The steps may be gone one after the other. -/
def AllowsAll (flashKey : String → Prop) (s : SessionStore) : Course → List FlashStep → Prop
  | _, [] => True
  | c, step :: more =>
    c.Allows factory key? flashKey s step ∧
      AllowsAll flashKey s (c.advance factory key? store? step) more

/-! ### What a step keeps -/

/-- The session of the client has these data: it is loaded, or the cookie reloads it, or there is no
cookie yet. -/
inductive Holds (s : SessionStore) (c : Course) (d : SessionData) : Prop where
  /-- The session is loaded. -/
  | loaded {jar : Cookie.Jar} {info : SessionInfo} :
      c.sessions = { jar := jar, loaded := [(keyOr defaultSessionKey key?, info)] } →
      info.store = keyOr SessionFactory.cookieName store? → info.data = d → Holds s c d
  /-- The session was saved, and is not loaded yet. -/
  | saved {jar : Cookie.Jar} {text : String} : c.sessions = { jar := jar } →
      jar.get? (keyOr defaultSessionKey key?) = some text →
      s.Reloads (keyOr defaultSessionKey key?) text c.maxAge c.made d c.world →
      s.Within c.maxAge c.made c.world.now → c.world.now < Records.Memory.lastMoment → Holds s c d
  /-- There is no session yet. -/
  | absent {jar : Cookie.Jar} : c.sessions = { jar := jar } →
      jar.get? (keyOr defaultSessionKey key?) = none → d = .empty → Holds s c d

variable {factory key? store?} {s : SessionStore} {c : Course} {d : SessionData}

theorem find?_single (jar : Cookie.Jar) (key : String) (info : SessionInfo) :
    find? { jar := jar, loaded := [(key, info)] } key = some info := by
  simp [find?]

theorem replace_single (jar : Cookie.Jar) (key : String) (info info' : SessionInfo) :
    replace { jar := jar, loaded := [(key, info)] } key info' =
      { jar := jar, loaded := [(key, info')] } := by
  simp [replace]

theorem holds_within {info : SessionInfo} (hstore : info.store = keyOr SessionFactory.cookieName store?)
    (hd : info.data = d) :
    Holds key? store? s (c.within (keyOr defaultSessionKey key?) info) d := .loaded rfl hstore hd

/-- What an operation gives hangs on the world and the sessions of the request. -/
theorem operate_congr {α : Type} {c c' : Course} (hworld : c'.world = c.world)
    (hsessions : c'.sessions = c.sessions) (p : OnSessions α) :
    (c'.operate p).1 = (c.operate p).1 := by
  simp only [operate, hworld, hsessions]

/-- Operations follow one another. -/
theorem operate_bind {α β : Type} (c : Course) (p : OnSessions α) (f : α → OnSessions β) :
    c.operate (p >>= f) =
      match c.operate p with
      | (.ok a, c) => c.operate (f a)
      | (.error e, c) => (.error e, c) := by
  simp only [operate, run_run_bind, Plan.run_bind]
  obtain ⟨⟨a, r⟩, w⟩ := (p.run.run c.sessions).run World.respond c.world
  cases a <;> rfl

section

variable (hs : factory.store (keyOr SessionFactory.cookieName store?) = .ok s)
  (h : Holds key? store? s c d)

include hs h

/-- The session is loaded, if it was not, and nothing else changes. -/
theorem exists_operate_sessionInfo :
    ∃ info, c.operate (sessionInfo factory c.world.seconds key? store?) =
        (.ok info, c.within (keyOr defaultSessionKey key?) info) ∧
      info.store = keyOr SessionFactory.cookieName store? ∧ info.data = d := by
  cases h with
  | @loaded jar info hsessions hstore hd =>
      refine ⟨info, ?_, hstore, hd⟩
      rw [operate, within, hsessions, run_sessionInfo_of_found hs (find?_single ..) hstore]
      rfl
  | @saved jar text hsessions hjar hreloads hwithin hlast =>
      have hload := hreloads c.world.now jar hlast hwithin hjar
      rw [show c.world.withNow c.world.now = c.world from rfl] at hload
      refine ⟨{ data := d, store := _, config := factory.defaultConfig }, ?_, rfl, rfl⟩
      rw [operate, within, hsessions, run_sessionInfo hs, Plan.run_bind, World.seconds, hload]
      rfl
  | @absent jar hsessions hjar hd =>
      refine ⟨{ data := .empty, store := _, config := factory.defaultConfig }, ?_, rfl, hd.symm⟩
      rw [operate, within, hsessions, run_sessionInfo hs, SessionStore.load_of_none hjar]
      rfl

/-- The session is read as what it holds. -/
theorem reads_of_holds : c.Reads factory key? store? d := by
  obtain ⟨info, hrun, -, rfl⟩ := exists_operate_sessionInfo hs h
  rw [Reads, session, operate_bind, hrun]
  rfl

/-- **Changing the session** goes by its data, whether it is loaded or not. -/
theorem exists_operate_modifySession {α : Type} (change : SessionData → α × SessionData) :
    ∃ info, c.operate (modifySession factory c.world.seconds key? store? change) =
        (.ok (change d).1, c.within (keyOr defaultSessionKey key?) info) ∧
      info.store = keyOr SessionFactory.cookieName store? ∧ info.data = (change d).2 := by
  obtain ⟨info, hrun, hstore, rfl⟩ := exists_operate_sessionInfo hs h
  refine ⟨{ info with data := (change info.data).2 }, ?_, hstore, rfl⟩
  have hreplaced := replace_single c.sessions.jar (keyOr defaultSessionKey key?) info
    { info with data := (change info.data).2 }
  rw [modifySession, operate_bind, hrun]
  exact congrArg (fun r => (Except.ok (change info.data).1, { c with sessions := r })) hreplaced

/-- **Taking messages** answers with those that wait, and takes them out of the data. -/
theorem exists_operate_flashes (flash? : Option String) {values : List Value}
    (hvalues : Waiting values d (keyOr defaultFlashKey flash?)) :
    ∃ info, c.operate (flashes factory c.world.seconds flash? key? store?) =
        (if values.isEmpty then .error .noFlashes else .ok values,
          c.within (keyOr defaultSessionKey key?) info) ∧
      info.store = keyOr SessionFactory.cookieName store? ∧
      info.data = (takeFlashes (keyOr defaultFlashKey flash?) d).2 := by
  obtain ⟨info, hrun, hstore, hdata⟩ :=
    exists_operate_modifySession hs h (takeFlashes (keyOr defaultFlashKey flash?))
  refine ⟨info, ?_, hstore, hdata⟩
  rw [flashes, operate_bind, hrun, takeFlashes_of_waiting hvalues]
  cases values <;> rfl

/-- Every step but the end of a request changes the session in its request. -/
theorem exists_operated (step : FlashStep) (hstep : ∀ now, step ≠ .next now) :
    ∃ info, c.advance factory key? store? step = c.within (keyOr defaultSessionKey key?) info ∧
      info.store = keyOr SessionFactory.cookieName store? ∧ info.data = step.change d := by
  cases step with
  | next now => exact absurd rfl (hstep now)
  | take flash? =>
      obtain ⟨info, hrun, hinfo⟩ :=
        exists_operate_modifySession hs h (takeFlashes (keyOr defaultFlashKey flash?))
      refine ⟨info, ?_, hinfo⟩
      simp only [advance, FlashStep.operation, flashes]
      rw [operate_bind, operate_bind, hrun]
      cases (takeFlashes (keyOr defaultFlashKey flash?) d).1 <;> rfl
  | add message flash? =>
      obtain ⟨info, hrun, hinfo⟩ := exists_operate_modifySession hs h
        fun d => ((), pushFlash (keyOr defaultFlashKey flash?) message d)
      exact ⟨info, congrArg Prod.snd hrun, hinfo⟩
  | insert key value =>
      obtain ⟨info, hrun, hinfo⟩ :=
        exists_operate_modifySession hs h fun d => ((), d.insert key value)
      exact ⟨info, congrArg Prod.snd hrun, hinfo⟩
  | remove key =>
      obtain ⟨info, hrun, hinfo⟩ := exists_operate_modifySession hs h fun d => ((), d.erase key)
      exact ⟨info, congrArg Prod.snd hrun, hinfo⟩

/-- **The next request** finds what this one leaves. -/
theorem holds_next {pairs : List KeyPair} (hkeyed : s.Keyed pairs)
    (hw : c.world.entropy.broken = false) {now : Int} (hcrosses : c.Crosses factory key? s now) :
    Holds key? store? s (c.advance factory key? store? (.next now)) d ∧
      (c.advance factory key? store? (.next now)).world.entropy.broken = false := by
  obtain ⟨hlast, hwithin, hkeeps, hunfailing, hlength⟩ := hcrosses
  cases h with
  | @loaded jar info hsessions hstore hd =>
      subst hd
      -- the session was used in this request, so it is saved, and the client sends its new text
      have hfind : c.sessions.find? (keyOr defaultSessionKey key?) = some info := by
        rw [hsessions, find?_single]
      obtain ⟨hmoment, hkept⟩ := hkeeps info hfind
      rw [hsessions, save_single (hstore ▸ hs), unfailing_bind] at hunfailing
      obtain ⟨text, w', hsave, -, hreloads⟩ :=
        SessionStore.exists_run_save hkeyed hw hmoment jar hkept hunfailing.1
      have hended : c.ended factory =
          ({ jar := jar.add (Cookie.ofSession (keyOr defaultSessionKey key?) text info.config)
             loaded := [(keyOr defaultSessionKey key?, info)] }, w') := by
        rw [ended, hsessions, save_single (hstore ▸ hs), Plan.run_bind, World.seconds, hsave]
        rfl
      have hget : (jar.add (Cookie.ofSession (keyOr defaultSessionKey key?) text
          info.config)).get? (keyOr defaultSessionKey key?) = some text := Cookie.Jar.get?_add_self
      rw [hended] at hlength
      simp only [savedAt, hfind] at hwithin
      simp only [advance, hended, savedAt, hfind]
      refine ⟨.saved rfl ((Cookie.Jar.get?_sentBack ..).trans hget)
        (hreloads fun hk => hlength hk text hget) hwithin hlast, ?_⟩
      exact (World.follows_run hsave).broken_eq.trans hw
  | @saved jar text hsessions hjar hreloads hwithin' hlast' =>
      -- it was not, and the client sends the text that it had
      have hfind : c.sessions.find? (keyOr defaultSessionKey key?) = none := by
        rw [hsessions]
        rfl
      have hended : c.ended factory = ({ jar := jar }, c.world) := by
        rw [ended, hsessions]
        rfl
      simp only [savedAt, hfind] at hwithin
      simp only [advance, hended, savedAt, hfind]
      exact ⟨.saved rfl ((Cookie.Jar.get?_sentBack ..).trans hjar) hreloads hwithin hlast, hw⟩
  | @absent jar hsessions hjar hd =>
      have hended : c.ended factory = ({ jar := jar }, c.world) := by
        rw [ended, hsessions]
        rfl
      simp only [advance, hended]
      exact ⟨.absent rfl ((Cookie.Jar.get?_sentBack ..).trans hjar) hd, hw⟩

end

/-- A step keeps what waits under every flash key up to date. -/
theorem waiting_change {flashKey : String → Prop} {step : FlashStep}
    (hallows : c.Allows factory key? flashKey s step) {values : String → List Value}
    (hvalues : ∀ f, flashKey f → Waiting (values f) d f) {f : String} (hf : flashKey f) :
    Waiting (step.pend f (values f)) (step.change d) f := by
  have hwaiting := hvalues f hf
  cases step with
  | next now => exact hwaiting
  | add message flash? =>
      rw [FlashStep.pend]
      split
      · rename_i hsame
        subst hsame
        exact waiting_pushFlash hwaiting message
      · -- messages under another key wait as before
        rename_i hother
        rw [Waiting, FlashStep.change, get?_pushFlash_of_ne (Ne.symm hother)]
        exact hwaiting
  | take flash? =>
      rw [FlashStep.pend]
      split
      · rename_i hsame
        subst hsame
        exact waiting_takeFlashes ..
      · rename_i hother
        rw [Waiting, FlashStep.change, get?_takeFlashes_of_ne (Ne.symm hother)]
        exact hwaiting
  | insert key value =>
      -- keys that are inserted and removed are no flash keys
      have hother : f ≠ key := fun hsame => hallows (hsame ▸ hf)
      show (d.insert key value).get? f = _
      rw [SessionData.get?_insert_of_ne hother]
      exact hwaiting
  | remove key =>
      have hother : f ≠ key := fun hsame => hallows (hsame ▸ hf)
      show (d.erase key).get? f = _
      rw [SessionData.get?_erase_of_ne hother]
      exact hwaiting

variable (key? store?) in
/-- The session has these data, and the messages that wait in them are those that are told. -/
structure Tracks (flashKey : String → Prop) (s : SessionStore) (c : Course) (d : SessionData)
    (values : String → List Value) : Prop where
  holds : Holds key? store? s c d
  supplied : c.world.entropy.broken = false
  waiting : ∀ f, flashKey f → Waiting (values f) d f

section

variable (hs : factory.store (keyOr SessionFactory.cookieName store?) = .ok s)
  {pairs : List KeyPair} (hkeyed : s.Keyed pairs) {flashKey : String → Prop}

include hs hkeyed

/-- **A step** changes the data as it says, and keeps track of the messages. -/
theorem Tracks.advance {values : String → List Value}
    (h : Tracks key? store? flashKey s c d values) {step : FlashStep}
    (hallows : c.Allows factory key? flashKey s step) :
    Tracks key? store? flashKey s (c.advance factory key? store? step) (step.change d)
      fun f => step.pend f (values f) := by
  have hwaiting := fun f => waiting_change (f := f) hallows h.waiting
  by_cases hstep : ∃ now, step = .next now
  · obtain ⟨now, rfl⟩ := hstep
    obtain ⟨hholds, hsupplied⟩ := holds_next hs h.holds hkeyed h.supplied hallows
    exact ⟨hholds, hsupplied, hwaiting⟩
  · obtain ⟨info, hadvance, hstore, hdata⟩ :=
      exists_operated hs h.holds step fun now hnow => hstep ⟨now, hnow⟩
    rw [hadvance]
    exact ⟨holds_within hstore hdata, h.supplied, hwaiting⟩

/-- **A run** keeps track of the messages from step to step. -/
theorem exists_tracks_run {values : String → List Value}
    (h : Tracks key? store? flashKey s c d values) {steps : List FlashStep}
    (hallows : AllowsAll factory key? store? flashKey s c steps) :
    ∃ d', Tracks key? store? flashKey s (c.run factory key? store? steps) d'
      fun f => steps.foldl (fun values step => step.pend f values) (values f) := by
  induction steps generalizing c d values with
  | nil => exact ⟨d, h⟩
  | cons step more ih => exact ih (h.advance hs hkeyed hallows.1) hallows.2

end

end Course

open RequestSessions

/-- **Flash messages are delivered once and in order.** -/
theorem flashes_delivered_once {factory : SessionFactory} {key? store? flash? : Option String}
    {s : SessionStore} {pairs : List KeyPair}
    (hs : factory.store (keyOr SessionFactory.cookieName store?) = .ok s) (hkeyed : s.Keyed pairs)
    {c : Course} (hw : c.world.entropy.broken = false) {start : SessionData}
    (hholds : c.Holds key? store? s start) {flashKey : String → Prop}
    (hnone : ∀ f, flashKey f → start.get? f = none) {steps : List FlashStep}
    (hsteps : c.AllowsAll factory key? store? flashKey s steps)
    (hflash : flashKey (keyOr defaultFlashKey flash?)) :
    let f := keyOr defaultFlashKey flash?
    let before := c.run factory key? store? steps
    let taken := before.operate (flashes factory before.world.seconds flash? key? store?)
    taken.1 = (if (pending f steps).isEmpty then .error .noFlashes else .ok (pending f steps)) ∧
      ∃ d d', before.Reads factory key? store? d ∧ taken.2.Reads factory key? store? d' ∧
        d'.get? f = none ∧ ∀ key, key ≠ f → d'.get? key = d.get? key := by
  intro f before taken
  have hstart : Course.Tracks key? store? flashKey s c start fun _ => [] := ⟨hholds, hw, hnone⟩
  obtain ⟨d, htracks⟩ := Course.exists_tracks_run hs hkeyed hstart hsteps
  obtain ⟨info, htaken, hstore, hdata⟩ :=
    Course.exists_operate_flashes hs htracks.holds flash? (htracks.waiting f hflash)
  have hafter : (before.within (keyOr defaultSessionKey key?) info).Reads factory key? store? _ :=
    Course.reads_of_holds hs (Course.holds_within hstore hdata)
  rw [show taken = _ from htaken]
  exact ⟨rfl, d, _, Course.reads_of_holds hs htracks.holds, hafter, waiting_takeFlashes f d,
    fun key hne => get?_takeFlashes_of_ne hne d⟩

/-! ### A sample -/

/-- A client that has been given an id. -/
def flashCourse : Course where
  world := Service.sampleWorld.withNow 1000000
  sessions := { loaded := [("s", { data := .ofId "ab", store := "memory" })] }
  made := 0
  maxAge := 0

/-- What a session of the sample is, and when the next request may come. -/
theorem Course.crosses_sample {c : Course} {info : SessionInfo} (hstore : info.store = "memory")
    (hmemory : c.world.InMemory Service.sampleStore) (hmoment : Moment c.world.now)
    (hkeeps : Service.sampleStore.Keeps info.config.maxAge info) {now : Int}
    (hlast : now < Records.Memory.lastMoment)
    (hwithin : Service.sampleStore.Within info.config.maxAge c.world.now now) :
    (c.within "s" info).Crosses Service.sampleFactory none Service.sampleStore now := by
  have hfind : (c.within "s" info).sessions.find? (keyOr defaultSessionKey none) = some info :=
    find?_single ..
  refine ⟨hlast, ?_, ?_, ?_, fun hk => nomatch hk⟩
  · simp only [savedAt, hfind]
    exact hwithin
  · intro info' hinfo'
    rw [hfind] at hinfo'
    cases hinfo'
    exact ⟨hmoment, hkeeps⟩
  · exact ((Service.owns_saveAll (hstore ▸ Service.store_sample) ..).unfailing
      World.succeeds_of_inMemory hmemory).1

/-- Two messages, one of them a list, that are added in two requests. -/
def flashSteps : List FlashStep :=
  [.add (.str "a") none, .insert "user" (.str "ann"), .next 1001000, .add (.list [.str "b"]) none]

theorem two_flashes_delivered :
    let before := flashCourse.run Service.sampleFactory none (some "memory") flashSteps
    (before.operate (flashes Service.sampleFactory before.world.seconds none none
      (some "memory"))).1 = .ok [.str "a", .list [.str "b"]] := by
  have hcrosses : (flashCourse.within "s"
      { data := (pushFlash "_flash" (.str "a") (.ofId "ab")).insert "user" (.str "ann")
        store := "memory" }).Crosses Service.sampleFactory none Service.sampleStore 1001000 := by
    refine Course.crosses_sample rfl Service.inMemory_sample ⟨by decide, by decide, by decide⟩
      ⟨⟨by decide, by decide⟩, fun _ => ⟨"ab", by decide, rfl⟩, fun _ => Or.inl ⟨rfl, by decide⟩⟩
      (by decide) ⟨by decide, fun _ _ => by decide⟩
  have hother : "user" ≠ "_flash" := by decide
  have hsteps : flashCourse.AllowsAll Service.sampleFactory none (some "memory")
      (fun f => f = "_flash") Service.sampleStore flashSteps :=
    ⟨rfl, hother, hcrosses, rfl, trivial⟩
  have hholds : flashCourse.Holds none (some "memory") Service.sampleStore (.ofId "ab") :=
    .loaded rfl rfl rfl
  have hnone : ∀ f, f = "_flash" → (SessionData.ofId "ab").get? f = none := by
    rintro f rfl
    rfl
  exact (flashes_delivered_once Service.store_sample Service.keyed_sample rfl hholds hnone hsteps
    rfl).1

/-! ### What the messages share -/

/-- Saving a session that has lost its id changes nothing. -/
theorem Course.ended_of_no_id {factory : SessionFactory} (key? store? : Option String)
    {s : SessionStore} {records : String} (c : Course) {info : SessionInfo}
    (hs : factory.store (keyOr SessionFactory.cookieName store?) = .ok s)
    (hk : s.kind = .serverSide records)
    (hstore : info.store = keyOr SessionFactory.cookieName store?) (hid : info.data.id? = none) :
    (c.within (keyOr defaultSessionKey key?) info).ended factory =
      ((c.within (keyOr defaultSessionKey key?) info).sessions, c.world) := by
  have hsave : (s.save c.sessions.jar (keyOr defaultSessionKey key?) c.world.seconds info).run =
      .done (.error .notInitialized) := by
    simp only [SessionStore.save, hk, SessionStore.saveRecord, hid]
    rfl
  rw [ended, within, save_single (hstore ▸ hs), hsave]
  rfl

/-- So the next request comes with the cookies that the client had. -/
theorem Course.advance_of_no_id {factory : SessionFactory} (key? store? : Option String)
    {s : SessionStore} {records : String} (c : Course) {info : SessionInfo}
    (hs : factory.store (keyOr SessionFactory.cookieName store?) = .ok s)
    (hk : s.kind = .serverSide records)
    (hstore : info.store = keyOr SessionFactory.cookieName store?) (hid : info.data.id? = none)
    (now : Int) :
    let later := (c.within (keyOr defaultSessionKey key?) info).advance factory key? store? (.next now)
    later.world = c.world.withNow now ∧ later.sessions = { jar := c.sessions.jar.sentBack } := by
  have hended := c.ended_of_no_id key? store? hs hk hstore hid
  exact ⟨congrArg (fun ended : RequestSessions × World => ended.2.withNow now) hended,
    congrArg (fun ended : RequestSessions × World =>
      ({ jar := ended.1.jar.sentBack } : RequestSessions)) hended⟩

/-- What was saved is held again by a later request with the same cookies. -/
theorem Course.Holds.again {key? store? : Option String} {s : SessionStore} {c : Course}
    {d : SessionData} (h : c.Holds key? store? s d) (hunloaded : c.sessions.loaded = [])
    (hd : d ≠ .empty) {now : Int} (hlast : now < Records.Memory.lastMoment)
    (hwithin : s.Within c.maxAge c.made now) :
    Course.Holds key? store? s
      { c with world := c.world.withNow now, sessions := { jar := c.sessions.jar.sentBack } } d := by
  cases h with
  | loaded hsessions _ _ =>
      rw [hsessions] at hunloaded
      cases hunloaded
  | absent _ _ hempty => exact absurd hempty hd
  | saved hsessions hjar hreloads _ _ =>
      refine .saved rfl ?_ hreloads hwithin hlast
      rw [Cookie.Jar.get?_sentBack, hsessions]
      exact hjar

/-- The client adds a message under the empty key. -/
def sharedCourse : Course :=
  flashCourse.run Service.sampleFactory none (some "memory") [.add (.str "a") (some "")]

/-- A message is added and taken in the next request, in which the session loses its id. -/
def lostIdSteps : List FlashStep :=
  [.add (.str "a") none, .next 1001000, .take none, .remove SessionData.idKey, .next 1002000]

def lostIdCourse : Course :=
  flashCourse.run Service.sampleFactory none (some "memory") lostIdSteps

/-- **Messages are shared and repeated** where one would not think so. What is added under the empty
key is taken under the default one. And a session that has lost its id is not saved, so that its last
record delivers what had been taken from it once more. -/
theorem flashes_shared_and_repeated :
    (sharedCourse.operate (flashes Service.sampleFactory sharedCourse.world.seconds (some "_flash")
        none (some "memory"))).1 = .ok [.str "a"] ∧
      pending "_flash" lostIdSteps = [] ∧
      (lostIdCourse.operate (flashes Service.sampleFactory lostIdCourse.world.seconds
        (some "_flash") none (some "memory"))).1 = .ok [.str "a"] := by
  refine ⟨rfl, rfl, ?_⟩
  let d : SessionData := pushFlash "_flash" (.str "a") (.ofId "ab")
  have hholds : (flashCourse.within "s" { data := d, store := "memory" }).Holds none (some "memory")
      Service.sampleStore d := .loaded rfl rfl rfl
  have hcrosses : (flashCourse.within "s" { data := d, store := "memory" }).Crosses
      Service.sampleFactory none Service.sampleStore 1001000 :=
    Course.crosses_sample rfl Service.inMemory_sample ⟨by decide, by decide, by decide⟩
      ⟨⟨by decide, by decide⟩, fun _ => ⟨"ab", by decide, rfl⟩, fun _ => Or.inl ⟨rfl, by decide⟩⟩
      (by decide) ⟨by decide, fun _ _ => by decide⟩
  obtain ⟨saved, hrun, hunloaded, hmade, hmaxAge, hsaved⟩ : ∃ saved,
      flashCourse.run Service.sampleFactory none (some "memory")
        [.add (.str "a") none, .next 1001000] = saved ∧ saved.sessions.loaded = [] ∧
      saved.made = 1000000 ∧ saved.maxAge = SessionConfig.defaultMaxAge ∧
      saved.Holds none (some "memory") Service.sampleStore d :=
    ⟨_, rfl, rfl, rfl, rfl,
      (Course.holds_next Service.store_sample hholds Service.keyed_sample rfl hcrosses).1⟩
  have hwaiting : Waiting [.str "a"] d "_flash" := rfl
  have hlost : lostIdCourse = ((saved.advance Service.sampleFactory none (some "memory")
      (.take none)).advance Service.sampleFactory none (some "memory")
        (.remove SessionData.idKey)).advance Service.sampleFactory none (some "memory")
          (.next 1002000) := by
    rw [← hrun]
    rfl
  obtain ⟨taken, htake, htaken⟩ := Course.exists_operated Service.store_sample hsaved (.take none)
    fun _ => FlashStep.noConfusion
  obtain ⟨bare, hremove, hstore, hbare⟩ := Course.exists_operated Service.store_sample
    (Course.holds_within htaken.1 htaken.2) (.remove SessionData.idKey)
    fun _ => FlashStep.noConfusion
  have hid : bare.data.id? = none := by
    have hget : bare.data.get? SessionData.idKey = none := by
      rw [hbare]
      exact SessionData.get?_erase_self
    rw [SessionData.id?, hget]
    rfl
  let later : Course :=
    { saved with
      world := saved.world.withNow 1002000
      sessions := { jar := saved.sessions.jar.sentBack } }
  -- saving fails, so that the client comes with the cookie that it had
  have hsame : lostIdCourse.world = later.world ∧ lostIdCourse.sessions = later.sessions := by
    rw [hlost, htake, hremove]
    exact Course.advance_of_no_id none (some "memory")
      (saved.within (keyOr defaultSessionKey none) taken) Service.store_sample Service.kind_sample
      hstore hid 1002000
  have hwithin : Service.sampleStore.Within saved.maxAge saved.made 1002000 := by
    rw [hmade, hmaxAge]
    exact ⟨by decide, fun _ _ => by decide⟩
  have hd : d ≠ .empty := by
    intro hempty
    rw [Waiting, hempty] at hwaiting
    cases hwaiting
  have hagain : later.Holds none (some "memory") Service.sampleStore d := hsaved.again hunloaded hd
    (by decide : (1002000 : Int) < Records.Memory.lastMoment) hwithin
  obtain ⟨info, hflashes, -⟩ := Course.exists_operate_flashes Service.store_sample hagain
    (some "_flash") hwaiting
  rw [hsame.1, Course.operate_congr hsame.1 hsame.2]
  exact congrArg Prod.fst hflashes

end WebSession
