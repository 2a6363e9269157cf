import WebSession.Proofs.Service.SameAnswer

/-!
# WebSession.Proofs.Service.Isolation

**Clients cannot observe each other** (`answers_eq_alone`). Several clients send requests to one
store that keeps records in memory, in any order, each with values that it was given for its session
cookie. Every one of them is answered as if the others had not been there.

The ids tell the clients apart. A client is given cookies of ids that were made for it, so its
requests are about these and leave the records of the others as they are read from then on
(`alike_of_other`). What it is told itself hangs on nothing but its own records
(`sameTold_of_own`), which the two runs write with different counters and salts. These matter in one
case: a session that is too high to be read by the pair of keys that wrote it is left to the next pair,
and what this one makes of it hangs on the counter. So the sessions of the client have to fit the
format, or no other pair may come to read them.
-/

namespace WebSession.Service

open Plan Http

variable {ι : Type}

/-! ### Clients -/

/-- A visit of one of several clients. The client sends some of the values that it was given for its
session cookie, told by their places in the order in which they were given. -/
structure ClientVisit (ι : Type) extends Visit where
  client : ι
  places : List Nat

namespace ClientVisit

/-- What the client chooses of what it was given. -/
def chosen {α : Type} (v : ClientVisit ι) (given : List α) : List α :=
  v.places.filterMap fun place => given[place]?

/-- The request of a client that was given some values. -/
def sentWith (v : ClientVisit ι) (given : List String) : Request :=
  { v.request with cookies := (v.chosen given).map fun value => sessionKey ++ "=" ++ value }

theorem mem_of_mem_chosen {α : Type} {v : ClientVisit ι} {given : List α} {a : α}
    (h : a ∈ v.chosen given) : a ∈ given := by
  obtain ⟨place, -, hplace⟩ := List.mem_filterMap.mp h
  exact List.mem_of_getElem? hplace

/-- The choice is one of places. -/
theorem chosen_map {α β : Type} (v : ClientVisit ι) (f : α → β) (given : List α) :
    v.chosen (given.map f) = (v.chosen given).map f := by
  simp only [chosen, List.getElem?_map, List.map_filterMap]

end ClientVisit

/-- The request, its response, and the world that it came into, of a client that was given some
values. -/
def ClientVisit.exchange (v : ClientVisit ι) (factory : SessionFactory) (given : List String)
    (w : World) : Exchange where
  request := v.sentWith given
  world := w.withNow v.now
  response := ((respond factory (w.withNow v.now).seconds (v.sentWith given)).run World.respond
    (w.withNow v.now)).1

namespace Exchange

/-- The request as it came in. -/
def turn (x : Exchange) : Turn World := Turn.inWorld x.world x.request

/-- The world that it leaves. -/
def after (x : Exchange) (factory : SessionFactory) : World :=
  ((respond factory x.world.seconds x.request).run World.respond x.world).2

end Exchange

/-- The exchanges of clients whose requests are served one after the other. -/
def serveAll [DecidableEq ι] (factory : SessionFactory) :
    (ι → List String) → World → List (ClientVisit ι) → List (ι × Exchange)
  | _, _, [] => []
  | given, w, v :: more =>
    let x := v.exchange factory (given v.client) w
    (v.client, x) ::
      serveAll factory (Function.update given v.client (given v.client ++ valuesSet x.response))
        (x.after factory) more

/-- What one of the clients is told. -/
def answersTo [DecidableEq ι] (a : ι) (exchanges : List (ι × Exchange)) : List Answer :=
  (exchanges.filter fun x => x.1 = a).map fun x => Answer.ofResponse x.2.response

/-! ### What a client sends -/

variable {s : SessionStore} {pairs : List KeyPair} {records : String} {ids : String → Prop}
  {given given' : List String} {v : ClientVisit ι} {now : Int} {d : SessionData} {id : String}

/-- The values name ids of a kind. -/
def Named (s : SessionStore) (kind : String → Prop) (given : List String) : Prop :=
  ∀ value ∈ given, ∃ id made, kind id ∧ s.Names made id value

theorem SameNames.named (h : SameNames s ids given given') :
    Named s ids given ∧ Named s ids given' := by
  obtain ⟨twins, rfl, rfl, hsame⟩ := h
  refine ⟨fun value hvalue => ?_, fun value hvalue => ?_⟩
  · obtain ⟨t, ht, rfl⟩ := List.mem_map.mp hvalue
    obtain ⟨id, made, hid, hname, -⟩ := hsame t ht
    exact ⟨id, made, hid, hname⟩
  · obtain ⟨t, ht, rfl⟩ := List.mem_map.mp hvalue
    obtain ⟨id, made, hid, -, hname⟩ := hsame t ht
    exact ⟨id, made, hid, hname⟩

/-- Of the values that are sent the last counts. -/
theorem get?_sentWith {kind : String → Prop} (h : Named s kind given) (v : ClientVisit ι) :
    (Cookie.Jar.ofHeaders (v.sentWith given).cookies).get? sessionKey = (v.chosen given).getLast? := by
  refine Cookie.Jar.get?_ofHeaders_bare_all isBare_sessionKey (by decide) fun value hvalue c hc => ?_
  obtain ⟨id, made, -, hname⟩ := h value (ClientVisit.mem_of_mem_chosen hvalue)
  obtain ⟨b, rfl⟩ := hname.writes.exists_encode
  exact Cookie.isBare_of_mem_encode hc

/-- **The session that is read** has an id of this kind. -/
theorem kind_of_read {kind : String → Prop} (hkeyed : s.Keyed pairs) (h : Named s kind given)
    (hread : s.readCookie (Cookie.Jar.ofHeaders (v.sentWith given).cookies) sessionKey now = .ok d)
    (hid : d.id? = some id) : kind id := by
  rw [SessionStore.readCookie, get?_sentWith h] at hread
  cases hlast : (v.chosen given).getLast? with
  | none =>
      rw [hlast] at hread
      cases hread
  | some value =>
      rw [hlast] at hread
      have hmem := ClientVisit.mem_of_mem_chosen (List.mem_of_getLast? hlast)
      obtain ⟨id', made, hkind, hname⟩ := h value hmem
      rw [hname.eq_ofId hkeyed hread, SessionData.id?_ofId] at hid
      cases hid
      exact hkind

/-- **Values that name the same** are read alike. -/
theorem SameNames.read_alike (hkeyed : s.Keyed pairs) (hk : s.kind = .serverSide records)
    (h : SameNames s ids given given') (v : ClientVisit ι) (now : Int) :
    (s.readCookie (Cookie.Jar.ofHeaders (v.sentWith given).cookies) sessionKey now).toOption =
      (s.readCookie (Cookie.Jar.ofHeaders (v.sentWith given').cookies) sessionKey now).toOption := by
  obtain ⟨hnamed, hnamed'⟩ := h.named
  obtain ⟨twins, rfl, rfl, hsame⟩ := h
  rw [SessionStore.readCookie, SessionStore.readCookie, get?_sentWith hnamed, get?_sentWith hnamed',
    ClientVisit.chosen_map, ClientVisit.chosen_map, List.getLast?_map, List.getLast?_map]
  cases hlast : (v.chosen twins).getLast? with
  | none => rfl
  | some t =>
      have ht := ClientVisit.mem_of_mem_chosen (List.mem_of_getLast? hlast)
      obtain ⟨id, made, -, hname, hname'⟩ := hsame t ht
      exact hname.readAlike hkeyed hk hname' now

/-! ### One visit -/

theorem Action.Uses.eq {action : Action} {name name' : String} (hloads : action.loads = true)
    (h : action.Uses name) (h' : action.Uses name') : name = name' := by
  cases action with
  | live => cases hloads
  | _ => exact h.symm.trans h'

section

variable {factory : SessionFactory} {name : String} (hs : factory.store name = .ok s)
  (hkeyed : s.Keyed pairs) (hk : s.kind = .serverSide records)
  (huses : ∀ action ∈ v.action?, action.Uses name) (hclock : Range.isInt64 (v.now / 1000) = true)
  {w w' : World} (hw : (s.view sessionKey records ids).Alike v.now w w')

include hs hkeyed hk huses hclock hw

/-- **A visit of the client itself** is answered alike in both runs. -/
theorem sameTold_of_own (hgiven : SameNames s ids given given')
    (hids : ∀ id, (v.exchange factory given w).turn.Mints factory id → ids id)
    (hdrawn : ∀ id id', (v.exchange factory given w).turn.Mints factory id →
      (v.exchange factory given' w').turn.Mints factory id' → id' = id)
    (hdata : ∀ f ∈ (v.exchange factory given w).turn.saved factory, s.Determines f.2.data) :
    SameTold s ids (v.exchange factory given w).response (v.exchange factory given' w').response ∧
      (s.view sessionKey records ids).Alike v.now ((v.exchange factory given w).after factory)
        ((v.exchange factory given' w').after factory) := by
  have hname : ∀ action, Action.ofRequest (v.sentWith given) = .ok action → action.Uses name :=
    fun action haction => huses action (Visit.action?_of_ok (v := v.toVisit) haction)
  have hworlds := hw.withNow v.now v.now
  exact respond_alike hs hkeyed hk hname hclock rfl hworlds (hgiven.read_alike hkeyed hk v _)
    (fun d id hread hid => kind_of_read hkeyed hgiven.named.1 hread hid)
    (fun hmints hmints' => ⟨hids _ hmints, hdrawn _ _ hmints hmints'⟩) hdata

/-- **A visit of another client** is about ids that are out of view, and so are its cookies. -/
theorem alike_of_other (hgiven : Named s (fun id => ¬ ids id) given)
    (hids : ∀ id, (v.exchange factory given w).turn.Mints factory id → ¬ ids id) :
    (s.view sessionKey records ids).Alike v.now ((v.exchange factory given w).after factory) w' ∧
      Named s (fun id => ¬ ids id) (valuesSet (v.exchange factory given w).response) := by
  have hname : ∀ action, Action.ofRequest (v.sentWith given) = .ok action → action.Uses name :=
    fun action haction => huses action (Visit.action?_of_ok (v := v.toVisit) haction)
  have hbears : ∀ id, (v.exchange factory given w).turn.Bears factory id → ¬ ids id := by
    rintro id (⟨d, ⟨action, name', s', hopens, rfl⟩, hid⟩ | hmints)
    · cases Action.Uses.eq hopens.loads hopens.uses (hname action hopens.action_eq)
      cases hs.symm.trans hopens.store_eq
      obtain ⟨d, hread, hid, -⟩ := SessionStore.exists_of_id?_load hid
      exact kind_of_read hkeyed hgiven hread hid
    · exact hids id hmints
  have hw := hw.withNow v.now w'.now
  refine ⟨hw.run_left rfl fun call hcall id hid => ?_, fun value hvalue => ?_⟩
  · exact hbears id (Turn.bears_of_mem_calls hcall hid)
  · obtain ⟨id, hid, hnames⟩ := Turn.exists_names_of_mem (w := w.withNow v.now) hs hk
      hname hclock hw.supplied hvalue
    exact ⟨id, _, hbears id hid, hnames⟩

end

/-! ### Runs -/

variable {a : ι}

/-- What the client was given names the same in two runs, and what the others were given names ids
that are out of view. -/
structure Apart (s : SessionStore) (a : ι) (ids : String → Prop) (given given' : ι → List String) :
    Prop where
  own : SameNames s ids (given a) (given' a)
  others : ∀ b, b ≠ a → Named s (fun id => ¬ ids id) (given b)

/-- In a run the ids that are made for the client are in view, and those that are made for others are
not. How the records of the client are read does not hang on what is drawn for them. -/
structure Separates (factory : SessionFactory) (s : SessionStore) (a : ι) (ids : String → Prop)
    (exchanges : List (ι × Exchange)) : Prop where
  own : ∀ x ∈ exchanges, x.1 = a → ∀ id, x.2.turn.Mints factory id → ids id
  others : ∀ x ∈ exchanges, x.1 ≠ a → ∀ id, x.2.turn.Mints factory id → ¬ ids id
  determines : ∀ x ∈ exchanges, x.1 = a → ∀ f ∈ x.2.turn.saved factory, s.Determines f.2.data

theorem Separates.tail {factory : SessionFactory} {x : ι × Exchange} {more : List (ι × Exchange)}
    (h : Separates factory s a ids (x :: more)) : Separates factory s a ids more where
  own := fun y hy => h.own y (List.mem_cons_of_mem _ hy)
  others := fun y hy => h.others y (List.mem_cons_of_mem _ hy)
  determines := fun y hy => h.determines y (List.mem_cons_of_mem _ hy)

variable [DecidableEq ι]

/-- If an id is made in both exchanges, it is the same. -/
def SameId (factory : SessionFactory) (x x' : ι × Exchange) : Prop :=
  ∀ id id', x.2.turn.Mints factory id → x'.2.turn.Mints factory id' → id' = id

section

variable {given given' : ι → List String} {values values' : List String}

/-- The client is given more. -/
theorem Apart.own_given (h : Apart s a ids given given') (hvalues : SameNames s ids values values') :
    Apart s a ids (Function.update given a (given a ++ values))
      (Function.update given' a (given' a ++ values')) where
  own := by
    rw [Function.update_self, Function.update_self]
    exact h.own.append hvalues
  others := by
    intro b hb
    rw [Function.update_of_ne hb]
    exact h.others b hb

/-- Another client is given more. -/
theorem Apart.other_given (h : Apart s a ids given given') {b : ι} (hb : b ≠ a)
    (hvalues : Named s (fun id => ¬ ids id) values) :
    Apart s a ids (Function.update given b (given b ++ values)) given' where
  own := by
    rw [Function.update_of_ne hb.symm]
    exact h.own
  others := by
    intro c hc
    by_cases hcb : c = b
    · subst hcb
      rw [Function.update_self]
      intro value hvalue
      rcases List.mem_append.mp hvalue with hvalue | hvalue
      · exact h.others c hc value hvalue
      · exact hvalues value hvalue
    · rw [Function.update_of_ne hcb]
      exact h.others c hc

end

theorem answersTo_cons_self (a : ι) (x : Exchange) (more : List (ι × Exchange)) :
    answersTo a ((a, x) :: more) = Answer.ofResponse x.response :: answersTo a more := by
  simp [answersTo]

theorem answersTo_cons_of_ne {b : ι} (hb : b ≠ a) (x : Exchange) (more : List (ι × Exchange)) :
    answersTo a ((b, x) :: more) = answersTo a more := by
  simp [answersTo, hb]

section

variable {factory : SessionFactory} {name : String} (hs : factory.store name = .ok s)
  (hkeyed : s.Keyed pairs) (hk : s.kind = .serverSide records)

include hs hkeyed hk

/-- **A run with others** is answered like the run without them, from any point on at which the
client's cookies and records are read alike. -/
theorem answersTo_eq_of_apart {visits : List (ClientVisit ι)}
    (huses : ∀ v ∈ visits, ∀ action ∈ v.action?, action.Uses name)
    (hclock : ∀ v ∈ visits, Range.isInt64 (v.now / 1000) = true)
    (horder : visits.Pairwise fun u v => u.now ≤ v.now) {given given' : ι → List String}
    {w w' : World} (hfirst : ∀ v ∈ visits, now ≤ v.now)
    (hw : (s.view sessionKey records ids).Alike now w w') (hgiven : Apart s a ids given given')
    (hseparates : Separates factory s a ids (serveAll factory given w visits))
    (hdrawn : List.Forall₂ (SameId factory)
      ((serveAll factory given w visits).filter fun x => x.1 = a)
      (serveAll factory given' w' (visits.filter fun v => v.client = a))) :
    answersTo a (serveAll factory given w visits) =
      answersTo a (serveAll factory given' w' (visits.filter fun v => v.client = a)) := by
  induction visits generalizing now given given' w w' with
  | nil => rfl
  | cons v more ih =>
      obtain ⟨hlater, horder⟩ := List.pairwise_cons.mp horder
      have hw := hw.mono (hfirst v List.mem_cons_self)
      have huse := huses v List.mem_cons_self
      have hsecond := hclock v List.mem_cons_self
      have huses : ∀ u ∈ more, ∀ action ∈ u.action?, action.Uses name :=
        fun u hu => huses u (List.mem_cons_of_mem _ hu)
      have hclock : ∀ u ∈ more, Range.isInt64 (u.now / 1000) = true :=
        fun u hu => hclock u (List.mem_cons_of_mem _ hu)
      rw [serveAll] at hseparates hdrawn ⊢
      by_cases hv : v.client = a
      · -- a visit of the client: both runs answer it alike, and what it reads stays alike
        subst hv
        have halone : (v :: more).filter (fun u => u.client = v.client) =
            v :: more.filter fun u => u.client = v.client := List.filter_cons_of_pos (by simp)
        rw [halone, serveAll, List.filter_cons_of_pos (by simp)] at hdrawn
        rw [halone, serveAll, answersTo_cons_self, answersTo_cons_self]
        obtain ⟨hsame, hdrawn⟩ := List.forall₂_cons.mp hdrawn
        obtain ⟨htold, hafter⟩ := sameTold_of_own hs hkeyed hk huse hsecond hw hgiven.own
          (hseparates.own _ List.mem_cons_self rfl) hsame
          (hseparates.determines _ List.mem_cons_self rfl)
        rw [htold.answer_eq,
          ih huses hclock horder hlater hafter (hgiven.own_given htold.values) hseparates.tail hdrawn]
      · -- a visit of another client, which the run alone leaves out; it touches no record of the client
        have halone : (v :: more).filter (fun u => u.client = a) =
            more.filter fun u => u.client = a := List.filter_cons_of_neg (by simpa using hv)
        rw [halone, List.filter_cons_of_neg (by simpa using hv)] at hdrawn
        rw [halone, answersTo_cons_of_ne hv]
        obtain ⟨hafter, hvalues⟩ := alike_of_other hs hkeyed hk huse hsecond hw
          (hgiven.others _ hv) (hseparates.others _ List.mem_cons_self hv)
        exact ih huses hclock horder hlater hafter (hgiven.other_given hv hvalues) hseparates.tail
          hdrawn

end

/-- **Clients cannot observe each other.** In a run of several clients in which no id is made both
for one of them and for another, status and body of every response to this one are the same as in the
run without the others, if the same ids are made for it there, and if how its sessions are read does
not hang on what is drawn for their texts. -/
theorem answers_eq_alone {factory : SessionFactory} {name : String}
    (hs : factory.store name = .ok s) (hkeyed : s.Keyed pairs) (hk : s.kind = .serverSide records)
    (a : ι) {visits : List (ClientVisit ι)}
    (huses : ∀ v ∈ visits, ∀ action ∈ v.action?, action.Uses name)
    (hclock : ∀ v ∈ visits, Range.isInt64 (v.now / 1000) = true)
    (horder : visits.Pairwise fun u v => u.now ≤ v.now) {w : World} (hmemory : w.InMemory s)
    (hw : w.entropy.broken = false) {entropy : Entropy} (hentropy : entropy.broken = false)
    (hdistinct : ∀ x ∈ serveAll factory (fun _ => []) w visits,
      ∀ y ∈ serveAll factory (fun _ => []) w visits, x.1 = a → y.1 ≠ a →
        ∀ id, x.2.turn.Mints factory id → ¬ y.2.turn.Mints factory id)
    (hdrawn : List.Forall₂ (SameId factory)
      ((serveAll factory (fun _ => []) w visits).filter fun x => x.1 = a)
      (serveAll factory (fun _ => []) { w with entropy := entropy }
        (visits.filter fun v => v.client = a)))
    (hdetermines : ∀ x ∈ serveAll factory (fun _ => []) w visits, x.1 = a →
      ∀ f ∈ x.2.turn.saved factory, s.Determines f.2.data) :
    answersTo a (serveAll factory (fun _ => []) w visits) =
      answersTo a (serveAll factory (fun _ => []) { w with entropy := entropy }
        (visits.filter fun v => v.client = a)) := by
  obtain ⟨m, hm⟩ := hmemory records hk
  let ids : String → Prop := fun id =>
    ∃ x ∈ serveAll factory (fun _ => []) w visits, x.1 = a ∧ x.2.turn.Mints factory id
  have hseparates : Separates factory s a ids (serveAll factory (fun _ => []) w visits) :=
    ⟨fun x hx hxa id hid => ⟨x, hx, hxa, hid⟩,
      fun y hy hya id hid ⟨x, hx, hxa, hmade⟩ => hdistinct x hx y hy hxa hya id hmade hid,
      hdetermines⟩
  -- both runs begin with the same records
  have halike : ∀ now, (s.view sessionKey records ids).Alike now w { w with entropy := entropy } := by
    refine fun now => ⟨hw, hentropy, m, m, hm, hm, fun id _ later _ => ?_⟩
    cases m.get later id with
    | ok text => exact fun _ => rfl
    | error e => trivial
  have hapart : Apart s a ids (fun _ => []) fun _ => [] :=
    ⟨sameNames_nil s ids, fun _ _ _ h => nomatch h⟩
  cases visits with
  | nil => rfl
  | cons v more =>
      have hfirst : ∀ u ∈ v :: more, v.now ≤ u.now := by
        intro u hu
        rcases List.mem_cons.mp hu with rfl | hu
        · exact Int.le_refl _
        · exact (List.pairwise_cons.mp horder).1 u hu
      exact answersTo_eq_of_apart hs hkeyed hk huses hclock horder hfirst (halike v.now) hapart
        hseparates hdrawn

/-! ### A sample -/

/-- The world of the sample, in which ids that are made one after the other differ. -/
def sharedWorld : World :=
  { sampleWorld with entropy := { octet := fun position => if position < 16 then 0 else 1 } }

/-- Two clients get an id, and the first of them asks for its values. -/
def sharedVisits : List (ClientVisit Bool) :=
  [{ client := true, now := 1000000, request := idRequest, places := [] },
    { client := false, now := 1001000, request := idRequest, places := [] },
    { client := true, now := 1002000, request := showRequest, places := [0] }]

theorem uses_shared : ∀ v ∈ sharedVisits, ∀ action ∈ v.action?, action.Uses "memory" := by
  intro v hv action haction
  have hasked : Action.ofRequest v.request = .ok (.init (some "memory")) ∨
      Action.ofRequest v.request = .ok (.showValues (some "memory")) := by
    simp only [sharedVisits, List.mem_cons, List.not_mem_nil, or_false] at hv
    rcases hv with rfl | rfl | rfl
    · exact .inl ofRequest_id
    · exact .inl ofRequest_id
    · exact .inr ofRequest_show
  rcases hasked with h | h <;>
    · rw [Visit.action?, h] at haction
      cases haction
      rfl

/-- A request for the values makes no id. -/
theorem not_mints_showRequest {x : Exchange} {cookies : List String} {id : String}
    (hx : x.request = { showRequest with cookies := cookies }) :
    ¬ x.turn.Mints sampleFactory id := by
  rintro ⟨action, name, s, hopens, hinit, -⟩
  have haction : Action.ofRequest x.request = .ok action := hopens.action_eq
  have hshow : Action.ofRequest x.request = .ok (.showValues (some "memory")) := by
    rw [hx]
    exact ofRequest_show
  cases haction.symm.trans hshow
  cases hinit

/-- The first client of the sample gets its id and its values as if it were alone. -/
theorem first_client_answered_as_alone :
    answersTo true (serveAll sampleFactory (fun _ => []) sharedWorld sharedVisits) =
      answersTo true (serveAll sampleFactory (fun _ => [])
        { sharedWorld with entropy := sampleWorld.entropy }
        (sharedVisits.filter fun v => v.client = true)) := by
  let x := (ClientVisit.mk ⟨1000000, idRequest⟩ true []).exchange sampleFactory [] sharedWorld
  let y := (ClientVisit.mk ⟨1001000, idRequest⟩ false []).exchange sampleFactory []
    (x.after sampleFactory)
  let x' := (ClientVisit.mk ⟨1000000, idRequest⟩ true []).exchange sampleFactory []
    { sharedWorld with entropy := sampleWorld.entropy }
  obtain ⟨z, cookies, hz, hshared⟩ : ∃ z cookies, z.request = { showRequest with cookies := cookies } ∧
      serveAll sampleFactory (fun _ => []) sharedWorld sharedVisits =
        [(true, x), (false, y), (true, z)] := ⟨_, _, rfl, rfl⟩
  obtain ⟨z', halone⟩ : ∃ z', serveAll sampleFactory (fun _ => [])
      { sharedWorld with entropy := sampleWorld.entropy }
      (sharedVisits.filter fun v => v.client = true) = [(true, x'), (true, z')] := ⟨_, rfl⟩
  have hdiffer : x.world.freshId ≠ y.world.freshId := by decide +kernel
  have hsame : x'.world.freshId = x.world.freshId := by decide +kernel
  have hx : ∀ id, x.turn.Mints sampleFactory id → id = x.world.freshId :=
    fun id h => Turn.eq_freshId_of_mints h rfl
  have hx' : ∀ id, x'.turn.Mints sampleFactory id → id = x.world.freshId :=
    fun id h => (Turn.eq_freshId_of_mints h rfl).trans hsame
  have hy : ∀ id, y.turn.Mints sampleFactory id → id = y.world.freshId := by
    have hbroken : y.world.entropy.broken = false := by decide +kernel
    exact fun id h => Turn.eq_freshId_of_mints h hbroken
  have hclock : ∀ v ∈ sharedVisits, Range.isInt64 (v.now / 1000) = true := by decide
  have horder : sharedVisits.Pairwise fun u v => u.now ≤ v.now := by decide
  have hmemory : sharedWorld.InMemory sampleStore := inMemory_sample
  have hentropy : sampleWorld.entropy.broken = false := rfl
  refine answers_eq_alone store_sample keyed_sample kind_sample true uses_shared hclock horder
    hmemory rfl hentropy ?_ ?_ ?_
  · rw [hshared]
    intro u hu u' hu' hown hother id hmade hmade'
    simp only [List.mem_cons, List.not_mem_nil, or_false] at hu hu'
    have hu' : u' = (false, y) := by
      rcases hu' with rfl | h | rfl
      · exact absurd rfl hother
      · exact h
      · exact absurd rfl hother
    subst hu'
    rcases hu with rfl | rfl | rfl
    · exact hdiffer ((hx id hmade).symm.trans (hy id hmade'))
    · cases hown
    · exact not_mints_showRequest hz hmade
  · rw [hshared, halone]
    refine .cons (fun id id' h h' => (hx' id' h').trans (hx id h).symm) (.cons ?_ .nil)
    exact fun id _ h => absurd h (not_mints_showRequest hz)
  · exact fun _ _ _ _ _ => Or.inr fun e more he => by
      cases he.symm.trans encoders_sample
      exact Or.inl rfl

end WebSession.Service
