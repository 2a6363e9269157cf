import WebSession.Proofs.Records.Others

/-!
# WebSession.Proofs.Records.Server

**Records on any server that obeys the four commands** (`Redis.Obeys`). What a store on a server
does is what it makes of the server's replies (`Redis.through`), so the server may be any.

* The server of `Records`, which forgets a value some time after its age or never, is one such server
  (`add_connected`, `get_connected`, `remove_connected`).
* It obeys, however long it keeps its values (`obeys_leasing`).
-/

namespace WebSession

namespace Records

/-- The operations of a kind of store, each done at a millisecond. -/
structure Operations (σ : Type) where
  add : σ → (now : Int) → (id record : String) → (maxAge : Int) → Except Error Unit × σ
  get : σ → (now : Int) → (id : String) → Except Error String × σ
  remove : σ → (now : Int) → (id : String) → Except Error Unit × σ

/-- The operations of the three kinds of records. -/
def operations : Operations Records where
  add r now id record maxAge := r.add now id record maxAge
  get r now id := (r.get now id, r)
  remove r now id := r.remove now id

namespace Redis

/-! ### Servers -/

/-- The key that a command is about. -/
def Command.key : Command → String
  | .set key _ => key
  | .setex key _ _ => key
  | .get key => key
  | .del key => key

/-- What is replied to a command that is not refused: the value of a key, or how many values were
deleted. -/
abbrev Command.Reply : Command → Type
  | .set .. => Unit
  | .setex .. => Unit
  | .get _ => Option String
  | .del _ => Nat

/-- A server replies to a command at a millisecond or refuses it, and may change. -/
abbrev Server (σ : Type) := (now : Int) → (command : Command) → σ → Option command.Reply × σ

variable {σ : Type}

/-- What a store answers to the reply of a command that writes. -/
def written {α : Type} : Option α → Except Error Unit
  | some _ => .ok ()
  | none => .error (.other "Redis set error")

/-- What a store answers to the reply of a command that reads. -/
def read : Option (Option String) → Except Error String
  | some (some record) => .ok record
  | some none => .error .noSession
  | none => .error (.other "Redis get error")

/-- What a store answers to the reply of a command that deletes. -/
def deleted : Option Nat → Except Error Unit
  | some 0 => .error .noSession
  | some (_ + 1) => .ok ()
  | none => .error (.other "Redis delete error")

/-- A store on a server. -/
def through (server : Server σ) : Operations σ where
  add s now id record maxAge := (server now (addCommand id record maxAge) s).map written fun s => s
  get s now id := (server now (getCommand id) s).map read fun s => s
  remove s now id := (server now (removeCommand id) s).map deleted fun s => s

/-- **A server obeys the four commands**, as far as values of one age go. Some view of it tells
which value a key has at a moment, and will have later on if no command comes before.

* What is set is the value of its key from then on; what is set with an age, for that long.
* Reading replies with the value and leaves it.
* Deleting replies how many values there were, and leaves none.
* No command is refused, and none changes the value of another key. -/
structure Obeys (server : Server σ) (maxAge : Int)
    (value? : σ → (now : Int) → String → Option String) : Prop where
  set : ∀ s now key value, (server now (.set key value) s).1 = some () ∧
    ∀ later, now ≤ later → value? (server now (.set key value) s).2 later key = some value
  setex : ∀ s now key value, 0 < maxAge → (server now (.setex key maxAge value) s).1 = some () ∧
    ∀ later, now ≤ later → later < now + 1000 * maxAge →
      value? (server now (.setex key maxAge value) s).2 later key = some value
  get : ∀ s now key, (server now (.get key) s).1 = some (value? s now key) ∧
    ∀ later, now ≤ later → value? (server now (.get key) s).2 later key = value? s later key
  del : ∀ s now key,
    (server now (.del key) s).1 = some (if (value? s now key).isSome then 1 else 0) ∧
    ∀ later, now ≤ later → value? (server now (.del key) s).2 later key = none
  others : ∀ s now command other, command.key ≠ other →
    ∀ later, now ≤ later → value? (server now command s).2 later other = value? s later other

/-! ### A server that forgets after a while -/

/-- What is replied where values are forgotten. -/
def Command.reply (now : Int) : (command : Command) → Dict Lease → command.Reply
  | .set .., _ => ()
  | .setex .., _ => ()
  | .get key, leases => value? leases now key
  | .del key, leases => if (value? leases now key).isSome then 1 else 0

/-- The server that forgets a value so many milliseconds after its age is over, if at all; it may
refuse every command. -/
def leasing (grace? : Option Nat) (refusing : Bool) : Server (Dict Lease) :=
  fun now command leases =>
    if refusing then (none, leases) else (some (command.reply now leases), command.apply grace? now leases)

variable {leases : Dict Lease} {grace? : Option Nat} {refusing : Bool} {now maxAge : Int}
  {id record : String}

theorem add_connected :
    operations.add (.redis (.connected leases grace? refusing)) now id record maxAge =
      ((through (leasing grace? refusing)).add leases now id record maxAge).map (fun x => x)
        fun leases => .redis (.connected leases grace? refusing) := by
  cases refusing <;> rfl

theorem get_connected :
    operations.get (.redis (.connected leases grace? refusing)) now id =
      ((through (leasing grace? refusing)).get leases now id).map (fun x => x)
        fun leases => .redis (.connected leases grace? refusing) := by
  cases refusing with
  | true => rfl
  | false =>
      cases hvalue : value? leases now (recordKey id) <;>
        simp [operations, Records.get, Redis.get, through, leasing, getCommand, Command.reply,
          Command.apply, read, hvalue]

theorem remove_connected :
    operations.remove (.redis (.connected leases grace? refusing)) now id =
      ((through (leasing grace? refusing)).remove leases now id).map (fun x => x)
        fun leases => .redis (.connected leases grace? refusing) := by
  cases refusing with
  | true => rfl
  | false =>
      cases hvalue : value? leases now (recordKey id) <;>
        simp [operations, Records.remove, Redis.remove, through, leasing, removeCommand,
          Command.reply, deleted, hvalue]

/-- **The server of `Records` obeys**, if it does not refuse. -/
theorem obeys_leasing : Obeys (leasing grace? false) maxAge value? where
  set leases now key value := by
    refine ⟨rfl, fun later _ => ?_⟩
    simp [leasing, Command.apply, value?, Lease.isOver]
  setex leases now key value _ := by
    refine ⟨rfl, fun later _ hlive => ?_⟩
    have hthere : Lease.isOver ⟨value, deadline? grace? now maxAge⟩ later = false := by
      cases grace? with
      | none => rfl
      | some grace =>
          have hafter : ¬ now + 1000 * maxAge + grace ≤ later := by omega
          exact decide_eq_false hafter
    simp [leasing, Command.apply, value?, hthere]
  get leases now key := ⟨rfl, fun _ _ => rfl⟩
  del leases now key := by
    refine ⟨rfl, fun later _ => ?_⟩
    simp [leasing, Command.apply, value?]
  others leases now command other hother later _ := by
    cases command with
    | set key value => exact value?_congr (Dict.get?_set_of_ne (Ne.symm hother))
    | setex key seconds value => exact value?_congr (Dict.get?_set_of_ne (Ne.symm hother))
    | get key => rfl
    | del key => exact value?_congr (Fields.get?_erase_of_ne (Ne.symm hother))

end Redis

end Records

end WebSession
