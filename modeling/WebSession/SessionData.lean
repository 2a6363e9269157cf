import WebSession.Value
/-!
# WebSession.SessionData

**The data of one session**: a map from keys to values.

Design points:

* The session id is an ordinary field under a reserved key, so it travels with the data
  through every store. It counts as an id only when it is a text.
* `SessionData.idOnly?` is what a server-side store leaves in the cookie: the id and
  nothing else.
-/

namespace WebSession

/-- The fields of one session. -/
structure SessionData where
  values : Dict Value

namespace SessionData

/-- The key that holds the session id. -/
def idKey : String := "__sessionid__"

/-- The session without fields. -/
def empty : SessionData := ⟨Dict.empty⟩

/-- The session with the given fields, the later of two equal keys winning. -/
def ofList (fields : List (String × Value)) : SessionData := ⟨Dict.ofList fields⟩

/-- The fields in increasing order of their keys. -/
def toList (d : SessionData) : List (String × Value) := d.values.toList

/-- The value under a key. -/
def get? (d : SessionData) (key : String) : Option Value := d.values.get? key

/-- Whether a key has a value. -/
def contains (d : SessionData) (key : String) : Bool := d.values.contains key

/-- Gives a key a value, replacing the one it had. -/
def insert (d : SessionData) (key : String) (value : Value) : SessionData :=
  ⟨d.values.set key value⟩

/-- Takes a key's value away. -/
def erase (d : SessionData) (key : String) : SessionData := ⟨d.values.erase key⟩

/-- The number of fields. -/
def length (d : SessionData) : Nat := d.values.length

/-- There is no field. -/
def isEmpty (d : SessionData) : Bool := d.values.isEmpty

/-- The session id, if the session has been initialized. -/
def id? (d : SessionData) : Option String := (d.get? idKey).bind Value.text?

/-- The session that holds nothing but an id. -/
def ofId (id : String) : SessionData := empty.insert idKey (.str id)

/-- A copy that keeps only the session id. -/
def idOnly? (d : SessionData) : Option SessionData := d.id?.map ofId

/-- How many levels of maps, lists and octet strings the session has, itself included. -/
def height (d : SessionData) : Nat := Value.heightOfFields d.values + 1

/-- Equality in which floating-point numbers are compared as numbers. -/
def same (d e : SessionData) : Bool := Value.sameFields d.values e.values

/-! ### Fields after a change -/

/-- Sessions in which every key has the same value are equal. -/
theorem ext_get? {d e : SessionData} (h : ∀ key, d.get? key = e.get? key) : d = e := by
  cases d; cases e
  exact congrArg _ (Fields.ext_get? h)

@[simp] theorem get?_empty {key : String} : empty.get? key = none := rfl

@[simp] theorem get?_insert_self {d : SessionData} {key : String} {v : Value} :
    (d.insert key v).get? key = some v := Dict.get?_set_self

theorem get?_insert_of_ne {d : SessionData} {key other : String} {v : Value}
    (hne : other ≠ key) : (d.insert key v).get? other = d.get? other :=
  Dict.get?_set_of_ne hne

@[simp] theorem get?_erase_self {d : SessionData} {key : String} :
    (d.erase key).get? key = none := Fields.get?_erase_self

theorem get?_erase_of_ne {d : SessionData} {key other : String} (hne : other ≠ key) :
    (d.erase key).get? other = d.get? other := Fields.get?_erase_of_ne hne

/-- A text under the reserved key is the id. -/
@[simp] theorem id?_insert_id {d : SessionData} {id : String} :
    (d.insert idKey (.str id)).id? = some id := by
  simp [id?, Value.text?]

@[simp] theorem id?_ofId {id : String} : (ofId id).id? = some id := id?_insert_id

/-- A session that holds nothing but an id has one field. -/
@[simp] theorem length_ofId {id : String} : (ofId id).length = 1 := rfl

end SessionData

end WebSession
