import WebSession.Cookie
import WebSession.Fields
/-!
# WebSession.Cookie.Jar

**The cookies of one request**: those the client sent and those the response will set.

A cookie that was set hides the one the client sent under its name. Only set cookies go back
to the client.
-/

namespace WebSession.Cookie

/-- Received and set cookies by name. -/
structure Jar where
  /-- The values that the client sent. -/
  received : Dict String := .empty
  /-- The cookies that the response sets. -/
  changes : Dict Cookie := .empty

namespace Jar

/-- The jar of a request with these headers; of two cookies of one name the later counts. -/
def ofHeaders (headers : List String) : Jar where
  received := Dict.ofList (headers.flatMap Cookie.parseHeader)

/-- The value of the cookie with a name. -/
def get? (jar : Jar) (name : String) : Option String :=
  match jar.changes.get? name with
  | some c => some c.value
  | none => jar.received.get? name

/-- Sets a cookie. -/
def add (jar : Jar) (c : Cookie) : Jar := { jar with changes := jar.changes.set c.name c }

/-- The names and values of all cookies. -/
def toList (jar : Jar) : List (String × String) :=
  (jar.received.toList.filter fun f => !jar.changes.contains f.1)
    ++ jar.changes.toList.map fun f => (f.1, f.2.value)

/-- The headers of the response. A cookie that no header can hold is left out. -/
def headers (jar : Jar) : List String :=
  (jar.changes.toList.map fun f => f.2.text).filter Cookie.isHeaderText

/-- A cookie just set is found. -/
@[simp] theorem get?_add_self {jar : Jar} {c : Cookie} :
    (jar.add c).get? c.name = some c.value := by
  simp [get?, add]

/-- Setting a cookie leaves all others. -/
theorem get?_add_of_ne {jar : Jar} {c : Cookie} {name : String} (hne : name ≠ c.name) :
    (jar.add c).get? name = jar.get? name := by
  simp [get?, add, Dict.get?_set_of_ne hne]

end Jar

end WebSession.Cookie
