import WebSession.Encoder
/-!
# WebSession.SessionId

**Session ids**: random octets in hexadecimal.

An id becomes part of file names and record keys, so before it is used it must be short and
consist of lower-case hexadecimal digits alone.
-/

namespace WebSession.SessionId

/-- The number of random octets of a session's id. -/
def octets : Nat := 16

/-- The greatest length of an id. -/
def maxLength : Nat := 128

/-- A fresh id from so many random octets. -/
def generate (count : Nat) : ExceptT Error Plan String :=
  if count = 0 then throw .badIdLength
  else do
    let octets ← Encoder.draw count
    pure (Bytes.hex octets.toList)

/-- A lower-case hexadecimal digit. -/
def isDigit (c : Char) : Bool := ('0' ≤ c && c ≤ '9') || ('a' ≤ c && c ≤ 'f')

/-- The form of an id. -/
def isValid (id : String) : Bool :=
  0 < id.utf8ByteSize && id.utf8ByteSize ≤ maxLength && id.toList.all isDigit

/-- Refuses a text that is no id. -/
def validate (id : String) : Except Error Unit :=
  if isValid id then .ok () else .error .badSessionId

end WebSession.SessionId
