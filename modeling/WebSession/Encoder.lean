import WebSession.Base64Url
import WebSession.CounterMode
import WebSession.Numeral
import WebSession.Plan
import WebSession.Serialized
import WebSession.Sha256
/-!
# WebSession.Encoder

**Signed texts**: sessions as texts that only the holder of the keys can make.

A session is serialized, encrypted if there is a cipher, and written in base 64. This payload,
the time in seconds and an authentication code of both and of the session key, joined by
bars and written in base 64 again, are the signed text.

Design points:

* An encoder holds its authentication function and its block function, not the keys: what is
  proved of an encoder holds for any two functions.
* Reading checks in this order: the length, the form, the code, the age, the payload. So
  nothing about time or payload is told of a text whose code is wrong.
* A list of encoders writes with its first member and reads with the first that can, which
  is how keys are changed.
-/

namespace WebSession

/-- Makes and reads signed texts. -/
structure Encoder where
  /-- The authentication code of a message; without it nothing is made or read. -/
  authenticate? : Option (Bytes → Sha256.Digest) := none
  /-- The block function that encrypts the payload, if it is encrypted. -/
  block? : Option (Block → Block) := none
  /-- A text must be so many seconds old; zero for no limit. -/
  minAge : Int := 0
  /-- A text must not be more than so many seconds old; zero for no limit. -/
  maxAge : Int := 0
  /-- A text must not be longer than so many octets; zero for no limit. -/
  maxLength : Nat := 0
  /-- What the encoder takes for the time when the clock shows a number of seconds. -/
  clock : Int → Int := id

namespace Encoder

/-! ### Texts -/

/-- The message that the code of a signed text authenticates. -/
def message (key payload timestamp : String) : Bytes :=
  Bytes.ofText (key ++ "|" ++ payload ++ "|" ++ timestamp)

/-- The signed text of a payload and a timestamp. -/
def signed (authenticate : Bytes → Sha256.Digest) (key payload timestamp : String) : String :=
  let code := Base64Url.encode (authenticate (message key payload timestamp)).toList
  Base64Url.encode (Bytes.ofText (payload ++ "|" ++ timestamp ++ "|" ++ code))

/-- The parts of a text in front of the first bar, between the first two, and behind them. -/
def parts? (cs : List Char) : Option (String × String × String) :=
  match cs.span (· ≠ '|') with
  | (_, []) => none
  | (payload, _ :: rest) =>
    match rest.span (· ≠ '|') with
    | (_, []) => none
    | (timestamp, _ :: code) =>
      some (String.ofList payload, String.ofList timestamp, String.ofList code)

/-- The number of seconds that a timestamp tells, zero for none. -/
def secondsOf (timestamp : String) : Int := (Numeral.int64? timestamp).getD 0

/-! ### Writing -/

/-- Random octets, or the error that there are none. -/
def draw (count : Nat) : ExceptT Error Plan (Vector UInt8 count) := do
  match ← Plan.random count with
  | some octets => pure octets
  | none => throw (.other "random error")

/-- The octets of the payload: encrypted with a fresh counter and a fresh salt, if at all. -/
def sealed (e : Encoder) (plain : Bytes) : ExceptT Error Plan Bytes :=
  match e.block? with
  | none => pure plain
  | some block => do
    let counter ← draw CounterMode.blockSize
    let salt ← draw CounterMode.blockSize
    pure (CounterMode.encrypt block counter salt plain)

/-- The signed text of a session. -/
def encode (e : Encoder) (key : String) (now : Int) (d : SessionData) :
    ExceptT Error Plan String :=
  match e.authenticate? with
  | none => throw .missingHash
  | some authenticate => do
    let octets ← e.sealed d.serialize
    pure (signed authenticate key (Base64Url.encode octets) (Numeral.text (e.clock now)))

/-! ### Reading -/

/-- Refuses an age outside the limits; a timestamp of zero is none. -/
def checkAge (e : Encoder) (timestamp now : Int) : Except Error Unit :=
  if timestamp = 0 then .error .badTimestamp
  else if e.minAge ≠ 0 ∧ now - e.minAge < timestamp then .error .newTimestamp
  else if e.maxAge ≠ 0 ∧ timestamp < now - e.maxAge then .error .oldTimestamp
  else .ok ()

/-- The session of a payload. -/
def opened (e : Encoder) (payload : String) : Except Error SessionData := do
  let octets ← match Base64Url.decode payload with
    | some octets => .ok octets
    | none => .error .decoding
  let plain ← match e.block? with
    | none => .ok octets
    | some block => CounterMode.decrypt block octets
  SessionData.deserialize plain

/-- The payload and the timestamp of a text whose code is right. -/
def verified? (authenticate : Bytes → Sha256.Digest) (key text : String) :
    Option (String × String) := do
  let octets ← Base64Url.decode text
  let (payload, timestamp, code) ← parts? (← Bytes.text? octets).toList
  let code ← Base64Url.decode code
  if code = (authenticate (message key payload timestamp)).toList then some (payload, timestamp)
  else none

/-- The session of a signed text. -/
def decode (e : Encoder) (key : String) (now : Int) (text : String) :
    Except Error SessionData :=
  match e.authenticate? with
  | none => .error .missingHash
  | some authenticate =>
    if e.maxLength ≠ 0 ∧ e.maxLength < text.utf8ByteSize then .error .maxLength
    else
      match verified? authenticate key text with
      | none => .error .authentication
      | some (payload, timestamp) => do
        e.checkAge (secondsOf timestamp) (e.clock now)
        e.opened payload

end Encoder

/-! ### Several encoders -/

namespace Encoders

/-- The signed text that the first encoder makes. -/
def encode (encoders : List Encoder) (key : String) (now : Int) (d : SessionData) :
    ExceptT Error Plan String :=
  match encoders with
  | [] => throw .missingHash
  | e :: _ => e.encode key now d

/-- The session that the first encoder able to reads, or else the error of the last one. -/
def decode (encoders : List Encoder) (key : String) (now : Int) (text : String) :
    Except Error SessionData :=
  go .missingHash encoders
where
  /-- Tries encoders, after one that failed. -/
  go (failure : Error) : List Encoder → Except Error SessionData
    | [] => .error failure
    | e :: more =>
      match e.decode key now text with
      | .ok d => .ok d
      | .error failure => go failure more

end Encoders

end WebSession
