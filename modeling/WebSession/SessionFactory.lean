import WebSession.SessionStore
/-!
# WebSession.SessionFactory

**The stores that sessions may be kept in**, by name, and the keys of their encoders.

Design points:

* A factory always has the cookie store; others are registered under names of their own.
* Keys are given in pairs, the newest first. The first pair writes, all pairs read.
* Keys are checked pair by pair before anything changes: a factory has the encoders of all
  pairs or those it had.
-/

namespace WebSession

/-- The keys of one encoder. -/
structure KeyPair where
  hashKey : Bytes
  /-- The encryption key, if texts are encrypted. -/
  blockKey? : Option Bytes := none
  deriving DecidableEq

/-- The encoder with an authentication key and an optional encryption key. -/
def Encoder.ofKeys (hashKey : Bytes) (cipherKey? : Option CipherKey) : Encoder where
  authenticate? := some (Sha256.authenticate hashKey)
  block? := cipherKey?.map CipherKey.encryptBlock

/-- The encoder of a pair, its texts limited to the default age and to a length. -/
def KeyPair.encoder (pair : KeyPair) (maxLength : Nat) : Except Error Encoder := do
  if pair.hashKey.isEmpty then .error .missingHashKey
  else
    let cipherKey? ← match pair.blockKey? with
      | none => .ok none
      | some key => (CipherKey.ofBytes key).map some
    .ok { Encoder.ofKeys pair.hashKey cipherKey? with
      maxAge := SessionConfig.defaultMaxAge
      maxLength := maxLength }

/-- The encoders of pairs, or the error of the first bad one. -/
def KeyPair.encoders (pairs : List KeyPair) (maxLength : Nat) : Except Error (List Encoder) :=
  pairs.mapM fun pair => pair.encoder maxLength

/-- Stores by name, with the configuration of new sessions. -/
structure SessionFactory where
  stores : Dict SessionStore
  /-- The configuration that every session starts with. -/
  defaultConfig : SessionConfig := {}

namespace SessionFactory

/-- The name of the cookie store. -/
def cookieName : String := "cookie"

/-- The factory with the cookie store alone, which has no keys yet. -/
def new : SessionFactory where
  stores := Dict.empty.set cookieName { kind := .cookie }

/-- The store with a name. -/
def store (f : SessionFactory) (name : String) : Except Error SessionStore :=
  match f.stores.get? name with
  | some s => .ok s
  | none => .error .noStore

/-- Registers a store. -/
def setStore (f : SessionFactory) (name : String) (s : SessionStore) : SessionFactory :=
  { f with stores := f.stores.set name s }

/-- Gives a store the encoders of the pairs. -/
def setStoreKeys (f : SessionFactory) (name : String) (pairs : List KeyPair) :
    Except Error SessionFactory := do
  let s ← f.store name
  let encoders ← KeyPair.encoders pairs s.maxLength
  pure (f.setStore name { s with encoders := encoders })

end SessionFactory

end WebSession
