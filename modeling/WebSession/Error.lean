/-!
# WebSession.Error

**What can go wrong with a session**: one constructor for each cause.

The wording is in `Error.message` alone; callers tell errors apart by their constructor.
-/

namespace WebSession

/-- Why a session could not be loaded, saved or configured. -/
inductive Error where
  /-- The data has no serialized form. -/
  | encoding
  /-- The octets are not a serialized session. -/
  | decoding
  /-- The signature is not the one of the signed text. -/
  | authentication
  /-- The octets are too short to be encrypted data. -/
  | decryption
  /-- The text is longer than the encoder accepts. -/
  | maxLength
  /-- The timestamp is missing, unreadable or zero. -/
  | badTimestamp
  /-- The value was signed too recently. -/
  | newTimestamp
  /-- The value was signed too long ago. -/
  | oldTimestamp
  /-- No authentication key is configured. -/
  | missingHash
  /-- The configured authentication key is empty. -/
  | missingHashKey
  /-- The encryption key has a length that the cipher does not know. -/
  | invalidKeyLength (length : Nat)
  /-- There is no session or record under the key. -/
  | noSession
  /-- There are no flash messages under the key. -/
  | noFlashes
  /-- No store is registered under the key. -/
  | noStore
  /-- The session was loaded from another store. -/
  | storeMismatch
  /-- A session id of no octets was asked for. -/
  | badIdLength
  /-- The session id is not well formed. -/
  | badSessionId
  /-- The session has no id yet. -/
  | notInitialized
  /-- Something outside the program failed. -/
  | other (cause : String)
  deriving DecidableEq, Repr

namespace Error

/-- The wording of an error. -/
def message : Error → String
  | .encoding => "The value could not be encoded"
  | .decoding => "The value could not be decoded"
  | .authentication => "The value could not be verified using HMAC"
  | .decryption => "The value could not be decrypted"
  | .maxLength => "The value exceeds the maximum allowed length"
  | .badTimestamp => "Invalid timestamp"
  | .newTimestamp => "The value has a newer timestamp than expected"
  | .oldTimestamp => "The value has an expired timestamp"
  | .missingHash => "A hash is required to create and verify values using HMAC"
  | .missingHashKey => "Authentication secret can't be empty"
  | .invalidKeyLength n =>
    "Invalid encryption key length: " ++ Nat.repr n ++ ", expected 16, 24 or 32 bytes"
  | .noSession => "No session found for the given key"
  | .noFlashes => "No flashes found for the given key"
  | .noStore => "No store found for the given key"
  | .storeMismatch => "A session with the given key already exists using a different store"
  | .badIdLength => "Session id length must be greater than zero"
  | .badSessionId => "Malformed session id"
  | .notInitialized => "Session has not been initialized"
  | .other cause => cause

end Error

end WebSession
