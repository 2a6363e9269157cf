import WebSession.Bytes
/-!
# WebSession.Startup.Secret

**Texts that are not to be shown.** An empty secret is none.
-/

namespace WebSession.Startup

/-- A secret text. -/
structure Secret where
  reveal : String := ""
  deriving DecidableEq

namespace Secret

/-- The octets of a secret, unless it is empty. -/
def bytes? (s : Secret) : Option Bytes :=
  if s.reveal.isEmpty then none else some (Bytes.ofText s.reveal)

/-- What may be shown of a secret: whether there is one. -/
def masked (s : Secret) : String :=
  if s.reveal.isEmpty then "SecretString()" else "SecretString(***)"

end Secret

end WebSession.Startup
