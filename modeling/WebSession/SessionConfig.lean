/-!
# WebSession.SessionConfig

**How a session's cookie is set.**
-/

namespace WebSession

/-- The attributes of the cookie that carries a session. -/
structure SessionConfig where
  /-- The path below which the cookie is sent. -/
  path : String := "/"
  /-- The domain to which the cookie is sent; empty for the host that set it. -/
  domain : String := ""
  /-- How many seconds the session lives: without limit for zero, not at all when negative. -/
  maxAge : Int := 86400 * 30
  /-- The cookie is sent over encrypted connections only. -/
  secure : Bool := false
  /-- The cookie is hidden from scripts. -/
  httpOnly : Bool := false
  deriving DecidableEq

/-- The age in seconds that is the default everywhere: thirty days. -/
def SessionConfig.defaultMaxAge : Int := 86400 * 30

end WebSession
