import WebSession.SessionFactory
import WebSession.Startup.Arguments
/-!
# WebSession.Startup

**From arguments to a factory of sessions.**

Design points:

* There always are a cookie store, a store of files and one in memory; a store on a key-value
  server is there when its address is given.
* All stores have the same keys. The current secrets come first and write; the previous ones
  only read. A secret for encryption counts only beside one for signing.
* What is missing or wrong is found before anything is served, and the first thing found is
  told: the directory, the address, the secrets, and last the host of the certificate.
* What only the machine knows is asked of it: which paths are directories, where temporary files
  belong, and to which addresses its client of key-value servers can connect.
-/

namespace WebSession.Startup

/-- The line that tells the version. -/
def versionLine : String := "sessionware 0.1.0\n"

/-! ### Keys and configuration -/

/-- The keys of one generation of secrets: none without a signing secret. -/
def generation (signing encrypting : Secret) : List KeyPair :=
  match signing.bytes? with
  | some key => [{ hashKey := key, blockKey? := encrypting.bytes? }]
  | none => []

/-- The keys that arguments give, the current ones first. -/
def keyPairs (a : Arguments) : List KeyPair :=
  generation a.secretKey a.encryptionKey
    ++ generation a.previousSecretKey a.previousEncryptionKey

/-- The configuration of sessions that arguments give. -/
def sessionConfig (a : Arguments) : SessionConfig where
  path := a.cookiePath
  domain := a.cookieDomain
  maxAge := min a.cookieMaxAge.seconds Range.maxInt64
  secure := a.cookieSecure
  httpOnly := a.cookieHttpOnly

/-! ### Stores -/

/-- The machine that a service starts on. -/
structure Machine where
  /-- Whether a path names a directory. -/
  isDirectory : String → Bool
  /-- The directory for temporary files. -/
  temporaryDir : String
  /-- Whether a text is the address of a key-value server. -/
  isAddress : String → Bool

/-- The directory of records: the one that arguments give, or else the one for temporary files. -/
def recordsDir (a : Arguments) (temporaryDir : String) : String := a.sessionDir?.getD temporaryDir

/-- The name of the store of files. -/
def fileStore : String := "file"

/-- The name of the store in memory. -/
def memoryStore : String := "memory"

/-- The name of the store on a key-value server. -/
def redisStore : String := "redis"

/-- Adds a server-side store with records of its own name. -/
def addServerSide (f : SessionFactory) (name : String) : SessionFactory :=
  f.setStore name { kind := .serverSide name }

/-- The stores that arguments ask for, without keys. -/
def stores (m : Machine) (a : Arguments) : Except Error SessionFactory :=
  let dir := recordsDir a m.temporaryDir
  let always := addServerSide (addServerSide .new fileStore) memoryStore
  if !m.isDirectory dir then .error (.other ("session dir does not exist: " ++ dir))
  else if a.redisUrl.isEmpty then .ok always
  else if m.isAddress a.redisUrl then .ok (addServerSide always redisStore)
  else .error (.other "Config")

/-- Gives keys to those of the named stores that there are. -/
def setKeys (pairs : List KeyPair) (f : SessionFactory) : List String → Except Error SessionFactory
  | [] => .ok f
  | name :: more =>
    match f.store name with
    | .ok _ => do setKeys pairs (← f.setStoreKeys name pairs) more
    | .error _ => setKeys pairs f more

/-! ### Starting -/

/-- The factory that arguments ask for. -/
def factory (m : Machine) (a : Arguments) : Except Error SessionFactory := do
  let f ← stores m a
  let pairs := keyPairs a
  if pairs.isEmpty then .error (.other "No secret key specified")
  else
    let f ← setKeys pairs f [SessionFactory.cookieName, fileStore, memoryStore, redisStore]
    pure { f with defaultConfig := sessionConfig a }

/-- Whether a certificate can be made for a host. -/
def isCertifiable (host : String) : Bool := host.toList.all fun c => c.toNat < 128

/-- What has to be there before the service listens. -/
def prepare (m : Machine) (a : Arguments) : Except Error SessionFactory := do
  let f ← factory m a
  if a.tls ∧ ¬ isCertifiable a.host then .error (.other "Invalid IA5String")
  else pure f

end WebSession.Startup
