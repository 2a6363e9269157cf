import WebSession.Numeral
import WebSession.Startup.Duration
import WebSession.Startup.Secret
/-!
# WebSession.Startup.Arguments

**The settings of the service**, from the words of a command line and from variables of the
environment.

Design points:

* Each setting has a long name. An option takes a value, as the next word or behind an equals
  sign; a flag takes none. The variable of a setting is its name in capitals.
* Words count more than variables, and variables more than defaults.
* An option whose value is the next word is settled only when the following option or the end
  is reached. Hence a word that is no option at all is told first, and only then an unreadable
  value in front of it.
* Asking for help or for the version ends reading at once.
-/

namespace WebSession.Startup

/-- A setting. -/
inductive Setting where
  /-- The network port that the service listens on. -/
  | port
  /-- The secret that signs sessions. -/
  | secretKey
  /-- The secret that encrypts sessions. -/
  | encryptionKey
  /-- The signing secret that was used before. -/
  | previousSecretKey
  /-- The encrypting secret that was used before. -/
  | previousEncryptionKey
  /-- The directory of session records. -/
  | sessionDir
  /-- The address of a key-value server. -/
  | redisUrl
  /-- How long a session lives. -/
  | cookieMaxAge
  /-- The path of cookies. -/
  | cookiePath
  /-- The domain of cookies. -/
  | cookieDomain
  /-- Cookies are for encrypted connections. -/
  | cookieSecure
  /-- Cookies are hidden from scripts. -/
  | cookieHttpOnly
  /-- Connections are encrypted. -/
  | tls
  /-- The host that the certificate is for. -/
  | host
  deriving DecidableEq

namespace Setting

/-- All settings, in the order in which variables are read. -/
def all : List Setting :=
  [.port, .secretKey, .encryptionKey, .previousSecretKey, .previousEncryptionKey, .sessionDir,
    .redisUrl, .cookieMaxAge, .cookiePath, .cookieDomain, .cookieSecure, .cookieHttpOnly, .tls,
    .host]

/-- The name of a setting. -/
def name : Setting → String
  | .port => "port"
  | .secretKey => "secret-key"
  | .encryptionKey => "encryption-key"
  | .previousSecretKey => "previous-secret-key"
  | .previousEncryptionKey => "previous-encryption-key"
  | .sessionDir => "session-dir"
  | .redisUrl => "redis-url"
  | .cookieMaxAge => "cookie-max-age"
  | .cookiePath => "cookie-path"
  | .cookieDomain => "cookie-domain"
  | .cookieSecure => "cookie-secure"
  | .cookieHttpOnly => "cookie-http-only"
  | .tls => "tls"
  | .host => "host"

/-- The setting with a name. -/
def ofName? (name : String) : Option Setting := all.find? fun s => s.name = name

/-- The variable of a setting. -/
def variableName (s : Setting) : String :=
  String.ofList (s.name.toList.map fun c => if c = '-' then '_' else c.toUpper)

/-- Whether a setting takes no value on the command line. -/
def isFlag : Setting → Bool
  | .cookieSecure | .cookieHttpOnly | .tls => true
  | _ => false

end Setting

/-- Why there are no arguments. -/
inductive UsageError where
  /-- Help was asked for. -/
  | help
  /-- The version was asked for. -/
  | version
  /-- A word is no option. -/
  | unknown (word : String)
  /-- An option has no value. -/
  | noValue (setting : Setting)
  /-- Something that takes no value has one. -/
  | excessValue (name : String)
  /-- A value is not among those that the setting has. -/
  | badChoice (setting : Setting) (value : String)
  /-- A value cannot be read. -/
  | unreadable (setting : Setting) (value : String)
  /-- An option is given twice. -/
  | repeated (setting : Setting)
  /-- A setting that is needed is not given. -/
  | missing (setting : Setting)
  deriving DecidableEq

/-- The wording of a usage error. -/
def UsageError.message : UsageError → String
  | .help => "Every setting may be given as --name, or as a variable NAME"
  | .version => "The version was asked for"
  | .unknown word => "Unexpected argument " ++ word
  | .noValue s => "--" ++ s.name ++ " needs a value"
  | .excessValue name => "--" ++ name ++ " takes no value"
  | .badChoice s value => "--" ++ s.name ++ " cannot be \"" ++ value ++ "\""
  | .unreadable s value => "--" ++ s.name ++ " cannot be read from \"" ++ value ++ "\""
  | .repeated s => "--" ++ s.name ++ " is given twice"
  | .missing s => "--" ++ s.name ++ " is needed"

/-- The settings with their values. -/
structure Arguments where
  /-- The network port that the service listens on. -/
  port : Nat := 8000
  /-- The secret that signs sessions. -/
  secretKey : Secret := {}
  /-- The secret that encrypts sessions. -/
  encryptionKey : Secret := {}
  /-- The signing secret that was used before. -/
  previousSecretKey : Secret := {}
  /-- The encrypting secret that was used before. -/
  previousEncryptionKey : Secret := {}
  /-- The directory of session records. -/
  sessionDir? : Option String := none
  /-- The address of a key-value server; empty for none. -/
  redisUrl : String := ""
  /-- How long a session lives. -/
  cookieMaxAge : Duration := ⟨86400 * 30, 0⟩
  /-- The path of cookies. -/
  cookiePath : String := "/"
  /-- The domain of cookies. -/
  cookieDomain : String := ""
  /-- Cookies are for encrypted connections. -/
  cookieSecure : Bool := false
  /-- Cookies are hidden from scripts. -/
  cookieHttpOnly : Bool := false
  /-- Connections are encrypted. -/
  tls : Bool := false
  /-- The host that the certificate is for. -/
  host : String := "localhost"
  deriving DecidableEq

namespace Arguments

/-! ### Values -/

/-- The port that a value names. -/
def port? (value : String) : Option Nat :=
  ((Numeral.int64? value).filter fun n => 0 ≤ n && Range.isUInt16 n.toNat).map Int.toNat

/-- The truth value that a value names. -/
def bool? (value : String) : Option Bool :=
  match value with
  | "true" => some true
  | "false" => some false
  | _ => none

/-- Gives a setting a value. -/
def set (a : Arguments) (s : Setting) (value : String) : Except UsageError Arguments :=
  let flag (f : Bool → Arguments) : Except UsageError Arguments :=
    match bool? value with
    | some b => .ok (f b)
    | none => .error (.badChoice s value)
  match s with
  | .port =>
    match port? value with
    | some n => .ok { a with port := n }
    | none => .error (.unreadable s value)
  | .secretKey => .ok { a with secretKey := ⟨value⟩ }
  | .encryptionKey => .ok { a with encryptionKey := ⟨value⟩ }
  | .previousSecretKey => .ok { a with previousSecretKey := ⟨value⟩ }
  | .previousEncryptionKey => .ok { a with previousEncryptionKey := ⟨value⟩ }
  | .sessionDir =>
    if value.isEmpty then .error (.badChoice s value) else .ok { a with sessionDir? := some value }
  | .redisUrl => .ok { a with redisUrl := value }
  | .cookieMaxAge =>
    match Duration.ofText? value with
    | some d => .ok { a with cookieMaxAge := d }
    | none => .error (.unreadable s value)
  | .cookiePath => .ok { a with cookiePath := value }
  | .cookieDomain => .ok { a with cookieDomain := value }
  | .cookieSecure => flag fun b => { a with cookieSecure := b }
  | .cookieHttpOnly => flag fun b => { a with cookieHttpOnly := b }
  | .tls => flag fun b => { a with tls := b }
  | .host => .ok { a with host := value }

/-! ### Words -/

/-- What is known in the middle of a command line. -/
structure Progress where
  /-- The settings so far. -/
  arguments : Arguments := {}
  /-- The settings that were given. -/
  given : List Setting := []
  /-- An option that is not settled yet, with its value once that is read. -/
  pending? : Option (Setting × Option String) := none

namespace Progress

/-- Gives a setting its value, which it may get once. -/
def take (p : Progress) (s : Setting) (value : String) : Except UsageError Progress :=
  if p.given.contains s then .error (.repeated s)
  else do
    let arguments ← p.arguments.set s value
    pure { arguments := arguments, given := s :: p.given }

/-- Settles the pending option. -/
def settle (p : Progress) : Except UsageError Progress :=
  match p.pending? with
  | none => .ok p
  | some (s, none) => .error (.noValue s)
  | some (s, some value) => p.take s value

/-- Settles the pending option and ends with an error of its own. -/
def stop (p : Progress) (e : UsageError) : Except UsageError Progress := do
  let _ ← p.settle
  .error e

/-- Takes a long option with the value behind its equals sign, if there is one. -/
def long (p : Progress) (name : String) (value? : Option String) : Except UsageError Progress :=
  match name, value? with
  | "help", none => p.stop .help
  | "version", none => p.stop .version
  | "help", some _ => .error (.excessValue name)
  | "version", some _ => .error (.excessValue name)
  | _, _ =>
    match Setting.ofName? name with
    | none => .error (.unknown ("--" ++ name))
    | some s =>
      match s.isFlag, value? with
      | true, some _ => .error (.excessValue name)
      | true, none => do (← p.settle).take s "true"
      | false, some value => do (← p.settle).take s value
      | false, none => do pure { ← p.settle with pending? := some (s, none) }

/-- Takes a word that is no option. -/
def plain (p : Progress) (word : String) : Except UsageError Progress :=
  match p.pending? with
  | some (s, none) => .ok { p with pending? := some (s, some word) }
  | _ => .error (.unknown word)

/-- Takes a word that is not `--`. -/
def word (p : Progress) (word : String) : Except UsageError Progress :=
  match word.toList with
  | '-' :: '-' :: cs =>
    match cs.span (· ≠ '=') with
    | (name, []) => p.long (String.ofList name) none
    | (name, _ :: value) => p.long (String.ofList name) (some (String.ofList value))
  | '-' :: 'h' :: _ => p.stop .help
  | '-' :: 'V' :: _ => p.stop .version
  | '-' :: _ :: _ => .error (.unknown word)
  | _ => p.plain word

/-- Takes all words. Behind `--` no option may follow, and nothing else is expected. -/
def words (p : Progress) : List String → Except UsageError Progress
  | [] => p.settle
  | ["--"] => p.settle
  | "--" :: w :: _ => .error (.unknown w)
  | w :: more => do (← p.word w).words more

/-- Takes the variables of settings that were not given. -/
def takeVariables (environment : String → Option String) (p : Progress) :
    List Setting → Except UsageError Progress
  | [] => .ok p
  | s :: more =>
    match if p.given.contains s then none else environment s.variableName with
    | some value => do (← p.take s value).takeVariables environment more
    | none => p.takeVariables environment more

end Progress

/-- Reads the arguments of the service. The signing secret must be given, though it may be
empty. -/
def read (words : List String) (environment : String → Option String) :
    Except UsageError Arguments := do
  let p ← ({} : Progress).words words
  let p ← p.takeVariables environment Setting.all
  if p.given.contains .secretKey then pure p.arguments
  else .error (.missing .secretKey)

end Arguments

end WebSession.Startup
