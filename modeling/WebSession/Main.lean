import WebSession.Startup
import WebSession.Startup.ServerAddress
/-!
# WebSession.Main

**The command line**: reads the arguments, prepares the stores, and says which there are.

Design points:

* All decisions are those of `Startup.Arguments.read` and `Startup.prepare`. Here the
  environment is asked, a directory is looked for, and what came out is printed.
* The exit code is 0 if the service can be started or a question was answered, 1 if it cannot
  be started, and 2 if the arguments cannot be read.
-/

namespace WebSession.CommandLine

/-- The variables of the environment that are settings. -/
def environment : IO (List (String × String)) := do
  let values ← Startup.Setting.all.mapM fun s => do
    pure ((← IO.getEnv s.variableName).map fun value => (s.variableName, value))
  pure (values.filterMap id)

/-- Whether a path names a directory. -/
def isDirectory (path : String) : IO Bool := do
  if path.isEmpty then return false
  try
    let _ ← IO.FS.Handle.mk (path ++ "/.") .read
    pure true
  catch _ => pure false

/-- The directory for temporary files. -/
def temporaryDir : IO String := do
  pure ((← IO.getEnv "TMPDIR").getD "/tmp")

/-- Says why there are no arguments. -/
def explain (e : Startup.UsageError) : IO UInt32 := do
  match e with
  | .version =>
    IO.print Startup.versionLine
    pure 0
  | .help =>
    IO.println e.message
    for s in Startup.Setting.all do
      IO.println ("  --" ++ s.name)
    pure 0
  | e =>
    IO.eprintln e.message
    pure 2

/-- Prepares the service and says which stores it has. -/
def prepare (a : Startup.Arguments) : IO UInt32 := do
  let temporary ← temporaryDir
  let there ← isDirectory (Startup.recordsDir a temporary)
  let machine : Startup.Machine :=
    { isDirectory := fun _ => there
      temporaryDir := temporary
      isAddress := Startup.ServerAddress.isValid }
  match Startup.prepare machine a with
  | .ok factory =>
    for name in factory.stores.keys do
      IO.println name
    pure 0
  | .error e =>
    IO.eprintln e.message
    pure 1

end WebSession.CommandLine

/-- Starts from the words of the command line. -/
def main (words : List String) : IO UInt32 := do
  let known ← WebSession.CommandLine.environment
  let value? (name : String) : Option String := (known.find? (·.1 = name)).map Prod.snd
  match WebSession.Startup.Arguments.read words value? with
  | .ok a => WebSession.CommandLine.prepare a
  | .error e => WebSession.CommandLine.explain e
