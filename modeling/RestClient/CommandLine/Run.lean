import RestClient.Client.Module
import RestClient.CommandLine.Arguments
import RestClient.CommandLine.Filter
import RestClient.Descriptor.Load
import RestClient.Disk.Directories

/-! # Runs

A run of the command line: it loads the descriptors, generates the client, and prints it or writes
it to a file. All that it does to the world outside goes through a disk, and all that it says is in
its outcome.

* `generateClient` does the work of one run, with its events in order;
* `run` is a whole run, from arguments and log setting to the outcome. -/

namespace RestClient.CommandLine

/-- What a run leaves behind, apart from files. -/
structure Outcome where
  /-- The exit code: `0` for success, `1` for failure, `2` for arguments that cannot be used. -/
  code : Nat
  /-- What was printed. -/
  output : String
  /-- What was reported, entry by entry. -/
  reports : List String
  deriving DecidableEq, Repr

/-- Why a client cannot be delivered. -/
inductive Failure where
  /-- The descriptors cannot be loaded. -/
  | load (fault : LoadFault)
  /-- The directory of the output cannot be created. -/
  | create (path : String) (fault : FileFault)
  /-- The output cannot be written. -/
  | write (path : String) (fault : FileFault)
  deriving DecidableEq, Repr

/-- The failure in words. -/
def Failure.message : Failure → String
  | .load fault => fault.report
  | .create path fault => "Failed to create " ++ path ++ ": " ++ fault.message
  | .write path fault => "Failed to write " ++ path ++ ": " ++ fault.message

variable {m : Type → Type} [Monad m]

/-- Operations with the server of the command line, if it names one. -/
def overrideServer (server : Option String) (ops : List Operation) : List Operation :=
  match server with
  | none => ops
  | some server => ops.map (Operation.withServer server)

/-- Creates the directory that a file is to lie in, if its path names one. -/
def createParent (disk : Disk m) (path : String) : m (Except Failure Unit) := do
  match Path.parent? path with
  | none => return .ok ()
  | some parent =>
    match ← disk.createDirectories parent with
    | .error fault => return .error (.create parent fault)
    | .ok () => return .ok ()

/-- Writes a text to a file, in a directory that is created if need be. -/
def deliver (disk : Disk m) (path text : String) : m (Except Failure Unit) := do
  match ← createParent disk path with
  | .error failure => return .error failure
  | .ok () =>
    match ← disk.write path text with
    | .error fault => return .error (.write path fault)
    | .ok () => return .ok ()

/-- Generates a client, and returns what is to be printed or why there is none. -/
def generateClient (disk : Disk m) (arguments : Arguments) :
    m (Logged (Except Failure String)) := do
  match ← Operation.loadFrom disk arguments.input with
  | .error fault => return .silent (.error (.load fault))
  | .ok ops =>
    let client := (clientModule standardPhrase (overrideServer arguments.server ops)).after
      (.loaded arguments.input ops.length)
    match arguments.output with
    | none => return client.map .ok
    | some path =>
      match ← deliver disk path client.value with
      | .error failure => return client.map fun _ => .error failure
      | .ok () => return (client.map fun _ => .ok "").andThen (.written path)

/-- The outcome of a generation. -/
def Outcome.ofResult (filter : Filter) (result : Logged (Except Failure String)) : Outcome :=
  let log := (result.events.filter filter.passes).map Event.line
  match result.value with
  | .ok output => { code := 0, output, reports := log }
  | .error failure => { code := 1, output := "", reports := log ++ [failure.message] }

/-- The version of this program. -/
def versionText : String := "fetchgen 0.1.0\n"

/-- The help on the arguments. -/
def helpText : String :=
  "Generate a TypeScript fetch client from REST operation descriptors\n\n" ++
    "Usage: fetchgen [OPTIONS] <INPUT>\n\n" ++
    "Arguments:\n" ++
    "  <INPUT>  JSON file holding an array of operation descriptors\n\n" ++
    "Options:\n" ++
    "  -o, --output <FILE>  Write the generated module here instead of stdout\n" ++
    "      --server <URL>   Replace the server base URL of every operation\n" ++
    "  -h, --help           Print help\n" ++
    "  -V, --version        Print version\n"

/-- The note on arguments that cannot be used. -/
def misuseText : String := "error: invalid arguments; for more information, try '--help'."

/-- The outcome of a command, with the filter for its events. -/
def outcomeOf (disk : Disk m) (filter : Filter) : Command → m Outcome
  | .misuse => return { code := 2, output := "", reports := [misuseText] }
  | .version => return { code := 0, output := versionText, reports := [] }
  | .help => return { code := 0, output := helpText, reports := [] }
  | .generate arguments => return .ofResult filter (← generateClient disk arguments)

/-- A run with the given arguments and log setting. Complaints about the setting come first. -/
def run (disk : Disk m) (arguments : List String) (setting : Option String) : m Outcome := do
  let (filter, complaints) := Filter.ofSetting setting
  let outcome ← outcomeOf disk filter (Command.ofArguments arguments)
  return { outcome with reports := complaints ++ outcome.reports }

end RestClient.CommandLine
