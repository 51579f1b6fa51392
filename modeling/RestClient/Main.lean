import RestClient.CommandLine.Run

/-! # The program

The command line on the real disk. -/

namespace RestClient

/-- The fault behind a failure of the system. -/
def FileFault.ofFailure (failure : IO.Error) : FileFault :=
  match failure with
  | .noFileOrDirectory .. => .notFound
  | .alreadyExists .. => .alreadyExists
  | .inappropriateType _ code _ => if code = 21 ∨ code = 0 - 21 then .isDirectory else .notDirectory
  | .invalidArgument _ code _ =>
    if code = 36 ∨ code = 0 - 36 then .nameTooLong else .other (toString failure)
  | failure => .other (toString failure)

/-- What an action on the system gives, with its failure as a value. -/
def attempt {α : Type} (action : IO α) : IO (Except FileFault α) := do
  try
    return .ok (← action)
  catch failure =>
    return .error (.ofFailure failure)

/-- The disk of the system. A directory is what can be opened but not read. -/
def systemDisk : Disk IO where
  read path := do
    match ← attempt (IO.FS.readBinFile path) with
    | .error fault => return .error fault
    | .ok content =>
      match String.fromUTF8? content with
      | some text => return .ok text
      | none => return .error .notText
  isDirectory path := do
    match ← attempt (do (← IO.FS.Handle.mk path .read).read 1) with
    | .error .isDirectory => return true
    | _ => return false
  createDirectory path := attempt (IO.FS.createDir path)
  write path text := attempt (IO.FS.writeFile path text)

end RestClient

open RestClient RestClient.CommandLine in
/-- Runs the command line on the arguments of the process. -/
def main (arguments : List String) : IO UInt32 := do
  let outcome ← run systemDisk arguments (← IO.getEnv "FETCHGEN_LOG")
  IO.print outcome.output
  for report in outcome.reports do
    IO.eprintln report
  return outcome.code.toUInt32
