import RestClient.Descriptor.Format
import RestClient.Disk.Basic

/-! # Loading descriptors

Descriptors come from a file. Two things can go wrong: the file cannot be read, or its text is no
list of descriptors. -/

namespace RestClient

/-- Why descriptors cannot be loaded. -/
inductive LoadFault where
  /-- The file cannot be read. -/
  | unreadable (path : String) (fault : FileFault)
  /-- The text is no list of descriptors. -/
  | invalid (fault : Json.Fault)
  deriving DecidableEq, Repr

namespace LoadFault

/-- What went wrong, without its cause. -/
def message : LoadFault → String
  | unreadable path _ => "failed to read descriptors from " ++ path
  | invalid _ => "invalid operation descriptor JSON"

/-- The cause in words. -/
def cause : LoadFault → String
  | unreadable _ fault => fault.message
  | invalid fault => fault.message

/-- What went wrong and why. -/
def report (fault : LoadFault) : String := fault.message ++ ": " ++ fault.cause

end LoadFault

/-- The operations in a text. -/
def Operation.load (text : String) : Except LoadFault (List Operation) :=
  match Operation.readAll text with
  | .ok ops => .ok ops
  | .error fault => .error (.invalid fault)

/-- The operations in a file. -/
def Operation.loadFrom {m : Type → Type} [Monad m] (disk : Disk m) (path : String) :
    m (Except LoadFault (List Operation)) := do
  match ← disk.read path with
  | .error fault => return .error (.unreadable path fault)
  | .ok text => return Operation.load text

end RestClient
