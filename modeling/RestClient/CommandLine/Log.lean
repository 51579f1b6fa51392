import RestClient.Event
import RestClient.Text.Quoted

/-! # The log

How events are reported. An event has a level, a target that says which part of the program it comes
from, a message and some fields; `Event.line` is its line in the log. -/

namespace RestClient

open RestClient.Text

/-! ### Events in words -/

/-- The rank of a level, which grows with its weight. -/
def Level.rank : Level → Nat
  | .trace => 0
  | .debug => 1
  | .info => 2
  | .warn => 3
  | .error => 4

/-- The name of a level. -/
def Level.name : Level → String
  | .trace => "TRACE"
  | .debug => "DEBUG"
  | .info => "INFO"
  | .warn => "WARN"
  | .error => "ERROR"

/-- The value of a field. -/
inductive FieldValue where
  /-- A text as it is. -/
  | text (value : String)
  /-- A text that is quoted in the log. -/
  | quoted (value : String)
  /-- A count. -/
  | count (value : Nat)
  deriving DecidableEq, Repr

/-- The value of a field in the log. -/
def FieldValue.written : FieldValue → String
  | .text value => value
  | .quoted value => String.ofList (Text.quoted value.toList)
  | .count value => toString value

namespace Event

/-- How much an event matters. -/
def level : Event → Level
  | loaded .. => .debug
  | generating .. => .debug
  | unknownCode .. => .warn
  | noResponses .. => .warn
  | generated .. => .debug
  | written .. => .info

/-- The part of the program that an event comes from. -/
def target : Event → String
  | loaded .. => "fetchgen::generate"
  | generating .. => "fetchgen_core::emitter"
  | unknownCode .. => "fetchgen_core::naming"
  | noResponses .. => "fetchgen_core::codegen::response"
  | generated .. => "fetchgen_core::emitter"
  | written .. => "fetchgen::generate"

/-- What an event says. -/
def message : Event → String
  | loaded .. => "Loaded operation descriptors."
  | generating .. => "Generating operation."
  | unknownCode .. => "Unknown status code, using generic variant name."
  | noResponses .. => "Operation declares no responses."
  | generated .. => "TypeScript module generated."
  | written .. => "Wrote TypeScript client."

/-- The fields of an event, in order. -/
def fields : Event → List (String × FieldValue)
  | loaded input operations => [("input", .text input), ("operations", .count operations)]
  | generating operation method path responses =>
    [("operation", .text operation), ("verb", .quoted method), ("path", .text path),
      ("responses", .count responses)]
  | unknownCode code => [("code", .text code)]
  | noResponses path => [("path", .text path)]
  | generated operations => [("operations", .count operations)]
  | written output => [("output", .text output)]

/-- The line of an event in the log. -/
def line (event : Event) : String :=
  event.level.name ++ " " ++ event.target ++ ": " ++ event.message ++
    String.join (event.fields.map fun (name, value) => " " ++ name ++ "=" ++ value.written)

end Event

end RestClient
