/-! # Arguments

The arguments of a run: one input file, an optional output file and an optional server. Options
stand anywhere, with their values attached or in the next argument, until an argument `--` ends
them.

* `Command.ofArguments` is what the arguments ask for. They are taken from left to right, and what
  is first wrong or first asks for the version or the help decides. -/

namespace RestClient.CommandLine

/-- What to generate. -/
structure Arguments where
  /-- The file with the descriptors. -/
  input : String
  /-- The file for the client, if it is not to be printed. -/
  output : Option String
  /-- The server that replaces those of all operations, if any. -/
  server : Option String
  deriving DecidableEq, Repr

/-- What a command line asks for. -/
inductive Command where
  /-- To generate a client. -/
  | generate (arguments : Arguments)
  /-- To print the version. -/
  | version
  /-- To print the help. -/
  | help
  /-- Nothing that can be done. -/
  | misuse
  deriving DecidableEq, Repr

/-- What has been found in the arguments so far. -/
structure Draft where
  /-- The input file. -/
  input : Option String
  /-- The output file. -/
  output : Option String
  /-- The server. -/
  server : Option String
  deriving DecidableEq, Repr

namespace Draft

/-- A draft without values. -/
def empty : Draft := ⟨none, none, none⟩

/-- Sets the input, once, to something. -/
def setInput? (draft : Draft) (value : String) : Option Draft :=
  if draft.input.isSome ∨ value = "" then none else some { draft with input := some value }

/-- Sets the output, once, to something. -/
def setOutput? (draft : Draft) (value : String) : Option Draft :=
  if draft.output.isSome ∨ value = "" then none else some { draft with output := some value }

/-- Sets the server, once. -/
def setServer? (draft : Draft) (value : String) : Option Draft :=
  if draft.server.isSome then none else some { draft with server := some value }

/-- What a finished draft asks for. An input is needed. -/
def command (draft : Draft) : Command :=
  match draft.input with
  | none => .misuse
  | some input => .generate { input, output := draft.output, server := draft.server }

end Draft

/-- What the form of an argument makes of it. -/
inductive Argument where
  /-- The end of the options. -/
  | separator
  /-- A value of its own. -/
  | value
  /-- An option that takes a value, with the value if it is attached. -/
  | option (set : Draft → String → Option Draft) (attached : Option String)
  /-- The question for the version. -/
  | version
  /-- The question for the help. -/
  | help
  /-- Anything else that looks like an option. -/
  | unknown

/-- A long option, from behind its two hyphens. A value is attached by an equals sign. -/
def longOption (s : List Char) : Argument :=
  let attached :=
    match s.dropWhile (· != '=') with
    | [] => none
    | _ :: value => some (String.ofList value)
  match String.ofList (s.takeWhile (· != '=')), attached with
  | "output", attached => .option Draft.setOutput? attached
  | "server", attached => .option Draft.setServer? attached
  | "version", none => .version
  | "help", none => .help
  | _, _ => .unknown

/-- Short options, from behind their hyphen. A value is attached directly or by an equals sign. -/
def shortOptions (s : List Char) : Argument :=
  match s with
  | ['o'] => .option Draft.setOutput? none
  | 'o' :: '=' :: value => .option Draft.setOutput? (some (String.ofList value))
  | 'o' :: value => .option Draft.setOutput? (some (String.ofList value))
  | 'V' :: _ => .version
  | 'h' :: _ => .help
  | _ => .unknown

/-- The form of an argument. A single hyphen is a value. -/
def Argument.ofString (s : String) : Argument :=
  match s.toList with
  | ['-', '-'] => .separator
  | '-' :: '-' :: rest => longOption rest
  | '-' :: c :: rest => shortOptions (c :: rest)
  | _ => .value

/-- What a command line asks for if only values follow. -/
def commandOfValues (draft : Draft) : List String → Command
  | [] => draft.command
  | value :: rest =>
    match draft.setInput? value with
    | none => .misuse
    | some draft => commandOfValues draft rest

/-- What a command line asks for, after some of its arguments. An option takes the next argument for
its value only if that is a value. -/
def commandOf (draft : Draft) : List String → Command
  | [] => draft.command
  | argument :: rest =>
    match Argument.ofString argument with
    | .separator => commandOfValues draft rest
    | .version => .version
    | .help => .help
    | .unknown => .misuse
    | .value =>
      match draft.setInput? argument with
      | none => .misuse
      | some draft => commandOf draft rest
    | .option set (some value) =>
      match set draft value with
      | none => .misuse
      | some draft => commandOf draft rest
    | .option set none =>
      match rest with
      | [] => .misuse
      | value :: rest =>
        match Argument.ofString value with
        | .value =>
          match set draft value with
          | none => .misuse
          | some draft => commandOf draft rest
        | _ => .misuse

/-- What the arguments of a run ask for. -/
def Command.ofArguments (arguments : List String) : Command := commandOf .empty arguments

end RestClient.CommandLine
