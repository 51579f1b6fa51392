import RestClient.CommandLine.Log
import RestClient.CommandLine.Threshold
import RestClient.Text.Alphanumeric
import RestClient.Text.Blank
import RestClient.Text.Bytes
import RestClient.Text.Pattern

/-! # Directives

A directive is a rule for the events in the log, written `target[span{field}]=level`. It lets the
events of some targets pass from a level on. A level alone is about all targets, and without a level
everything passes. A field in braces leaves only the events that have it. A span, or a field with a
value, asks for what goes on inside spans; this program has none.

* `Directive.covers` says which events a directive is about;
* `Layout.ofText?` divides a text at its signs, and `Directive.ofText` reads the parts. -/

namespace RestClient.CommandLine

open RestClient.Text

/-- The events that a directive is about, among those of its targets. -/
inductive Scope where
  /-- All of them. -/
  | all
  /-- Those that have a field. -/
  | having (field : String)
  /-- Those inside some spans. -/
  | spans
  deriving DecidableEq, Repr

/-- A rule for events. -/
structure Directive where
  /-- What the targets begin with. -/
  target : String
  /-- Which events of these targets are meant. -/
  scope : Scope
  /-- What passes. -/
  threshold : Threshold
  deriving DecidableEq, Repr

/-- Whether an event is in a scope. No event is inside a span. -/
def Scope.contains (scope : Scope) (event : Event) : Bool :=
  match scope with
  | .all => true
  | .having field => field = "message" ∨ field ∈ event.fields.map Prod.fst
  | .spans => false

/-- Whether a directive is about an event. -/
def Directive.covers (directive : Directive) (event : Event) : Bool :=
  directive.target.toList.isPrefixOf event.target.toList && directive.scope.contains event

/-! ### Reading -/

/-- What is wrong with a directive. -/
inductive DirectiveFault where
  /-- It has not the form of a directive. -/
  | malformed
  /-- The value of its field is neither a number nor a pattern that can be matched. -/
  | field (fault : Pattern.Fault)
  /-- It names no level behind its equals sign. -/
  | unknownLevel
  deriving DecidableEq, Repr

/-- The fault in words. -/
def DirectiveFault.message : DirectiveFault → String
  | .malformed => "invalid filter directive"
  | .field fault => "invalid field filter: " ++ fault.message
  | .unknownLevel =>
    "error parsing level filter: expected one of \"off\", \"error\", \"warn\", \"info\", " ++
      "\"debug\", \"trace\", or a number 0-5"

/-- What stands in brackets. -/
inductive Bracket where
  /-- The name of a span. -/
  | span
  /-- A field in braces, with the name of a span before it, if there is one. -/
  | field (span text : List Char)
  deriving DecidableEq, Repr

/-- The parts of a directive, as its signs divide it. -/
structure Layout where
  /-- What stands before the signs. -/
  target : List Char
  /-- What stands in brackets, if there are any. -/
  bracket : Option Bracket
  /-- What follows. The brackets with a field in them are not yet closed there. -/
  rest : List Char
  deriving DecidableEq, Repr

/-- Whether a target may begin with a character. -/
def startsTarget (c : Char) : Bool := isAlphanumeric c || c == '-' || c == ':' || c == '_'

/-- What stands in the brackets whose first one has been read, with what follows the name of a span
and its bracket, or a field and its brace. No field is empty. -/
def Bracket.read? (s : List Char) : Option (Bracket × List Char) :=
  let inSpan := fun c : Char => c != ']' && c != '\x7b'
  match s.dropWhile inSpan with
  | [] => none
  | ']' :: rest => some (.span, rest)
  | _ :: s' =>
    match s'.takeWhile (· != '\x7d'), s'.dropWhile (· != '\x7d') with
    | c :: text, _ :: rest => some (.field (s.takeWhile inSpan) (c :: text), rest)
    | _, _ => none

/-- The parts of a text, up to where it has the form of a directive. -/
def Layout.ofText? (s : List Char) : Option Layout :=
  let inTarget := fun c : Char => c != '[' && c != '='
  if !(s.head?.any fun c => c == '[' || startsTarget c) then none
  else
    match s.takeWhile inTarget, s.dropWhile inTarget with
    | target, '[' :: r =>
      (Bracket.read? r).map fun (bracket, rest) => ⟨target, some bracket, rest⟩
    | target, rest => some ⟨target, none, rest⟩

/-- What follows the closed brackets. -/
def Layout.behindBracket? (layout : Layout) : Option (List Char) :=
  match layout.bracket, layout.rest with
  | some (.field _ _), ']' :: rest => some rest
  | some (.field _ _), _ => none
  | _, rest => some rest

/-- What stands in `text` where `part` stands in a text that goes on with it after `before`. Places
are counted in bytes. -/
def counterpart (text before part : List Char) : List Char :=
  takeBytes (byteSize part) (dropBytes (byteSize before) text)

/-- Whether a text is the exponent of a number. -/
def isExponent (s : List Char) : Bool :=
  let digits := if s.head? = some '+' ∨ s.head? = some '-' then s.tail else s
  !digits.isEmpty && digits.all Char.isDigit

/-- Whether a text is a number without a sign: digits, perhaps with a point and an exponent, or the
name of infinity or of what is no number. -/
def isUnsignedNumber (s : List Char) : Bool :=
  let whole := s.takeWhile Char.isDigit
  let r := s.dropWhile Char.isDigit
  let pointed := r.head? == some '.'
  let fraction := if pointed then r.tail.takeWhile Char.isDigit else []
  let exponent := if pointed then r.tail.dropWhile Char.isDigit else r
  lowerCase (String.ofList s) ∈ ["inf", "infinity", "nan"] ||
    (!(whole ++ fraction).isEmpty &&
      (exponent.isEmpty || (exponent.head?.any (·.toLower == 'e') && isExponent exponent.tail)))

/-- What is wrong with the value of a field. It is a pattern, unless a plus sign makes it a number;
any other number is a pattern too. -/
def valueFault? (value : List Char) : Option Pattern.Fault :=
  if value.head? = some '+' && isUnsignedNumber value.tail then none else Pattern.fault? value

/-- The scope of a field with the span before it. The value of a field stands between its first two
equals signs. -/
def Scope.ofField (span field : List Char) : Except DirectiveFault Scope :=
  match field.dropWhile (· != '=') with
  | [] => .ok (if span.isEmpty then .having (String.ofList field) else .spans)
  | _ :: value =>
    match valueFault? (value.takeWhile (· != '=')) with
    | some fault => .error (.field fault)
    | none => .ok .spans

/-- The scope that the brackets of a layout stand for, with the field from the text. -/
def Layout.scope (layout : Layout) (text : List Char) : Except DirectiveFault Scope :=
  match layout.bracket with
  | none => .ok .all
  | some .span => .ok .spans
  | some (.field span field) =>
    Scope.ofField span (counterpart text (layout.target ++ '[' :: span ++ ['\x7b']) field)

/-- The threshold of a level. No level lets everything pass. -/
def thresholdOfLevel (level : List Char) : Except DirectiveFault Threshold :=
  if level.isEmpty then .ok (some .trace)
  else
    match thresholdOf? (String.ofList level) with
    | some threshold => .ok threshold
    | none => .error .unknownLevel

/-- The threshold in a layout of `core`, with the level from the text. -/
def Layout.threshold (layout : Layout) (core text : List Char) : Except DirectiveFault Threshold :=
  match layout.behindBracket? with
  | some [] => .ok (some .trace)
  | some ('=' :: level) => thresholdOfLevel (dropBytes (byteSize core - byteSize level) text)
  | _ => .error .malformed

/-- The directive of a text without signs: a level for all targets, or else a target. -/
def Directive.ofWord (word : String) : Directive :=
  match thresholdOf? word with
  | some threshold => ⟨"", .all, threshold⟩
  | none => ⟨word, .all, some .trace⟩

/-- A directive, or what is wrong with it. Its parts are looked for in the text without the blanks
at its ends, and are then taken from the same places of the whole text, so that blanks in front move
every part. -/
def Directive.ofText (text : List Char) : Except DirectiveFault Directive :=
  match Layout.ofText? (trim text) with
  | none => .error .malformed
  | some ⟨_, none, []⟩ => .ok (.ofWord (String.ofList text))
  | some layout =>
    match layout.scope text, layout.threshold (trim text) text with
    | .error fault, _ => .error fault
    | .ok _, .error fault => .error fault
    | .ok scope, .ok threshold =>
      .ok ⟨String.ofList (counterpart text [] layout.target), scope, threshold⟩

end RestClient.CommandLine
