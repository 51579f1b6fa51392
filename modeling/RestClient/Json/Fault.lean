import RestClient.Decimal.Shortest
import RestClient.Text.Quoted

/-! # What is wrong with a text

Reading a text ends at the first thing that does not fit. A `Fault` is the cause: the text breaks
off, it is no JSON, or it is JSON of another shape than expected. `Fault.message` words it and
`Fault.category` tells the three kinds apart. -/

namespace RestClient.Json

open RestClient.Text

/-- What is still open where a text breaks off. -/
inductive Unfinished where
  /-- A value that has not begun, or a literal. -/
  | value
  /-- A list. -/
  | list
  /-- An object. -/
  | object
  /-- A string. -/
  | string
  deriving DecidableEq, Repr

/-- A place where a text is no JSON. -/
inductive Malformation where
  /-- A character that begins no value. -/
  | expectedValue
  /-- A misspelt literal. -/
  | expectedIdent
  /-- A number with a digit missing or too many. -/
  | invalidNumber
  /-- A number beyond the largest finite one. -/
  | numberOutOfRange
  /-- A comma before a closing bracket. -/
  | trailingComma
  /-- Something behind the end. -/
  | trailingCharacters
  /-- Neither comma nor bracket behind an element. -/
  | expectedListEnd
  /-- Neither comma nor brace behind a member. -/
  | expectedObjectEnd
  /-- No colon behind a key. -/
  | expectedColon
  /-- A key that is no string. -/
  | expectedKey
  /-- A control character in a string. -/
  | controlCharacter
  /-- An unknown escape, or one with a digit that is not hexadecimal. -/
  | invalidEscape
  /-- Half of a surrogate pair where the other half should come first or next. -/
  | loneSurrogate
  /-- The first half of a surrogate pair without an escape behind it. -/
  | unexpectedEscapeEnd
  deriving DecidableEq, Repr

/-- A value that is not what was expected. -/
inductive Found where
  /-- The literal `null`. -/
  | null
  /-- A boolean. -/
  | boolean (value : Bool)
  /-- A whole number of at most 64 bits. -/
  | integer (value : Int)
  /-- Any other number. -/
  | float (negative : Bool) (magnitude : Binary64)
  /-- A string. -/
  | string (value : List Char)
  /-- A list. -/
  | sequence
  /-- An object. -/
  | map
  deriving DecidableEq, Repr

/-- What a reader expects. -/
inductive Expected where
  /-- A string. -/
  | string
  /-- A boolean. -/
  | boolean
  /-- A list. -/
  | sequence
  /-- The value that carries nothing. -/
  | unit
  /-- A record with the given name. -/
  | record (name : String)
  deriving DecidableEq, Repr

/-- The cause of a failure to read. -/
inductive Fault where
  /-- The text ends inside something. -/
  | cutOff (inside : Unfinished)
  /-- The text is no JSON. -/
  | malformed (cause : Malformation)
  /-- A value of another kind than expected. -/
  | wrongType (found : Found) (expected : Expected)
  /-- A record written as a list of too few elements. -/
  | wrongLength (length : Nat) (record : String) (size : Nat)
  /-- A record without a field that it must have. -/
  | missingField (name : String)
  /-- A record that has a field twice. -/
  | duplicateField (name : String)
  /-- A name that is none of the known ones. -/
  | unknownVariant (name : String) (known : List String)
  deriving DecidableEq, Repr

/-- The three kinds of faults. -/
inductive Category where
  /-- JSON of the wrong shape. -/
  | data
  /-- No JSON. -/
  | form
  /-- The beginning of some JSON. -/
  | ending
  deriving DecidableEq, Repr

/-- The kind of a fault. -/
def Fault.category : Fault → Category
  | .cutOff _ => .ending
  | .malformed _ => .form
  | _ => .data

/-! ### Wording -/

/-- A text between back quotes. -/
def ticked (s : String) : String := "`" ++ s ++ "`"

/-- What is open, in words. -/
def Unfinished.words : Unfinished → String
  | .value => "a value"
  | .list => "a list"
  | .object => "an object"
  | .string => "a string"

/-- A malformation in words. -/
def Malformation.words : Malformation → String
  | .expectedValue => "expected value"
  | .expectedIdent => "expected ident"
  | .invalidNumber => "invalid number"
  | .numberOutOfRange => "number out of range"
  | .trailingComma => "trailing comma"
  | .trailingCharacters => "trailing characters"
  | .expectedListEnd => "expected `,` or `]`"
  | .expectedObjectEnd => "expected `,` or `\x7d`"
  | .expectedColon => "expected `:`"
  | .expectedKey => "key must be a string"
  | .controlCharacter => "control character (\\u0000-\\u001F) found while parsing a string"
  | .invalidEscape => "invalid escape"
  | .loneSurrogate => "lone leading surrogate in hex escape"
  | .unexpectedEscapeEnd => "unexpected end of hex escape"

/-- A value in words. -/
def Found.words : Found → String
  | .null => "null"
  | .boolean value => "boolean " ++ ticked (if value then "true" else "false")
  | .integer value => "integer " ++ ticked (toString value)
  | .float negative magnitude =>
    "floating point " ++
      ticked ((if negative then "-" else "") ++ String.ofList magnitude.text)
  | .string value => "string " ++ String.ofList (quoted value)
  | .sequence => "sequence"
  | .map => "map"

/-- What was expected, in words. -/
def Expected.words : Expected → String
  | .string => "a string"
  | .boolean => "a boolean"
  | .sequence => "a sequence"
  | .unit => "unit"
  | .record name => "struct " ++ name

/-- The cause in words. -/
def Fault.message : Fault → String
  | .cutOff inside => "EOF while parsing " ++ inside.words
  | .malformed cause => cause.words
  | .wrongType found expected => "invalid type: " ++ found.words ++ ", expected " ++ expected.words
  | .wrongLength length record size =>
    "invalid length " ++ toString length ++ ", expected struct " ++ record ++ " with " ++
      toString size ++ " elements"
  | .missingField name => "missing field " ++ ticked name
  | .duplicateField name => "duplicate field " ++ ticked name
  | .unknownVariant name known =>
    "unknown variant " ++ ticked name ++ ", expected one of " ++ ", ".intercalate (known.map ticked)

end RestClient.Json
