import RestClient.Status
import RestClient.Text.UpperCase
import RestClient.TypeScript.Identifier

/-! # Names of operations

All names of an operation derive from one base name: the keyword of its verb, followed by the words
of its path. A path is taken segment by segment; placeholders do not appear in the name, and some
words lose their plural `s`.

* `baseName` is the base name;
* `Names.ofPath` holds the names of the function and its two types;
* `Names.variant` is the name of the type of one response. -/

namespace RestClient

open RestClient.Text RestClient.TypeScript

/-! ### Segments of a path -/

/-- The pieces of a path between slashes, without the empty ones. -/
def segments (path : List Char) : List (List Char) :=
  (path.splitOn '/').filter fun segment => !segment.isEmpty

/-- A segment in braces, which stands for a parameter. -/
def isPlaceholder (segment : List Char) : Bool :=
  segment.head? == some '{' && segment.getLast? == some '}'

/-- A word without its last letter if that is an `s`. -/
def singular (word : List Char) : List Char :=
  if word.getLast? = some 's' then word.dropLast else word

/-- The literal segments, each in the singular iff the segment right after it is a placeholder. -/
def indexedLiterals : List (List Char) → List (List Char)
  | [] => []
  | segment :: rest =>
    if isPlaceholder segment then indexedLiterals rest
    else
      (if rest.head?.any isPlaceholder then singular segment else segment) :: indexedLiterals rest

/-- A list of words with the last one in the singular. -/
def singularLast : List (List Char) → List (List Char)
  | [] => []
  | [word] => [singular word]
  | word :: rest => word :: singularLast rest

/-- The literal segments of a path as they go into a name. Reading one item of a collection drops
the plural of the collection; every other verb drops that of the last literal. -/
def literals (verb : Verb) (path : List Char) : List (List Char) :=
  match verb with
  | .get => indexedLiterals (segments path)
  | _ => singularLast ((segments path).filter fun segment => !isPlaceholder segment)

/-! ### Base names -/

/-- The maximal runs of ASCII letters and digits of a text. -/
def alphanumericRuns (s : List Char) : List (List Char) :=
  (s.splitOnP fun c => !c.isAlphanum).filter fun run => !run.isEmpty

/-- A text in camel case: its runs of letters and digits, the first one with a small first letter
and the others with a capital. -/
def camelCase (s : List Char) : List Char :=
  match alphanumericRuns s with
  | [] => []
  | [] :: runs => runs.flatMap capitalize
  | (c :: first) :: runs => c.toLower :: first ++ runs.flatMap capitalize

/-- The base name of an operation. -/
def baseName (path : String) (verb : Verb) : String :=
  String.ofList
    (camelCase (['-'].intercalate (verb.keyword.toList :: literals verb path.toList)))

/-! ### Derived names -/

/-- The names of an operation. -/
structure Names where
  /-- The base name. -/
  base : String
  /-- The name of the request function. -/
  function : String
  /-- The name of the type of its parameters. -/
  paramsType : String
  /-- The name of the type of its result. -/
  resultType : String
  /-- The base name with a capital, with which the names of variants begin. -/
  pascal : String
  deriving DecidableEq, Repr

/-- A text with its first character in upper case. -/
def capitalized (s : String) : String := String.ofList (capitalize s.toList)

/-- The names of the operation at a path. A base name that is a reserved word is put behind an
underscore where it names the function. -/
def Names.ofPath (path : String) (verb : Verb) : Names :=
  let base := baseName path verb
  let pascal := capitalized base
  { base
    function := if isReserved base then "_" ++ base else base
    paramsType := pascal ++ "Params"
    resultType := pascal ++ "Result"
    pascal }

/-- The names of an operation. -/
def Operation.names (op : Operation) : Names := .ofPath op.path op.verb

/-- The name of the type of one response. -/
def Names.variant (names : Names) (phrases : PhraseTable) (response : Response) : Logged String :=
  (response.phrase phrases).map fun phrase => names.pascal ++ phrase ++ "Result"

end RestClient
