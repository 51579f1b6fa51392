import RestClient.Descriptor.Operation
import RestClient.Event

/-! # Status codes

What a status code contributes to names and types: a phrase for the name of its variant, and the
literal type of the status field.

* `standardPhrase` is the table of the registered codes;
* `Response.phrase` falls back to the code itself where the table has no phrase, and reports it. The
  default response has a phrase of its own and never looks at the table. -/

namespace RestClient

/-- A table of phrases for status codes. -/
abbrev PhraseTable := String → Option String

/-- The registered status codes with their phrases. -/
def registeredPhrases : List (String × String) := [
  ("100", "Continue"), ("101", "SwitchingProtocols"), ("102", "Processing"), ("103", "EarlyHints"),
  ("200", "Ok"), ("201", "Created"), ("202", "Accepted"), ("203", "NonAuthoritativeInformation"),
  ("204", "NoContent"), ("205", "ResetContent"), ("206", "PartialContent"), ("207", "MultiStatus"),
  ("208", "AlreadyReported"), ("226", "ImUsed"), ("300", "MultipleChoices"),
  ("301", "MovedPermanently"), ("302", "Found"), ("303", "SeeOther"), ("304", "NotModified"),
  ("305", "UseProxy"), ("307", "TemporaryRedirect"), ("308", "PermanentRedirect"),
  ("400", "BadRequest"), ("401", "Unauthorized"), ("402", "PaymentRequired"), ("403", "Forbidden"),
  ("404", "NotFound"), ("405", "MethodNotAllowed"), ("406", "NotAcceptable"),
  ("407", "ProxyAuthenticationRequired"), ("408", "RequestTimeout"), ("409", "Conflict"),
  ("410", "Gone"), ("411", "LengthRequired"), ("412", "PreconditionFailed"),
  ("413", "PayloadTooLarge"), ("414", "UriTooLong"), ("415", "UnsupportedMediaType"),
  ("416", "RangeNotSatisfiable"), ("417", "ExpectationFailed"), ("418", "ImATeapot"),
  ("421", "MisdirectedRequest"), ("422", "UnprocessableEntity"), ("423", "Locked"),
  ("424", "FailedDependency"), ("425", "TooEarly"), ("426", "UpgradeRequired"),
  ("428", "PreconditionRequired"), ("429", "TooManyRequests"),
  ("431", "RequestHeaderFieldsTooLarge"), ("451", "UnavailableForLegalReasons"),
  ("500", "InternalServerError"), ("501", "NotImplemented"), ("502", "BadGateway"),
  ("503", "ServiceUnavailable"), ("504", "GatewayTimeout"), ("505", "HttpVersionNotSupported"),
  ("506", "VariantAlsoNegotiates"), ("507", "InsufficientStorage"), ("508", "LoopDetected"),
  ("510", "NotExtended"), ("511", "NetworkAuthenticationRequired")]

/-- The table of the registered codes. -/
def standardPhrase : PhraseTable := fun code => registeredPhrases.lookup code

/-- The ASCII letters and digits of a code. -/
def plainCode (code : String) : String := String.ofList (code.toList.filter Char.isAlphanum)

/-- The phrase of a response in the name of its variant. -/
def Response.phrase (phrases : PhraseTable) (response : Response) : Logged String :=
  if response.isDefault then .silent "Default"
  else
    match phrases response.code with
    | some phrase => .silent phrase
    | none => .after (.unknownCode response.code) (.silent ("Status" ++ plainCode response.code))

/-- A code that is a number. -/
def isNumericCode (code : String) : Bool := !code.isEmpty && code.toList.all Char.isDigit

/-- The type of the status field: the code itself if it is a number, `500` for the default response,
and any number otherwise. -/
def Response.statusType (response : Response) : String :=
  if response.isDefault then "500"
  else if isNumericCode response.code then response.code
  else "number"

end RestClient
