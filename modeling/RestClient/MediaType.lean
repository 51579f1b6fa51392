import RestClient.Descriptor.Operation
import RestClient.Text.Blank

/-! # Media types

What a media type says about a body, and how the body of a response is read.

* `isJson` and `isText` look for a word anywhere in the media type;
* `BodyReading.ofMediaTypes` chooses how a function reads bodies, from all media types it may meet;
* `Response.bodyType?` is the type of the body of one response. -/

namespace RestClient

open RestClient.Text

/-- Whether a word occurs in a text. -/
def occursIn (word : List Char) : List Char → Bool
  | [] => word.isEmpty
  | c :: rest => word.isPrefixOf (c :: rest) || occursIn word rest

/-- **A word occurs in a text iff the text holds it between two others.** -/
theorem occursIn_iff {word s : List Char} : occursIn word s = true ↔ word <:+: s := by
  induction s with
  | nil => simp [occursIn]
  | cons c rest ih => simp [occursIn, ih, List.infix_cons_iff]

/-- A media type whose body is read as JSON. -/
def isJson (mediaType : String) : Bool := occursIn "application/json".toList mediaType.toList

/-- A media type whose body is text. -/
def isText (mediaType : String) : Bool := occursIn "text".toList mediaType.toList

/-- How the body of a response is read. -/
inductive BodyReading where
  /-- Always as JSON. -/
  | json
  /-- Always as text. -/
  | text
  /-- As JSON or text, by the content type of the response. -/
  | mixed
  /-- Not at all. -/
  | unread
  deriving DecidableEq, Repr

/-- How bodies of the given media types are read: those of JSON as JSON and all others as text. -/
def BodyReading.ofMediaTypes (mediaTypes : List String) : BodyReading :=
  match mediaTypes.any isJson, mediaTypes.any fun m => !isJson m with
  | true, false => .json
  | false, true => .text
  | true, true => .mixed
  | false, false => .unread

/-- How the bodies of an operation are read. -/
def Operation.bodyReading (op : Operation) : BodyReading := .ofMediaTypes op.responseMediaTypes

/-- Whether a result carries data. -/
def BodyReading.hasData (reading : BodyReading) : Bool := reading != .unread

/-- A type, or `any` where it was left blank. -/
def typeOrAny (type : String) : String := if isBlankText type.toList then "any" else type

/-- The form of a response that gives its type: the first one of JSON, else the first one of text,
else the first. -/
def Response.chosenMediaType? (response : Response) : Option MediaTypeDef :=
  (response.mediaTypes.find? fun m => isJson m.mediaType)
    <|> (response.mediaTypes.find? fun m => isText m.mediaType)
    <|> response.mediaTypes.head?

/-- The type of the body of a response, if it has one. -/
def Response.bodyType? (response : Response) : Option String :=
  response.chosenMediaType?.map fun m => typeOrAny m.type

end RestClient
