import RestClient.Descriptor.Verb

/-! # Operation descriptors

A descriptor says all about one endpoint that the generator needs: where it is, what it takes and
what it answers. Types are TypeScript type expressions, already written out. -/

namespace RestClient

/-- A parameter in the path, the query or the headers. -/
structure Param where
  /-- The name in the path template, query or header. -/
  name : String
  /-- The type of the value. -/
  type : String
  /-- Whether callers must give a value. -/
  required : Bool
  /-- What the documentation says of it. -/
  description : Option String
  deriving DecidableEq, Repr

/-- The body of a request. -/
structure BodyParam where
  /-- The name in the documentation, which no generated code uses. -/
  name : String
  /-- The type of the body. -/
  type : String
  /-- Whether callers must give a body. -/
  required : Bool
  /-- What the documentation says of it. -/
  description : Option String
  /-- The media type in which it is sent. -/
  mediaType : String
  deriving DecidableEq, Repr

/-- One form in which a response may come. -/
structure MediaTypeDef where
  /-- The media type. -/
  mediaType : String
  /-- The type of the body, blank for any type. -/
  type : String
  deriving DecidableEq, Repr

/-- What an operation answers with one status code. -/
structure Response where
  /-- The status code, or `default`. -/
  code : String
  /-- The forms of the body, none if there is no body. -/
  mediaTypes : List MediaTypeDef
  deriving DecidableEq, Repr

/-- The response that stands for all codes not listed. -/
def Response.isDefault (response : Response) : Bool := response.code == "default"

/-- An endpoint with one verb. -/
structure Operation where
  /-- The path template, with placeholders in braces. -/
  path : String
  /-- The verb. -/
  verb : Verb
  /-- The base address that goes before the path. -/
  server : String
  /-- The parameters in the path. -/
  positionalParams : List Param
  /-- The parameters in the query. -/
  queryParams : List Param
  /-- The parameters in the headers. -/
  headerParams : List Param
  /-- The body, if the operation takes one. -/
  bodyParam : Option BodyParam
  /-- The responses in the order of the documentation. -/
  responses : List Response
  deriving DecidableEq, Repr

/-- The media types of all responses, in order. -/
def Operation.responseMediaTypes (op : Operation) : List String :=
  op.responses.flatMap fun response => response.mediaTypes.map (·.mediaType)

/-- An operation at another base address. -/
def Operation.withServer (server : String) (op : Operation) : Operation := { op with server }

end RestClient
