import RestClient.Client.Url
import RestClient.MediaType
import RestClient.Names
import RestClient.TypeScript.Stmt

/-! # The request function

The function of an operation performs one request: it builds the query if there are query
parameters, fetches the address, reads the body as the media types of the responses ask, and returns
the status, the headers and the data. -/

namespace RestClient

open RestClient.Text RestClient.TypeScript

/-- The name of the type of request options. -/
def requestOptions : String := "RequestOptions"

/-- The parameters of the request. -/
def paramsVariable : Expr := .identifier "params"

/-- The response of the request. -/
def responseVariable : Expr := .identifier "response"

/-- The query parameters of a request in the form of an address: missing values are left out, and a
list gives its key once for each of its values. -/
def searchCode : String :=
  "new URLSearchParams(Object.entries(params.query ?? \x7b\x7d).flatMap(([key, value]) => " ++
    "value === undefined ? [] : Array.isArray(value) ? " ++
    "value.map((item) => [key, String(item)]) : [[key, String(value)]]))"

/-- The statements that build the query. The question mark is there only if something follows it. -/
def queryStatements : List Stmt := [
  .constant "search" (.call (.member (.raw searchCode) "toString") []),
  .constant "query"
    (.conditional (.identifier "search")
      (.template [.text "?", .substitution (.identifier "search")]) (.literal ""))]

/-- The content type that announces a body. Forms announce themselves, with the boundary of their
parts. -/
def BodyParam.contentType? (body : BodyParam) : Option String :=
  let mediaType := trim body.mediaType.toList
  if mediaType.isEmpty ∨ "multipart/form-data".toList.isPrefixOf mediaType then none
  else some (String.ofList mediaType)

/-- The headers of a request. -/
def Operation.headerEntries (op : Operation) : List Entry :=
  ((op.bodyParam.bind BodyParam.contentType?).toList.map fun mediaType =>
      .property "Content-Type" (.literal mediaType)) ++
    if op.headerParams.isEmpty then [] else [.spread (.member paramsVariable "headers")]

/-- A body as it is sent: JSON as text, all else as it is. -/
def BodyParam.encoded (body : BodyParam) : Expr :=
  let data : Expr := .member paramsVariable "data"
  if isJson body.mediaType then .call (.member (.identifier "JSON") "stringify") [data]
  else .cast data (.named "BodyInit")

/-- The second argument of the request: method, headers, body and signal. -/
def Operation.requestInit (op : Operation) : Expr :=
  .object
    (.property "method" (.literal op.verb.method) ::
      (if op.headerEntries.isEmpty then [] else [.property "headers" (.object op.headerEntries)]) ++
      (op.bodyParam.toList.map fun body => .property "body" body.encoded) ++
      [.property "signal" (.member (.identifier "options") "signal")])

/-- The body of the response, read by a method. -/
def readBody (method : String) : Expr := .await (.call (.member responseVariable method) [])

/-- The statements that read the body of the response. -/
def BodyReading.statements : BodyReading → List Stmt
  | .unread => []
  | .json => [.constant "data" (readBody "json")]
  | .text => [.constant "data" (readBody "text")]
  | .mixed => [
    .constant "contentType"
      (.nullish
        (.call (.member (.member responseVariable "headers") "get") [.literal "content-type"])
        (.literal "")),
    .declare .mutable "data" (some .any) none,
    .branch
      (.call (.member (.identifier "contentType") "includes") [.literal "application/json"])
      [.assign "data" (readBody "json")]
      [.assign "data" (readBody "text")]]

/-- The entries of the result. -/
def BodyReading.resultEntries (reading : BodyReading) : List Entry :=
  [.property "status" (.member responseVariable "status"),
    .property "headers" (.member responseVariable "headers")] ++
    if reading.hasData then [.shorthand "data"] else []

/-- The request function of an operation. -/
def Operation.requestFunction (op : Operation) (names : Names) : Function :=
  let hasQuery := !op.queryParams.isEmpty
  { name := names.function
    parameters := [
      { name := "params", type := .named names.paramsType, default := none },
      { name := "options", type := .named requestOptions, default := some (.object []) }]
    returnType := .promise (.named names.resultType)
    body :=
      (if hasQuery then queryStatements else []) ++
      .constant "response"
          (.await (.call (.identifier "fetch")
            [.template (urlTemplate op.server op.path hasQuery), op.requestInit])) ::
        op.bodyReading.statements ++
      [.result (.cast (.object op.bodyReading.resultEntries) (.named names.resultType))] }

end RestClient
