import RestClient.MediaType
import RestClient.Names
import RestClient.TypeScript.Comment
import RestClient.TypeScript.Declaration
import RestClient.TypeScript.Literal

/-! # The type of the parameters

The parameters of an operation form one object: the path parameters at its top level, the body under
`data`, the query parameters under `query` and the headers under `headers`. A group without
parameters is left out, and a group has to be given iff one of its members has to. -/

namespace RestClient

open RestClient.Text RestClient.TypeScript

/-- A field with its description above it, unless the description is blank. -/
def documented (description : Option String) (field : Field) : String :=
  match description with
  | none => field.format
  | some text =>
    if isBlankText text.toList then field.format else docComment text ++ "\n" ++ field.format

/-- A parameter as a field. -/
def Param.field (param : Param) (key : String → String) (required : Bool) : Field :=
  { key := key param.name, type := typeOrAny param.type, required }

/-- A path parameter, which always has to be given. -/
def Param.positionalEntry (param : Param) : String :=
  documented param.description (param.field propertyKey true)

/-- The body as an entry. -/
def BodyParam.entry (body : BodyParam) : String :=
  documented body.description
    { key := "data", type := typeOrAny body.type, required := body.required }

/-- A member of a group. -/
def Param.memberEntry (key : String → String) (param : Param) : String :=
  documented param.description (param.field key param.required)

/-- The members of a group as entries, in order. -/
def memberEntries (key : String → String) (params : List Param) : List String :=
  params.map (Param.memberEntry key)

/-- A group of parameters as one entry, or nothing for an empty group. -/
def groupEntry (name : String) (key : String → String) (params : List Param) : List String :=
  if params.isEmpty then []
  else
    [Field.format
      { key := name
        type := objectBody (memberEntries key params)
        required := params.any (·.required) }]

/-- The entries of the parameter object, in order. Header names are always quoted. -/
def Operation.paramsEntries (op : Operation) : List String :=
  op.positionalParams.map Param.positionalEntry ++
    op.bodyParam.toList.map BodyParam.entry ++
    groupEntry "query" propertyKey op.queryParams ++
    groupEntry "headers" stringLiteral op.headerParams

/-- The declaration of the type of the parameters. -/
def Operation.paramsDeclaration (op : Operation) (names : Names) : String :=
  declaration names.paramsType (objectBody op.paramsEntries)

end RestClient
