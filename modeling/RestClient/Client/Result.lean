import RestClient.MediaType
import RestClient.Names
import RestClient.TypeScript.Declaration

/-! # The type of the result

Every response becomes a variant with the type of its status, its headers and, if it has a body, its
data. The result is the union of the variants. An operation without responses has no result at all,
which is reported. -/

namespace RestClient

open RestClient.TypeScript

/-- The fields of the variant of a response. -/
def Response.variantFields (response : Response) : List Field :=
  [{ key := "status", type := response.statusType, required := true },
    { key := "headers", type := "Headers", required := true }] ++
    response.bodyType?.toList.map fun type => { key := "data", type, required := true }

/-- The body of the variant of a response. -/
def Response.variantBody (response : Response) : String :=
  objectBody (response.variantFields.map Field.format)

/-- The union of types with the given names. -/
def unionOf (names : List String) : String := " ".intercalate (names.map ("| " ++ ·))

/-- The declaration of the result, followed by those of its variants. -/
def resultText (resultType : String) (variants : List (String × Response)) : String :=
  "\n\n".intercalate
    (declaration resultType (unionOf (variants.map (·.1))) ::
      variants.map fun (name, response) => declaration name response.variantBody)

/-- The declarations of the result of an operation. -/
def Operation.resultDeclarations (op : Operation) (names : Names) (phrases : PhraseTable) :
    Logged String :=
  if op.responses.isEmpty then
    .after (.noResponses op.path) (.silent (declaration names.resultType "never"))
  else
    (Logged.traverse (names.variant phrases) op.responses).map fun variants =>
      resultText names.resultType (variants.zip op.responses)

end RestClient
