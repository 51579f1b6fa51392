import RestClient.Client.Params
import RestClient.Client.Request
import RestClient.Client.Result

/-! # The client module

A module declares the request options once and then, for each operation in order, the type of its
parameters, the type of its result and its request function. A blank line separates the parts. -/

namespace RestClient

open RestClient.Text RestClient.TypeScript

/-- The declaration of the request options. -/
def preamble : String :=
  declaration requestOptions
    (objectBody [Field.format { key := "signal", type := "AbortSignal", required := false }])

/-- The code of one operation. -/
structure OperationCode where
  /-- The names used in it. -/
  names : Names
  /-- The declaration of the parameters. -/
  params : String
  /-- The declarations of the result. -/
  result : String
  /-- The request function. -/
  function : String
  deriving DecidableEq, Repr

/-- A text without the blanks at its end. -/
def trimmedEnd (s : String) : String := String.ofList (trimEnd s.toList)

/-- Texts one blank line apart. -/
def paragraphs (texts : List String) : String := "\n\n".intercalate texts

/-- Parts of the code of an operation as one text. -/
def sourceOf (params result function : String) : String :=
  paragraphs [trimmedEnd params, trimmedEnd result, trimmedEnd function]

/-- The code of an operation as one text. -/
def OperationCode.source (code : OperationCode) : String :=
  sourceOf code.params code.result code.function

/-- The code of an operation. -/
def Operation.code (phrases : PhraseTable) (op : Operation) : Logged OperationCode :=
  let names := op.names
  .after (.generating names.base op.verb.method op.path op.responses.length)
    ((op.resultDeclarations names phrases).map fun result =>
      { names
        params := op.paramsDeclaration names
        result
        function := (op.requestFunction names).print })

/-- The client module for a list of operations. -/
def clientModule (phrases : PhraseTable) (ops : List Operation) : Logged String :=
  ((Logged.traverse (Operation.code phrases) ops).map fun codes =>
      paragraphs (preamble :: codes.map OperationCode.source) ++ "\n").andThen
    (.generated ops.length)

end RestClient
