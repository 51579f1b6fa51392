import RestClient.Descriptor.Operation
import RestClient.Json.Record

/-! # Descriptors as JSON

The formats of the descriptors, as tables of their fields, and the two functions on whole lists of
operations that use them.

* `Operation.readAll` reads the operations in a text, or says why it cannot;
* `Operation.printAll` writes operations as compact JSON, with the fields in the order of the
  tables. -/

namespace RestClient

open RestClient.Json

/-- The names of verbs. -/
def Verb.format : Format Verb := .choice (Verb.all.map Verb.name) Verb.ofName? Verb.name

/-- The format of parameters. -/
def Param.format : Format Param :=
  .record "Param"
    (.field "name" .text .required <|
      .field "type" .text .required <|
      .field "required" .flag (.defaultsTo false) <|
      .field "description" (.optional .text) .optional .done)
    (fun (name, type, required, description, ()) => { name, type, required, description })
    (fun p => (p.name, p.type, p.required, p.description, ()))

/-- The format of bodies. A body is JSON unless its media type says otherwise. -/
def BodyParam.format : Format BodyParam :=
  .record "BodyParam"
    (.field "name" .text (.defaultsTo "") <|
      .field "type" .text .required <|
      .field "required" .flag (.defaultsTo false) <|
      .field "description" (.optional .text) .optional <|
      .field "mediaType" .text (.defaultsTo "application/json") .done)
    (fun (name, type, required, description, mediaType, ()) =>
      { name, type, required, description, mediaType })
    (fun b => (b.name, b.type, b.required, b.description, b.mediaType, ()))

/-- The format of media types of responses. -/
def MediaTypeDef.format : Format MediaTypeDef :=
  .record "MediaTypeDef"
    (.field "mediaType" .text .required <|
      .field "type" .text (.defaultsTo "") .done)
    (fun (mediaType, type, ()) => { mediaType, type })
    (fun m => (m.mediaType, m.type, ()))

/-- The format of responses. -/
def Response.format : Format Response :=
  .record "ResponseDef"
    (.field "code" .text .required <|
      .field "mediaTypes" (.list MediaTypeDef.format) (.defaultsTo []) .done)
    (fun (code, mediaTypes, ()) => { code, mediaTypes })
    (fun r => (r.code, r.mediaTypes, ()))

/-- The format of operations. -/
def Operation.format : Format Operation :=
  .record "Operation"
    (.field "path" .text .required <|
      .field "verb" Verb.format .required <|
      .field "server" .text (.defaultsTo "") <|
      .field "positionalParams" (.list Param.format) (.defaultsTo []) <|
      .field "queryParams" (.list Param.format) (.defaultsTo []) <|
      .field "headerParams" (.list Param.format) (.defaultsTo []) <|
      .field "bodyParam" (.optional BodyParam.format) .optional <|
      .field "responses" (.list Response.format) (.defaultsTo []) .done)
    (fun (path, verb, server, positionalParams, queryParams, headerParams, bodyParam, responses,
        ()) =>
      { path, verb, server, positionalParams, queryParams, headerParams, bodyParam, responses })
    (fun op =>
      (op.path, op.verb, op.server, op.positionalParams, op.queryParams, op.headerParams,
        op.bodyParam, op.responses, ()))

/-- The operations in a text. -/
def Operation.readAll (text : String) : Except Fault (List Operation) :=
  (Format.list Operation.format).readAll text.toList

/-- Operations as compact JSON. -/
def Operation.printAll (ops : List Operation) : String :=
  String.ofList ((Format.list Operation.format).print ops)

end RestClient
