import RestClient.Descriptor.Load
import RestClient.Proofs.Json.Records

/-! # Descriptors and trees

What the trees of descriptors mean, written out field by field, and what follows for the texts that
operations are loaded from and written to.

* `Operation.load_eq_ok_iff`: a text loads as operations if and only if it spells a tree that means
  them;
* `Operation.load_printAll`: operations that are written are loaded again as they were. -/

namespace RestClient

open RestClient.Json

/-! ### What trees mean -/

/-- The verb that a tree stands for. -/
def Verb.ofTree? : Tree → Option Verb := choice? Verb.ofName?

/-- The parameter that a tree stands for. -/
def Param.ofTree? (t : Tree) : Option Param := do
  let [name, type, required, description] ← fields? ["name", "type", "required", "description"] t
    | none
  let name ← required? text? name
  let type ← required? text? type
  let required ← defaulted? false flag? required
  let description ← defaulted? none (optional? text?) description
  return { name, type, required, description }

/-- The body that a tree stands for. -/
def BodyParam.ofTree? (t : Tree) : Option BodyParam := do
  let [name, type, required, description, mediaType] ←
    fields? ["name", "type", "required", "description", "mediaType"] t | none
  let name ← defaulted? "" text? name
  let type ← required? text? type
  let required ← defaulted? false flag? required
  let description ← defaulted? none (optional? text?) description
  let mediaType ← defaulted? "application/json" text? mediaType
  return { name, type, required, description, mediaType }

/-- The media type that a tree stands for. -/
def MediaTypeDef.ofTree? (t : Tree) : Option MediaTypeDef := do
  let [mediaType, type] ← fields? ["mediaType", "type"] t | none
  let mediaType ← required? text? mediaType
  let type ← defaulted? "" text? type
  return { mediaType, type }

/-- The response that a tree stands for. -/
def Response.ofTree? (t : Tree) : Option Response := do
  let [code, mediaTypes] ← fields? ["code", "mediaTypes"] t | none
  let code ← required? text? code
  let mediaTypes ← defaulted? [] (list? MediaTypeDef.ofTree?) mediaTypes
  return { code, mediaTypes }

/-- The operation that a tree stands for. -/
def Operation.ofTree? (t : Tree) : Option Operation := do
  let [path, verb, server, positionalParams, queryParams, headerParams, bodyParam, responses] ←
    fields? ["path", "verb", "server", "positionalParams", "queryParams", "headerParams",
      "bodyParam", "responses"] t | none
  let path ← required? text? path
  let verb ← required? Verb.ofTree? verb
  let server ← defaulted? "" text? server
  let positionalParams ← defaulted? [] (list? Param.ofTree?) positionalParams
  let queryParams ← defaulted? [] (list? Param.ofTree?) queryParams
  let headerParams ← defaulted? [] (list? Param.ofTree?) headerParams
  let bodyParam ← defaulted? none (optional? BodyParam.ofTree?) bodyParam
  let responses ← defaulted? [] (list? Response.ofTree?) responses
  return { path, verb, server, positionalParams, queryParams, headerParams, bodyParam, responses }

/-! ### The formats read what trees mean -/

@[simp]
theorem value?_required {α : Type} {decode : Tree → Option α} :
    Fields.value? .required decode = required? decode := by
  funext t
  cases t <;> rfl

@[simp]
theorem value?_defaultsTo {α : Type} {a : α} {decode : Tree → Option α} :
    Fields.value? (.defaultsTo a) decode = defaulted? a decode := by
  funext t
  cases t <;> rfl

@[simp]
theorem value?_optional {α : Type} {decode : Tree → Option (Option α)} :
    Fields.value? .optional decode = defaulted? none decode := by
  funext t
  cases t <;> rfl

theorem decodes_verb : Verb.format.Decodes Verb.ofTree? :=
  decodes_choice fun _ => Verb.ofName?_eq_some_iff.2 rfl

theorem decodes_param : Param.format.Decodes Param.ofTree? := by
  refine decodes_record_of_fields (text?, text?, flag?, optional? text?, ()) (by decide)
    ⟨decodes_text, decodes_text, decodes_flag, decodes_text.optional rfl, trivial⟩
    (fun _ => rfl) (fun _ => rfl) fun ts => ?_
  rcases ts with _ | ⟨_, _ | ⟨_, _ | ⟨_, _ | ⟨_, _ | _⟩⟩⟩⟩ <;> simp

theorem decodes_bodyParam : BodyParam.format.Decodes BodyParam.ofTree? := by
  refine decodes_record_of_fields (text?, text?, flag?, optional? text?, text?, ()) (by decide)
    ⟨decodes_text, decodes_text, decodes_flag, decodes_text.optional rfl, decodes_text, trivial⟩
    (fun _ => rfl) (fun _ => rfl) fun ts => ?_
  rcases ts with _ | ⟨_, _ | ⟨_, _ | ⟨_, _ | ⟨_, _ | ⟨_, _ | _⟩⟩⟩⟩⟩ <;> simp

theorem decodes_mediaTypeDef : MediaTypeDef.format.Decodes MediaTypeDef.ofTree? := by
  refine decodes_record_of_fields (text?, text?, ()) (by decide)
    ⟨decodes_text, decodes_text, trivial⟩ (fun _ => rfl) (fun _ => rfl) fun ts => ?_
  rcases ts with _ | ⟨_, _ | ⟨_, _ | _⟩⟩ <;> simp

theorem decodes_response : Response.format.Decodes Response.ofTree? := by
  refine decodes_record_of_fields (text?, list? MediaTypeDef.ofTree?, ()) (by decide)
    ⟨decodes_text, decodes_mediaTypeDef.list, trivial⟩ (fun _ => rfl) (fun _ => rfl) fun ts => ?_
  rcases ts with _ | ⟨_, _ | ⟨_, _ | _⟩⟩ <;> simp

theorem decodes_operation : Operation.format.Decodes Operation.ofTree? := by
  refine decodes_record_of_fields
    (text?, Verb.ofTree?, text?, list? Param.ofTree?, list? Param.ofTree?, list? Param.ofTree?,
      optional? BodyParam.ofTree?, list? Response.ofTree?, ())
    (by decide)
    ⟨decodes_text, decodes_verb, decodes_text, decodes_param.list, decodes_param.list,
      decodes_param.list, decodes_bodyParam.optional rfl, decodes_response.list, trivial⟩
    (fun _ => rfl) (fun _ => rfl) fun ts => ?_
  rcases ts with _ | ⟨_, _ | ⟨_, _ | ⟨_, _ | ⟨_, _ | ⟨_, _ | ⟨_, _ | ⟨_, _ | ⟨_, _ | _⟩⟩⟩⟩⟩⟩⟩⟩ <;> simp

/-! ### Whole texts -/

theorem Operation.load_eq_ok_iff_readAll {text : String} {ops : List Operation} :
    Operation.load text = .ok ops ↔ Operation.readAll text = .ok ops := by
  unfold Operation.load
  split <;> simp_all

/-- **The texts that load as operations are those that spell trees which mean operations.** -/
theorem Operation.load_eq_ok_iff {text : String} {ops : List Operation} :
    Operation.load text = .ok ops ↔
      ∃ t, IsText text.toList t ∧ list? Operation.ofTree? t = some ops := by
  rw [Operation.load_eq_ok_iff_readAll]
  exact decodes_operation.list.readAll_eq_ok_iff

/-- **Operations that are written are loaded again** as they were. -/
theorem Operation.load_printAll (ops : List Operation) :
    Operation.load (Operation.printAll ops) = .ok ops := by
  rw [Operation.load_eq_ok_iff_readAll, Operation.readAll, Operation.printAll,
    String.toList_ofList]
  exact decodes_operation.list.readAll_print ops

end RestClient
