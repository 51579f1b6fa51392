import RestClient.Client.Request
import RestClient.Proofs.Text.Words
import RestClient.Proofs.TypeScript.Unambiguous

/-! # The announcement of a body

A request sends its body as JSON text or as it is, and its headers announce the type of the body.
The way it is sent is chosen by a word that occurs in the media type, the announcement by the front
of the trimmed media type: forms are not announced, because whoever sends the form announces it.

* `BodyParam.contentType?_eq`: which bodies are announced, and as what;
* `hasRank_requestInit`: the second argument of a request is read back from its text;
* `Operation.body_announced`: a body is announced the way it is encoded, except for a form whose
  media type holds the word for JSON. -/

namespace RestClient

open RestClient.Text RestClient.TypeScript

/-! ### Media types of bodies -/

/-- The media type of a form, which announces itself. -/
def formMediaType : List Char :=
  ['m', 'u', 'l', 't', 'i', 'p', 'a', 'r', 't', '/', 'f', 'o', 'r', 'm', '-', 'd', 'a', 't', 'a']

/-- The word by which a media type of JSON is known. -/
def jsonMediaType : List Char :=
  ['a', 'p', 'p', 'l', 'i', 'c', 'a', 't', 'i', 'o', 'n', '/', 'j', 's', 'o', 'n']

/-- The media type of a body without the blanks around it. -/
def BodyParam.trimmedMediaType (body : BodyParam) : String :=
  String.ofList (trim body.mediaType.toList)

/-- Whether a body is a form, which is announced with the boundary of its parts. -/
def BodyParam.IsForm (body : BodyParam) : Prop := formMediaType <+: body.trimmedMediaType.toList

instance (body : BodyParam) : Decidable body.IsForm :=
  inferInstanceAs (Decidable (formMediaType <+: body.trimmedMediaType.toList))

/-- **Announced are all bodies but forms and those without a media type**, by their media types. -/
theorem BodyParam.contentType?_eq (body : BodyParam) :
    body.contentType? =
      if body.trimmedMediaType = "" ∨ body.IsForm then none else some body.trimmedMediaType := by
  have hempty : (trim body.mediaType.toList).isEmpty = true ↔ body.trimmedMediaType = "" := by
    rw [List.isEmpty_iff, trimmedMediaType, ← String.toList_inj, String.toList_ofList,
      String.toList_empty]
  have hword : "multipart/form-data".toList = formMediaType := String.toList_ofList
  have hform : formMediaType.isPrefixOf (trim body.mediaType.toList) = true ↔ body.IsForm := by
    rw [List.isPrefixOf_iff_prefix, IsForm, trimmedMediaType, String.toList_ofList]
  rw [contentType?, hword]
  exact ite_congr (propext (or_congr hempty hform)) (fun _ => rfl) fun _ => rfl

/-- Blanks around a media type do not matter to JSON. -/
theorem BodyParam.isJson_trimmedMediaType (body : BodyParam) :
    isJson body.trimmedMediaType = isJson body.mediaType := by
  have hword : "application/json".toList = jsonMediaType := String.toList_ofList
  rw [Bool.eq_iff_iff, isJson, isJson, occursIn_iff, occursIn_iff, hword, trimmedMediaType,
    String.toList_ofList]
  have hplain : (jsonMediaType.all fun c => !isBlank c) = true := by decide
  exact isInfix_trim_iff (by decide) fun c hc => by simpa using List.all_eq_true.1 hplain c hc

theorem BodyParam.trimmedMediaType_ne_empty {body : BodyParam} (h : isJson body.mediaType = true) :
    body.trimmedMediaType ≠ "" := by
  intro hempty
  rw [← isJson_trimmedMediaType, hempty, isJson, occursIn_iff, String.toList_empty,
    List.infix_nil] at h
  exact absurd (congrArg String.ofList h) (by simp)

/-! ### The second argument of the request -/

/-- The second argument of a statement that sends a request. -/
def TypeScript.Stmt.requestInit? : Stmt → Option Expr
  | .declare _ _ _ (some (.await (.call (.identifier "fetch") [_, init]))) => some init
  | _ => none

/-- The second arguments of the requests that a function sends. -/
def TypeScript.Function.requestInits (f : Function) : List Expr :=
  f.body.filterMap Stmt.requestInit?

/-- The value of a property in an object literal. -/
def TypeScript.Expr.property? (key : String) : Expr → Option Expr
  | .object entries => entries.findSome? fun
    | .property key' value => if key' = key then some value else none
    | _ => none
  | _ => none

/-- The entries of the headers of a request. -/
def TypeScript.Expr.headers (init : Expr) : List Entry :=
  match init.property? "headers" with
  | some (.object entries) => entries
  | _ => []

/-- The type that the headers of a request announce. -/
def TypeScript.Expr.announced? (init : Expr) : Option String :=
  match (Expr.object init.headers).property? "Content-Type" with
  | some (.literal value) => some value
  | _ => none

/-- **A function sends one request.** -/
theorem requestInits_requestFunction (op : Operation) (names : Names) :
    (op.requestFunction names).requestInits = [op.requestInit] := by
  have hquery : (if !op.queryParams.isEmpty then queryStatements else []).filterMap
      Stmt.requestInit? = [] := by
    split <;> rfl
  have hread : op.bodyReading.statements.filterMap Stmt.requestInit? = [] := by
    cases op.bodyReading <;> rfl
  rw [Function.requestInits, Operation.requestFunction]
  simp only [List.filterMap_append, List.filterMap_cons, hquery, hread]
  rfl

theorem property?_body_requestInit (op : Operation) :
    op.requestInit.property? "body" = op.bodyParam.map BodyParam.encoded := by
  rw [Operation.requestInit, Expr.property?]
  cases op.bodyParam <;> split <;> simp

theorem headers_requestInit (op : Operation) : op.requestInit.headers = op.headerEntries := by
  rw [Operation.requestInit, Expr.headers, Expr.property?]
  cases hheaders : op.headerEntries <;> cases op.bodyParam <;> simp

theorem announced?_requestInit (op : Operation) :
    op.requestInit.announced? = op.bodyParam.bind BodyParam.contentType? := by
  rw [Expr.announced?, headers_requestInit, Operation.headerEntries, Expr.property?]
  cases op.bodyParam.bind BodyParam.contentType? <;> cases op.headerParams <;> simp

/-! ### Its text -/

theorem hasRank_member {object property : String} (hobject : isBareName object.toList = true)
    (hawait : object ≠ "await") (hproperty : isBareName property.toList = true) :
    HasRank .operand (.member (.identifier object) property) :=
  .member (.identifier hobject hawait) hproperty

theorem hasRank_encoded (body : BodyParam) : HasRank .value body.encoded := by
  have hdata : HasRank .operand (.member paramsVariable "data") :=
    hasRank_member (by decide) (by decide) (by decide)
  unfold BodyParam.encoded
  split
  · refine .operand (.call (hasRank_member (by decide) (by decide) (by decide)) fun e he => ?_)
    rw [List.mem_singleton.1 he]
    exact .operand hdata
  · exact .cast hdata (by decide)

/-- Whether an entry can stand in an object literal. -/
def TypeScript.Entry.IsPlaced : Entry → Prop
  | .property _ value => HasRank .value value
  | .shorthand name => isBareName name.toList = true
  | .spread operand => HasRank .operand operand

theorem hasRank_object {entries : List Entry} (h : ∀ entry ∈ entries, entry.IsPlaced) :
    HasRank .operand (.object entries) :=
  .object (fun _ _ hmem => h _ hmem) (fun _ hmem => h _ hmem) fun _ hmem => h _ hmem

theorem hasRank_headerEntries (op : Operation) : HasRank .operand (.object op.headerEntries) := by
  have hspread : HasRank .operand (.member paramsVariable "headers") :=
    hasRank_member (by decide) (by decide) (by decide)
  refine hasRank_object (List.forall_mem_append.2 ⟨List.forall_mem_map.2 fun mediaType _ => ?_, ?_⟩)
  · exact .operand (.literal mediaType)
  · split
    · exact List.forall_mem_nil _
    · exact List.forall_mem_singleton.2 hspread

/-- **The second argument of a request is read back from its text.** -/
theorem hasRank_requestInit (op : Operation) : HasRank .value op.requestInit := by
  have hmethod : (Entry.property "method" (.literal op.verb.method)).IsPlaced :=
    .operand (.literal _)
  have hheaders : ∀ entry ∈ (if op.headerEntries.isEmpty then []
      else [Entry.property "headers" (.object op.headerEntries)]), entry.IsPlaced := by
    split
    · exact List.forall_mem_nil _
    · exact List.forall_mem_singleton.2 (.operand (hasRank_headerEntries op))
  have hbody : ∀ entry ∈ op.bodyParam.toList.map fun body => Entry.property "body" body.encoded,
      entry.IsPlaced :=
    List.forall_mem_map.2 fun body _ => hasRank_encoded body
  have hsignal : (Entry.property "signal" (.member (.identifier "options") "signal")).IsPlaced :=
    .operand (hasRank_member (by decide) (by decide) (by decide))
  refine .operand (hasRank_object (List.forall_mem_append.2 ⟨List.forall_mem_append.2 ⟨?_, hbody⟩,
    List.forall_mem_singleton.2 hsignal⟩))
  exact List.forall_mem_cons.2 ⟨hmethod, hheaders⟩

/-! ### Encoding and announcement -/

theorem BodyParam.print_encoded (body : BodyParam) :
    body.encoded.print =
      if isJson body.mediaType then "JSON.stringify(params.data)"
      else "params.data as BodyInit" := by
  unfold encoded
  split <;> simp [Expr.print, Expr.printAll, TypeExpr.print, paramsVariable]

theorem BodyParam.contentType?_of_isJson {body : BodyParam} (h : isJson body.mediaType = true) :
    body.contentType? = if body.IsForm then none else some body.trimmedMediaType := by
  rw [contentType?_eq]
  simp only [trimmedMediaType_ne_empty h, false_or]

/-- **A body is announced the way it is encoded**, unless it is a form that the word for JSON occurs
in: such a form is sent as JSON and not announced. All other JSON is announced as JSON. A body that
is sent as it is has its trimmed media type announced, in which the word for JSON does not occur; a
form and a body without a media type are not announced. The headers that callers give come behind
the announcement. -/
theorem Operation.body_announced (op : Operation) (names : Names) {body : BodyParam}
    (h : op.bodyParam = some body) :
    (op.requestFunction names).requestInits = [op.requestInit] ∧
    Expr.parse op.requestInit.print = some op.requestInit ∧
    (∃ sent, op.requestInit.property? "body" = some sent ∧
      (sent.print = "JSON.stringify(params.data)" ∨ sent.print = "params.data as BodyInit") ∧
      (sent.print = "JSON.stringify(params.data)" →
        op.requestInit.announced? = (if body.IsForm then none else some body.trimmedMediaType) ∧
          isJson body.trimmedMediaType = true) ∧
      (sent.print = "params.data as BodyInit" →
        op.requestInit.announced? =
            (if body.trimmedMediaType = "" ∨ body.IsForm then none
              else some body.trimmedMediaType) ∧
          isJson body.trimmedMediaType = false)) ∧
    op.requestInit.headers =
      (op.requestInit.announced?.toList.map fun value =>
          .property "Content-Type" (.literal value)) ++
        if op.headerParams.isEmpty then [] else [.spread (.member paramsVariable "headers")] := by
  have hannounced : op.requestInit.announced? = body.contentType? := by
    rw [announced?_requestInit, h, Option.bind_some]
  have hsent : op.requestInit.property? "body" = some body.encoded := by
    rw [property?_body_requestInit, h, Option.map_some]
  have hdiffer : "JSON.stringify(params.data)" ≠ "params.data as BodyInit" := by decide
  refine ⟨requestInits_requestFunction op names, parse_print (hasRank_requestInit op),
    ⟨body.encoded, hsent, ?_⟩, ?_⟩
  · rw [body.print_encoded, hannounced, body.isJson_trimmedMediaType]
    cases hjson : isJson body.mediaType with
    | true =>
      refine ⟨.inl rfl, fun _ => ⟨body.contentType?_of_isJson hjson, rfl⟩, fun heq => ?_⟩
      exact absurd heq hdiffer
    | false =>
      refine ⟨.inr rfl, fun heq => ?_, fun _ => ⟨body.contentType?_eq, rfl⟩⟩
      exact absurd heq hdiffer.symm
  · rw [headers_requestInit, announced?_requestInit, Operation.headerEntries]

/-- A form whose description says that its parts are JSON. -/
def typedForm : BodyParam where
  name := "body"
  type := "FormData"
  required := true
  description := none
  mediaType := " multipart/form-data; type=\"application/json\""

/-- An operation that is sent such a form. -/
def sendTypedForm : Operation where
  path := "/reports"
  verb := .post
  server := ""
  positionalParams := []
  queryParams := []
  headerParams := [⟨"X-Trace", "string", false, none⟩]
  bodyParam := some typedForm
  responses := []

theorem sendTypedForm_body_announced :
    sendTypedForm.bodyParam = some typedForm ∧ isJson typedForm.mediaType = true ∧
    (∃ sent, sendTypedForm.requestInit.property? "body" = some sent ∧
      sent.print = "JSON.stringify(params.data)") ∧
    sendTypedForm.requestInit.announced? = none ∧
    sendTypedForm.requestInit.headers = [.spread (.member paramsVariable "headers")] := by
  have hjson : isJson typedForm.mediaType = true := by decide +kernel
  have hform : typedForm.IsForm := by decide +kernel
  obtain ⟨-, -, ⟨sent, hsent, hencodings, hencoded, hplain⟩, hheaders⟩ :=
    Operation.body_announced sendTypedForm sendTypedForm.names rfl
  have hprint : sent.print = "JSON.stringify(params.data)" := by
    refine hencodings.resolve_right fun heq => ?_
    rw [← typedForm.isJson_trimmedMediaType, (hplain heq).2] at hjson
    cases hjson
  have hnone : sendTypedForm.requestInit.announced? = none := by
    rw [(hencoded hprint).1, if_pos hform]
  refine ⟨rfl, hjson, ⟨sent, hsent, hprint⟩, hnone, ?_⟩
  rw [hheaders, hnone]
  rfl

end RestClient
