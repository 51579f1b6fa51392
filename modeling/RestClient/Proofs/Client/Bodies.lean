import RestClient.Client.Request
import RestClient.Proofs.Client.Variants
import RestClient.Proofs.TypeScript.Entries

/-! # The bodies that are read and those that are declared

A request function reads the bodies of all responses in one way, which the media types of the whole
operation decide. The type of the data of one response is decided by the media types of that
response alone.

* `BodyReading.ofMediaTypes_eq_iff`: which media types lead to which reading;
* `Response.exists_chosenMediaType?`: which media type gives the type of a response;
* `Response.toList_variantBody`: where the fields of a variant stand in its object type;
* `Operation.bodyReading_agrees`: data is returned if and only if a variant declares it, and the
  media types behind the declared types are those that the reading asks for. -/

namespace RestClient

open RestClient.Text RestClient.TypeScript

/-! ### The reading of all bodies -/

namespace BodyReading

/-- The media types that lead to a reading. -/
def Covers (mediaTypes : List String) : BodyReading → Prop
  | .json => (∃ m ∈ mediaTypes, isJson m = true) ∧ ∀ m ∈ mediaTypes, isJson m = true
  | .text => (∃ m ∈ mediaTypes, isJson m = false) ∧ ∀ m ∈ mediaTypes, isJson m = false
  | .mixed => (∃ m ∈ mediaTypes, isJson m = true) ∧ ∃ m ∈ mediaTypes, isJson m = false
  | .unread => mediaTypes = []

variable {mediaTypes : List String}

theorem covers_ofMediaTypes (mediaTypes : List String) :
    (ofMediaTypes mediaTypes).Covers mediaTypes := by
  unfold ofMediaTypes
  split <;> rename_i hjson hother
  all_goals
    simp only [List.any_eq_true, List.any_eq_false, Bool.not_eq_true', Bool.not_eq_true,
      Bool.not_eq_false] at hjson hother
  · exact ⟨hjson, hother⟩
  · exact ⟨hother, hjson⟩
  · exact ⟨hjson, hother⟩
  · refine List.eq_nil_iff_forall_not_mem.2 fun m hm => ?_
    exact Bool.false_ne_true ((hjson m hm).symm.trans (hother m hm))

theorem Covers.unique {reading reading' : BodyReading} (h : reading.Covers mediaTypes)
    (h' : reading'.Covers mediaTypes) : reading = reading' := by
  cases reading <;> cases reading' <;> grind [Covers]

/-- **A reading is chosen for the media types that it covers** and for no others. -/
theorem ofMediaTypes_eq_iff {reading : BodyReading} :
    ofMediaTypes mediaTypes = reading ↔ reading.Covers mediaTypes := by
  constructor
  · rintro rfl
    exact covers_ofMediaTypes mediaTypes
  · exact (covers_ofMediaTypes mediaTypes).unique

theorem ofMediaTypes_eq_mixed_iff :
    ofMediaTypes mediaTypes = .mixed ↔
      ∃ m ∈ mediaTypes, ∃ m' ∈ mediaTypes, isJson m ≠ isJson m' := by
  rw [ofMediaTypes_eq_iff]
  constructor
  · rintro ⟨⟨m, hm, hjson⟩, m', hm', hother⟩
    exact ⟨m, hm, m', hm', by rw [hjson, hother]; decide⟩
  · rintro ⟨m, hm, m', hm', hne⟩
    cases hjson : isJson m with
    | true => exact ⟨⟨m, hm, hjson⟩, m', hm', by rw [hjson] at hne; simpa using hne.symm⟩
    | false => exact ⟨⟨m', hm', by rw [hjson] at hne; simpa using hne.symm⟩, m, hm, hjson⟩

/-- Only the media types count, not their order or number. -/
theorem ofMediaTypes_congr {mediaTypes' : List String}
    (h : ∀ m, m ∈ mediaTypes ↔ m ∈ mediaTypes') :
    ofMediaTypes mediaTypes = ofMediaTypes mediaTypes' := by
  have hany (p : String → Bool) : mediaTypes.any p = mediaTypes'.any p := by
    rw [Bool.eq_iff_iff, List.any_eq_true, List.any_eq_true]
    simp only [h]
  rw [ofMediaTypes, ofMediaTypes, hany, hany]

end BodyReading

theorem Operation.mem_responseMediaTypes {op : Operation} {mediaType : String} :
    mediaType ∈ op.responseMediaTypes ↔
      ∃ response ∈ op.responses, ∃ m ∈ response.mediaTypes, m.mediaType = mediaType := by
  simp only [Operation.responseMediaTypes, List.mem_flatMap, List.mem_map]

/-! ### The type of one body -/

namespace Response

variable {response : Response}

theorem chosenMediaType?_of_isJson (h : ∃ m ∈ response.mediaTypes, isJson m.mediaType = true) :
    response.chosenMediaType? = (response.mediaTypes.filter fun m => isJson m.mediaType).head? := by
  obtain ⟨m, hm⟩ := Option.isSome_iff_exists.1 (List.find?_isSome.2 h)
  rw [List.head?_filter, chosenMediaType?, hm]
  rfl

theorem chosenMediaType?_of_not_isJson
    (h : ∀ m ∈ response.mediaTypes, isJson m.mediaType = false) :
    response.chosenMediaType? =
      ((response.mediaTypes.find? fun m => isText m.mediaType) <|> response.mediaTypes.head?) := by
  have hnone : response.mediaTypes.find? (fun m => isJson m.mediaType) = none :=
    List.find?_eq_none.2 fun m hm => by simp [h m hm]
  rw [chosenMediaType?, hnone]
  rfl

/-- **A response with media types takes its type from one of them**, and from one of JSON if there is
one. -/
theorem exists_chosenMediaType? (h : response.mediaTypes ≠ []) :
    ∃ m ∈ response.mediaTypes, response.chosenMediaType? = some m ∧
      response.bodyType? = some (typeOrAny m.type) ∧
      (isJson m.mediaType = true ↔ ∃ m' ∈ response.mediaTypes, isJson m'.mediaType = true) := by
  suffices hchosen : ∃ m ∈ response.mediaTypes, response.chosenMediaType? = some m ∧
      (isJson m.mediaType = true ↔ ∃ m' ∈ response.mediaTypes, isJson m'.mediaType = true) by
    obtain ⟨m, hm, hsome, hiff⟩ := hchosen
    exact ⟨m, hm, hsome, by rw [bodyType?, hsome, Option.map_some], hiff⟩
  by_cases hjson : ∃ m ∈ response.mediaTypes, isJson m.mediaType = true
  · rw [chosenMediaType?_of_isJson hjson, List.head?_filter]
    obtain ⟨m, hm⟩ := Option.isSome_iff_exists.1 (List.find?_isSome.2 hjson)
    have hchosen : isJson m.mediaType = true := by simpa using List.find?_some hm
    exact ⟨m, List.mem_of_find?_eq_some hm, hm, iff_of_true hchosen hjson⟩
  · have hother : ∀ m ∈ response.mediaTypes, isJson m.mediaType = false := by
      simpa using hjson
    have hfalse {m : MediaTypeDef} (hm : m ∈ response.mediaTypes) :
        (isJson m.mediaType = true ↔ ∃ m' ∈ response.mediaTypes, isJson m'.mediaType = true) :=
      iff_of_false (by simp [hother m hm]) hjson
    rw [chosenMediaType?_of_not_isJson hother]
    cases htext : response.mediaTypes.find? fun m => isText m.mediaType with
    | some m =>
      have hm := List.mem_of_find?_eq_some htext
      exact ⟨m, hm, rfl, hfalse hm⟩
    | none =>
      obtain ⟨m, rest, hcons⟩ := List.exists_cons_of_ne_nil h
      have hm : m ∈ response.mediaTypes := hcons ▸ List.mem_cons_self
      exact ⟨m, hm, by rw [hcons]; rfl, hfalse hm⟩

theorem isSome_bodyType?_iff : response.bodyType?.isSome = true ↔ response.mediaTypes ≠ [] := by
  constructor
  · intro h hnil
    simp [bodyType?, chosenMediaType?, hnil] at h
  · intro h
    obtain ⟨m, -, -, htype, -⟩ := exists_chosenMediaType? h
    rw [htype, Option.isSome_some]

/-- Only the media types of JSON count, if there are any. -/
theorem bodyType?_congr {response' : Response}
    (h : ∃ m ∈ response.mediaTypes, isJson m.mediaType = true)
    (hfilter : (response.mediaTypes.filter fun m => isJson m.mediaType) =
      response'.mediaTypes.filter fun m => isJson m.mediaType) :
    response.bodyType? = response'.bodyType? := by
  obtain ⟨m, hm, hjson⟩ := h
  have hmem : m ∈ response'.mediaTypes.filter fun m => isJson m.mediaType :=
    hfilter ▸ List.mem_filter.2 ⟨hm, hjson⟩
  have h' : ∃ m ∈ response'.mediaTypes, isJson m.mediaType = true :=
    ⟨m, (List.mem_filter.1 hmem).1, hjson⟩
  rw [bodyType?, bodyType?, chosenMediaType?_of_isJson ⟨m, hm, hjson⟩,
    chosenMediaType?_of_isJson h', hfilter]

theorem mem_variantFields_data_iff {field : Field} :
    field ∈ response.variantFields ∧ field.key = "data" ↔
      ∃ type, response.bodyType? = some type ∧ field = { key := "data", type, required := true } := by
  unfold variantFields
  constructor
  · rintro ⟨hmem, hkey⟩
    rcases List.mem_append.1 hmem with hfixed | hdata
    · simp only [List.mem_cons, List.not_mem_nil, or_false] at hfixed
      rcases hfixed with rfl | rfl <;> simp at hkey
    · obtain ⟨type, htype, rfl⟩ := List.mem_map.1 hdata
      exact ⟨type, Option.mem_toList.1 htype, rfl⟩
  · rintro ⟨type, htype, rfl⟩
    refine ⟨List.mem_append_right _ (List.mem_map.2 ⟨type, ?_, rfl⟩), rfl⟩
    exact Option.mem_toList.2 htype

end Response

/-! ### The fields of a variant -/

/-- The fields of a variant as they stand in its declaration, one level in. -/
def Response.fieldTexts (response : Response) : List (List Char) :=
  response.variantFields.map fun field => indentLines [' ', ' '] field.format.toList

/-- **The object type of a variant holds its fields** and nothing else. -/
theorem Response.toList_variantBody (response : Response) :
    response.variantBody.toList = ['{', '\n'] ++ response.fieldTexts.flatten ++ ['}'] := by
  have hne : response.variantFields.map Field.format ≠ [] :=
    List.ne_nil_of_mem (List.mem_map_of_mem List.mem_cons_self)
  rw [Response.variantBody, toList_objectBody hne, Response.fieldTexts, List.flatMap_map,
    List.flatMap_def]

theorem Response.key_of_mem_variantFields {response : Response} {field : Field}
    (h : field ∈ response.variantFields) :
    field.key ∈ ["status", "headers", "data"] ∧ field.readonly = false := by
  rcases List.mem_append.1 h with hfixed | hdata
  · simp only [List.mem_cons, List.not_mem_nil, or_false] at hfixed
    rcases hfixed with rfl | rfl <;> simp
  · obtain ⟨type, -, rfl⟩ := List.mem_map.1 hdata
    simp

/-- The fields of a variant are read under their keys from where they stand. -/
theorem Response.map_entryKey?_fieldTexts (response : Response) :
    response.fieldTexts.map entryKey? = response.variantFields.map fun field => some field.key := by
  have hbare : ∀ key ∈ ["status", "headers", "data"], isBareName key.toList = true := by decide
  rw [Response.fieldTexts, List.map_map]
  refine List.map_congr_left fun field hfield => ?_
  obtain ⟨hkey, hreadonly⟩ := Response.key_of_mem_variantFields hfield
  rw [Function.comp_apply, entryKey?_indentLines_format (hbare _ hkey) hreadonly]

/-! ### What the function returns -/

/-- The property that an entry of an object literal gives a value. -/
def TypeScript.Entry.key? : Entry → Option String
  | .property key _ => some key
  | .shorthand name => some name
  | .spread _ => none

/-- The properties of the object that a function returns. -/
def TypeScript.Function.returnedKeys (f : Function) : List String :=
  match f.body.getLast? with
  | some (.result (.cast (.object entries) _)) => entries.filterMap Entry.key?
  | _ => []

theorem returnedKeys_requestFunction (op : Operation) (names : Names) :
    (op.requestFunction names).returnedKeys =
      ["status", "headers"] ++ if op.bodyReading = .unread then [] else ["data"] := by
  have hlast : (op.requestFunction names).body.getLast? =
      some (.result (.cast (.object op.bodyReading.resultEntries) (.named names.resultType))) := by
    rw [Operation.requestFunction, List.getLast?_append]
    rfl
  rw [Function.returnedKeys, hlast]
  cases op.bodyReading <;> rfl

theorem Operation.bodyReading_ne_unread_iff {op : Operation} :
    op.bodyReading ≠ .unread ↔ ∃ response ∈ op.responses, response.mediaTypes ≠ [] := by
  have hnil : op.bodyReading = .unread ↔ op.responseMediaTypes = [] :=
    BodyReading.ofMediaTypes_eq_iff
  rw [ne_eq, hnil, Operation.responseMediaTypes, List.flatMap_eq_nil_iff]
  simp

/-! ### What is read and what is declared -/

/-- **The function reads the bodies that the variants declare.** The result declares the object type of
every response, and the fields of a variant are what stands in it, each under its key. The function
returns data if and only if a variant declares data. It reads JSON only if all types of data come from media types of JSON, and
text only if none does, and it looks at the response first if and only if there are both. The type
of a response comes from a media type of JSON if it has one, whatever others stand beside it. The
reading depends on nothing but which media types occur. -/
theorem Operation.bodyReading_agrees (op : Operation) (names : Names) :
    (∀ phrases : PhraseTable, ∃ union, (op.code phrases).value.result =
      paragraphs (union :: op.responses.map fun response =>
        declaration (op.names.variant phrases response).value response.variantBody)) ∧
    (∀ response : Response,
      response.variantBody.toList = ['{', '\n'] ++ response.fieldTexts.flatten ++ ['}'] ∧
      response.fieldTexts.map entryKey? = response.variantFields.map fun field => some field.key) ∧
    (("data" ∈ (op.requestFunction names).returnedKeys ↔
        ∃ response ∈ op.responses, ∃ field ∈ response.variantFields, field.key = "data") ∧
      (op.bodyReading ≠ .unread ↔
        ∃ response ∈ op.responses, response.bodyType?.isSome = true)) ∧
    (∀ response ∈ op.responses, ∀ field ∈ response.variantFields, field.key = "data" →
      ∃ m ∈ response.mediaTypes, response.chosenMediaType? = some m ∧
        field.type = typeOrAny m.type ∧
        (op.bodyReading = .json → isJson m.mediaType = true) ∧
        (op.bodyReading = .text → isJson m.mediaType = false)) ∧
    (op.bodyReading = .mixed ↔
      ∃ m ∈ op.responseMediaTypes, ∃ m' ∈ op.responseMediaTypes, isJson m ≠ isJson m') ∧
    (∀ response : Response, response.mediaTypes ≠ [] →
      ∃ m ∈ response.mediaTypes, response.chosenMediaType? = some m ∧
        response.bodyType? = some (typeOrAny m.type) ∧
        (isJson m.mediaType = true ↔ ∃ m' ∈ response.mediaTypes, isJson m'.mediaType = true)) ∧
    (∀ response response' : Response, (∃ m ∈ response.mediaTypes, isJson m.mediaType = true) →
      (response.mediaTypes.filter fun m => isJson m.mediaType) =
        (response'.mediaTypes.filter fun m => isJson m.mediaType) →
      response.bodyType? = response'.bodyType?) ∧
    ∀ op' : Operation, (∀ m, m ∈ op.responseMediaTypes ↔ m ∈ op'.responseMediaTypes) →
      op.bodyReading = op'.bodyReading := by
  have hdeclared : (∃ response ∈ op.responses, response.bodyType?.isSome = true) ↔
      ∃ response ∈ op.responses, ∃ field ∈ response.variantFields, field.key = "data" := by
    refine exists_congr fun response => and_congr_right fun _ => ?_
    simp only [Response.mem_variantFields_data_iff, Option.isSome_iff_exists]
    exact ⟨fun ⟨type, htype⟩ => ⟨_, type, htype, rfl⟩, fun ⟨_, type, htype, _⟩ => ⟨type, htype⟩⟩
  have hread : op.bodyReading ≠ .unread ↔
      ∃ response ∈ op.responses, response.bodyType?.isSome = true := by
    simp only [Operation.bodyReading_ne_unread_iff, Response.isSome_bodyType?_iff]
  have hreturned : "data" ∈ (op.requestFunction names).returnedKeys ↔ op.bodyReading ≠ .unread := by
    rw [returnedKeys_requestFunction]
    split <;> simp_all
  refine ⟨fun phrases => op.exists_result_eq phrases,
    fun response => ⟨response.toList_variantBody, response.map_entryKey?_fieldTexts⟩,
    ⟨hreturned.trans (hread.trans hdeclared), hread⟩, ?_, BodyReading.ofMediaTypes_eq_mixed_iff, fun response => Response.exists_chosenMediaType?,
    fun response response' => Response.bodyType?_congr, fun op' => BodyReading.ofMediaTypes_congr⟩
  intro response hresponse field hfield hkey
  obtain ⟨type, htype, rfl⟩ := Response.mem_variantFields_data_iff.1 ⟨hfield, hkey⟩
  have hne : response.mediaTypes ≠ [] := by
    rw [← Response.isSome_bodyType?_iff, htype, Option.isSome_some]
  obtain ⟨m, hm, hchosen, htype', -⟩ := Response.exists_chosenMediaType? hne
  have hmem : m.mediaType ∈ op.responseMediaTypes :=
    Operation.mem_responseMediaTypes.2 ⟨response, hresponse, m, hm, rfl⟩
  refine ⟨m, hm, hchosen, Option.some.inj (htype.symm.trans htype'), fun hjson => ?_, fun htext => ?_⟩
  · exact (BodyReading.ofMediaTypes_eq_iff.1 hjson).2 _ hmem
  · exact (BodyReading.ofMediaTypes_eq_iff.1 htext).2 _ hmem

/-- A report that was found. -/
def reportFound : Response where
  code := "200"
  mediaTypes := [⟨"application/json", "Report"⟩, ⟨"application/json; version=2", "ReportV2"⟩]

/-- An operation that answers with JSON or with nothing. -/
def getReport : Operation where
  path := "/reports/{id}"
  verb := .get
  server := ""
  positionalParams := [⟨"id", "string", true, none⟩]
  queryParams := []
  headerParams := []
  bodyParam := none
  responses := [reportFound, ⟨"204", []⟩]

theorem getReport_bodyReading_agrees :
    getReport.bodyReading = .json ∧
    (∃ m ∈ reportFound.mediaTypes, reportFound.chosenMediaType? = some m ∧
      isJson m.mediaType = true) ∧
    (∃ m ∈ reportFound.mediaTypes, reportFound.bodyType? = some (typeOrAny m.type)) ∧
    reportFound.bodyType? =
      Response.bodyType?
        { reportFound with mediaTypes := ⟨"text/csv", "string"⟩ :: reportFound.mediaTypes } ∧
    getReport.bodyReading =
      Operation.bodyReading { getReport with responses := getReport.responses.reverse } := by
  have hjson : getReport.bodyReading = .json := by decide +kernel
  have hfound : reportFound ∈ getReport.responses := List.mem_cons_self
  obtain ⟨-, -, -, htypes, -, hchosen, hinsert, hreorder⟩ :=
    Operation.bodyReading_agrees getReport getReport.names
  have hfield : ({ key := "data", type := "Report", required := true } : Field) ∈
      reportFound.variantFields := by decide +kernel
  obtain ⟨m, hm, hsome, -, hall, -⟩ := htypes reportFound hfound _ hfield rfl
  obtain ⟨m', hm', -, htype, -⟩ := hchosen reportFound (by decide)
  refine ⟨hjson, ⟨m, hm, hsome, hall hjson⟩, ⟨m', hm', htype⟩, ?_, ?_⟩
  · refine hinsert _ _ ⟨_, List.mem_cons_self, by decide +kernel⟩ ?_
    decide +kernel
  · refine hreorder _ fun m => ?_
    simp [Operation.responseMediaTypes, getReport, reportFound]

end RestClient
