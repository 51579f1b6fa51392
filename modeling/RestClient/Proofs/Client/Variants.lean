import RestClient.Proofs.Client.Framing

/-! # The variants of a result

The result of an operation is a union with one member for each response, and every member is declared
behind it. The union is read from the text of the result, as words one space apart.

* `readUnion_declaration_unionOf`: a union is read as its members;
* `exists_resultBlocks_eq_cons` and `Operation.exists_result_eq`: the union comes first, and the
  variants behind it;
* `Operation.variants_result`: members and declarations of a result, each with its own name. -/

namespace RestClient

open RestClient.Text RestClient.TypeScript

/-! ### Unions -/

/-- The names that stand each behind the sign of a union. -/
def signedNames : List (List Char) → Option (List String)
  | [] => some []
  | ['|'] :: name :: rest => (signedNames rest).map (String.ofList name :: ·)
  | _ => none

/-- The name and the members of the union that a text declares: words one space apart, with a sign
before each member and a semicolon at the end. -/
def readUnion (text : String) : Option (String × List String) :=
  match text.toList.getLast?, text.toList.dropLast.splitOn ' ' with
  | some ';', exported :: kind :: name :: equals :: members =>
    if exported = "export".toList ∧ kind = "type".toList ∧ equals = ['='] then
      (signedNames members).map (String.ofList name, ·)
    else none
  | _, _ => none

theorem toList_unionOf_singleton (name : String) :
    (unionOf [name]).toList = ['|'] ++ ' ' :: name.toList := by
  simp [unionOf]

theorem toList_unionOf_cons (name : String) {names : List String} (h : names ≠ []) :
    (unionOf (name :: names)).toList =
      ['|'] ++ ' ' :: (name.toList ++ ' ' :: (unionOf names).toList) := by
  have hmap : names.map ("| " ++ ·) ≠ [] := by simpa using h
  rw [unionOf, List.map_cons, String.intercalate_cons_of_ne_nil hmap, ← unionOf]
  simp

theorem splitOn_unionOf {names : List String} (hne : names ≠ [])
    (h : ∀ name ∈ names, ' ' ∉ name.toList) :
    (unionOf names).toList.splitOn ' ' = names.flatMap fun name => [['|'], name.toList] := by
  have hsign : ' ' ∉ ['|'] := by decide
  induction names with
  | nil => exact absurd rfl hne
  | cons name names ih =>
    obtain ⟨hname, hnames⟩ := List.forall_mem_cons.1 h
    by_cases hempty : names = []
    · rw [hempty, toList_unionOf_singleton, List.splitOn_append_cons_self_of_not_mem hsign,
        List.splitOn_eq_singleton hname]
      rfl
    · rw [toList_unionOf_cons name hempty, List.splitOn_append_cons_self_of_not_mem hsign,
        List.splitOn_append_cons_self_of_not_mem hname, ih hempty hnames]
      rfl

theorem signedNames_flatMap (names : List String) :
    signedNames (names.flatMap fun name => [['|'], name.toList]) = some names := by
  induction names with
  | nil => rfl
  | cons name names ih =>
    rw [List.flatMap_cons, List.cons_append, List.cons_append, List.nil_append, signedNames, ih,
      String.ofList_toList]
    rfl

/-- A union is no object type. -/
theorem ofBody_unionOf {names : List String} (hne : names ≠ []) :
    DeclarationKind.ofBody (unionOf names).toList = .typeAlias := by
  obtain ⟨name, names', rfl⟩ := List.exists_cons_of_ne_nil hne
  have hcons : ∃ s, (unionOf (name :: names')).toList = '|' :: s := by
    by_cases hempty : names' = []
    · exact ⟨_, by rw [hempty, toList_unionOf_singleton]; rfl⟩
    · exact ⟨_, toList_unionOf_cons name hempty⟩
  obtain ⟨s, hs⟩ := hcons
  rw [hs]
  rfl

/-- **A union is read as its name and its members**, in order. -/
theorem readUnion_declaration_unionOf {name : String} {names : List String} (hne : names ≠ [])
    (hname : ' ' ∉ name.toList) (h : ∀ name ∈ names, ' ' ∉ name.toList) :
    readUnion (declaration name (unionOf names)) = some (name, names) := by
  have htext : (declaration name (unionOf names)).toList =
      ("export".toList ++ ' ' :: ("type".toList ++ ' ' :: (name.toList ++ ' ' ::
        (['='] ++ ' ' :: (unionOf names).toList)))) ++ [';'] := by
    rw [declaration_eq, ofBody_unionOf hne, opening_typeAlias]
    simp [DeclarationKind.closing]
  have hwords : (declaration name (unionOf names)).toList.dropLast.splitOn ' ' =
      "export".toList :: "type".toList :: name.toList :: ['='] ::
        names.flatMap fun name => [['|'], name.toList] := by
    rw [htext, List.dropLast_concat, List.splitOn_append_cons_self_of_not_mem (by decide),
      List.splitOn_append_cons_self_of_not_mem (by decide),
      List.splitOn_append_cons_self_of_not_mem hname,
      List.splitOn_append_cons_self_of_not_mem (by decide), splitOn_unionOf hne h]
  have hlast : (declaration name (unionOf names)).toList.getLast? = some ';' := by
    rw [htext, List.getLast?_concat]
  rw [readUnion, hlast, hwords]
  simp [signedNames_flatMap]

/-! ### Members and declarations -/

theorem notMem_blank_of_isPlainIdentifier {name : String}
    (h : isPlainIdentifier name.toList = true) : ' ' ∉ name.toList :=
  notMem_of_isNamePart h (by decide)

theorem resultBlocks_eq_cons (phrases : PhraseTable) {op : Operation} (h : op.responses ≠ []) :
    op.resultBlocks phrases =
      declaration op.names.resultType (unionOf (op.variantNames phrases)) ::
        op.responses.map fun response =>
          declaration (op.names.variant phrases response).value response.variantBody := by
  have hempty : ¬ op.responses.isEmpty = true := by simpa using h
  rw [Operation.resultBlocks, if_neg hempty]

theorem exists_resultBlocks_eq_cons (phrases : PhraseTable) (op : Operation) :
    ∃ union, op.resultBlocks phrases =
      union :: op.responses.map fun response =>
        declaration (op.names.variant phrases response).value response.variantBody := by
  by_cases hresponses : op.responses = []
  · refine ⟨declaration op.names.resultType "never", ?_⟩
    rw [Operation.resultBlocks, hresponses]
    rfl
  · exact ⟨_, resultBlocks_eq_cons phrases hresponses⟩

/-- **The result declares the object type of every response**, in order and behind the union. -/
theorem Operation.exists_result_eq (phrases : PhraseTable) (op : Operation) :
    ∃ union, (op.code phrases).value.result =
      paragraphs (union :: op.responses.map fun response =>
        declaration (op.names.variant phrases response).value response.variantBody) := by
  obtain ⟨union, hblocks⟩ := exists_resultBlocks_eq_cons phrases op
  have hresult : (op.code phrases).value.result = paragraphs (op.resultBlocks phrases) :=
    value_resultDeclarations op
  exact ⟨union, hresult.trans (congrArg paragraphs hblocks)⟩

/-- With the standard table, variants have the same name if and only if they have the same code. -/
theorem variant_inj (names : Names) {response response' : Response}
    (h : IsAlphanumCode response.code) (h' : IsAlphanumCode response'.code) :
    (names.variant standardPhrase response).value =
        (names.variant standardPhrase response').value ↔ response.code = response'.code := by
  have hvariant (response : Response) : (names.variant standardPhrase response).value =
      names.pascal ++ (response.phrase standardPhrase).value ++ "Result" := rfl
  rw [hvariant, hvariant, String.append_left_inj, String.append_right_inj]
  constructor
  · intro heq
    rw [← phraseCode_phrase_of_isAlphanumCode h, heq, phraseCode_phrase_of_isAlphanumCode h']
  · intro hcode
    have hdefault : response.isDefault = response'.isDefault := by
      rw [Response.isDefault, hcode]
      rfl
    rw [Response.phrase, Response.phrase, hcode, hdefault]

/-- **The result is the union of its variants, which are declared behind it**, one for each response
and in the same order. The variants of different codes have different names. -/
theorem Operation.variants_result {op : Operation} (hresponses : op.responses ≠ [])
    (hcodes : ∀ response ∈ op.responses, IsAlphanumCode response.code) :
    (∃ union declarations,
      parts (op.code standardPhrase).value.result = union :: declarations ∧
      readUnion union = some (op.names.resultType, op.variantNames standardPhrase) ∧
      declarations.map exportedName? = (op.variantNames standardPhrase).map some) ∧
    (∀ response ∈ op.responses, ∀ response' ∈ op.responses,
      (op.names.variant standardPhrase response).value =
        (op.names.variant standardPhrase response').value ↔ response.code = response'.code) ∧
    ((op.responses.map Response.code).Nodup → (op.variantNames standardPhrase).Nodup) := by
  have hplain (response : Response) : isPlainIdentifier
      (op.names.variant standardPhrase response).value.toList = true :=
    isPlainIdentifier_variant op.path op.verb hasWords_standardPhrase response
  have hinj : ∀ response ∈ op.responses, ∀ response' ∈ op.responses,
      (op.names.variant standardPhrase response).value =
        (op.names.variant standardPhrase response').value ↔ response.code = response'.code :=
    fun response hresponse response' hresponse' =>
      variant_inj op.names (hcodes response hresponse) (hcodes response' hresponse')
  refine ⟨⟨_, _, (parts_result hasNoNewline_standardPhrase op).trans
    (resultBlocks_eq_cons standardPhrase hresponses), ?_, ?_⟩, hinj, fun hnodup => ?_⟩
  · have hblank : ∀ name ∈ op.variantNames standardPhrase, ' ' ∉ name.toList :=
      List.forall_mem_map.2 fun response _ => notMem_blank_of_isPlainIdentifier (hplain response)
    have hresult : ' ' ∉ op.names.resultType.toList :=
      notMem_blank_of_isPlainIdentifier (isPlainIdentifier_resultType op.path op.verb)
    have hne : op.variantNames standardPhrase ≠ [] := by
      simpa [Operation.variantNames] using hresponses
    exact readUnion_declaration_unionOf hne hresult hblank
  · have hexports := map_exportedName?_resultBlocks hasWords_standardPhrase op
    rw [resultBlocks_eq_cons standardPhrase hresponses, List.map_cons, List.map_cons] at hexports
    exact (List.cons.inj hexports).2
  · have hpairs := List.pairwise_map.1 hnodup
    refine List.pairwise_map.2 (hpairs.imp_of_mem fun {response response'} hmem hmem' hne => ?_)
    rwa [ne_eq, hinj response hmem response' hmem']

/-- An operation with codes of all kinds: registered, unknown, default and empty. -/
def readReport : Operation where
  path := "/reports/{id}"
  verb := .get
  server := ""
  positionalParams := []
  queryParams := []
  headerParams := []
  bodyParam := none
  responses := [⟨"200", [⟨"text/csv", "string"⟩]⟩, ⟨"2XX", []⟩, ⟨"default", []⟩, ⟨"", []⟩]

theorem readReport_variants_result :
    (∀ response ∈ readReport.responses, IsAlphanumCode response.code) ∧
    (∃ union declarations,
      parts (readReport.code standardPhrase).value.result = union :: declarations ∧
      readUnion union = some ("GetReportResult",
        ["GetReportOkResult", "GetReportStatus2XXResult", "GetReportDefaultResult",
          "GetReportStatusResult"])) ∧
    (readReport.variantNames standardPhrase).Nodup := by
  have hcodes : ∀ response ∈ readReport.responses, IsAlphanumCode response.code := by decide
  have hnames : (readReport.names.resultType, readReport.variantNames standardPhrase) =
      ("GetReportResult", ["GetReportOkResult", "GetReportStatus2XXResult",
        "GetReportDefaultResult", "GetReportStatusResult"]) := by
    rfl
  have hresponses : readReport.responses ≠ [] := by decide
  obtain ⟨⟨union, declarations, hparts, hunion, -⟩, -, hnodup⟩ :=
    Operation.variants_result hresponses hcodes
  exact ⟨hcodes, ⟨union, declarations, hparts, hnames ▸ hunion⟩, hnodup (by decide)⟩

/-! ### The status of a variant -/

theorem isAlphanum_of_mem_statusType (response : Response) :
    ∀ c ∈ response.statusType.toList, c.isAlphanum = true := by
  have hwords : IsAlphanumCode "500" ∧ IsAlphanumCode "number" := by decide
  unfold Response.statusType
  split
  · exact hwords.1
  · split
    · rename_i hnumeric
      exact Response.HasPlainCode.isAlphanumCode (.inr hnumeric)
    · exact hwords.2

end RestClient
