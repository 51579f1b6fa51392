import RestClient.Proofs.Client.Interfaces

/-! # The rows of the type of the parameters

The declaration of the parameters is a text that is indented twice: a group is an object type inside
another one, put together and cut into lines before it is indented again. Row by row it is simpler.
Every field has its rows at the depth where it stands, with the comment for its description above
them, and every group stands between two rows of its own.

This holds for names and types without carriage returns: those at line ends would be lost on the way.

* `fieldRows` and `groupRows`: the rows of a field and of a group;
* `entryRows_documented` and `flatMap_entryRows_groupEntry`: they are those that are written;
* `exists_splitOn_format`: the rows of a field are those of its type;
* `Operation.splitOn_paramsDeclaration`: the rows of the declaration. -/

namespace RestClient

open RestClient.Text RestClient.TypeScript

/-! ### Texts without carriage returns -/

/-- A parameter without carriage returns in its name and its type. -/
def Param.HasNoReturns (param : Param) : Prop :=
  '\r' ∉ param.name.toList ∧ '\r' ∉ param.type.toList

/-- An operation without carriage returns in the names and types of its parameters. -/
def Operation.HasNoReturns (op : Operation) : Prop :=
  (∀ param ∈ op.positionalParams ++ op.queryParams ++ op.headerParams, param.HasNoReturns) ∧
  ∀ body ∈ op.bodyParam, '\r' ∉ body.type.toList

instance (param : Param) : Decidable param.HasNoReturns :=
  inferInstanceAs (Decidable (_ ∧ _))

instance (op : Operation) : Decidable op.HasNoReturns :=
  inferInstanceAs (Decidable (_ ∧ _))

theorem notMem_typeOrAny {type : String} (h : '\r' ∉ type.toList) :
    '\r' ∉ (typeOrAny type).toList := by
  unfold typeOrAny
  split
  · decide
  · exact h

/-! ### Fields -/

/-- What stands before the type of a field. -/
def TypeScript.Field.front (field : Field) : String :=
  (if field.readonly then "readonly " else "") ++ field.key ++
    (if field.required then "" else "?") ++ ": "

theorem toList_format (field : Field) :
    field.format.toList = field.front.toList ++ (field.type.toList ++ [';']) := by
  simp [Field.format, Field.front]

/-- **The rows of a field are those of its type**, with what stands before the type in front of the
first one, and a semicolon behind the last one. -/
theorem exists_splitOn_format (field : Field) :
    ∃ before last, field.front.toList.splitOn '\n' = before ++ [last] ∧
      field.format.toList.splitOn '\n' = before ++
        ((field.type.toList.splitOn '\n').modifyLast (· ++ [';'])).modifyHead (last ++ ·) := by
  obtain ⟨before, last, hfront, hrows⟩ :=
    exists_splitOn_append field.front.toList (field.type.toList ++ [';'])
  rw [splitOn_append_of_notMem field.type.toList (by decide)] at hrows
  exact ⟨before, last, hfront, by rw [toList_format, hrows]⟩

/-- The rows of a field at a depth, with the comment for its description above them. -/
def fieldRows (margin : List Char) (description : Option String) (field : Field) :
    List (List Char) :=
  (commentRows description ++ field.format.toList.splitOn '\n').map (margin ++ ·)

/-- A field without carriage returns. -/
def TypeScript.Field.HasNoReturns (field : Field) : Prop :=
  '\r' ∉ field.key.toList ∧ '\r' ∉ field.type.toList

theorem Param.HasNoReturns.field {param : Param} (h : param.HasNoReturns) {key : String → String}
    (hkey : ∀ name : String, IsKeyOf name.toList (key name).toList) (required : Bool) :
    (param.field key required).HasNoReturns :=
  ⟨(hkey param.name).notMem (by decide) (by decide) h.1, notMem_typeOrAny h.2⟩

section Rows

variable {field : Field} (h : field.HasNoReturns)
include h

theorem notMem_format : '\r' ∉ field.format.toList := by
  have hreadonly : '\r' ∉ (if field.readonly then "readonly " else "").toList := by split <;> decide
  have hmark : '\r' ∉ (if field.required then "" else "?").toList := by split <;> decide
  have hcolon : '\r' ∉ ": ".toList := by decide
  have hfront : '\r' ∉ field.front.toList := by
    simp only [Field.front, String.toList_append, List.mem_append, not_or]
    exact ⟨⟨⟨hreadonly, h.1⟩, hmark⟩, hcolon⟩
  rw [toList_format]
  exact List.not_mem_append hfront (List.not_mem_append h.2 (by decide))

theorem lines_format : lines field.format.toList = field.format.toList.splitOn '\n' := by
  refine lines_eq_splitOn (notMem_format h) ?_
  rw [toList_format, ← List.append_assoc, List.getLast?_concat]
  decide

theorem entryRows_documented (description : Option String) :
    entryRows (documented description field) = fieldRows [' ', ' '] description field := by
  rw [entryRows, marginLines, lines_documented, lines_format h, fieldRows]

/-- The second level takes nothing from the rows of a field, and its comment ends in a slash. -/
theorem memberRows_documented (description : Option String) :
    memberRows (documented description field) =
      fieldRows [' ', ' ', ' ', ' '] description field := by
  rw [memberRows, lines_documented, lines_format h, fieldRows]
  refine List.map_congr_left fun row hrow => ?_
  have hdrop : dropReturn ([' ', ' '] ++ row) = [' ', ' '] ++ row := by
    rcases List.mem_append.1 hrow with hcomment | hrow
    · obtain ⟨text, hrow⟩ := of_mem_commentRows hcomment
      rw [hrow, dropReturn_docComment]
    · have hplain := notMem_of_mem_splitOn (notMem_format h) hrow
      exact dropReturn_of_notMem (List.not_mem_append (by decide) hplain)
  rw [hdrop]
  rfl

end Rows

/-! ### Groups -/

/-- The rows of a group: the one that opens it, those of its members two levels in, and the one that
closes it. A group without members has none. -/
def groupRows (name : String) (key : String → String) (params : List Param) : List (List Char) :=
  if params.isEmpty then []
  else
    ([' ', ' '] ++ groupOpening name params) ::
      ((params.flatMap fun param =>
          fieldRows [' ', ' ', ' ', ' '] param.description (param.field key param.required)) ++
        [[' ', ' ', '}', ';']])

theorem groupEntry_eq_nil_iff {name : String} {key : String → String} {params : List Param} :
    groupEntry name key params = [] ↔ params = [] := by
  unfold groupEntry
  cases params <;> simp

theorem exists_groupEntry_eq (name : String) (key : String → String) {params : List Param}
    (h : params ≠ []) : ∃ entry, groupEntry name key params = [entry] :=
  ⟨_, if_neg (by simpa using h)⟩

theorem flatMap_entryRows_groupEntry {name : String} (hname : '\n' ∉ name.toList)
    {key : String → String} (hkey : ∀ name : String, IsKeyOf name.toList (key name).toList)
    {params : List Param} (h : ∀ param ∈ params, param.HasNoReturns) :
    (groupEntry name key params).flatMap entryRows = groupRows name key params := by
  have hmembers : (memberEntries key params).flatMap memberRows =
      params.flatMap fun param =>
        fieldRows [' ', ' ', ' ', ' '] param.description (param.field key param.required) := by
    rw [memberEntries, List.flatMap_map]
    exact List.flatMap_congr fun param hparam =>
      memberRows_documented ((h param hparam).field hkey param.required) param.description
  have hopening : marginLines [' ', ' '] (groupOpening name params ++ ['\n']) =
      [[' ', ' '] ++ groupOpening name params] := by
    rw [marginLines, lines_append_newline [] (notMem_groupOpening hname params),
      dropReturn_groupOpening, lines_nil]
    rfl
  by_cases hparams : params = []
  · rw [hparams]
    rfl
  · obtain ⟨entry, hone⟩ := exists_groupEntry_eq name key hparams
    have hentry : entry ∈ groupEntry name key params := hone ▸ List.mem_singleton_self entry
    rw [hone, List.flatMap_singleton, entryRows_of_mem_groupEntry entry hentry, hmembers, hopening,
      groupRows, if_neg (by simpa using hparams)]
    rfl

/-! ### The declaration -/

/-- An operation with a parameter or a body. -/
def Operation.HasParams (op : Operation) : Prop :=
  op.positionalParams ≠ [] ∨ op.bodyParam ≠ none ∨ op.queryParams ≠ [] ∨ op.headerParams ≠ []

instance (op : Operation) : Decidable op.HasParams :=
  inferInstanceAs (Decidable (_ ∨ _))

theorem paramsEntries_eq_nil_iff {op : Operation} : op.paramsEntries = [] ↔ ¬ op.HasParams := by
  simp only [Operation.paramsEntries, Operation.HasParams, List.append_eq_nil_iff,
    List.map_eq_nil_iff, groupEntry_eq_nil_iff, Option.toList_eq_nil_iff, not_or, not_not, and_assoc]

/-- The field of a body. -/
def BodyParam.field (body : BodyParam) : Field :=
  { key := "data", type := typeOrAny body.type, required := body.required }

theorem BodyParam.hasNoReturns_field {body : BodyParam} (h : '\r' ∉ body.type.toList) :
    body.field.HasNoReturns := by
  have hdata : '\r' ∉ "data".toList := by decide
  exact ⟨hdata, notMem_typeOrAny h⟩

/-- The rows of the parameters of an operation, in order. -/
def Operation.paramsRows (op : Operation) : List (List Char) :=
  (op.positionalParams.flatMap fun param =>
      fieldRows [' ', ' '] param.description (param.field propertyKey true)) ++
    (op.bodyParam.toList.flatMap fun body => fieldRows [' ', ' '] body.description body.field) ++
    groupRows "query" propertyKey op.queryParams ++
    groupRows "headers" stringLiteral op.headerParams

/-- **The entries of an operation are written in the rows of its parameters.** -/
theorem flatMap_entryRows_paramsEntries {op : Operation} (h : op.HasNoReturns) :
    op.paramsEntries.flatMap entryRows = op.paramsRows := by
  obtain ⟨hparams, hbody⟩ := h
  simp only [List.forall_mem_append] at hparams
  obtain ⟨⟨hpositional, hquery⟩, hheaders⟩ := hparams
  have hnames : '\n' ∉ "query".toList ∧ '\n' ∉ "headers".toList := by decide
  have hpositions : (op.positionalParams.map Param.positionalEntry).flatMap entryRows =
      op.positionalParams.flatMap fun param =>
        fieldRows [' ', ' '] param.description (param.field propertyKey true) := by
    rw [List.flatMap_map]
    exact List.flatMap_congr fun param hparam => entryRows_documented
      ((hpositional param hparam).field isKeyOf_propertyKey true) param.description
  have hbodies : (op.bodyParam.toList.map BodyParam.entry).flatMap entryRows =
      op.bodyParam.toList.flatMap fun body =>
        fieldRows [' ', ' '] body.description body.field := by
    rw [List.flatMap_map]
    exact List.flatMap_congr fun body hmem => entryRows_documented
      (BodyParam.hasNoReturns_field (hbody body (Option.mem_toList.1 hmem))) body.description
  simp only [Operation.paramsEntries, List.flatMap_append]
  rw [hpositions, hbodies,
    flatMap_entryRows_groupEntry hnames.1 isKeyOf_propertyKey hquery,
    flatMap_entryRows_groupEntry hnames.2 isKeyOf_stringLiteral hheaders]
  rfl

/-- **The declaration of the parameters, row by row.** Without any parameter it is an empty interface.
Otherwise the rows of the parameters stand between an opening row and a closing row. The rows of a field
are all rows of its type, in order. -/
theorem Operation.splitOn_paramsDeclaration (op : Operation) (h : op.HasNoReturns) :
    (¬ op.HasParams → op.paramsDeclaration op.names =
      "export interface " ++ op.names.paramsType ++ " \x7b\x7d") ∧
    (op.HasParams → (op.paramsDeclaration op.names).toList.splitOn '\n' =
      ((op.paramsKind.opening op.names.paramsType).toList ++ ['{']) ::
        (op.paramsRows ++ ['}' :: op.paramsKind.closing.toList])) ∧
    ∀ field : Field, ∃ before last, field.front.toList.splitOn '\n' = before ++ [last] ∧
      field.format.toList.splitOn '\n' = before ++
        ((field.type.toList.splitOn '\n').modifyLast (· ++ [';'])).modifyHead (last ++ ·) := by
  refine ⟨fun hparams => ?_, fun hparams => ?_, exists_splitOn_format⟩
  · have hempty (name : String) :
        declaration name (objectBody []) = "export interface " ++ name ++ " \x7b\x7d" :=
      String.append_assoc
    rw [Operation.paramsDeclaration, paramsEntries_eq_nil_iff.2 hparams, hempty]
  · have hentries : op.paramsEntries ≠ [] := fun hnil => paramsEntries_eq_nil_iff.1 hnil hparams
    have hname : '\n' ∉ op.names.paramsType.toList :=
      notMem_of_isPlainIdentifier (isPlainIdentifier_paramsType _ _)
    have hopening : '\n' ∉ (op.paramsKind.opening op.names.paramsType).toList ++ ['{'] :=
      List.not_mem_append (notMem_opening hname _) (by decide)
    have hkind : DeclarationKind.ofBody (objectBody op.paramsEntries).toList = op.paramsKind := rfl
    rw [Operation.paramsDeclaration, splitOn_declaration_objectBody hentries hkind,
      flatMap_entryRows_paramsEntries h, List.splitOn_eq_singleton hopening, List.singleton_append]

/-- An operation with a type of several rows in a group, and with a blank description. -/
def saveDraft : Operation where
  path := "/drafts/{id}"
  verb := .put
  server := ""
  positionalParams := [⟨"id", "string", true, some "Which\ndraft"⟩]
  queryParams := [⟨"dry-run", "boolean", false, some " "⟩]
  headerParams := [⟨"X-Tag", "\x7b\n  tag: string\n\x7d", true, none⟩]
  bodyParam := some ⟨"", "", false, none, "application/json"⟩
  responses := []

theorem saveDraft_splitOn_paramsDeclaration :
    saveDraft.HasNoReturns ∧ saveDraft.HasParams ∧
    (saveDraft.paramsDeclaration saveDraft.names).toList.splitOn '\n' =
      ["export interface ReplaceDraftParams \x7b",
        "  /** Which draft */",
        "  id: string;",
        "  data?: any;",
        "  query?: \x7b",
        "    \"dry-run\"?: boolean;",
        "  \x7d;",
        "  headers: \x7b",
        "    \"X-Tag\": \x7b",
        "      tag: string",
        "    \x7d;",
        "  \x7d;",
        "\x7d"].map String.toList := by
  have hreturns : saveDraft.HasNoReturns := by decide
  have hparams : saveDraft.HasParams := by decide
  have hname : saveDraft.names.paramsType = "ReplaceDraftParams" := by decide +kernel
  have hbalanced : saveDraft.HasBalancedTexts := by decide +kernel
  have hkind : saveDraft.paramsKind = .interface :=
    ofBody_objectBody_eq_interface (isBalanced_of_mem_paramsEntries hbalanced)
  refine ⟨hreturns, hparams, ?_⟩
  rw [(saveDraft.splitOn_paramsDeclaration hreturns).2.1 hparams, hname, hkind]
  rfl

end RestClient
