import RestClient.Proofs.Client.Keys
import RestClient.Proofs.TypeScript.Braces

/-! # Descriptions in the type of the parameters

A description becomes a comment on a row of its own, above its parameter. Without the rows that are
comments, the object type of the parameters is the same whatever the descriptions are. The form in
which it is declared need not be: that is chosen by the braces and signs in the object type, and those
in comments count too. The declarations are the same, comments apart, if and only if the forms are,
and they are if no description has a brace or a sign, or if all braces come in pairs.

* `flatMap_paramsEntries`: what ignores the descriptions of entries ignores those of an operation;
* `withoutComments_entryRows` and `signs_paramsEntries`: its cases for rows and for signs;
* `isBalanced_paramsEntries_iff`: its case for braces that come in pairs;
* `Operation.codeRows_paramsDeclaration`: what the declaration of the parameters keeps. -/

namespace RestClient

open RestClient.Text RestClient.TypeScript

/-! ### Descriptions -/

/-- A parameter without its description. -/
def Param.withoutDescription (param : Param) : Param := { param with description := none }

/-- A body without its description. -/
def BodyParam.withoutDescription (body : BodyParam) : BodyParam := { body with description := none }

/-- An operation without the descriptions of its parameters. -/
def Operation.withoutDescriptions (op : Operation) : Operation :=
  { op with
    positionalParams := op.positionalParams.map Param.withoutDescription
    queryParams := op.queryParams.map Param.withoutDescription
    headerParams := op.headerParams.map Param.withoutDescription
    bodyParam := op.bodyParam.map BodyParam.withoutDescription }

/-- The descriptions of the parameters of an operation. -/
def Operation.descriptions (op : Operation) : List String :=
  (op.positionalParams ++ op.queryParams ++ op.headerParams).filterMap Param.description ++
    op.bodyParam.toList.filterMap BodyParam.description

section Entries

variable {β : Type} {f : String → List β} {p : String → Prop}

/-- **What ignores the descriptions of entries ignores those of an operation**: the path parameters
and the body are documented fields, and the groups hold them. -/
theorem flatMap_paramsEntries
    (hdocumented : ∀ description field, (∀ text ∈ description, p text) →
      f (documented description field) = f field.format)
    (hgroup : ∀ name key params, (∀ param ∈ params, ∀ text ∈ param.description, p text) →
      (groupEntry name key params).flatMap f =
        (groupEntry name key (params.map Param.withoutDescription)).flatMap f)
    {op : Operation} (h : ∀ text ∈ op.descriptions, p text) :
    op.paramsEntries.flatMap f = op.withoutDescriptions.paramsEntries.flatMap f := by
  have hparam : ∀ param ∈ op.positionalParams ++ op.queryParams ++ op.headerParams,
      ∀ text ∈ param.description, p text := fun param hparam text htext =>
    h text (List.mem_append_left _ (List.mem_filterMap.2 ⟨param, hparam, htext⟩))
  have hbody : ∀ body ∈ op.bodyParam.toList, ∀ text ∈ body.description, p text :=
    fun body hbody text htext =>
      h text (List.mem_append_right _ (List.mem_filterMap.2 ⟨body, hbody, htext⟩))
  simp only [List.forall_mem_append] at hparam
  obtain ⟨⟨hpositional, hquery⟩, hheaders⟩ := hparam
  have hpositions : (op.positionalParams.map Param.positionalEntry).flatMap f =
      ((op.positionalParams.map Param.withoutDescription).map Param.positionalEntry).flatMap f := by
    rw [List.flatMap_map, List.map_map, List.flatMap_map]
    exact List.flatMap_congr fun param hmem => hdocumented _ _ (hpositional param hmem)
  have hbodies : (op.bodyParam.toList.map BodyParam.entry).flatMap f =
      ((op.bodyParam.map BodyParam.withoutDescription).toList.map BodyParam.entry).flatMap f := by
    cases hop : op.bodyParam with
    | none => rfl
    | some body =>
      have hentry : f body.entry = f body.withoutDescription.entry :=
        hdocumented _ _ (hbody body (by simp [hop]))
      simp [hentry]
  simp only [Operation.paramsEntries, Operation.withoutDescriptions, List.flatMap_append]
  rw [hpositions, hbodies, hgroup "query" _ _ hquery, hgroup "headers" _ _ hheaders]

end Entries

/-! ### Rows without comments -/

/-- The rows that are no comments. -/
def withoutComments (rows : List (List Char)) : List (List Char) :=
  rows.filter fun row => !isCommentRow row

/-- The rows of a text that are no comments. -/
def codeRows (text : String) : List (List Char) := withoutComments (text.toList.splitOn '\n')

theorem withoutComments_append (rows rows' : List (List Char)) :
    withoutComments (rows ++ rows') = withoutComments rows ++ withoutComments rows' :=
  List.filter_append rows rows'

theorem withoutComments_flatMap {α : Type} (l : List α) (f : α → List (List Char)) :
    withoutComments (l.flatMap f) = l.flatMap fun a => withoutComments (f a) :=
  List.filter_flatMap

theorem isCommentRow_docComment {spaces : List Char} (h : ∀ c ∈ spaces, c = ' ') (text : String) :
    isCommentRow (spaces ++ (docComment text).toList) = true :=
  isCommentRow_iff.2 ⟨spaces, text, h, rfl⟩

theorem dropReturn_docComment (spaces : List Char) (text : String) :
    dropReturn (spaces ++ (docComment text).toList) = spaces ++ (docComment text).toList :=
  dropReturn_append_of_ne spaces (by simp [toList_docComment, List.getLast?_cons])

/-- What stands above a field: its description as a comment, or nothing for a blank one. -/
def commentRows : Option String → List (List Char)
  | none => []
  | some text => if isBlankText text.toList then [] else [(docComment text).toList]

theorem of_mem_commentRows {description : Option String} {row : List Char}
    (h : row ∈ commentRows description) : ∃ text, row = (docComment text).toList := by
  unfold commentRows at h
  split at h
  · cases h
  · rename_i text
    split at h
    · cases h
    · exact ⟨text, List.mem_singleton.1 h⟩

/-- **The lines of a documented field** are those of the field, with the comment above them. -/
theorem lines_documented (description : Option String) (field : Field) :
    lines (documented description field).toList =
      commentRows description ++ lines field.format.toList := by
  cases description with
  | none => rfl
  | some text =>
    rw [documented, commentRows]
    split
    · rfl
    · have htext : (docComment text ++ "\n" ++ field.format).toList =
          (docComment text).toList ++ '\n' :: field.format.toList := by simp
      have hreturn := dropReturn_docComment [] text
      rw [List.nil_append] at hreturn
      rw [htext, lines_append_newline _ (notMem_docComment text), hreturn, List.singleton_append]

/-- The lines of a documented field, laid out in any way that keeps comments, are those of the field
and comments. -/
theorem withoutComments_map_lines_documented {g : List Char → List Char}
    (hg : ∀ text, isCommentRow (g (docComment text).toList) = true) (description : Option String)
    (field : Field) :
    withoutComments ((lines (documented description field).toList).map g) =
      withoutComments ((lines field.format.toList).map g) := by
  have hcomments : withoutComments ((commentRows description).map g) = [] := by
    refine List.filter_eq_nil_iff.2 (List.forall_mem_map.2 fun row hrow => ?_)
    obtain ⟨text, heq⟩ := of_mem_commentRows hrow
    rw [heq, hg text]
    decide
  rw [lines_documented, List.map_append, withoutComments_append, hcomments, List.nil_append]

/-- The rows of an entry of a group, two levels in. Each level takes a carriage return from the end of
a line. -/
def memberRows (entry : String) : List (List Char) :=
  (lines entry.toList).map fun line => [' ', ' '] ++ dropReturn ([' ', ' '] ++ line)

theorem withoutComments_memberRows_documented (description : Option String) (field : Field) :
    withoutComments (memberRows (documented description field)) =
      withoutComments (memberRows field.format) := by
  refine withoutComments_map_lines_documented (fun text => ?_) description field
  rw [dropReturn_docComment, ← List.append_assoc]
  exact isCommentRow_docComment (by simp) text

theorem entryRows_of_mem_groupEntry {name : String} {key : String → String} {params : List Param} :
    ∀ entry ∈ groupEntry name key params,
      entryRows entry =
        marginLines [' ', ' '] (groupOpening name params ++ ['\n']) ++
          (memberEntries key params).flatMap memberRows ++ [[' ', ' ', '}', ';']] := by
  intro entry hentry
  have hrows : ∀ row ∈ (memberEntries key params).flatMap fun entry =>
      marginLines [' ', ' '] entry.toList, '\n' ∉ row := by
    intro row hrow
    obtain ⟨entry, -, hrow⟩ := List.mem_flatMap.1 hrow
    exact notMem_of_mem_marginLines (by decide) hrow
  have htext : entry.toList = (groupOpening name params ++ ['\n']) ++
      (endedRows ((memberEntries key params).flatMap fun entry =>
        marginLines [' ', ' '] entry.toList) ++ ['}', ';']) := by
    rw [toList_of_mem_groupEntry entry hentry, flatMap_indentLines_eq_endedRows]
    simp
  have hlast : lines ['}', ';'] = [['}', ';']] := by decide
  have hmember : memberRows = fun entry =>
      (lines entry.toList).map fun line => [' ', ' '] ++ dropReturn ([' ', ' '] ++ line) := rfl
  rw [entryRows, marginLines, htext, lines_append _ (isEnded_append_newline _),
    lines_endedRows_append hrows, hlast]
  simp [marginLines, hmember, List.map_flatMap, Function.comp_def]

/-- A group is one entry or none, whatever the descriptions in it. -/
theorem flatMap_groupEntry_congr {β : Type} {f : String → List β} {name : String}
    {key : String → String} {params : List Param}
    (h : ∀ entry ∈ groupEntry name key params,
      ∀ entry' ∈ groupEntry name key (params.map Param.withoutDescription), f entry = f entry') :
    (groupEntry name key params).flatMap f =
      (groupEntry name key (params.map Param.withoutDescription)).flatMap f := by
  cases params with
  | nil => rfl
  | cons param params => simpa [groupEntry] using h

theorem any_required_withoutDescription (params : List Param) :
    (params.map Param.withoutDescription).any (·.required) = params.any (·.required) := by
  rw [List.any_map]
  rfl

/-- Without comments, the rows of a group do not depend on descriptions. -/
theorem flatMap_withoutComments_groupEntry (name : String) (key : String → String)
    (params : List Param) :
    (groupEntry name key params).flatMap (fun entry => withoutComments (entryRows entry)) =
      (groupEntry name key (params.map Param.withoutDescription)).flatMap
        fun entry => withoutComments (entryRows entry) := by
  have hmembers : withoutComments ((memberEntries key params).flatMap memberRows) =
      withoutComments ((memberEntries key (params.map Param.withoutDescription)).flatMap
        memberRows) := by
    rw [memberEntries, memberEntries, List.map_map, withoutComments_flatMap,
      withoutComments_flatMap, List.flatMap_map, List.flatMap_map]
    exact List.flatMap_congr fun param _ => withoutComments_memberRows_documented param.description _
  refine flatMap_groupEntry_congr (fun entry hentry entry' hentry' => ?_)
  rw [entryRows_of_mem_groupEntry entry hentry, entryRows_of_mem_groupEntry entry' hentry']
  simp only [withoutComments_append, groupOpening, any_required_withoutDescription, hmembers]

/-- **Without comments, the entries of an operation do not depend on descriptions.** -/
theorem withoutComments_entryRows (op : Operation) :
    withoutComments (op.paramsEntries.flatMap entryRows) =
      withoutComments (op.withoutDescriptions.paramsEntries.flatMap entryRows) := by
  rw [withoutComments_flatMap, withoutComments_flatMap]
  refine flatMap_paramsEntries (p := fun _ => True) (fun description field _ => ?_)
    (fun name key params _ => flatMap_withoutComments_groupEntry name key params) (by simp)
  exact withoutComments_map_lines_documented (isCommentRow_docComment (by simp)) description field

/-! ### Braces and signs in comments -/

theorem signs_documented {description : Option String}
    (h : ∀ text ∈ description, signs text.toList = []) (field : Field) :
    signs (documented description field).toList = signs field.format.toList := by
  unfold documented
  split
  · rfl
  · split
    · rfl
    · rename_i text _
      have hbreak : signs "\n".toList = [] := by decide
      rw [String.toList_append, String.toList_append, signs_append, signs_append,
        signs_docComment, h text rfl, hbreak, List.nil_append, List.nil_append]

/-- The braces and signs of a group are those of its opening, its members and its end. -/
theorem signs_of_mem_groupEntry {name : String} {key : String → String} {params : List Param} :
    ∀ entry ∈ groupEntry name key params,
      signs entry.toList = signs (groupOpening name params) ++
        ((params.flatMap fun param => signs (param.memberEntry key).toList) ++ ['}']) := by
  intro entry hentry
  have hmargin : signs [' ', ' '] = [] := by decide
  have hbreak (s : List Char) : signs ('\n' :: s) = signs s := rfl
  rw [toList_of_mem_groupEntry entry hentry, memberEntries, List.flatMap_map]
  simp only [signs_append, hbreak, signs_flatMap, signs_indentLines hmargin]
  rfl

theorem flatMap_signs_groupEntry (name : String) (key : String → String) {params : List Param}
    (h : ∀ param ∈ params, ∀ text ∈ param.description, signs text.toList = []) :
    (groupEntry name key params).flatMap (fun entry => signs entry.toList) =
      (groupEntry name key (params.map Param.withoutDescription)).flatMap
        fun entry => signs entry.toList := by
  refine flatMap_groupEntry_congr (fun entry hentry entry' hentry' => ?_)
  rw [signs_of_mem_groupEntry entry hentry, signs_of_mem_groupEntry entry' hentry', groupOpening,
    groupOpening, any_required_withoutDescription, List.flatMap_map]
  refine congrArg (fun members => _ ++ (members ++ _)) (List.flatMap_congr fun param hparam => ?_)
  exact signs_documented (h param hparam) _

/-- **The braces and signs of an operation do not depend on descriptions without any.** -/
theorem signs_paramsEntries {op : Operation}
    (h : ∀ text ∈ op.descriptions, signs text.toList = []) :
    (op.paramsEntries.flatMap fun entry => signs entry.toList) =
      op.withoutDescriptions.paramsEntries.flatMap fun entry => signs entry.toList :=
  flatMap_paramsEntries (p := fun text => signs text.toList = [])
    (fun _ field hdescription => signs_documented hdescription field)
    (fun name key _ hparams => flatMap_signs_groupEntry name key hparams) h

/-! ### Balanced descriptions -/

/-- Whether every brace of an entry, and of what stands behind it, has its partner, where some number
of pairs is open before the entry. -/
def closesFrom (entry : String) (depth : Nat) (t : List Char) : Bool :=
  closes depth (signs entry.toList ++ t)

theorem isBalanced_iff_closesFrom {entry : String} :
    IsBalanced entry.toList ↔ closesFrom entry 0 [] = true := by
  rw [closesFrom, List.append_nil, closes_signs, isBalanced_iff_closes]

theorem closesFrom_documented {description : Option String}
    (h : ∀ text ∈ description, IsBalanced text.toList) (field : Field) :
    closesFrom (documented description field) = closesFrom field.format := by
  unfold documented
  split
  · rfl
  · split
    · rfl
    · rename_i text _
      have hcomment : IsBalanced (signs (docComment text).toList) :=
        isBalanced_signs.2 (isBalanced_docComment.2 (h text rfl))
      have hbreak : signs "\n".toList = [] := by decide
      funext depth t
      rw [closesFrom, String.toList_append, String.toList_append, signs_append, signs_append, hbreak,
        List.append_nil, List.append_assoc, hcomment.closes_append, ← closesFrom]

/-- A group closes the same pairs without balanced descriptions, for each of its members does. -/
theorem flatMap_closesFrom_groupEntry (name : String) (key : String → String) {params : List Param}
    (h : ∀ param ∈ params, ∀ text ∈ param.description, IsBalanced text.toList) :
    (groupEntry name key params).flatMap (fun entry => [closesFrom entry]) =
      (groupEntry name key (params.map Param.withoutDescription)).flatMap
        fun entry => [closesFrom entry] := by
  refine flatMap_groupEntry_congr (fun entry hentry entry' hentry' => ?_)
  have hmember : ∀ param ∈ params, ∀ depth t,
      closes depth (signs (param.memberEntry key).toList ++ t) =
        closes depth (signs (param.withoutDescription.memberEntry key).toList ++ t) := by
    intro param hparam depth t
    exact congrFun (congrFun (closesFrom_documented (h param hparam) _) depth) t
  have hentries : closesFrom entry = closesFrom entry' := by
    funext depth t
    rw [closesFrom, closesFrom, signs_of_mem_groupEntry entry hentry,
      signs_of_mem_groupEntry entry' hentry', groupOpening, groupOpening,
      any_required_withoutDescription, List.flatMap_map]
    simp only [List.append_assoc]
    exact closes_append_congr _ (fun depth => closes_flatMap_congr hmember depth _) depth
  rw [hentries]

/-- **Balanced descriptions leave balanced entries balanced**, and the others unbalanced. -/
theorem isBalanced_paramsEntries_iff {op : Operation}
    (h : ∀ text ∈ op.descriptions, IsBalanced text.toList) :
    (∀ entry ∈ op.paramsEntries, IsBalanced entry.toList) ↔
      ∀ entry ∈ op.withoutDescriptions.paramsEntries, IsBalanced entry.toList := by
  have hcloses : op.paramsEntries.flatMap (fun entry => [closesFrom entry]) =
      op.withoutDescriptions.paramsEntries.flatMap fun entry => [closesFrom entry] :=
    flatMap_paramsEntries (p := fun text => IsBalanced text.toList)
      (fun _ field hdescription => congrArg (fun closes => [closes])
        (closesFrom_documented hdescription field))
      (fun name key _ hparams => flatMap_closesFrom_groupEntry name key hparams) h
  have hall (entries : List String) : (∀ entry ∈ entries, IsBalanced entry.toList) ↔
      ∀ closes ∈ entries.map closesFrom, closes 0 [] = true := by
    rw [List.forall_mem_map]
    exact forall₂_congr fun entry _ => isBalanced_iff_closesFrom
  rw [hall, hall, List.map_eq_flatMap, List.map_eq_flatMap, hcloses]

/-! ### The declaration of the parameters -/

/-- Descriptions make no entries. -/
theorem length_paramsEntries (op : Operation) :
    op.paramsEntries.length = op.withoutDescriptions.paramsEntries.length := by
  have hunits : op.paramsEntries.flatMap (fun _ => [()]) =
      op.withoutDescriptions.paramsEntries.flatMap fun _ => [()] :=
    flatMap_paramsEntries (p := fun _ => True) (fun _ _ _ => rfl)
      (fun _ _ _ _ => flatMap_groupEntry_congr fun _ _ _ _ => rfl) (by simp)
  simpa using congrArg List.length hunits

theorem codeRows_objectBody {entries : List String} (h : entries ≠ []) :
    codeRows (objectBody entries) =
      ['{'] :: (withoutComments (entries.flatMap entryRows) ++ [['}']]) := by
  have hopening : withoutComments (([] ++ ['{'] : List Char).splitOn '\n') = [['{']] := by decide
  have hclosing : withoutComments [['}']] = [['}']] := by decide
  have hnil : '\n' ∉ ([] : List Char) := List.not_mem_nil
  have hrows := splitOn_append_objectBody_append h [] hnil
  rw [List.nil_append, List.append_nil] at hrows
  rw [codeRows, hrows, withoutComments_append, withoutComments_append, hopening, hclosing]
  rfl

theorem codeRows_declaration {name : String} {entries : List String} (h : entries ≠ [])
    {kind : DeclarationKind} (hkind : DeclarationKind.ofBody (objectBody entries).toList = kind) :
    codeRows (declaration name (objectBody entries)) =
      withoutComments (((kind.opening name).toList ++ ['{']).splitOn '\n') ++
        withoutComments (entries.flatMap entryRows) ++ ['}' :: kind.closing.toList] := by
  have hclosing : withoutComments ['}' :: kind.closing.toList] = ['}' :: kind.closing.toList] := by
    cases kind <;> decide
  rw [codeRows, splitOn_declaration_objectBody h hkind, withoutComments_append,
    withoutComments_append, hclosing, List.append_assoc]

theorem codeRows_declaration_iff {entries entries' : List String} (h : entries ≠ [])
    (h' : entries' ≠ [])
    (hrows : withoutComments (entries.flatMap entryRows) =
      withoutComments (entries'.flatMap entryRows)) (name : String) :
    codeRows (declaration name (objectBody entries)) =
        codeRows (declaration name (objectBody entries')) ↔
      DeclarationKind.ofBody (objectBody entries).toList =
        DeclarationKind.ofBody (objectBody entries').toList := by
  constructor
  · -- The two forms end differently, and the last row is no comment.
    intro heq
    rw [codeRows_declaration h rfl, codeRows_declaration h' rfl] at heq
    have hlast := congrArg List.getLast? heq
    rw [List.getLast?_concat, List.getLast?_concat, Option.some.injEq, List.cons.injEq] at hlast
    exact closing_injective (String.toList_inj.1 hlast.2)
  · intro heq
    rw [codeRows_declaration h heq, codeRows_declaration h' rfl, hrows]

/-- Descriptions without braces and signs do not change the form of the declaration. -/
theorem Operation.paramsKind_of_plain {op : Operation}
    (h : ∀ text ∈ op.descriptions, signs text.toList = []) :
    op.paramsKind = op.withoutDescriptions.paramsKind :=
  ofBody_objectBody_congr (signs_paramsEntries h)

/-- With balanced descriptions, the parameters are an interface if the entries without them are
balanced. -/
theorem Operation.paramsKind_of_balanced {op : Operation}
    (h : ∀ text ∈ op.descriptions, IsBalanced text.toList)
    (hentries : ∀ entry ∈ op.withoutDescriptions.paramsEntries, IsBalanced entry.toList) :
    op.paramsKind = .interface :=
  ofBody_objectBody_eq_interface ((isBalanced_paramsEntries_iff h).2 hentries)

/-- **Descriptions are comments, up to the form of the declaration.** Operations that differ in
descriptions only have the same object type, comments apart. Their declarations are the same if and
only if they have the same form, and they have if no description has a brace or a sign. Where the
braces of all descriptions come in pairs, and those of the entries without them do too, both are
interfaces. -/
theorem Operation.codeRows_paramsDeclaration {op op' : Operation}
    (h : op.withoutDescriptions = op'.withoutDescriptions) :
    codeRows (objectBody op.paramsEntries) = codeRows (objectBody op'.paramsEntries) ∧
    (∀ names : Names,
      codeRows (op.paramsDeclaration names) = codeRows (op'.paramsDeclaration names) ↔
        op.paramsKind = op'.paramsKind) ∧
    ((∀ text ∈ op.descriptions ++ op'.descriptions, signs text.toList = []) →
      op.paramsKind = op'.paramsKind) ∧
    ((∀ text ∈ op.descriptions ++ op'.descriptions, IsBalanced text.toList) →
      (∀ entry ∈ op.withoutDescriptions.paramsEntries, IsBalanced entry.toList) →
      op.paramsKind = .interface ∧ op'.paramsKind = .interface) := by
  have hlength : op.paramsEntries.length = op'.paramsEntries.length := by
    rw [length_paramsEntries op, h, ← length_paramsEntries op']
  have hrows : withoutComments (op.paramsEntries.flatMap entryRows) =
      withoutComments (op'.paramsEntries.flatMap entryRows) := by
    rw [withoutComments_entryRows op, h, ← withoutComments_entryRows op']
  have hsigns (hplain : ∀ text ∈ op.descriptions ++ op'.descriptions, signs text.toList = []) :
      op.paramsKind = op'.paramsKind := by
    obtain ⟨hplain, hplain'⟩ := List.forall_mem_append.1 hplain
    rw [Operation.paramsKind_of_plain hplain, h, ← Operation.paramsKind_of_plain hplain']
  have hinterface (hpaired : ∀ text ∈ op.descriptions ++ op'.descriptions, IsBalanced text.toList)
      (hentries : ∀ entry ∈ op.withoutDescriptions.paramsEntries, IsBalanced entry.toList) :
      op.paramsKind = .interface ∧ op'.paramsKind = .interface := by
    obtain ⟨hpaired, hpaired'⟩ := List.forall_mem_append.1 hpaired
    exact ⟨Operation.paramsKind_of_balanced hpaired hentries,
      Operation.paramsKind_of_balanced hpaired' (h ▸ hentries)⟩
  by_cases hentries : op.paramsEntries = []
  · have hentries' : op'.paramsEntries = [] := by
      rwa [← List.length_eq_zero_iff, ← hlength, List.length_eq_zero_iff]
    have hsame : op.paramsEntries = op'.paramsEntries := hentries.trans hentries'.symm
    refine ⟨by rw [hsame], fun names => iff_of_true ?_ ?_, hsigns, hinterface⟩
    · rw [Operation.paramsDeclaration, hsame, Operation.paramsDeclaration]
    · rw [Operation.paramsKind, hsame, Operation.paramsKind]
  · have hentries' : op'.paramsEntries ≠ [] := fun hnil =>
      hentries (List.length_eq_zero_iff.1 (by rw [hlength, hnil, List.length_nil]))
    refine ⟨?_, fun names => codeRows_declaration_iff hentries hentries' hrows names.paramsType,
      hsigns, hinterface⟩
    rw [codeRows_objectBody hentries, codeRows_objectBody hentries', hrows]

/-- An operation with a path parameter of a union type. -/
def readThing (description : Option String) : Operation where
  path := "/{id}"
  verb := .get
  server := ""
  positionalParams := [⟨"id", "string | number", true, description⟩]
  queryParams := []
  headerParams := []
  bodyParam := none
  responses := []

theorem codeRows_paramsDeclaration_described :
    replaceUser.withoutDescriptions = replaceUser.withoutDescriptions.withoutDescriptions ∧
    replaceUser.descriptions = ["Whom to replace"] ∧
    (∀ names : Names, codeRows (replaceUser.paramsDeclaration names) =
      codeRows (replaceUser.withoutDescriptions.paramsDeclaration names)) ∧
    (readThing (some "A \x7bkey\x7d | name")).withoutDescriptions =
      (readThing none).withoutDescriptions ∧
    ∀ names : Names, codeRows ((readThing (some "A \x7bkey\x7d | name")).paramsDeclaration names) =
      codeRows ((readThing none).paramsDeclaration names) := by
  have hsame : replaceUser.withoutDescriptions =
      replaceUser.withoutDescriptions.withoutDescriptions := by decide
  have hthing : (readThing (some "A \x7bkey\x7d | name")).withoutDescriptions =
      (readThing none).withoutDescriptions := rfl
  obtain ⟨-, hkind, hplain, -⟩ := Operation.codeRows_paramsDeclaration hsame
  obtain ⟨-, hkind', -, hpaired⟩ := Operation.codeRows_paramsDeclaration hthing
  obtain ⟨hinterface, hinterface'⟩ := hpaired (by decide) (by decide)
  exact ⟨hsame, rfl, fun names => (hkind names).2 (hplain (by decide)), hthing,
    fun names => (hkind' names).2 (hinterface.trans hinterface'.symm)⟩

/-- A closing brace in a description counts as one of the object type. -/
example : (readThing none).paramsKind = .interface ∧
    (readThing (some "\x7d")).paramsKind = .typeAlias := by
  decide

end RestClient
