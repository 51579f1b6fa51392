import RestClient.Client.Params
import RestClient.Client.Request
import RestClient.Proofs.TypeScript.Entries
import RestClient.Proofs.TypeScript.Layout
import RestClient.Proofs.TypeScript.Reads

/-! # The parameters that are read and those that are declared

A request function reads its parameters in the address, in the query, in the headers and in the
body; the type of the parameters declares them in the same groups. The two are written apart from
each other, with a property access on one side and a property key on the other.

* `reads_requestFunction` and `declaredKeys_eq` say what is read and what is declared;
* `Operation.toList_paramsDeclaration`: where the entries stand that the keys are read from;
* `Operation.reads_declaredKeys_iff`: the two agree if and only if no path parameter has a line end
  in its name, provided that the path parameters are the placeholders of the path. -/

namespace RestClient

open RestClient.Text RestClient.TypeScript

/-! ### What the function reads -/

theorem isBareName_params : isBareName "params".toList = true := by decide

theorem readsAll_urlParts (lead tail : List Char) (spans : List (List Char × List Char)) :
    Part.readsAll "params" (urlParts lead tail spans) =
      spans.map fun span => String.ofList span.2 := by
  have htext : ∀ s, Part.readsAll "params" (textPart s) = [] := by
    intro s
    unfold textPart
    split <;> rfl
  induction spans generalizing lead with
  | nil => exact htext _
  | cons span spans ih =>
    obtain ⟨before, name⟩ := span
    rw [urlParts, Part.readsAll_append, htext, List.nil_append, Part.readsAll, ih, Part.reads,
      Expr.reads, codeReads_propertyAccess _ isBareName_params]
    rfl

/-- The names of the placeholders of a path. -/
def placeholderNames (path : String) : List String :=
  (placeholders path.toList).1.map fun span => String.ofList span.2

theorem readsAll_urlTemplate (server path : String) (hasQuery : Bool) :
    Part.readsAll "params" (urlTemplate server path hasQuery) = placeholderNames path := by
  unfold urlTemplate
  rw [Part.readsAll_append, readsAll_urlParts]
  cases hasQuery <;> simp [Part.readsAll, Part.reads, Expr.reads, placeholderNames]

theorem codeReads_searchCode : codeReads "params" searchCode = ["query"] := by
  have happend (s t r : List Char) :
      (String.ofList s ++ String.ofList t ++ String.ofList r).toList = s ++ t ++ r := by simp
  -- Computing with the characters of a literal is much faster than decoding it.
  have hobject : "params".toList = _ := String.toList_ofList
  have hcode : searchCode.toList = _ := happend _ _ _
  rw [codeReads, hobject, hcode]
  decide

theorem readsAll_queryStatements : Stmt.readsAll "params" queryStatements = ["query"] := by
  simp [queryStatements, Stmt.constant, Stmt.readsAll, Stmt.reads, Expr.reads, Expr.readsAll,
    Part.readsAll, Part.reads, Expr.isVariable, codeReads_searchCode]

theorem readsAll_headerEntries (op : Operation) :
    Entry.readsAll "params" op.headerEntries =
      if op.headerParams.isEmpty then [] else ["headers"] := by
  rw [Operation.headerEntries, Entry.readsAll_append]
  cases op.bodyParam.bind BodyParam.contentType? <;> split <;>
    simp [Entry.readsAll, Entry.reads, Expr.reads, paramsVariable, Expr.isVariable]

theorem reads_encoded (body : BodyParam) : body.encoded.reads "params" = ["data"] := by
  unfold BodyParam.encoded
  cases isJson body.mediaType <;>
    simp [Expr.reads, Expr.readsAll, paramsVariable, Expr.isVariable]

theorem reads_requestInit (op : Operation) :
    op.requestInit.reads "params" =
      (if op.headerParams.isEmpty then [] else ["headers"]) ++
        op.bodyParam.toList.map fun _ => "data" := by
  have hheaders : Entry.readsAll "params"
      (if op.headerEntries.isEmpty then [] else [.property "headers" (.object op.headerEntries)]) =
      if op.headerParams.isEmpty then [] else ["headers"] := by
    rw [← readsAll_headerEntries]
    split
    · rename_i h
      rw [List.isEmpty_iff.1 h]
    · simp [Entry.readsAll, Entry.reads, Expr.reads]
  rw [Operation.requestInit, Expr.reads, Entry.readsAll_append, Entry.readsAll_append,
    Entry.readsAll, hheaders]
  cases op.bodyParam <;>
    simp [Entry.readsAll, Entry.reads, Expr.reads, reads_encoded, Expr.isVariable]

theorem readsAll_statements (reading : BodyReading) :
    Stmt.readsAll "params" reading.statements = [] := by
  cases reading <;> rfl

/-- The parameters that a request function reads. -/
theorem reads_requestFunction (op : Operation) (names : Names) :
    (op.requestFunction names).reads "params" =
      (if op.queryParams.isEmpty then [] else ["query"]) ++
        (placeholderNames op.path ++
          ((if op.headerParams.isEmpty then [] else ["headers"]) ++
            op.bodyParam.toList.map fun _ => "data")) := by
  have hquery : Stmt.readsAll "params" (if !op.queryParams.isEmpty then queryStatements else []) =
      if op.queryParams.isEmpty then [] else ["query"] := by
    cases op.queryParams.isEmpty with
    | true => rfl
    | false => exact readsAll_queryStatements
  have hresult : Entry.readsAll "params" op.bodyReading.resultEntries = [] := by
    cases op.bodyReading <;> rfl
  have hdefaults : Expr.readsAll "params"
      ((op.requestFunction names).parameters.filterMap Parameter.default) = [] := rfl
  rw [Function.reads, hdefaults, Operation.requestFunction]
  simp only [Stmt.readsAll_append, Stmt.readsAll, hquery, hresult, readsAll_statements,
    Stmt.constant, Stmt.reads, Expr.reads, Expr.readsAll, readsAll_urlTemplate, reads_requestInit,
    List.append_nil, List.nil_append]

/-! ### What the type declares -/

/-- The entries of the type of the parameters as they stand in the declaration, one level in. -/
def Operation.entryTexts (op : Operation) : List (List Char) :=
  op.paramsEntries.map fun entry => indentLines [' ', ' '] entry.toList

/-- The form in which the type of the parameters is declared. -/
def Operation.paramsKind (op : Operation) : DeclarationKind :=
  DeclarationKind.ofBody (objectBody op.paramsEntries).toList

/-- **The declaration of the parameters holds the entries**, between its first line and its closing
brace. -/
theorem Operation.toList_paramsDeclaration {op : Operation} (h : op.entryTexts ≠ [])
    (names : Names) :
    (op.paramsDeclaration names).toList =
      (op.paramsKind.opening names.paramsType).toList ++ ['{', '\n'] ++ op.entryTexts.flatten ++
        '}' :: op.paramsKind.closing.toList := by
  have hentries : op.paramsEntries ≠ [] := fun hnil => h (List.map_eq_nil_iff.2 hnil)
  rw [Operation.paramsDeclaration, toList_declaration_objectBody _ hentries rfl, List.flatMap_def]
  rfl

/-- The keys under which the type of the parameters declares its entries, each read from where the
entry stands in the declaration. -/
def Operation.declaredKeys (op : Operation) : List (Option String) := op.entryTexts.map entryKey?

theorem isEntryOf_documented (description : Option String) {field : Field} {name : List Char}
    (hkey : IsKeyOf name field.key.toList) (hreadonly : field.readonly = false) :
    IsEntryOf name (documented description field).toList := by
  have hfield : IsFieldOf name field.format.toList := isFieldOf_format hkey hreadonly
  unfold documented
  split
  · exact .field hfield
  · split
    · exact .field hfield
    · rename_i text _
      have hcommented := IsEntryOf.commented text (List.forall_mem_nil _) hfield
      simpa using hcommented

theorem entryKey?_bodyEntry (body : BodyParam) :
    entryKey? (indentLines [' ', ' '] body.entry.toList) = some "data" := by
  have hkey : IsKeyOf "data".toList "data".toList := .bare (by decide)
  rw [BodyParam.entry, entryKey?_indentLines (isEntryOf_documented _ hkey rfl),
    laidOut_of_notMem (by decide)]

theorem entryKey?_of_mem_groupEntry {name : String} (hname : isBareName name.toList = true)
    (key : String → String) (params : List Param) :
    ∀ entry ∈ groupEntry name key params,
      entryKey? (indentLines [' ', ' '] entry.toList) = some name := by
  intro entry hentry
  unfold groupEntry at hentry
  split at hentry
  · cases hentry
  · rw [List.mem_singleton.1 hentry]
    exact entryKey?_indentLines_format hname rfl

theorem map_entryKey?_groupEntry {name : String} (hname : isBareName name.toList = true)
    (key : String → String) (params : List Param) :
    (groupEntry name key params).map
        (fun entry => entryKey? (indentLines [' ', ' '] entry.toList)) =
      if params.isEmpty then [] else [some name] := by
  have hentry := entryKey?_of_mem_groupEntry hname key params
  unfold groupEntry at hentry ⊢
  split
  · rfl
  · rename_i hempty
    rw [if_neg hempty] at hentry
    rw [List.map_singleton, hentry _ List.mem_cons_self]

/-- The keys that the type of the parameters declares. -/
theorem declaredKeys_eq (op : Operation) :
    op.declaredKeys =
      (op.positionalParams.map fun param => some (laidOut param.name)) ++
        (op.bodyParam.toList.map fun _ => some "data") ++
        (if op.queryParams.isEmpty then [] else [some "query"]) ++
        (if op.headerParams.isEmpty then [] else [some "headers"]) := by
  have hparam (param : Param) :
      entryKey? (indentLines [' ', ' '] param.positionalEntry.toList) =
        some (laidOut param.name) := by
    have hentry : IsEntryOf param.name.toList param.positionalEntry.toList :=
      isEntryOf_documented _ (isKeyOf_propertyKey param.name) rfl
    rw [entryKey?_indentLines hentry]
  rw [Operation.declaredKeys, Operation.entryTexts, Operation.paramsEntries]
  simp only [List.map_append, List.map_map, Function.comp_def, hparam, entryKey?_bodyEntry]
  rw [map_entryKey?_groupEntry (by decide), map_entryKey?_groupEntry (by decide)]

/-! ### What is read and what is declared -/

theorem exists_length_le (names : List String) : ∃ n, ∀ name ∈ names, name.toList.length ≤ n := by
  induction names with
  | nil => exact ⟨0, by simp⟩
  | cons name names ih =>
    obtain ⟨n, hn⟩ := ih
    refine ⟨max name.toList.length n, ?_⟩
    rintro name' (_ | ⟨_, hname⟩)
    · exact Nat.le_max_left _ _
    · exact Nat.le_trans (hn name' hname) (Nat.le_max_right _ _)

/-- No name of a list has a property that always has a longer name of the list with it. -/
theorem forall_not_of_longer {names : List String} {p : String → Prop}
    (h : ∀ name ∈ names, p name →
      ∃ longer ∈ names, p longer ∧ name.toList.length < longer.toList.length) :
    ∀ name ∈ names, ¬ p name := by
  obtain ⟨bound, hbound⟩ := exists_length_le names
  intro name hname hp
  -- The names become longer and longer, and none is longer than the bound.
  induction hn : bound - name.toList.length using Nat.strongRecOn generalizing name with
  | ind n ih =>
    obtain ⟨longer, hlonger, hp', hlt⟩ := h name hname hp
    have hle := hbound longer hlonger
    exact ih _ (by omega) longer hlonger hp' rfl

/-- The keys of the groups of parameters that an operation has. -/
def Operation.groupKeys (op : Operation) : List String :=
  (op.bodyParam.toList.map fun _ => "data") ++
    (if op.queryParams.isEmpty then [] else ["query"]) ++
    (if op.headerParams.isEmpty then [] else ["headers"])

theorem notMem_of_mem_groupKeys {op : Operation} {key : String} (h : key ∈ op.groupKeys) :
    '\n' ∉ key.toList := by
  have hkey : key = "data" ∨ key = "query" ∨ key = "headers" := by
    unfold Operation.groupKeys at h
    grind
  rcases hkey with rfl | rfl | rfl <;> decide

theorem mem_reads_iff {op : Operation} {names : Names} {key : String} :
    key ∈ (op.requestFunction names).reads "params" ↔
      key ∈ placeholderNames op.path ∨ key ∈ op.groupKeys := by
  rw [reads_requestFunction, Operation.groupKeys]
  simp only [List.mem_append]
  grind

theorem mem_declaredKeys_iff {op : Operation} {key : String} :
    some key ∈ op.declaredKeys ↔
      (∃ param ∈ op.positionalParams, laidOut param.name = key) ∨ key ∈ op.groupKeys := by
  rw [declaredKeys_eq, Operation.groupKeys]
  simp only [List.mem_append, List.mem_map, Option.some.injEq, or_assoc]
  grind

theorem none_notMem_declaredKeys (op : Operation) : none ∉ op.declaredKeys := by
  rw [declaredKeys_eq]
  grind

/-- A key that is declared for a path parameter is its name, unless that has a line end. -/
theorem forall_notMem_of_reads {op : Operation} {names : Names}
    (hnames : ∀ name, name ∈ op.positionalParams.map Param.name ↔ name ∈ placeholderNames op.path)
    (h : ∀ key, key ∈ (op.requestFunction names).reads "params" ↔ some key ∈ op.declaredKeys) :
    ∀ name ∈ op.positionalParams.map Param.name, ¬ '\n' ∈ name.toList := by
  refine forall_not_of_longer fun name hname hline => ?_
  obtain ⟨param, hparam, rfl⟩ := List.mem_map.1 hname
  have hdeclared := mem_declaredKeys_iff.2 (.inl ⟨param, hparam, rfl⟩)
  have hline' := mem_laidOut hline
  rcases mem_reads_iff.1 ((h _).2 hdeclared) with hread | hgroup
  · exact ⟨_, (hnames _).2 hread, hline', length_lt_laidOut hline⟩
  · exact absurd hline' (notMem_of_mem_groupKeys hgroup)

/-- **Every name has one key and one access, which name the same property**, and a function reads
the parameters that their type declares: those of an operation whose path parameters are the
placeholders of its path, unless the name of a path parameter has a line end. The declared keys are
read from the texts that the declaration is put together from. -/
theorem Operation.reads_declaredKeys_iff (op : Operation) (names : Names)
    (hnames : ∀ name,
      name ∈ op.positionalParams.map Param.name ↔ name ∈ placeholderNames op.path) :
    (∀ name : String, readKey (propertyKey name).toList = some (name.toList, []) ∧
      codeReads "params" (propertyAccess "params" name) = [name]) ∧
    (∀ name name' : String, name ≠ name' →
      readKey (propertyKey name).toList ≠ readKey (propertyKey name').toList ∧
      codeReads "params" (propertyAccess "params" name) ≠
        codeReads "params" (propertyAccess "params" name')) ∧
    (op.entryTexts ≠ [] → (op.paramsDeclaration names).toList =
      (op.paramsKind.opening names.paramsType).toList ++ ['{', '\n'] ++ op.entryTexts.flatten ++
        '}' :: op.paramsKind.closing.toList) ∧
    none ∉ op.declaredKeys ∧
    ((∀ key, key ∈ (op.requestFunction names).reads "params" ↔ some key ∈ op.declaredKeys) ↔
      ∀ param ∈ op.positionalParams, '\n' ∉ param.name.toList) := by
  have hkey (name : String) : readKey (propertyKey name).toList = some (name.toList, []) := by
    have := readKey_propertyKey name (r := []) (by simp)
    rwa [List.append_nil] at this
  have haccess (name : String) : codeReads "params" (propertyAccess "params" name) = [name] :=
    codeReads_propertyAccess name isBareName_params
  refine ⟨fun name => ⟨hkey name, haccess name⟩, fun name name' hne => ?_,
    fun hne => Operation.toList_paramsDeclaration hne names, none_notMem_declaredKeys op,
    fun h param hparam => ?_, fun hline key => ?_⟩
  · rw [hkey, hkey, haccess, haccess]
    exact ⟨by simpa [String.toList_inj] using hne, by simpa using hne⟩
  · exact forall_notMem_of_reads hnames h _ (List.mem_map_of_mem hparam)
  · have hpositional : (∃ param ∈ op.positionalParams, laidOut param.name = key) ↔
        key ∈ op.positionalParams.map Param.name := by
      rw [List.mem_map]
      refine exists_congr fun param => and_congr_right fun hparam => ?_
      rw [laidOut_of_notMem (hline param hparam)]
    rw [mem_reads_iff, mem_declaredKeys_iff, hpositional, hnames]

/-- An operation with one path parameter, a body and headers. -/
def replaceUser : Operation where
  path := "/users/{user-id}"
  verb := .put
  server := ""
  positionalParams := [⟨"user-id", "string", true, some "Whom to replace"⟩]
  queryParams := []
  headerParams := [⟨"X-Tenant", "string", false, none⟩]
  bodyParam := some ⟨"", "User", true, none, "application/json"⟩
  responses := []

theorem replaceUser_reads_declaredKeys :
    (∀ name, name ∈ replaceUser.positionalParams.map Param.name ↔
      name ∈ placeholderNames replaceUser.path) ∧
    ∀ key, key ∈ (replaceUser.requestFunction replaceUser.names).reads "params" ↔
      some key ∈ replaceUser.declaredKeys := by
  have hnames : placeholderNames replaceUser.path = ["user-id"] := by
    decide +kernel
  have h : ∀ name, name ∈ replaceUser.positionalParams.map Param.name ↔
      name ∈ placeholderNames replaceUser.path := by
    intro name
    rw [hnames]
    rfl
  exact ⟨h, (replaceUser.reads_declaredKeys_iff _ h).2.2.2.2.2 (by decide)⟩

end RestClient
