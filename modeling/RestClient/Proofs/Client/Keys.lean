import Mathlib.Data.List.Nodup
import RestClient.Proofs.Client.Members
import RestClient.Proofs.TypeScript.Layout

/-! # The keys of the parameters

The type of the parameters is an object type with two others inside it, for the query and for the
headers. Inside a group, different parameters have different keys. At the top level the path
parameters stand beside the groups, so that a path parameter can have the key of a group.

Names are told apart as long as no carriage return belongs to a line end in them: the declaration
writes every line end as a line feed.

* `indentLines_groupEntry`: where the members of a group stand;
* `memberKeys_eq`: under which keys they are declared;
* `Operation.nodup_declaredKeys_iff`: when all keys are different. -/

namespace RestClient

open RestClient.Text RestClient.TypeScript

/-! ### The members of a group -/

/-- An entry as it stands in a group of parameters, two levels in. -/
def memberText (entry : String) : List Char :=
  indentLines [' ', ' '] (indentLines [' ', ' '] entry.toList)

/-- The keys under which a group declares its members, each read from where the member stands in the
declaration, which `indentLines_groupEntry` says. -/
def memberKeys (key : String → String) (params : List Param) : List (Option String) :=
  (memberEntries key params).map fun entry => entryKey? (memberText entry)

/-- The line that opens a group of parameters. -/
def groupOpening (name : String) (params : List Param) : List Char :=
  (name ++ (if params.any (·.required) then "" else "?") ++ ": \x7b").toList

theorem toList_of_mem_groupEntry {name : String} {key : String → String} {params : List Param} :
    ∀ entry ∈ groupEntry name key params,
      entry.toList = groupOpening name params ++ '\n' ::
        ((memberEntries key params).flatMap (fun entry => indentLines [' ', ' '] entry.toList) ++
          ['}', ';']) := by
  intro entry hentry
  unfold groupEntry at hentry
  split at hentry
  · cases hentry
  · rename_i hempty
    obtain rfl := List.mem_singleton.1 hentry
    have hmembers : memberEntries key params ≠ [] := by simpa [memberEntries] using hempty
    unfold Field.format groupOpening
    simp [toList_objectBody hmembers]

theorem notMem_groupOpening {name : String} (hname : '\n' ∉ name.toList) (params : List Param) :
    '\n' ∉ groupOpening name params := by
  have hmark : '\n' ∉ (if params.any (·.required) then "" else "?").toList := by split <;> decide
  rw [groupOpening, String.toList_append, String.toList_append]
  exact List.not_mem_append (List.not_mem_append hname hmark) (by decide)

theorem dropReturn_groupOpening (name : String) (params : List Param) :
    dropReturn (groupOpening name params) = groupOpening name params := by
  rw [groupOpening, String.toList_append]
  exact dropReturn_append_of_ne _ (by decide)

/-- **A group is its members between two lines.** -/
theorem indentLines_groupEntry {name : String} (key : String → String) {params : List Param}
    (hname : '\n' ∉ name.toList) :
    ∀ entry ∈ groupEntry name key params,
      indentLines [' ', ' '] entry.toList =
        [' ', ' '] ++ groupOpening name params ++
          '\n' :: ((memberEntries key params).flatMap memberText ++ "  \x7d;\n".toList) := by
  intro entry hentry
  have hclosing : indentLines [' ', ' '] ['}', ';'] = "  \x7d;\n".toList := by decide
  rw [toList_of_mem_groupEntry entry hentry,
    indentLines_newline _ (notMem_groupOpening hname params), dropReturn_groupOpening,
    indentLines_flatMap_indentLines, hclosing]
  rfl

theorem memberKeys_eq {key : String → String}
    (hkey : ∀ name : String, IsKeyOf name.toList (key name).toList) (params : List Param) :
    memberKeys key params = params.map fun param => some (laidOut (laidOut param.name)) := by
  rw [memberKeys, memberEntries, List.map_map]
  refine List.map_congr_left fun param _ => ?_
  have hentry : IsEntryOf param.name.toList (param.memberEntry key).toList :=
    isEntryOf_documented _ (hkey param.name) rfl
  have hnested := (isEntryOf_indentLines (isEntryOf_indentLines hentry)).entryKey?
  rw [Function.comp_apply, memberText, hnested, laidOut, laidOut, String.toList_ofList]

/-! ### Keys that are different -/

theorem none_notMem_memberKeys {key : String → String}
    (hkey : ∀ name : String, IsKeyOf name.toList (key name).toList) (params : List Param) :
    none ∉ memberKeys key params := by
  rw [memberKeys_eq hkey]
  simp

theorem nodup_map_laidOut {names : List String} (h : names.Nodup)
    (hplain : ∀ name ∈ names, HasPlainLineEnds name.toList) :
    (names.map laidOut).Nodup ∧ ∀ name ∈ names.map laidOut, HasPlainLineEnds name.toList := by
  constructor
  · refine List.Nodup.map_on (fun name hname name' hname' heq => ?_) h
    have hlist := congrArg String.toList heq
    rw [laidOut, laidOut, String.toList_ofList, String.toList_ofList,
      reindent_inj (hplain name hname) (hplain name' hname')] at hlist
    exact String.toList_inj.1 hlist
  · intro name hname
    obtain ⟨name', hname', rfl⟩ := List.mem_map.1 hname
    rw [laidOut, String.toList_ofList]
    exact (hplain name' hname').reindent

theorem nodup_memberKeys {key : String → String}
    (hkey : ∀ name : String, IsKeyOf name.toList (key name).toList) {params : List Param}
    (h : (params.map Param.name).Nodup)
    (hplain : ∀ param ∈ params, HasPlainLineEnds param.name.toList) :
    (memberKeys key params).Nodup := by
  have hnames : ∀ name ∈ params.map Param.name, HasPlainLineEnds name.toList :=
    List.forall_mem_map.2 hplain
  obtain ⟨honce, hplain'⟩ := nodup_map_laidOut h hnames
  obtain ⟨htwice, -⟩ := nodup_map_laidOut honce hplain'
  have hsome : (((params.map Param.name).map laidOut).map laidOut |>.map some).Nodup :=
    htwice.map fun _ _ => Option.some.inj
  rw [memberKeys_eq hkey]
  simpa only [List.map_map, Function.comp_def] using hsome

/-! ### Path parameters and groups -/

/-- The groups of an operation: the body, the query and the headers, each with its key and with the
entries that are written for it. -/
def Operation.groups (op : Operation) : List (String × List String) := [
  ("data", op.bodyParam.toList.map BodyParam.entry),
  ("query", groupEntry "query" propertyKey op.queryParams),
  ("headers", groupEntry "headers" stringLiteral op.headerParams)]

theorem mem_paramsEntries_iff {op : Operation} {entry : String} :
    entry ∈ op.paramsEntries ↔
      (∃ param ∈ op.positionalParams, param.positionalEntry = entry) ∨
        ∃ group ∈ op.groups, entry ∈ group.2 := by
  simp only [Operation.paramsEntries, Operation.groups, List.mem_append, List.mem_map,
    List.mem_cons, List.not_mem_nil, or_false, exists_eq_or_imp, exists_eq_left, or_assoc]

theorem mem_groupKeys_iff {op : Operation} {key : String} :
    key ∈ op.groupKeys ↔ ∃ group ∈ op.groups, group.1 = key ∧ group.2 ≠ [] := by
  simp only [Operation.groupKeys, Operation.groups, groupEntry, List.isEmpty_iff]
  cases op.bodyParam <;> by_cases hquery : op.queryParams = [] <;>
    by_cases hheaders : op.headerParams = [] <;> simp [hquery, hheaders, eq_comm]

theorem laidOut_eq_iff_of_notMem {name key : String} (h : '\n' ∉ key.toList) :
    laidOut name = key ↔ name = key := by
  by_cases hline : '\n' ∈ name.toList
  · refine iff_of_false (fun heq => h ?_) (fun heq => h (heq ▸ hline))
    exact heq ▸ mem_laidOut hline
  · rw [laidOut_of_notMem hline]

theorem declaredKeys_eq_map (op : Operation) :
    op.declaredKeys =
      ((op.positionalParams.map Param.name).map laidOut ++ op.groupKeys).map some := by
  rw [declaredKeys_eq, Operation.groupKeys]
  cases op.queryParams.isEmpty <;> cases op.headerParams.isEmpty <;> simp

theorem nodup_groupKeys (op : Operation) : op.groupKeys.Nodup := by
  unfold Operation.groupKeys
  cases op.bodyParam <;> cases op.queryParams.isEmpty <;> cases op.headerParams.isEmpty <;> simp

theorem nodup_declaredKeys_iff {op : Operation} (h : (op.positionalParams.map Param.name).Nodup)
    (hplain : ∀ param ∈ op.positionalParams, HasPlainLineEnds param.name.toList) :
    op.declaredKeys.Nodup ↔ ∀ param ∈ op.positionalParams, param.name ∉ op.groupKeys := by
  have hnames : ((op.positionalParams.map Param.name).map laidOut).Nodup :=
    (nodup_map_laidOut h (List.forall_mem_map.2 hplain)).1
  rw [declaredKeys_eq_map, List.nodup_map_iff fun _ _ => Option.some.inj, List.nodup_append]
  -- The keys of groups have no line end, and only such a name is laid out as one of them.
  constructor
  · rintro ⟨-, -, hne⟩ param hparam hkey
    have hname : laidOut param.name = param.name :=
      laidOut_of_notMem (notMem_of_mem_groupKeys hkey)
    exact hne (laidOut param.name) (List.mem_map_of_mem (List.mem_map_of_mem hparam)) _ hkey hname
  · intro hne
    refine ⟨hnames, nodup_groupKeys op, fun name hname key hkey heq => ?_⟩
    obtain ⟨name', hname', rfl⟩ := List.mem_map.1 hname
    obtain ⟨param, hparam, rfl⟩ := List.mem_map.1 hname'
    rw [laidOut_eq_iff_of_notMem (notMem_of_mem_groupKeys hkey)] at heq
    exact hne param hparam (heq ▸ hkey)

theorem entryKey?_of_mem_groups {op : Operation} {group : String × List String}
    (h : group ∈ op.groups) :
    ∀ entry ∈ group.2, entryKey? (indentLines [' ', ' '] entry.toList) = some group.1 := by
  simp only [Operation.groups, List.mem_cons, List.not_mem_nil, or_false] at h
  rcases h with rfl | rfl | rfl
  · exact List.forall_mem_map.2 fun body _ => entryKey?_bodyEntry body
  · exact entryKey?_of_mem_groupEntry (by decide) _ _
  · exact entryKey?_of_mem_groupEntry (by decide) _ _

/-- The key of a group is that of nothing else, if no path parameter has it. -/
theorem mem_of_entryKey? {op : Operation}
    (h : ∀ param ∈ op.positionalParams, param.name ∉ op.groupKeys) {group : String × List String}
    (hgroup : group ∈ op.groups) (hne : group.2 ≠ []) :
    ∀ entry ∈ op.paramsEntries,
      entryKey? (indentLines [' ', ' '] entry.toList) = some group.1 → entry ∈ group.2 := by
  have hkey : group.1 ∈ op.groupKeys := mem_groupKeys_iff.2 ⟨group, hgroup, rfl, hne⟩
  intro entry hentry heq
  rcases mem_paramsEntries_iff.1 hentry with ⟨param, hparam, rfl⟩ | ⟨other, hother, hmem⟩
  · have hread : entryKey? (indentLines [' ', ' '] param.positionalEntry.toList) =
        some (laidOut param.name) :=
      entryKey?_indentLines (isEntryOf_documented _ (isKeyOf_propertyKey param.name) rfl)
    rw [hread, Option.some.injEq, laidOut_eq_iff_of_notMem (notMem_of_mem_groupKeys hkey)] at heq
    exact absurd (heq ▸ hkey) (h param hparam)
  · rw [entryKey?_of_mem_groups hother entry hmem, Option.some.injEq] at heq
    have hnodup : (op.groups.map Prod.fst).Nodup :=
      (by decide : ["data", "query", "headers"].Nodup)
    have hsame : other = group := List.inj_on_of_nodup_map hnodup hother hgroup heq
    exact hsame ▸ hmem

/-- **No parameter is lost to another one of its kind.** All keys of the query and of the headers are
different, and those of the top level are if and only if no path parameter is called like a group
that the operation has. Then what a function reads of a group is that group and nothing else. The keys
are read from texts that stand in the declaration: those of the top level one behind the other, and
the members of a group between its first line and its last. -/
theorem Operation.nodup_keys (op : Operation)
    (hpositional : (op.positionalParams.map Param.name).Nodup)
    (hquery : (op.queryParams.map Param.name).Nodup)
    (hheaders : (op.headerParams.map Param.name).Nodup)
    (hplain : ∀ param ∈ op.positionalParams ++ op.queryParams ++ op.headerParams,
      HasPlainLineEnds param.name.toList) :
    (none ∉ op.declaredKeys ∧
      (op.declaredKeys.Nodup ↔ ∀ param ∈ op.positionalParams, param.name ∉ op.groupKeys)) ∧
    (none ∉ memberKeys propertyKey op.queryParams ∧
      (memberKeys propertyKey op.queryParams).Nodup) ∧
    (none ∉ memberKeys stringLiteral op.headerParams ∧
      (memberKeys stringLiteral op.headerParams).Nodup) ∧
    ((∀ param ∈ op.positionalParams, param.name ∉ op.groupKeys) →
      ∀ group ∈ op.groups, group.2 ≠ [] →
        group.1 ∈ (op.requestFunction op.names).reads "params" ∧
        ∀ entry ∈ op.paramsEntries,
          entryKey? (indentLines [' ', ' '] entry.toList) = some group.1 → entry ∈ group.2) ∧
    (∀ names : Names, op.entryTexts ≠ [] → (op.paramsDeclaration names).toList =
      (op.paramsKind.opening names.paramsType).toList ++ ['{', '\n'] ++ op.entryTexts.flatten ++
        '}' :: op.paramsKind.closing.toList) ∧
    (∀ entry ∈ groupEntry "query" propertyKey op.queryParams,
      indentLines [' ', ' '] entry.toList =
        [' ', ' '] ++ groupOpening "query" op.queryParams ++ '\n' ::
          ((memberEntries propertyKey op.queryParams).flatMap memberText ++ "  \x7d;\n".toList)) ∧
    ∀ entry ∈ groupEntry "headers" stringLiteral op.headerParams,
      indentLines [' ', ' '] entry.toList =
        [' ', ' '] ++ groupOpening "headers" op.headerParams ++ '\n' ::
          ((memberEntries stringLiteral op.headerParams).flatMap memberText ++
            "  \x7d;\n".toList) := by
  simp only [List.forall_mem_append] at hplain
  obtain ⟨⟨hplain, hplain'⟩, hplain''⟩ := hplain
  refine ⟨⟨none_notMem_declaredKeys op, nodup_declaredKeys_iff hpositional hplain⟩,
    ⟨none_notMem_memberKeys isKeyOf_propertyKey _,
      nodup_memberKeys isKeyOf_propertyKey hquery hplain'⟩,
    ⟨none_notMem_memberKeys isKeyOf_stringLiteral _,
      nodup_memberKeys isKeyOf_stringLiteral hheaders hplain''⟩, fun h group hgroup hne => ⟨?_, ?_⟩,
    fun names hne => Operation.toList_paramsDeclaration hne names,
    indentLines_groupEntry propertyKey (by decide), indentLines_groupEntry stringLiteral (by decide)⟩
  · exact mem_reads_iff.2 (.inr (mem_groupKeys_iff.2 ⟨group, hgroup, rfl, hne⟩))
  · exact mem_of_entryKey? h hgroup hne

theorem replaceUser_nodup_keys :
    (∀ param ∈ replaceUser.positionalParams ++ replaceUser.queryParams ++ replaceUser.headerParams,
      HasPlainLineEnds param.name.toList) ∧
    replaceUser.groupKeys = ["data", "headers"] ∧ replaceUser.declaredKeys.Nodup := by
  have hplain : ∀ param ∈ replaceUser.positionalParams ++ replaceUser.queryParams ++
      replaceUser.headerParams, HasPlainLineEnds param.name.toList := by
    decide +kernel
  have hkeys := replaceUser.nodup_keys (by decide) (by decide) (by decide) hplain
  exact ⟨hplain, rfl, hkeys.1.2.2 (by decide)⟩

/-- An operation with a path parameter that is called like the group of its body. -/
def replaceData : Operation where
  path := "/{data}"
  verb := .put
  server := ""
  positionalParams := [⟨"data", "string", true, none⟩]
  queryParams := []
  headerParams := []
  bodyParam := some ⟨"", "User", true, none, "application/json"⟩
  responses := []

/-- **A path parameter can have the key of a group.** -/
theorem not_nodup_declaredKeys :
    ¬ ∀ op : Operation, (op.positionalParams.map Param.name).Nodup →
      (op.queryParams.map Param.name).Nodup → (op.headerParams.map Param.name).Nodup →
      op.declaredKeys.Nodup := by
  intro h
  have hnodup := h replaceData (by decide) (by decide) (by decide)
  rw [nodup_declaredKeys_iff (by decide) (by decide)] at hnodup
  exact hnodup _ List.mem_cons_self (by decide)

end RestClient
