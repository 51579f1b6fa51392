import Mathlib.Data.List.Nodup
import RestClient.Proofs.Client.Blocks
import RestClient.Proofs.Names.Hygiene
import RestClient.Proofs.TypeScript.Literal

/-! # The names that a module exports

Every block of a module exports one name, which is read from behind the words that begin it. The
names of one operation are all different. Those of two operations can only meet in their results: a
result or a variant is called like another one if and only if the base names are the same, each with
nothing or with the phrase of a response behind it.

* `map_exportedName?_moduleBlocks`: the names that a module exports;
* `nodup_exportedNames`: those of one operation are all different;
* `nodup_moduleNames_iff`: when those of all operations are. -/

namespace RestClient

open RestClient.Text RestClient.TypeScript

/-! ### Reading exports -/

/-- The words that begin an exported declaration. -/
def exportOpenings : List String := ["export type ", "export interface ", "export async function "]

/-- The name that a declaration exports. -/
def exportedName? (block : String) : Option String :=
  (exportOpenings.find? fun opening => opening.toList.isPrefixOf block.toList).map fun opening =>
    String.ofList ((block.toList.drop opening.toList.length).takeWhile isNamePart)

theorem isNamePart_of_isPlainIdentifier {name : List Char} (h : isPlainIdentifier name = true) :
    ∀ c ∈ name, isNamePart c = true := by
  have hpart (c : Char) (hc : (c.isAlphanum || c == '_') = true) : isNamePart c = true := by
    rw [isNamePart, hc, Bool.true_or]
  cases name with
  | nil => simp
  | cons d rest =>
    rw [isPlainIdentifier, Bool.and_eq_true, List.all_eq_true, Bool.or_eq_true] at h
    refine List.forall_mem_cons.2 ⟨hpart d ?_, fun c hc => hpart c (h.2 c hc)⟩
    rw [Bool.or_eq_true]
    exact h.1.imp_left isAlphanum_of_isAlpha

theorem notMem_of_isNamePart {name : String} (h : isPlainIdentifier name.toList = true) {c : Char}
    (hc : isNamePart c = false) : c ∉ name.toList := fun hmem =>
  Bool.false_ne_true (hc.symm.trans (isNamePart_of_isPlainIdentifier h c hmem))

/-- No opening begins another one, so that a text has at most one of them. -/
theorem find?_exportOpenings {opening : String} (h : opening ∈ exportOpenings) (s : List Char) :
    exportOpenings.find? (fun opening' => opening'.toList.isPrefixOf (opening.toList ++ s)) =
      some opening := by
  have hapart : ∀ opening ∈ exportOpenings, ∀ opening' ∈ exportOpenings,
      opening.toList.isPrefixOf opening'.toList = true → opening = opening' := by
    decide
  have hown : opening.toList <+: opening.toList ++ s := List.prefix_append _ _
  cases hfind : exportOpenings.find? fun opening' =>
      opening'.toList.isPrefixOf (opening.toList ++ s) with
  | none =>
    exact absurd (List.isPrefixOf_iff_prefix.2 hown) (List.find?_eq_none.1 hfind opening h)
  | some opening' =>
    have hmem : opening' ∈ exportOpenings := List.mem_of_find?_eq_some hfind
    have hfound := List.find?_some hfind
    have hprefix : opening'.toList <+: opening.toList ++ s := List.isPrefixOf_iff_prefix.1 hfound
    rcases List.prefix_or_prefix_of_prefix hprefix hown with hle | hle
    · rw [hapart opening' hmem opening h (List.isPrefixOf_iff_prefix.2 hle)]
    · rw [hapart opening h opening' hmem (List.isPrefixOf_iff_prefix.2 hle)]

/-- A name is read from behind its opening, up to the first character that is not part of it. -/
theorem exportedName?_append {opening name s : String} (hopening : opening ∈ exportOpenings)
    (hname : isPlainIdentifier name.toList = true)
    (hs : ∀ c ∈ s.toList.head?, isNamePart c = false) :
    exportedName? (opening ++ name ++ s) = some name := by
  have hblock : (opening ++ name ++ s).toList = opening.toList ++ (name.toList ++ s.toList) := by
    simp
  have htake := (takeWhile_append_of_head? (isNamePart_of_isPlainIdentifier hname) hs).1
  rw [exportedName?, hblock, find?_exportOpenings hopening, Option.map_some, List.drop_left, htake,
    String.ofList_toList]

theorem exportedName?_declaration {name : String} (body : String)
    (hname : isPlainIdentifier name.toList = true) :
    exportedName? (declaration name body) = some name := by
  have hblank : ∀ s : String, ∀ c ∈ (" " ++ s).toList.head?, isNamePart c = false := by
    intro s c hc
    obtain rfl : ' ' = c := by simpa using hc
    decide
  unfold declaration
  split
  · have halias : "export type " ++ name ++ " = " ++ body ++ ";" =
        "export type " ++ name ++ (" " ++ ("= " ++ (body ++ ";"))) := by
      simp only [String.append_assoc]
      rfl
    rw [halias]
    exact exportedName?_append (by decide) hname (hblank _)
  · have hinterface : "export interface " ++ name ++ " " ++ body =
        "export interface " ++ name ++ (" " ++ body) := String.append_assoc
    rw [hinterface]
    exact exportedName?_append (by decide) hname (hblank _)

/-- The names that an operation exports, in the order of its blocks. -/
def Operation.exportedNames (phrases : PhraseTable) (op : Operation) : List String :=
  op.names.paramsType ::
    (op.names.resultType :: op.variantNames phrases ++ [op.names.function])

/-- The names that a module exports, in the order of its blocks. -/
def moduleNames (phrases : PhraseTable) (ops : List Operation) : List String :=
  requestOptions :: ops.flatMap (Operation.exportedNames phrases)

section Names

variable {phrases : PhraseTable} (h : phrases.HasWords)
include h

theorem map_exportedName?_resultBlocks (op : Operation) :
    (op.resultBlocks phrases).map exportedName? =
      (op.names.resultType :: op.variantNames phrases).map some := by
  have hresult : isPlainIdentifier op.names.resultType.toList = true :=
    isPlainIdentifier_resultType op.path op.verb
  have hvariant (response : Response) :
      isPlainIdentifier (op.names.variant phrases response).value.toList = true :=
    isPlainIdentifier_variant op.path op.verb h response
  unfold Operation.resultBlocks Operation.variantNames
  split
  · rename_i hempty
    rw [List.isEmpty_iff.1 hempty, List.map_singleton, exportedName?_declaration _ hresult,
      List.map_nil, List.map_singleton]
  · rw [List.map_cons, List.map_cons, exportedName?_declaration _ hresult, List.map_map,
      List.map_map]
    refine congrArg (List.cons _) (List.map_congr_left fun response _ => ?_)
    rw [Function.comp_apply, Function.comp_apply, exportedName?_declaration _ (hvariant response)]

theorem map_exportedName?_blocks (op : Operation) :
    (op.blocks phrases).map exportedName? = (op.exportedNames phrases).map some := by
  have hparams : isPlainIdentifier op.names.paramsType.toList = true :=
    isPlainIdentifier_paramsType op.path op.verb
  obtain ⟨s, hs⟩ := exists_trimmedEnd_print (op.requestFunction op.names)
  have hfunction : exportedName? (trimmedEnd (op.requestFunction op.names).print) =
      some op.names.function := by
    rw [hs, String.append_assoc]
    refine exportedName?_append (by decide) (isPlainIdentifier_function op.path op.verb) ?_
    intro c hc
    obtain rfl : '(' = c := by simpa using hc
    decide
  rw [Operation.blocks, Operation.exportedNames, List.map_cons, List.map_cons, List.map_append,
    List.map_append, map_exportedName?_resultBlocks h, List.map_singleton, hfunction,
    Operation.paramsDeclaration, exportedName?_declaration _ hparams]
  rfl

/-- **The names that the blocks of a module export**: that of the request options, and for each
operation those of its parameters, its result, its variants and its function. -/
theorem map_exportedName?_moduleBlocks (ops : List Operation) :
    (moduleBlocks phrases ops).map exportedName? = (moduleNames phrases ops).map some := by
  have hpreamble : exportedName? preamble = some requestOptions :=
    exportedName?_declaration _ (by decide)
  have hblocks : ops.map (fun op => (op.blocks phrases).map exportedName?) =
      ops.map fun op => (op.exportedNames phrases).map some :=
    List.map_congr_left fun op _ => map_exportedName?_blocks h op
  rw [moduleBlocks, moduleNames, List.map_cons, List.map_cons, hpreamble, List.map_flatMap,
    List.map_flatMap, List.flatMap_def, List.flatMap_def, hblocks]

end Names

/-! ### Names that are different -/

/-- A base name and the front of the names of types differ in a capital only. -/
theorem exists_base_cons (path : String) (verb : Verb) :
    ∃ c s, (Names.ofPath path verb).base.toList = c :: s ∧ c.isLower = true ∧
      (Names.ofPath path verb).pascal.toList = c.toUpper :: s := by
  obtain ⟨c, s, hkeyword, hlower, -⟩ := exists_keyword_cons verb
  have hc : c.isAlphanum = true :=
    isAlphanum_of_mem_keyword verb c (hkeyword ▸ List.mem_cons_self)
  have hbase : (Names.ofPath path verb).base = baseName path verb := rfl
  refine ⟨c, s ++ baseTail path verb, ?_, hlower, ?_⟩
  · rw [hbase, toList_baseName, hkeyword, List.cons_append]
  · rw [toList_pascal, hkeyword, capitalize_cons s hc, List.cons_append]

theorem toUpper_inj {c d : Char} (hc : c.isLower = true) (hd : d.isLower = true) :
    c.toUpper = d.toUpper ↔ c = d := by
  have hback {c : Char} (hc : c.isLower = true) : c.toUpper.toLower = c := by
    refine forall_isAlphanum (p := fun c => c.isLower = true → c.toUpper.toLower = c)
      (by decide) ?_ hc
    exact isAlphanum_of_isAlpha (isAlpha_iff.2 (.inr hc))
  refine ⟨fun h => ?_, congrArg _⟩
  rw [← hback hc, h, hback hd]

/-- The capital makes no names equal that were different. -/
theorem pascal_append_inj {path path' : String} {verb verb' : Verb} {s s' : String} :
    (Names.ofPath path verb).pascal ++ s = (Names.ofPath path' verb').pascal ++ s' ↔
      (Names.ofPath path verb).base ++ s = (Names.ofPath path' verb').base ++ s' := by
  obtain ⟨c, t, hbase, hlower, hpascal⟩ := exists_base_cons path verb
  obtain ⟨c', t', hbase', hlower', hpascal'⟩ := exists_base_cons path' verb'
  rw [← String.toList_inj, ← String.toList_inj, String.toList_append, String.toList_append,
    String.toList_append, String.toList_append, hbase, hbase', hpascal, hpascal', List.cons_append,
    List.cons_append, List.cons_append, List.cons_append, List.cons.injEq, List.cons.injEq,
    toUpper_inj hlower hlower']

/-- A function begins with a small letter or an underscore. -/
theorem isUpper_of_mem_head?_function (path : String) (verb : Verb) :
    ∀ c ∈ (Names.ofPath path verb).function.toList.head?, c.isUpper = false := by
  intro c hc
  rcases function_cases path verb with ⟨h, -⟩ | ⟨h, -⟩
  · obtain ⟨d, t, hkeyword, hlower, -⟩ := exists_keyword_cons verb
    rw [h, toList_baseName, hkeyword, List.cons_append, List.head?_cons, Option.mem_some] at hc
    subst hc
    exact isUpper_of_isLower hlower
  · rw [h] at hc
    obtain rfl : '_' = c := by simpa using hc
    decide

theorem function_ne_pascal_append (path path' : String) (verb verb' : Verb) (s : String) :
    (Names.ofPath path verb).function ≠ (Names.ofPath path' verb').pascal ++ s := by
  intro heq
  obtain ⟨c, t, hpascal, hupper, -⟩ := exists_pascal_cons path' verb'
  have hhead : c ∈ (Names.ofPath path verb).function.toList.head? := by
    rw [heq, String.toList_append, hpascal, List.cons_append, List.head?_cons, Option.mem_some]
  rw [isUpper_of_mem_head?_function path verb c hhead] at hupper
  exact Bool.false_ne_true hupper

/-- Different base names make different functions. -/
theorem function_inj {path path' : String} {verb verb' : Verb} :
    (Names.ofPath path verb).function = (Names.ofPath path' verb').function ↔
      baseName path verb = baseName path' verb' := by
  -- The escaped name begins with no keyword, so that no base name is called like it.
  have hkeyword : ∀ verb ∈ Verb.all, ∀ word ∈ ["_delete"],
      verb.keyword.toList.isPrefixOf word.toList = false := by decide
  have hescaped (path : String) (verb : Verb) : baseName path verb ≠ "_delete" := fun h =>
    baseName_notMem hkeyword path verb (List.mem_singleton.2 h)
  rcases function_cases path verb with ⟨h, hne⟩ | ⟨h, heq⟩ <;>
    rcases function_cases path' verb' with ⟨h', hne'⟩ | ⟨h', heq'⟩
  · rw [h, h']
  · rw [h, h', heq']
    exact iff_of_false (hescaped path verb) hne
  · rw [h, h', heq]
    exact iff_of_false (hescaped path' verb').symm hne'.symm
  · rw [h, h', heq, heq']
    exact iff_of_true rfl rfl

/-! ### The names of an operation -/

/-- What stands between the base name and the ending in the names of the results of an operation:
nothing for the result itself, and a phrase for each variant. -/
def Operation.resultPhrases (phrases : PhraseTable) (op : Operation) : List String :=
  "" :: op.responses.map fun response => (response.phrase phrases).value

/-- The base name with nothing or with the phrase of a response behind it. -/
def Operation.resultStems (phrases : PhraseTable) (op : Operation) : List String :=
  (op.resultPhrases phrases).map (op.names.base ++ ·)

section Operations

variable {phrases : PhraseTable} {op op' : Operation}

theorem exportedNames_eq : op.exportedNames phrases =
    (op.names.pascal ++ "Params") ::
      (((op.resultPhrases phrases).map fun phrase => op.names.pascal ++ phrase ++ "Result") ++
        [op.names.function]) := by
  have hresults : op.names.resultType :: op.variantNames phrases =
      (op.resultPhrases phrases).map fun phrase => op.names.pascal ++ phrase ++ "Result" := by
    rw [Operation.resultPhrases, Operation.variantNames, List.map_cons, List.map_map,
      String.append_empty]
    rfl
  rw [Operation.exportedNames, hresults]
  rfl

theorem mem_exportedNames_iff {name : String} :
    name ∈ op.exportedNames phrases ↔
      name = op.names.pascal ++ "Params" ∨
      (∃ phrase ∈ op.resultPhrases phrases, name = op.names.pascal ++ phrase ++ "Result") ∨
      name = op.names.function := by
  rw [exportedNames_eq, List.mem_cons, List.mem_append, List.mem_map, List.mem_singleton]
  simp only [eq_comm (a := name)]

/-- The request options are called like nothing that belongs to an operation. -/
theorem requestOptions_notMem_exportedNames : requestOptions ∉ op.exportedNames phrases := by
  intro h
  have hne {ending : String} (hending : ending ∈ ["Params", "Result"]) (s : String) :
      requestOptions ≠ s ++ ending := fun heq =>
    append_notMem_commonTypes hending s (heq ▸ List.mem_cons_self)
  rcases mem_exportedNames_iff.1 h with heq | ⟨phrase, -, heq⟩ | heq
  · exact hne (.head _) _ heq
  · exact hne (.tail _ (.head _)) _ heq
  · have hupper := isUpper_of_mem_head?_function op.path op.verb 'R'
    rw [Operation.names] at heq
    rw [← heq] at hupper
    exact absurd (hupper (by decide)) (by decide)

theorem nodup_resultPhrases (hcodes : (op.responses.map Response.code).Nodup)
    (hplain : ∀ response ∈ op.responses, response.HasPlainCode) :
    (op.resultPhrases standardPhrase).Nodup := by
  have hphrase : (op.responses.map fun response =>
      phraseCode (response.phrase standardPhrase).value) = op.responses.map Response.code :=
    List.map_congr_left fun response hresponse => phraseCode_phrase (hplain response hresponse)
  refine List.nodup_cons.2 ⟨fun hmem => ?_, List.Nodup.of_map phraseCode ?_⟩
  · obtain ⟨response, -, hempty⟩ := List.mem_map.1 hmem
    exact (isWord_phrase hasWords_standardPhrase response).1 hempty
  · rw [List.map_map]
    exact hphrase ▸ hcodes

/-- **The names of one operation are all different.** -/
theorem nodup_exportedNames (hcodes : (op.responses.map Response.code).Nodup)
    (hplain : ∀ response ∈ op.responses, response.HasPlainCode) :
    (op.exportedNames standardPhrase).Nodup := by
  have hresults : ((op.resultPhrases standardPhrase).map fun phrase =>
      op.names.pascal ++ phrase ++ "Result").Nodup :=
    (nodup_resultPhrases hcodes hplain).map fun phrase phrase' heq =>
      String.append_right_inj _ |>.1 (String.append_left_inj _ |>.1 heq)
  have hfunction (s : String) : op.names.function ≠ op.names.pascal ++ s :=
    function_ne_pascal_append op.path op.path op.verb op.verb s
  rw [exportedNames_eq, List.nodup_cons, List.mem_append, List.mem_map, List.mem_singleton, not_or]
  refine ⟨⟨?_, (hfunction _).symm⟩, ?_⟩
  · rintro ⟨phrase, -, heq⟩
    exact append_params_ne_append_result _ _ heq.symm
  · refine List.nodup_append.2 ⟨hresults, List.nodup_singleton _, fun name hname => ?_⟩
    obtain ⟨phrase, -, rfl⟩ := List.mem_map.1 hname
    intro name' hname'
    rw [List.mem_singleton.1 hname', String.append_assoc]
    exact (hfunction _).symm

theorem base_mem_resultStems : op.names.base ∈ op.resultStems phrases :=
  List.mem_map.2 ⟨"", List.mem_cons_self, String.append_empty⟩

/-- **Two operations share a name if and only if they share the stem of a result.** -/
theorem disjoint_exportedNames_iff :
    List.Disjoint (op.exportedNames phrases) (op'.exportedNames phrases) ↔
      List.Disjoint (op.resultStems phrases) (op'.resultStems phrases) := by
  have hpascal (s s' : String) : op.names.pascal ++ s = op'.names.pascal ++ s' ↔
      op.names.base ++ s = op'.names.base ++ s' := pascal_append_inj
  constructor
  · intro h stem hstem hstem'
    obtain ⟨phrase, hphrase, rfl⟩ := List.mem_map.1 hstem
    obtain ⟨phrase', hphrase', heq⟩ := List.mem_map.1 hstem'
    refine h (mem_exportedNames_iff.2 (.inr (.inl ⟨phrase, hphrase, rfl⟩)))
      (mem_exportedNames_iff.2 (.inr (.inl ⟨phrase', hphrase', ?_⟩)))
    rw [(hpascal phrase phrase').2 heq.symm]
  · intro h
    have hbase : op.names.base ≠ op'.names.base := fun heq =>
      h base_mem_resultStems (heq ▸ base_mem_resultStems)
    have hfunction (op op' : Operation) (s : String) : op.names.function ≠ op'.names.pascal ++ s :=
      function_ne_pascal_append op.path op'.path op.verb op'.verb s
    -- A parameter type, a result and a function end or begin in different ways.
    intro name hname hname'
    rcases mem_exportedNames_iff.1 hname with rfl | ⟨phrase, hphrase, rfl⟩ | rfl <;>
      rcases mem_exportedNames_iff.1 hname' with heq | ⟨phrase', hphrase', heq⟩ | heq
    · rw [hpascal, String.append_left_inj] at heq
      exact hbase heq
    · exact append_params_ne_append_result _ _ heq
    · exact hfunction _ _ _ heq.symm
    · exact append_params_ne_append_result _ _ heq.symm
    · rw [String.append_left_inj, hpascal] at heq
      exact h (List.mem_map_of_mem hphrase) (heq ▸ List.mem_map_of_mem hphrase')
    · rw [String.append_assoc] at heq
      exact hfunction _ _ _ heq.symm
    · exact hfunction _ _ _ heq
    · rw [String.append_assoc] at heq
      exact hfunction _ _ _ heq
    · exact hbase (function_inj.1 heq)

end Operations

/-! ### The names of a module -/

/-- **When a module exports every name once**: the blocks of its text, which are all of it, export
the names of the request options and of the operations, and these are all different if and only if
no two operations share the stem of a result. -/
theorem nodup_moduleNames_iff {ops : List Operation}
    (h : ∀ op ∈ ops, (op.responses.map Response.code).Nodup ∧
      ∀ response ∈ op.responses, response.HasPlainCode) :
    (clientModule standardPhrase ops).value =
      paragraphs (moduleBlocks standardPhrase ops) ++ "\n" ∧
    (moduleBlocks standardPhrase ops).map exportedName? =
      (moduleNames standardPhrase ops).map some ∧
    ((moduleNames standardPhrase ops).Nodup ↔
      ops.Pairwise fun op op' =>
        List.Disjoint (op.resultStems standardPhrase) (op'.resultStems standardPhrase)) := by
  refine ⟨clientModule_eq_paragraphs standardPhrase ops,
    map_exportedName?_moduleBlocks hasWords_standardPhrase ops, ?_⟩
  have hoptions : requestOptions ∉ ops.flatMap (Operation.exportedNames standardPhrase) := by
    intro hmem
    obtain ⟨op, -, hop⟩ := List.mem_flatMap.1 hmem
    exact requestOptions_notMem_exportedNames hop
  have heach : ∀ op ∈ ops, (op.exportedNames standardPhrase).Nodup := fun op hop =>
    nodup_exportedNames (h op hop).1 (h op hop).2
  have hpairs : Function.onFun List.Disjoint (Operation.exportedNames standardPhrase) =
      fun op op' =>
        List.Disjoint (op.resultStems standardPhrase) (op'.resultStems standardPhrase) :=
    funext₂ fun _ _ => propext disjoint_exportedNames_iff
  rw [moduleNames, List.nodup_cons, List.nodup_flatMap, hpairs]
  exact ⟨fun hnodup => hnodup.2.2, fun hpairwise => ⟨hoptions, heach, hpairwise⟩⟩

/-- An operation that reads users, at any path. -/
def readUsers (path : String) : Operation where
  path
  verb := .get
  server := ""
  positionalParams := []
  queryParams := []
  headerParams := []
  bodyParam := none
  responses := [⟨"200", []⟩, ⟨"default", []⟩]

theorem plainCodes_readUsers (path : String) :
    ((readUsers path).responses.map Response.code).Nodup ∧
      ∀ response ∈ (readUsers path).responses, response.HasPlainCode := by
  have hcodes : ["200", "default"].Nodup := by decide
  have hplain : ∀ response ∈ ([⟨"200", []⟩, ⟨"default", []⟩] : List Response),
      response.HasPlainCode := by
    decide
  exact ⟨hcodes, hplain⟩

theorem nodup_moduleNames_readUsers :
    (∀ op ∈ [readUsers "/users", readUsers "/users/{id}"],
      (op.responses.map Response.code).Nodup ∧
        ∀ response ∈ op.responses, response.HasPlainCode) ∧
    (moduleNames standardPhrase [readUsers "/users", readUsers "/users/{id}"]).Nodup := by
  have hplain : ∀ op ∈ [readUsers "/users", readUsers "/users/{id}"],
      (op.responses.map Response.code).Nodup ∧
        ∀ response ∈ op.responses, response.HasPlainCode := by
    intro op hop
    simp only [List.mem_cons, List.not_mem_nil, or_false] at hop
    rcases hop with rfl | rfl <;> exact plainCodes_readUsers _
  have hstems : ∀ stem ∈ (readUsers "/users").resultStems standardPhrase,
      stem ∉ (readUsers "/users/{id}").resultStems standardPhrase := by
    decide +kernel
  refine ⟨hplain, (nodup_moduleNames_iff hplain).2.2.2 ?_⟩
  exact List.pairwise_pair.2 hstems

/-- **Different operations can be called the same**: without its plural, a collection has the name
of another path. -/
theorem not_nodup_exports :
    ¬ ∀ ops : List Operation,
      (ops.map fun op => (op.verb, op.path)).Nodup →
      (∀ op ∈ ops, (op.responses.map Response.code).Nodup ∧
        ∀ response ∈ op.responses, response.HasPlainCode) →
      ((moduleBlocks standardPhrase ops).map exportedName?).Nodup := by
  intro h
  have hnodup := h [readUsers "/users/{id}", readUsers "/user"] (by decide) fun op hop => by
    simp only [List.mem_cons, List.not_mem_nil, or_false] at hop
    rcases hop with rfl | rfl <;> exact plainCodes_readUsers _
  rw [map_exportedName?_moduleBlocks hasWords_standardPhrase] at hnodup
  have hfunctions : ¬ (moduleNames standardPhrase
      [readUsers "/users/{id}", readUsers "/user"]).Nodup := by
    decide +kernel
  exact hfunctions (hnodup.of_map some)

end RestClient
