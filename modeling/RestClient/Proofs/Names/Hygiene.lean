import RestClient.Client.Request
import RestClient.Proofs.Names.Base
import RestClient.Proofs.Names.Phrases

/-! # Names that can be used

The names of an operation are identifiers of ASCII letters, digits and underscores, whatever its path
and the codes of its responses. The function is not called like a reserved word or like anything that
its body uses, and the types are not called like one another or like the types that every module
uses. All of it follows from the two ends of the names: a keyword at the front of a function, and
`Params` or `Result` at the end of a type.

* `function_cases`: the function has the base name, but for one reserved word;
* `toList_pascal`: the front of the names of types;
* `Names.ofPath_hygienic`: the names can be used, and none hides another. -/

namespace RestClient

open RestClient.Text RestClient.TypeScript

/-! ### Identifiers -/

/-- A name of ASCII letters, digits and underscores that does not begin with a digit. -/
def isPlainIdentifier (name : List Char) : Bool :=
  match name with
  | [] => false
  | c :: rest => (c.isAlpha || c == '_') && rest.all fun d => d.isAlphanum || d == '_'

theorem isPlainIdentifier_cons {c : Char} {s : List Char} (hc : c.isAlpha = true ∨ c = '_')
    (hs : ∀ d ∈ s, d.isAlphanum = true) : isPlainIdentifier (c :: s) = true := by
  have hall : s.all (fun d => d.isAlphanum || d == '_') = true :=
    List.all_eq_true.2 fun d hd => by rw [hs d hd, Bool.true_or]
  rw [isPlainIdentifier, hall, Bool.and_true, Bool.or_eq_true, beq_iff_eq]
  exact hc

/-- The names that the body of a request function uses. -/
def bodyIdentifiers : List String := [
  "fetch", "params", "options", "response", "search", "query", "contentType", "data", "JSON",
  "Object", "Array", "String", "URLSearchParams"]

/-- The types that a module uses beside those of its operations. -/
def commonTypes : List String := [requestOptions, "Promise", "Headers", "BodyInit", "AbortSignal"]

/-! ### Functions -/

/-- A base name is none of a list of words that begin with no keyword. -/
theorem baseName_notMem {words : List String}
    (h : ∀ verb ∈ Verb.all, ∀ word ∈ words, verb.keyword.toList.isPrefixOf word.toList = false)
    (path : String) (verb : Verb) : baseName path verb ∉ words := by
  intro hmem
  have hprefix : verb.keyword.toList.isPrefixOf (baseName path verb).toList = true := by
    rw [toList_baseName, List.isPrefixOf_iff_prefix]
    exact List.prefix_append _ _
  rw [h verb (Verb.mem_all verb) _ hmem] at hprefix
  exact Bool.false_ne_true hprefix

/-- The only reserved word among the base names is a keyword. -/
theorem isReserved_baseName_iff {path : String} {verb : Verb} :
    isReserved (baseName path verb) = true ↔ baseName path verb = "delete" := by
  constructor
  · intro h
    have hmem : baseName path verb ∈ reservedWords := List.contains_iff_mem.1 h
    refine Decidable.byContradiction fun hne => ?_
    have hothers := (List.mem_erase_of_ne hne).2 hmem
    exact baseName_notMem (by decide) path verb hothers
  · intro h
    rw [h]
    decide

/-- **The function has the base name, but for one reserved word.** -/
theorem function_cases (path : String) (verb : Verb) :
    ((Names.ofPath path verb).function = baseName path verb ∧ baseName path verb ≠ "delete") ∨
      ((Names.ofPath path verb).function = "_delete" ∧ baseName path verb = "delete") := by
  unfold Names.ofPath
  dsimp only
  split
  · rename_i h
    rw [isReserved_baseName_iff] at h
    exact .inr ⟨by rw [h]; decide, h⟩
  · rename_i h
    rw [isReserved_baseName_iff] at h
    exact .inl ⟨rfl, h⟩

theorem isPlainIdentifier_function (path : String) (verb : Verb) :
    isPlainIdentifier (Names.ofPath path verb).function.toList = true := by
  rcases function_cases path verb with ⟨h, -⟩ | ⟨h, -⟩
  · obtain ⟨c, s, hkeyword, hlower, -⟩ := exists_keyword_cons verb
    have hall := isAlphanum_of_mem_keyword verb
    rw [hkeyword] at hall
    have hc : c.isAlpha = true := isAlpha_iff.2 (.inr hlower)
    rw [h, toList_baseName, hkeyword, List.cons_append]
    refine isPlainIdentifier_cons (.inl hc) fun d hd => ?_
    rcases List.mem_append.1 hd with hd | hd
    · exact hall d (List.mem_cons_of_mem c hd)
    · exact isAlphanum_of_mem_baseTail d hd
  · rw [h]
    decide

/-- No function is called like a reserved word or like a name that its body uses. -/
theorem function_notMem (path : String) (verb : Verb) :
    (Names.ofPath path verb).function ∉ reservedWords ++ bodyIdentifiers := by
  rcases function_cases path verb with ⟨h, hne⟩ | ⟨h, -⟩
  · rw [h, List.mem_append, not_or]
    refine ⟨fun hmem => hne ?_, baseName_notMem (by decide) path verb⟩
    exact isReserved_baseName_iff.1 (List.contains_iff_mem.2 hmem)
  · rw [h]
    decide

/-! ### Types -/

theorem toList_pascal (path : String) (verb : Verb) :
    (Names.ofPath path verb).pascal.toList =
      capitalize verb.keyword.toList ++ baseTail path verb := by
  obtain ⟨c, s, hkeyword, -⟩ := exists_keyword_cons verb
  have hc : c.isAlphanum = true :=
    isAlphanum_of_mem_keyword verb c (hkeyword ▸ List.mem_cons_self)
  have hpascal : (Names.ofPath path verb).pascal = capitalized (baseName path verb) := rfl
  rw [hpascal, capitalized, String.toList_ofList, toList_baseName, hkeyword, List.cons_append,
    capitalize_cons _ hc, capitalize_cons _ hc, List.cons_append]

/-- The front of the names of types is a word that begins with a capital. -/
theorem exists_pascal_cons (path : String) (verb : Verb) :
    ∃ c s, (Names.ofPath path verb).pascal.toList = c :: s ∧ c.isUpper = true ∧
      ∀ d ∈ s, d.isAlphanum = true := by
  have hkeyword : ∃ c s, capitalize verb.keyword.toList = c :: s ∧ c.isUpper = true ∧
      ∀ d ∈ s, d.isAlphanum = true := by
    cases verb with
    | get => exact ⟨'G', _, rfl, rfl, List.all_eq_true.1 (by decide)⟩
    | post => exact ⟨'C', _, rfl, rfl, List.all_eq_true.1 (by decide)⟩
    | put => exact ⟨'R', _, rfl, rfl, List.all_eq_true.1 (by decide)⟩
    | patch => exact ⟨'U', _, rfl, rfl, List.all_eq_true.1 (by decide)⟩
    | delete => exact ⟨'D', _, rfl, rfl, List.all_eq_true.1 (by decide)⟩
  obtain ⟨c, s, hcons, hc, hs⟩ := hkeyword
  refine ⟨c, s ++ baseTail path verb, by rw [toList_pascal, hcons, List.cons_append], hc, ?_⟩
  intro d hd
  rcases List.mem_append.1 hd with hd | hd
  · exact hs d hd
  · exact isAlphanum_of_mem_baseTail d hd

/-- A word between the front of a type and its ending makes an identifier. -/
theorem isPlainIdentifier_pascal_append (path : String) (verb : Verb) {s : String}
    (hs : ∀ c ∈ s.toList, c.isAlphanum = true) :
    isPlainIdentifier ((Names.ofPath path verb).pascal ++ s).toList = true := by
  obtain ⟨c, t, hpascal, hc, ht⟩ := exists_pascal_cons path verb
  rw [String.toList_append, hpascal, List.cons_append]
  refine isPlainIdentifier_cons (.inl (isAlpha_iff.2 (.inl hc))) fun d hd => ?_
  rcases List.mem_append.1 hd with hd | hd
  · exact ht d hd
  · exact hs d hd

/-- A name with an ending is none of a list of words that do not end like it. -/
theorem append_notMem {words : List String} (ending : String)
    (h : ∀ word ∈ words, ending.toList.isSuffixOf word.toList = false) (s : String) :
    s ++ ending ∉ words := by
  intro hmem
  have hsuffix : ending.toList.isSuffixOf (s ++ ending).toList = true := by
    rw [List.isSuffixOf_iff_suffix, String.toList_append]
    exact List.suffix_append _ _
  rw [h _ hmem] at hsuffix
  exact Bool.false_ne_true hsuffix

theorem append_params_ne_append_result (s t : String) : s ++ "Params" ≠ t ++ "Result" := by
  intro h
  have hlast := congrArg (fun name => name.toList.getLast?) h
  simp [String.toList_append] at hlast

/-- The types that an operation declares for one of its responses. -/
def Names.types (names : Names) (phrases : PhraseTable) (response : Response) : List String :=
  [names.paramsType, names.resultType, (names.variant phrases response).value]

theorem isPlainIdentifier_paramsType (path : String) (verb : Verb) :
    isPlainIdentifier (Names.ofPath path verb).paramsType.toList = true := by
  have hending : "Params".toList.all Char.isAlphanum = true := by decide
  exact isPlainIdentifier_pascal_append path verb (List.all_eq_true.1 hending)

theorem isPlainIdentifier_resultType (path : String) (verb : Verb) :
    isPlainIdentifier (Names.ofPath path verb).resultType.toList = true := by
  have hending : "Result".toList.all Char.isAlphanum = true := by decide
  exact isPlainIdentifier_pascal_append path verb (List.all_eq_true.1 hending)

theorem isPlainIdentifier_variant (path : String) (verb : Verb) {phrases : PhraseTable}
    (h : phrases.HasWords) (response : Response) :
    isPlainIdentifier ((Names.ofPath path verb).variant phrases response).value.toList = true := by
  have hvariant : ((Names.ofPath path verb).variant phrases response).value =
      (Names.ofPath path verb).pascal ++ (response.phrase phrases).value ++ "Result" := rfl
  have hword := isWord_phrase h response
  have hending : "Result".toList.all Char.isAlphanum = true := by decide
  rw [hvariant, String.append_assoc]
  refine isPlainIdentifier_pascal_append path verb fun c hc => ?_
  rw [String.toList_append, List.mem_append] at hc
  rcases hc with hc | hc
  · exact hword.2 c hc
  · exact List.all_eq_true.1 hending c hc

theorem forall_mem_types {names : Names} {phrases : PhraseTable} {response : Response}
    {p : String → Prop} : (∀ type ∈ names.types phrases response, p type) ↔
      p names.paramsType ∧ p names.resultType ∧ p (names.variant phrases response).value := by
  simp only [Names.types, List.forall_mem_cons, List.not_mem_nil, false_implies, implies_true,
    and_true]

theorem isPlainIdentifier_of_mem_types (path : String) (verb : Verb) {phrases : PhraseTable}
    (h : phrases.HasWords) (response : Response) :
    ∀ type ∈ (Names.ofPath path verb).types phrases response,
      isPlainIdentifier type.toList = true :=
  forall_mem_types.2 ⟨isPlainIdentifier_paramsType path verb,
    isPlainIdentifier_resultType path verb, isPlainIdentifier_variant path verb h response⟩

theorem append_notMem_commonTypes {ending : String} (h : ending ∈ ["Params", "Result"])
    (s : String) : s ++ ending ∉ commonTypes := by
  have hendings : ∀ ending ∈ ["Params", "Result"], ∀ word ∈ commonTypes,
      ending.toList.isSuffixOf word.toList = false := by
    decide
  exact append_notMem ending (hendings ending h) s

/-- No type of an operation is called like a type of every module. -/
theorem notMem_commonTypes_of_mem_types (path : String) (verb : Verb) (phrases : PhraseTable)
    (response : Response) :
    ∀ type ∈ (Names.ofPath path verb).types phrases response, type ∉ commonTypes := by
  have hparams (s : String) : s ++ "Params" ∉ commonTypes := append_notMem_commonTypes (.head _) s
  have hresult (s : String) : s ++ "Result" ∉ commonTypes :=
    append_notMem_commonTypes (.tail _ (.head _)) s
  exact forall_mem_types.2 ⟨hparams _, hresult _, hresult _⟩

theorem nodup_types (path : String) (verb : Verb) {phrases : PhraseTable} (h : phrases.HasWords)
    (response : Response) : ((Names.ofPath path verb).types phrases response).Nodup := by
  have hword := isWord_phrase h response
  have hresult : (Names.ofPath path verb).resultType ≠
      ((Names.ofPath path verb).variant phrases response).value := by
    intro heq
    have hlength := congrArg String.length heq
    simp only [Names.ofPath, Names.variant, Logged.value_map, String.length_append] at hlength
    have hpos : (response.phrase phrases).value.length ≠ 0 :=
      fun hzero => hword.1 (String.length_eq_zero_iff.1 hzero)
    omega
  have hparams (s : String) : (Names.ofPath path verb).paramsType ≠ s ++ "Result" :=
    append_params_ne_append_result _ s
  simp only [Names.types, List.nodup_cons, List.mem_cons, List.not_mem_nil, or_false, not_or]
  exact ⟨⟨hparams _, hparams _⟩, hresult, not_false, List.nodup_nil⟩

/-- **The names of an operation can be used**, whatever its path and the codes of its responses: they
are identifiers, the function is called neither like a reserved word nor like a name that its body
uses, and its types are called neither like one another nor like those of every module. -/
theorem Names.ofPath_hygienic (path : String) (verb : Verb) {phrases : PhraseTable}
    (h : phrases.HasWords) (response : Response) :
    isPlainIdentifier (ofPath path verb).function.toList = true ∧
    (ofPath path verb).function ∉ reservedWords ++ bodyIdentifiers ∧
    (∀ type ∈ (ofPath path verb).types phrases response,
      isPlainIdentifier type.toList = true ∧ type ∉ commonTypes) ∧
    ((ofPath path verb).types phrases response).Nodup := by
  refine ⟨isPlainIdentifier_function path verb, function_notMem path verb, fun type htype => ?_,
    nodup_types path verb h response⟩
  exact ⟨isPlainIdentifier_of_mem_types path verb h response type htype,
    notMem_commonTypes_of_mem_types path verb phrases response type htype⟩

theorem deleteRoot_hygienic :
    PhraseTable.HasWords standardPhrase ∧ (Names.ofPath "/" .delete).function = "_delete" ∧
    "_delete" ∉ reservedWords ++ bodyIdentifiers ∧
    ((Names.ofPath "/" .delete).types standardPhrase ⟨"404", []⟩).Nodup := by
  have hname : (Names.ofPath "/" .delete).function = "_delete" := by decide +kernel
  obtain ⟨-, hfunction, -, htypes⟩ :=
    Names.ofPath_hygienic "/" .delete hasWords_standardPhrase ⟨"404", []⟩
  exact ⟨hasWords_standardPhrase, hname, hname ▸ hfunction, htypes⟩

end RestClient
