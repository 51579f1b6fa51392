import RestClient.Proofs.Client.Exports
import RestClient.Proofs.TypeScript.Comment
import RestClient.Proofs.TypeScript.Layout

/-! # How a module is put together

The text of a module grows at its end: more operations add their code, each behind a blank line, and
change nothing before it. Putting the parts together loses nothing but the line feed at the end of a
function. The declarations can be found again between blank lines, because none of them holds one,
whatever the names, types and descriptions in an operation are.

* `paragraphs_append`: texts that are put one blank line apart;
* `parts_paragraphs`: texts that are found again;
* `isSolid_of_mem_resultBlocks`: the declarations of a result are such texts;
* `clientModule_framing`: the beginning, the end and the parts of a module. -/

namespace RestClient

open RestClient.Text RestClient.TypeScript

/-! ### Paragraphs -/

theorem paragraphs_append {texts : List String} (h : texts ≠ []) (more : List String) :
    paragraphs (texts ++ more) = paragraphs texts ++ String.join (more.map ("\n\n" ++ ·)) := by
  -- The first of the further texts joins those that are done.
  induction more generalizing texts with
  | nil => simp
  | cons text more ih =>
    have hone : paragraphs (texts ++ [text]) = paragraphs texts ++ ("\n\n" ++ text) := by
      rw [paragraphs, String.intercalate_append_of_ne_nil h (List.cons_ne_nil text []),
        String.intercalate_singleton, String.append_assoc]
      rfl
    have hsplit : texts ++ text :: more = (texts ++ [text]) ++ more := by simp
    rw [hsplit, ih (by simp), hone, List.map_cons, String.join_cons, String.append_assoc]

/-- The parts of a text between its blank lines. -/
def parts (text : String) : List String := (atBlankLines text.toList).map String.ofList

/-- **Texts without empty rows are the parts of what they are put together to.** -/
theorem parts_paragraphs {texts : List String} (hne : texts ≠ [])
    (h : ∀ text ∈ texts, IsSolid text.toList) : parts (paragraphs texts) = texts := by
  have hlist : (paragraphs texts).toList = ['\n', '\n'].intercalate (texts.map String.toList) :=
    String.toList_intercalate
  have hparts : atBlankLines (paragraphs texts).toList = texts.map String.toList := by
    rw [hlist]
    exact atBlankLines_intercalate (by simpa using hne) (List.forall_mem_map.2 h)
  rw [parts, hparts, List.map_map]
  simp

/-! ### Names without line feeds -/

/-- A table whose phrases have no line feed. -/
def PhraseTable.HasNoNewline (phrases : PhraseTable) : Prop :=
  ∀ code phrase, phrases code = some phrase → '\n' ∉ phrase.toList

theorem hasNoNewline_standardPhrase : PhraseTable.HasNoNewline standardPhrase := by
  intro code phrase hphrase hmem
  have hword := (hasWords_standardPhrase code phrase hphrase).2 '\n' hmem
  exact absurd hword (by decide)

theorem notMem_of_isPlainIdentifier {name : String}
    (h : isPlainIdentifier name.toList = true) : '\n' ∉ name.toList :=
  notMem_of_isNamePart h (by decide)

theorem notMem_unionOf {names : List String} (h : ∀ name ∈ names, '\n' ∉ name.toList) :
    '\n' ∉ (unionOf names).toList := by
  intro hmem
  rw [unionOf, String.toList_intercalate] at hmem
  rcases eq_or_exists_of_mem_intercalate hmem with hblank | ⟨text, htext, hmem⟩
  · exact absurd hblank (by decide)
  · obtain ⟨member, hmember, rfl⟩ := List.mem_map.1 htext
    obtain ⟨name, hname, rfl⟩ := List.mem_map.1 hmember
    rw [String.toList_append] at hmem
    exact List.not_mem_append (by decide) (h name hname) hmem

/-- No declaration of a result has an empty row, if the names of its variants have no line feed. -/
theorem isSolid_resultBlocks_of_notMem {phrases : PhraseTable} (op : Operation)
    (h : ∀ name ∈ op.variantNames phrases, '\n' ∉ name.toList) :
    ∀ block ∈ op.resultBlocks phrases, IsSolid block.toList := by
  have hresult : '\n' ∉ op.names.resultType.toList :=
    notMem_of_isPlainIdentifier (isPlainIdentifier_resultType op.path op.verb)
  intro block hblock
  unfold Operation.resultBlocks at hblock
  split at hblock
  · rw [List.mem_singleton.1 hblock]
    exact isSolid_declaration_of_notMem hresult (by decide)
  · rcases List.mem_cons.1 hblock with rfl | hblock
    · exact isSolid_declaration_of_notMem hresult (notMem_unionOf h)
    · obtain ⟨response, hresponse, rfl⟩ := List.mem_map.1 hblock
      exact isSolid_declaration (h _ (List.mem_map.2 ⟨response, hresponse, rfl⟩)) _

/-- The declarations of a result are its parts, if the names of its variants have no line feed. -/
theorem parts_result_of_notMem {phrases : PhraseTable} (op : Operation)
    (h : ∀ name ∈ op.variantNames phrases, '\n' ∉ name.toList) :
    parts (op.code phrases).value.result = op.resultBlocks phrases := by
  have hresult : (op.code phrases).value.result = paragraphs (op.resultBlocks phrases) :=
    value_resultDeclarations op
  rw [hresult]
  exact parts_paragraphs op.resultBlocks_ne_nil (isSolid_resultBlocks_of_notMem op h)

section Table

variable {phrases : PhraseTable} (h : phrases.HasNoNewline)
include h

theorem notMem_phrase (response : Response) :
    '\n' ∉ (response.phrase phrases).value.toList := by
  unfold Response.phrase
  split
  · exact (by decide : '\n' ∉ "Default".toList)
  · split
    · rename_i phrase hphrase
      exact h _ _ hphrase
    · have hplain : '\n' ∉ (plainCode response.code).toList := by
        rw [plainCode, String.toList_ofList]
        intro hmem
        exact absurd (List.mem_filter.1 hmem).2 (by decide)
      rw [Logged.value_after, Logged.value_silent, String.toList_append]
      exact List.not_mem_append (by decide) hplain

theorem notMem_variant (op : Operation) (response : Response) :
    '\n' ∉ (op.names.variant phrases response).value.toList := by
  have hpascal : '\n' ∉ op.names.pascal.toList := by
    have hplain := isPlainIdentifier_pascal_append op.path op.verb (s := "") (by simp)
    rw [String.append_empty] at hplain
    exact notMem_of_isPlainIdentifier hplain
  have hvariant : (op.names.variant phrases response).value =
      op.names.pascal ++ (response.phrase phrases).value ++ "Result" := rfl
  rw [hvariant, String.toList_append, String.toList_append]
  exact List.not_mem_append (List.not_mem_append hpascal (notMem_phrase h response)) (by decide)

theorem notMem_variantNames (op : Operation) :
    ∀ name ∈ op.variantNames phrases, '\n' ∉ name.toList := by
  intro name hname
  obtain ⟨response, -, rfl⟩ := List.mem_map.1 hname
  exact notMem_variant h op response

/-- **No declaration of a result has an empty row**, whatever its types are. -/
theorem isSolid_of_mem_resultBlocks (op : Operation) :
    ∀ block ∈ op.resultBlocks phrases, IsSolid block.toList :=
  isSolid_resultBlocks_of_notMem op (notMem_variantNames h op)

/-- **The declarations of a result are its parts.** -/
theorem parts_result (op : Operation) :
    parts (op.code phrases).value.result = op.resultBlocks phrases :=
  parts_result_of_notMem op (notMem_variantNames h op)

end Table

theorem isSolid_paramsDeclaration (op : Operation) :
    IsSolid (op.paramsDeclaration op.names).toList :=
  isSolid_declaration
    (notMem_of_isPlainIdentifier (isPlainIdentifier_paramsType op.path op.verb)) op.paramsEntries

theorem length_resultBlocks (phrases : PhraseTable) (op : Operation) :
    (op.resultBlocks phrases).length = 1 + op.responses.length := by
  unfold Operation.resultBlocks
  split
  · rename_i hempty
    rw [List.isEmpty_iff.1 hempty]
    rfl
  · rw [List.length_cons, List.length_map, Nat.add_comm]

/-! ### Modules -/

/-- The code of an operation is its three parts, and the function loses its line feed. -/
theorem exists_source_eq (phrases : PhraseTable) (op : Operation) :
    ∃ function, (op.code phrases).value.function = function ++ "\x7d\n" ∧
      (op.code phrases).value.source =
        (op.code phrases).value.params ++ "\n\n" ++ (op.code phrases).value.result ++ "\n\n" ++
          (function ++ "\x7d") := by
  obtain ⟨s, hprint, htrim⟩ := exists_print_eq (op.requestFunction op.names)
  have hparams : trimmedEnd (op.code phrases).value.params = (op.code phrases).value.params :=
    ((endsInText_objectBody _).declaration _).trimmedEnd
  have hresult : trimmedEnd (op.code phrases).value.result = (op.code phrases).value.result := by
    have hparagraphs : (op.code phrases).value.result = paragraphs (op.resultBlocks phrases) :=
      value_resultDeclarations op
    rw [hparagraphs]
    exact (endsInText_resultBlocks phrases op).trimmedEnd
  refine ⟨_, hprint, ?_⟩
  rw [OperationCode.source, sourceOf, hparams, hresult]
  have hfunction : trimmedEnd (op.code phrases).value.function = _ := htrim
  rw [hfunction]
  simp only [paragraphs, String.intercalate_cons_cons, String.intercalate_singleton,
    String.append_assoc]

theorem clientModule_eq (phrases : PhraseTable) (ops : List Operation) :
    (clientModule phrases ops).value =
      paragraphs (preamble :: ops.map fun op => (op.code phrases).value.source) ++ "\n" := by
  unfold clientModule
  simp only [Logged.value_andThen, Logged.value_map, Logged.value_traverse, List.map_map]
  rfl

/-- **More operations add their code at the end of a module.** -/
theorem exists_clientModule_append (phrases : PhraseTable) (ops ops' : List Operation) :
    ∃ front, (clientModule phrases ops).value = front ++ "\n" ∧
      (clientModule phrases (ops ++ ops')).value =
        front ++ String.join (ops'.map fun op => "\n\n" ++ (op.code phrases).value.source) ++
          "\n" := by
  refine ⟨_, clientModule_eq phrases ops, ?_⟩
  rw [clientModule_eq, List.map_append, ← List.cons_append,
    paragraphs_append (List.cons_ne_nil _ _), List.map_map]
  rfl

theorem clientModule_nil (phrases : PhraseTable) :
    (clientModule phrases []).value = preamble ++ "\n" := by
  rw [clientModule_eq, List.map_nil, paragraphs_singleton]

/-- A module begins with the options of requests and ends in a brace and one line feed. -/
theorem exists_clientModule_eq (phrases : PhraseTable) (ops : List Operation) :
    (∃ rest, (clientModule phrases ops).value = preamble ++ rest) ∧
      ∃ front, (clientModule phrases ops).value = front ++ "\x7d\n" := by
  constructor
  · obtain ⟨front, hfront, happend⟩ := exists_clientModule_append phrases [] ops
    rw [clientModule_nil, String.append_left_inj] at hfront
    rw [List.nil_append, ← hfront, String.append_assoc] at happend
    exact ⟨_, happend⟩
  · have hend (front : String) : front ++ "\x7d" ++ "\n" = front ++ "\x7d\n" :=
      String.append_assoc
    rcases List.eq_nil_or_concat' ops with rfl | ⟨init, last, rfl⟩
    · have hpreamble : preamble =
          "export interface RequestOptions \x7b\n  signal?: AbortSignal;\n" ++ "\x7d" := by
        rfl
      rw [clientModule_nil, hpreamble, hend]
      exact ⟨_, rfl⟩
    · obtain ⟨front, -, happend⟩ := exists_clientModule_append phrases init [last]
      obtain ⟨function, -, hsource⟩ := exists_source_eq phrases last
      rw [List.map_singleton, hsource, String.join_cons, String.join_nil,
        String.append_empty] at happend
      simp only [← String.append_assoc, hend] at happend
      exact ⟨_, happend⟩

/-- **How a module is put together**, for every table of phrases: it begins with the options of
requests and ends in a brace and one line feed; more operations add their code at its end; the code of
an operation is its three parts without the line feed of the function. If the phrases have no line
feed, then the parameters and all declarations of a result are found again between blank lines. -/
theorem clientModule_framing (phrases : PhraseTable) :
    (∀ ops, (∃ rest, (clientModule phrases ops).value = preamble ++ rest) ∧
      ∃ front, (clientModule phrases ops).value = front ++ "\x7d\n") ∧
    (∀ ops ops', ∃ front, (clientModule phrases ops).value = front ++ "\n" ∧
      (clientModule phrases (ops ++ ops')).value =
        front ++ String.join (ops'.map fun op => "\n\n" ++ (op.code phrases).value.source) ++
          "\n") ∧
    (∀ op : Operation, ∃ function, (op.code phrases).value.function = function ++ "\n" ∧
      (op.code phrases).value.source =
        (op.code phrases).value.params ++ "\n\n" ++ (op.code phrases).value.result ++ "\n\n" ++
          function) ∧
    (phrases.HasNoNewline → ∀ op : Operation,
      (¬ ['\n', '\n'] <:+: (op.code phrases).value.params.toList ∧
        parts (op.code phrases).value.params = [(op.code phrases).value.params]) ∧
      (op.code phrases).value.result = paragraphs (op.resultBlocks phrases) ∧
      (∀ block ∈ op.resultBlocks phrases, ¬ ['\n', '\n'] <:+: block.toList) ∧
      parts (op.code phrases).value.result = op.resultBlocks phrases ∧
      (op.resultBlocks phrases).length = 1 + op.responses.length) := by
  refine ⟨exists_clientModule_eq phrases, exists_clientModule_append phrases, fun op => ?_,
    fun h op => ⟨⟨?_, ?_⟩, ?_, fun block hblock => ?_, ?_, ?_⟩⟩
  · obtain ⟨function, hfunction, hsource⟩ := exists_source_eq phrases op
    refine ⟨function ++ "\x7d", ?_, hsource⟩
    rw [hfunction, String.append_assoc]
    rfl
  · exact (isSolid_paramsDeclaration op).not_isInfix
  · have hone := parts_paragraphs (List.cons_ne_nil (op.code phrases).value.params [])
      (List.forall_mem_singleton.2 (isSolid_paramsDeclaration op))
    rwa [paragraphs_singleton] at hone
  · exact value_resultDeclarations op
  · exact (isSolid_of_mem_resultBlocks h op block hblock).not_isInfix
  · exact parts_result h op
  · exact length_resultBlocks phrases op

/-- An operation whose texts have blank lines in them. -/
def readNote : Operation where
  path := "/notes\n\n/{id}"
  verb := .get
  server := ""
  positionalParams := [⟨"id", "string\n\n| number", true, some "Which\n\nnote"⟩]
  queryParams := [⟨"as\n\nof", "string", false, none⟩]
  headerParams := []
  bodyParam := none
  responses := [⟨"200", [⟨"application/json", "\x7b\n\n  text: string;\n\n\x7d"⟩]⟩, ⟨"404", []⟩]

theorem readNote_framing :
    PhraseTable.HasNoNewline standardPhrase ∧
    parts (readNote.code standardPhrase).value.params =
      [(readNote.code standardPhrase).value.params] ∧
    (parts (readNote.code standardPhrase).value.result).length = 3 := by
  have hframing := (clientModule_framing standardPhrase).2.2.2 hasNoNewline_standardPhrase readNote
  obtain ⟨⟨-, hparams⟩, -, -, hresult, hlength⟩ := hframing
  exact ⟨hasNoNewline_standardPhrase, hparams, hresult ▸ hlength⟩

end RestClient
