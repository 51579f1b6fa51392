import RestClient.Client.Module

/-! # The blocks of a module

A module is a list of exported declarations with a blank line between any two: the request options,
and for each operation its parameters, its result, the variants of its result and its function. No
declaration has blanks at its end, so that nothing is lost where a module is put together.

* `clientModule_eq_paragraphs`: the text of a module. -/

namespace RestClient

open RestClient.Text RestClient.TypeScript

/-! ### Paragraphs -/

/-- Texts can be replaced by others that make the same paragraphs. -/
theorem paragraphs_congr {l m m' : List String} (n : List String) (hl : l ≠ []) (hm : m ≠ [])
    (hm' : m' ≠ []) (h : paragraphs m = paragraphs m') :
    paragraphs (l ++ m ++ n) = paragraphs (l ++ m' ++ n) := by
  unfold paragraphs at h ⊢
  have hfront : "\n\n".intercalate (l ++ m) = "\n\n".intercalate (l ++ m') := by
    rw [String.intercalate_append_of_ne_nil hl hm, String.intercalate_append_of_ne_nil hl hm', h]
  by_cases hn : n = []
  · rw [hn, List.append_nil, List.append_nil, hfront]
  · rw [String.intercalate_append_of_ne_nil (by simp [hl]) hn, hfront,
      ← String.intercalate_append_of_ne_nil (by simp [hl]) hn]

theorem paragraphs_singleton (text : String) : paragraphs [text] = text :=
  String.intercalate_singleton

/-- Paragraphs of paragraphs are paragraphs. -/
theorem paragraphs_map_paragraphs {α : Type} (f : α → List String) (as : List α)
    (hf : ∀ a ∈ as, f a ≠ []) {l : List String} (hl : l ≠ []) :
    paragraphs (l ++ as.map fun a => paragraphs (f a)) = paragraphs (l ++ as.flatMap f) := by
  -- The paragraphs that are done move to the front, where they are replaced by their texts.
  induction as generalizing l with
  | nil => rfl
  | cons a as ih =>
    have hmap := ih (fun b hb => hf b (List.mem_cons_of_mem a hb)) (l := l ++ [paragraphs (f a)])
      (by simp)
    have hsingle : paragraphs [paragraphs (f a)] = paragraphs (f a) := paragraphs_singleton _
    have hcongr := paragraphs_congr (as.flatMap f) hl (List.cons_ne_nil (paragraphs (f a)) [])
      (hf a List.mem_cons_self) hsingle
    rw [List.map_cons, List.flatMap_cons, ← List.append_assoc, ← hcongr, ← hmap, List.append_assoc]
    rfl

/-! ### The ends of declarations -/

/-- A text whose last character is no blank. -/
def EndsInText (s : String) : Prop := ∃ c, s.toList.getLast? = some c ∧ isBlank c = false

theorem EndsInText.append (s : String) {t : String} (h : EndsInText t) : EndsInText (s ++ t) := by
  obtain ⟨c, ht, hc⟩ := h
  exact ⟨c, by rw [String.toList_append, List.getLast?_append, ht, Option.some_or], hc⟩

theorem trimEnd_append_blank {c : Char} (s : List Char) (h : isBlank c = true) :
    trimEnd (s ++ [c]) = trimEnd s := by
  rw [trimEnd, List.reverse_append, List.reverse_singleton, List.singleton_append,
    List.dropWhile_cons_of_pos h, trimEnd]

theorem EndsInText.trimmedEnd {s : String} (h : EndsInText s) : trimmedEnd s = s := by
  obtain ⟨c, hs, hc⟩ := h
  obtain ⟨init, hinit⟩ := List.getLast?_eq_some_iff.1 hs
  have htrim : trimEnd s.toList = s.toList := by
    rw [hinit, trimEnd, List.reverse_append, List.reverse_singleton, List.singleton_append,
      List.dropWhile_cons_of_neg (by simp [hc]), List.reverse_cons, List.reverse_reverse]
  rw [RestClient.trimmedEnd, htrim, String.ofList_toList]

/-- Texts with a separator between them end like the last of them. -/
theorem EndsInText.intercalate {separator last : String} (init : List String)
    (h : EndsInText last) : EndsInText (separator.intercalate (init ++ [last])) := by
  by_cases hne : init = []
  · rwa [hne, List.nil_append, String.intercalate_singleton]
  · rw [String.intercalate_append_of_ne_nil hne (List.cons_ne_nil _ _),
      String.intercalate_singleton]
    exact h.append _

/-- A declaration ends in a semicolon or like its body. -/
theorem EndsInText.declaration (name : String) {body : String} (h : EndsInText body) :
    EndsInText (declaration name body) := by
  unfold TypeScript.declaration
  split
  · have hend : EndsInText ";" := ⟨';', by decide, by decide⟩
    exact hend.append _
  · exact h.append _

theorem endsInText_objectBody (entries : List String) : EndsInText (objectBody entries) := by
  have hend : EndsInText "\x7d" := ⟨'}', by decide, by decide⟩
  unfold objectBody
  split
  · exact hend.append "\x7b"
  · exact hend.append _

/-- A function ends in a brace and a line feed, of which trimming takes off the line feed. -/
theorem exists_print_eq (f : Function) :
    ∃ s, f.print = "export async function " ++ f.name ++ "(" ++ s ++ "\x7d\n" ∧
      trimmedEnd f.print = "export async function " ++ f.name ++ "(" ++ s ++ "\x7d" := by
  obtain ⟨s, hs⟩ : ∃ s, f.print = "export async function " ++ f.name ++ "(" ++ s ++ "\x7d\n" := by
    refine ⟨", ".intercalate (f.parameters.map Parameter.print) ++ "): " ++ f.returnType.print ++
      " \x7b\n" ++ Stmt.printAll 1 f.body, ?_⟩
    unfold Function.print
    simp only [String.append_assoc]
  have hend : EndsInText "\x7d" := ⟨'}', by decide, by decide⟩
  have hlist : f.print.toList =
      ("export async function " ++ f.name ++ "(" ++ s ++ "\x7d").toList ++ ['\n'] := by
    rw [hs]
    simp
  refine ⟨s, hs, ?_⟩
  rw [trimmedEnd, hlist, trimEnd_append_blank _ (by decide), ← trimmedEnd, (hend.append _).trimmedEnd]

/-- The name of a function stands between a fixed text and a parenthesis. -/
theorem exists_trimmedEnd_print (f : Function) :
    ∃ s, trimmedEnd f.print = "export async function " ++ f.name ++ "(" ++ s := by
  obtain ⟨s, -, htrim⟩ := exists_print_eq f
  exact ⟨s ++ "\x7d", by rw [htrim, String.append_assoc]⟩

/-! ### Blocks -/

/-- The names of the variants of a result. -/
def Operation.variantNames (phrases : PhraseTable) (op : Operation) : List String :=
  op.responses.map fun response => (op.names.variant phrases response).value

/-- The declarations of a result and its variants. -/
def Operation.resultBlocks (phrases : PhraseTable) (op : Operation) : List String :=
  if op.responses.isEmpty then [declaration op.names.resultType "never"]
  else
    declaration op.names.resultType (unionOf (op.variantNames phrases)) ::
      op.responses.map fun response =>
        declaration (op.names.variant phrases response).value response.variantBody

/-- All declarations of an operation. -/
def Operation.blocks (phrases : PhraseTable) (op : Operation) : List String :=
  op.paramsDeclaration op.names ::
    (op.resultBlocks phrases ++ [trimmedEnd (op.requestFunction op.names).print])

/-- All declarations of a module. -/
def moduleBlocks (phrases : PhraseTable) (ops : List Operation) : List String :=
  preamble :: ops.flatMap (Operation.blocks phrases)

variable {phrases : PhraseTable}

theorem Operation.resultBlocks_ne_nil (op : Operation) : op.resultBlocks phrases ≠ [] := by
  unfold Operation.resultBlocks
  split <;> exact List.cons_ne_nil _ _

theorem value_resultDeclarations (op : Operation) :
    (op.resultDeclarations op.names phrases).value = paragraphs (op.resultBlocks phrases) := by
  unfold Operation.resultDeclarations Operation.resultBlocks
  split
  · exact (paragraphs_singleton _).symm
  · have hzip : (op.variantNames phrases).zip op.responses =
        op.responses.map fun response =>
          ((op.names.variant phrases response).value, response) := by
      have hpair := List.zip_map' (l := op.responses) (g := id)
        (f := fun response => (op.names.variant phrases response).value)
      rwa [List.map_id] at hpair
    have hnames : op.variantNames phrases =
        (Logged.traverse (op.names.variant phrases) op.responses).value := rfl
    rw [Logged.value_map, ← hnames, hzip, resultText, List.map_map, List.map_map, paragraphs]
    simp only [Function.comp_def, Operation.variantNames]

/-- The declarations of a result have no blanks at their end. -/
theorem endsInText_resultBlocks (phrases : PhraseTable) (op : Operation) :
    EndsInText (paragraphs (op.resultBlocks phrases)) := by
  have hvariant (name : String) (response : Response) :
      EndsInText (declaration name response.variantBody) :=
    (endsInText_objectBody _).declaration name
  unfold Operation.resultBlocks
  split
  · have hnever : EndsInText "never" := ⟨'r', by decide, by decide⟩
    exact (hnever.declaration _).intercalate []
  · rename_i hne
    have hresponses : op.responses ≠ [] := by simpa using hne
    obtain ⟨init, last, hlast⟩ : ∃ init last, op.responses = init ++ [last] :=
      ⟨_, _, (List.dropLast_concat_getLast hresponses).symm⟩
    rw [hlast, List.map_append, List.map_singleton, ← List.cons_append]
    exact (hvariant _ last).intercalate _

/-- **The code of an operation is its declarations**, one blank line apart. -/
theorem source_code (op : Operation) :
    (op.code phrases).value.source = paragraphs (op.blocks phrases) := by
  have hparams : trimmedEnd (op.paramsDeclaration op.names) = op.paramsDeclaration op.names :=
    ((endsInText_objectBody _).declaration _).trimmedEnd
  have hresult := (endsInText_resultBlocks phrases op).trimmedEnd
  have hcongr := paragraphs_congr (l := [op.paramsDeclaration op.names])
    [trimmedEnd (op.requestFunction op.names).print] (List.cons_ne_nil _ _)
    (List.cons_ne_nil (paragraphs (op.resultBlocks phrases)) []) op.resultBlocks_ne_nil
    (paragraphs_singleton _)
  have hcode : (op.code phrases).value.source =
      sourceOf (op.paramsDeclaration op.names) (op.resultDeclarations op.names phrases).value
        (op.requestFunction op.names).print := rfl
  rw [hcode, sourceOf, hparams, value_resultDeclarations, hresult]
  exact hcongr

/-- **A module is the declarations of all operations**, one blank line apart, behind that of the
request options. -/
theorem clientModule_eq_paragraphs (phrases : PhraseTable) (ops : List Operation) :
    (clientModule phrases ops).value = paragraphs (moduleBlocks phrases ops) ++ "\n" := by
  have hsources : ((ops.map fun op => (op.code phrases).value).map OperationCode.source) =
      ops.map fun op => paragraphs (op.blocks phrases) := by
    rw [List.map_map]
    exact List.map_congr_left fun op _ => source_code op
  have hmodule := paragraphs_map_paragraphs (Operation.blocks phrases) ops
    (fun op _ => List.cons_ne_nil _ _) (List.cons_ne_nil preamble [])
  have hvalue : (clientModule phrases ops).value =
      paragraphs (preamble :: ((ops.map fun op => (op.code phrases).value).map
        OperationCode.source)) ++ "\n" := rfl
  rw [hvalue, hsources]
  exact congrArg (· ++ "\n") hmodule

end RestClient
