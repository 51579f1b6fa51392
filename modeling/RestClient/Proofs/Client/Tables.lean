import RestClient.Proofs.Client.Reports
import RestClient.Proofs.Client.Variants

/-! # What a table of phrases can change

A module is generated with a table of phrases for status codes. The table names the variants of the
results and nothing else: it is only asked for codes that are declared, never for the default, and
what it answers goes into the union of a result, into the declarations behind it, and into the
reports of codes without a phrase.

* `clientModule_congr`: tables that agree on the declared codes make the same module;
* `Operation.resultBlocks_eq`: what a result is made of, with places for the names of its variants;
* `renameVariants_result`: the result of one table becomes that of another one, if its variants are
  called by the names that the other one gives them;
* `clientModule_phrases`: all of what a table can change. -/

namespace RestClient

open RestClient.Text RestClient.TypeScript

/-! ### Tables that agree -/

/-- Tables with the same phrases for the codes that operations declare, the default apart. -/
def PhraseTable.AgreeOn (ops : List Operation) (phrases phrases' : PhraseTable) : Prop :=
  ∀ op ∈ ops, ∀ response ∈ op.responses,
    response.code ≠ "default" → phrases response.code = phrases' response.code

theorem Logged.traverse_congr {α β : Type} {f g : α → Logged β} {xs : List α}
    (h : ∀ x ∈ xs, f x = g x) : Logged.traverse f xs = Logged.traverse g xs := by
  have hvalue : xs.map (fun x => (f x).value) = xs.map fun x => (g x).value :=
    List.map_congr_left fun x hx => congrArg Logged.value (h x hx)
  have hevents : xs.map (fun x => (f x).events) = xs.map fun x => (g x).events :=
    List.map_congr_left fun x hx => congrArg Logged.events (h x hx)
  rw [Logged.traverse, Logged.traverse, hvalue, List.flatMap_def, List.flatMap_def, hevents]

variable {phrases phrases' : PhraseTable}

/-- The default response asks no table, and any other one asks for its code only. -/
theorem phrase_congr {response : Response}
    (h : response.code ≠ "default" → phrases response.code = phrases' response.code) :
    response.phrase phrases = response.phrase phrases' := by
  unfold Response.phrase
  split
  · rfl
  · rename_i hdefault
    rw [h (mt isDefault_iff.2 hdefault)]

theorem code_congr {op : Operation}
    (h : ∀ response ∈ op.responses,
      response.code ≠ "default" → phrases response.code = phrases' response.code) :
    op.code phrases = op.code phrases' := by
  have hvariants : Logged.traverse (op.names.variant phrases) op.responses =
      Logged.traverse (op.names.variant phrases') op.responses :=
    Logged.traverse_congr fun response hresponse => by
      rw [Names.variant, Names.variant, phrase_congr (h response hresponse)]
  simp only [Operation.code, Operation.resultDeclarations, hvariants]

/-- **Tables that agree on the declared codes make the same module**, with the same events. -/
theorem clientModule_congr {ops : List Operation} (h : PhraseTable.AgreeOn ops phrases phrases') :
    clientModule phrases ops = clientModule phrases' ops := by
  have hcodes : Logged.traverse (Operation.code phrases) ops =
      Logged.traverse (Operation.code phrases') ops :=
    Logged.traverse_congr fun op hop => code_congr (h op hop)
  rw [clientModule, clientModule, hcodes]

/-! ### The places of the names -/

/-- The declaration of the variant of a response by a name, in a form that does not depend on the
name. -/
def Response.variantDeclaration (response : Response) (name : String) : String :=
  let kind := DeclarationKind.ofBody response.variantBody.toList
  kind.opening name ++ response.variantBody ++ kind.closing

/-- What a result is made of, if its variants have the given names: a type alias, and a declaration
for each variant. -/
def Operation.resultBlocksWith (op : Operation) (variants : List String) : List String :=
  ("export type " ++ op.names.resultType ++ " = " ++
      (if op.responses.isEmpty then "never" else unionOf variants) ++ ";") ::
    List.zipWith (fun name response => response.variantDeclaration name) variants op.responses

theorem value_code (phrases : PhraseTable) (op : Operation) :
    (op.code phrases).value =
      { names := op.names
        params := op.paramsDeclaration op.names
        result := paragraphs (op.resultBlocks phrases)
        function := (op.requestFunction op.names).print } := by
  rw [← value_resultDeclarations]
  rfl

theorem declaration_unionOf {name : String} {names : List String} (h : names ≠ []) :
    declaration name (unionOf names) = "export type " ++ name ++ " = " ++ unionOf names ++ ";" := by
  rw [declaration_eq, ofBody_unionOf h]
  rfl

/-- **The table names the variants of a result**, and nothing else in it. -/
theorem Operation.resultBlocks_eq (phrases : PhraseTable) (op : Operation) :
    op.resultBlocks phrases = op.resultBlocksWith (op.variantNames phrases) := by
  by_cases hresponses : op.responses = []
  · rw [resultBlocks, resultBlocksWith, variantNames, hresponses]
    rfl
  · have hnames : op.variantNames phrases ≠ [] := by simpa [variantNames] using hresponses
    have hempty : ¬ op.responses.isEmpty = true := by simpa using hresponses
    rw [resultBlocks_eq_cons phrases hresponses, declaration_unionOf hnames, resultBlocksWith,
      if_neg hempty]
    simp only [variantNames, declaration_eq, List.zipWith_map_left, List.zipWith_self,
      Response.variantDeclaration]

/-! ### Variants by other names -/

/-- A text with another name in the place of its first one. -/
def renameFirst (name s : List Char) : List Char :=
  let behind := s.dropWhile fun c => !isNamePart c
  (s.takeWhile fun c => !isNamePart c) ++ name ++ behind.dropWhile isNamePart

/-- A union with other names in the places of its members. -/
def renameMembers (names : List String) (union : String) : String :=
  match union.toList.splitOn '|' with
  | front :: members =>
    String.ofList (['|'].intercalate
      (front :: List.zipWith (fun name => renameFirst name.toList) names members))
  | [] => union

/-- A declaration with another name in the place of the exported one. -/
def renameExport (name block : String) : String :=
  match exportOpenings.find? fun opening => opening.toList.isPrefixOf block.toList with
  | some opening =>
    String.ofList (opening.toList ++ name.toList ++
      (block.toList.drop opening.toList.length).dropWhile isNamePart)
  | none => block

/-- A result with other names for its variants, each of them in the union and in the declaration in
the same place. -/
def renameVariants (names : List String) (result : String) : String :=
  match parts result with
  | union :: declarations =>
    paragraphs (renameMembers names union :: List.zipWith renameExport names declarations)
  | [] => result

/-! ### Members of a union -/

/-- The members of a union from behind their signs, with what stands up to the next sign or to the
end. -/
def memberTexts : List String → List (List Char)
  | [] => []
  | [name] => [' ' :: name.toList ++ [';']]
  | name :: names => (' ' :: name.toList ++ [' ']) :: memberTexts names

theorem memberTexts_cons (name : String) {names : List String} (h : names ≠ []) :
    memberTexts (name :: names) = (' ' :: name.toList ++ [' ']) :: memberTexts names := by
  cases names with
  | nil => exact absurd rfl h
  | cons => rfl

theorem intercalate_memberTexts (front : List Char) {names : List String} (h : names ≠ []) :
    ['|'].intercalate (front :: memberTexts names) = front ++ (unionOf names).toList ++ [';'] := by
  induction names generalizing front with
  | nil => exact absurd rfl h
  | cons name names ih =>
    by_cases hempty : names = []
    · rw [hempty, toList_unionOf_singleton]
      simp [memberTexts, List.intercalate_cons_cons]
    · rw [toList_unionOf_cons name hempty, memberTexts_cons name hempty,
        List.intercalate_cons_cons, ih _ hempty]
      simp

theorem notMem_memberTexts {names : List String} (h : ∀ name ∈ names, '|' ∉ name.toList) :
    ∀ text ∈ memberTexts names, '|' ∉ text := by
  induction names with
  | nil => exact List.forall_mem_nil _
  | cons name names ih =>
    obtain ⟨hname, hnames⟩ := List.forall_mem_cons.1 h
    by_cases hempty : names = []
    · rw [hempty]
      exact List.forall_mem_singleton.2 (by simpa using hname)
    · rw [memberTexts_cons name hempty]
      exact List.forall_mem_cons.2 ⟨by simpa using hname, ih hnames⟩

theorem renameFirst_eq {name : List Char} (h : isPlainIdentifier name = true) (name' : List Char)
    {c : Char} (hc : isNamePart c = false) :
    renameFirst name' (' ' :: name ++ [c]) = ' ' :: name' ++ [c] := by
  have hparts := isNamePart_of_isPlainIdentifier h
  have hhead : ∀ d ∈ (name ++ [c]).head?, (!isNamePart d) = false := by
    obtain ⟨d, rest, rfl⟩ := List.exists_cons_of_ne_nil (l := name) (by rintro rfl; cases h)
    simpa using hparts d List.mem_cons_self
  have hblank : ∀ d ∈ [' '], (!isNamePart d) = true := List.forall_mem_singleton.2 rfl
  obtain ⟨hfront, hbehind⟩ := takeWhile_append_of_head? hblank hhead
  have hrest := (takeWhile_append_of_head? (t := [c]) hparts (by simpa using hc)).2
  rw [List.cons_append, ← List.singleton_append, renameFirst, hfront, hbehind, hrest]
  rfl

/-- The names of members are replaced one by one. -/
theorem zipWith_renameFirst {names names' : List String}
    (h : ∀ name ∈ names, isPlainIdentifier name.toList = true)
    (hlength : names'.length = names.length) :
    List.zipWith (fun name => renameFirst name.toList) names' (memberTexts names) =
      memberTexts names' := by
  induction names generalizing names' with
  | nil => rw [List.length_eq_zero_iff.1 hlength]; rfl
  | cons name names ih =>
    obtain ⟨hname, hnames⟩ := List.forall_mem_cons.1 h
    obtain ⟨name', names', rfl⟩ := List.exists_cons_of_length_eq_add_one hlength
    have hlength' : names'.length = names.length := by simpa using hlength
    by_cases hempty : names = []
    · have hempty' : names' = [] := by simpa [hempty] using hlength'
      have hlast := renameFirst_eq hname name'.toList (c := ';') (by decide)
      rw [hempty, hempty', memberTexts, memberTexts, List.zipWith_cons_cons, hlast,
        List.zipWith_nil_right]
    · have hempty' : names' ≠ [] := by
        rintro rfl
        exact hempty (List.length_eq_zero_iff.1 hlength'.symm)
      rw [memberTexts_cons name hempty, memberTexts_cons name' hempty', List.zipWith_cons_cons,
        ih hnames hlength', renameFirst_eq hname name'.toList (by decide)]

/-- A text without a union has no members. -/
theorem renameMembers_of_notMem {text : String} (h : '|' ∉ text.toList) (names : List String) :
    renameMembers names text = text := by
  rw [renameMembers, List.splitOn_eq_singleton h]
  simp

theorem renameMembers_eq {front : String} {names names' : List String}
    (hfront : '|' ∉ front.toList)
    (hne : names ≠ []) (h : ∀ name ∈ names, isPlainIdentifier name.toList = true)
    (hlength : names'.length = names.length) :
    renameMembers names' (front ++ unionOf names ++ ";") = front ++ unionOf names' ++ ";" := by
  have hne' : names' ≠ [] := by
    rintro rfl
    exact hne (List.length_eq_zero_iff.1 hlength.symm)
  have htext : (front ++ unionOf names ++ ";").toList =
      ['|'].intercalate (front.toList :: memberTexts names) := by
    rw [intercalate_memberTexts _ hne]
    simp
  have hsign : ∀ name ∈ names, '|' ∉ name.toList := fun name hname =>
    notMem_of_isNamePart (h name hname) (by decide)
  have hsplit : (front ++ unionOf names ++ ";").toList.splitOn '|' =
      front.toList :: memberTexts names := by
    rw [htext]
    exact List.splitOn_intercalate '|'
      (List.forall_mem_cons.2 ⟨hfront, notMem_memberTexts hsign⟩) (List.cons_ne_nil _ _)
  rw [renameMembers, hsplit]
  simp only [zipWith_renameFirst h hlength, intercalate_memberTexts _ hne']
  rw [← String.toList_inj]
  simp

/-! ### Exported names -/

theorem renameExport_eq {opening name s : String} (hopening : opening ∈ exportOpenings)
    (hname : isPlainIdentifier name.toList = true)
    (hs : ∀ c ∈ s.toList.head?, isNamePart c = false) (name' : String) :
    renameExport name' (opening ++ name ++ s) = opening ++ name' ++ s := by
  have hblock : (opening ++ name ++ s).toList = opening.toList ++ (name.toList ++ s.toList) := by
    simp
  have hdrop := (takeWhile_append_of_head? (isNamePart_of_isPlainIdentifier hname) hs).2
  rw [renameExport, hblock, find?_exportOpenings hopening]
  simp only [List.drop_left, hdrop]
  rw [← String.toList_inj]
  simp

/-- The exported name is replaced in either form of a declaration. -/
theorem renameExport_opening {name : String} (hname : isPlainIdentifier name.toList = true)
    (kind : DeclarationKind) (name' s : String) :
    renameExport name' (kind.opening name ++ s) = kind.opening name' ++ s := by
  have hblank (s : String) : ∀ c ∈ (" " ++ s).toList.head?, isNamePart c = false := by
    intro c hc
    obtain rfl : ' ' = c := by simpa using hc
    decide
  have hform : ∃ opening ∈ exportOpenings, ∃ behind : String,
      ∀ name, kind.opening name = opening ++ name ++ (" " ++ behind) := by
    cases kind with
    | typeAlias => exact ⟨"export type ", by decide, "= ", fun name => opening_typeAlias name⟩
    | interface =>
      refine ⟨"export interface ", by decide, "", fun name => ?_⟩
      rw [opening_interface, String.append_empty]
  obtain ⟨opening, hopening, behind, heq⟩ := hform
  have hgroup (name : String) :
      kind.opening name ++ s = opening ++ name ++ (" " ++ (behind ++ s)) := by
    rw [heq]
    simp only [String.append_assoc]
  rw [hgroup, hgroup]
  exact renameExport_eq hopening hname (hblank _) name'

/-! ### Results -/

/-- Whether the phrases that a table gives to the responses of an operation consist of letters and
digits. -/
def Operation.HasPlainPhrases (op : Operation) (phrases : PhraseTable) : Prop :=
  ∀ response ∈ op.responses, ∀ c ∈ (response.phrase phrases).value.toList, c.isAlphanum = true

theorem Operation.HasPlainPhrases.isPlainIdentifier {op : Operation}
    (h : op.HasPlainPhrases phrases) :
    ∀ name ∈ op.variantNames phrases, isPlainIdentifier name.toList = true := by
  intro name hname
  obtain ⟨response, hresponse, rfl⟩ := List.mem_map.1 hname
  have hending : "Result".toList.all Char.isAlphanum = true := by decide
  have hvariant : (op.names.variant phrases response).value =
      op.names.pascal ++ ((response.phrase phrases).value ++ "Result") := String.append_assoc
  rw [hvariant]
  refine isPlainIdentifier_pascal_append op.path op.verb fun c hc => ?_
  rw [String.toList_append, List.mem_append] at hc
  exact hc.elim (h response hresponse c) (List.all_eq_true.1 hending c)

theorem zipWith_renameExport {op : Operation} (h : op.HasPlainPhrases phrases)
    (names : List String) :
    List.zipWith renameExport names (List.zipWith
        (fun name response => response.variantDeclaration name)
        (op.variantNames phrases) op.responses) =
      List.zipWith (fun name response => response.variantDeclaration name) names op.responses := by
  have hrename : ∀ response ∈ op.responses, ∀ name,
      renameExport name
          (response.variantDeclaration (op.names.variant phrases response).value) =
        response.variantDeclaration name := by
    intro response hresponse name
    have hname := h.isPlainIdentifier _ (List.mem_map.2 ⟨response, hresponse, rfl⟩)
    rw [Response.variantDeclaration, Response.variantDeclaration, String.append_assoc,
      String.append_assoc, renameExport_opening hname]
  rw [Operation.variantNames, List.zipWith_map_left, List.zipWith_self, List.zipWith_map_right,
    ← List.map_uncurry_zip_eq_zipWith, ← List.map_uncurry_zip_eq_zipWith]
  refine List.map_congr_left fun pair hpair => ?_
  obtain ⟨name, response⟩ := pair
  rw [Function.uncurry_apply_pair, Function.uncurry_apply_pair]
  exact hrename response (List.of_mem_zip hpair).2 name

/-- The first sign in a result is that of its first variant. -/
theorem notMem_resultFront (op : Operation) :
    '|' ∉ ("export type " ++ op.names.resultType ++ " = ").toList := by
  have hresult : '|' ∉ op.names.resultType.toList :=
    notMem_of_isNamePart (isPlainIdentifier_resultType op.path op.verb) (by decide)
  rw [String.toList_append, String.toList_append]
  exact List.not_mem_append (List.not_mem_append (by decide) hresult) (by decide)

/-- **The result of one table becomes that of any other names**, if the phrases of the table consist
of letters and digits. -/
theorem renameVariants_result {op : Operation} (h : op.HasPlainPhrases phrases)
    {names : List String} (hlength : names.length = op.responses.length) :
    renameVariants names (op.code phrases).value.result =
      paragraphs (op.resultBlocksWith names) := by
  have hplain := h.isPlainIdentifier
  have hparts : parts (op.code phrases).value.result =
      op.resultBlocksWith (op.variantNames phrases) := by
    rw [parts_result_of_notMem op fun name hname => notMem_of_isPlainIdentifier (hplain name hname),
      op.resultBlocks_eq]
  have hsign := notMem_resultFront op
  rw [renameVariants, hparts, Operation.resultBlocksWith]
  simp only [zipWith_renameExport h]
  by_cases hresponses : op.responses = []
  · have hnames : names = [] := by simpa [hresponses] using hlength
    have hempty : op.responses.isEmpty = true := by rw [hresponses]; rfl
    rw [Operation.resultBlocksWith, if_pos hempty, if_pos hempty, hnames]
    generalize "export type " ++ op.names.resultType ++ " = " = front at hsign
    have hnever : '|' ∉ (front ++ "never" ++ ";").toList := by
      rw [String.toList_append, String.toList_append]
      exact List.not_mem_append (List.not_mem_append hsign (by decide)) (by decide)
    rw [renameMembers_of_notMem hnever]
  · have hempty : ¬ op.responses.isEmpty = true := by simpa using hresponses
    have hnames : op.variantNames phrases ≠ [] := by
      simpa [Operation.variantNames] using hresponses
    have hmembers := renameMembers_eq hsign hnames hplain
      (hlength.trans (List.length_map _).symm)
    rw [Operation.resultBlocksWith, if_neg hempty, hmembers, if_neg hempty]

/-! ### Events -/

/-- Whether an event reports a code without a phrase. -/
def Event.isUnknownCode : Event → Bool
  | .unknownCode _ => true
  | _ => false

/-- What is warned of beside the codes without a phrase. -/
theorem filter_warnings (phrases : PhraseTable) (op : Operation) :
    (op.warnings phrases).filter (!·.isUnknownCode) =
      if op.responses = [] then [.noResponses op.path] else [] := by
  unfold Operation.warnings
  split
  · rfl
  · refine List.filter_eq_nil_iff.2 fun event hevent => ?_
    obtain ⟨code, -, rfl⟩ := List.mem_map.1 hevent
    simp [Event.isUnknownCode]

theorem filter_events_clientModule (phrases phrases' : PhraseTable) (ops : List Operation) :
    (clientModule phrases ops).events.filter (!·.isUnknownCode) =
      (clientModule phrases' ops).events.filter (!·.isUnknownCode) := by
  simp only [events_clientModule, List.filter_append, List.filter_flatMap, List.filter_cons,
    filter_warnings]

/-! ### All that a table can change -/

/-- **A table of phrases names the variants of the results**, and does nothing else. Tables that
agree on the declared codes other than the default make the same module with the same events. Any
two tables give an operation the same names, the same type of its parameters and the same function,
and the same result but for the names of its variants. If the phrases of one of the tables consist
of letters and digits, then its result becomes that of the other table by the names that the other
one gives the variants, each of them put into the union and into the declaration in the same place.
The events are the same but for reports of codes without a phrase. -/
theorem clientModule_phrases (phrases phrases' : PhraseTable) (ops : List Operation) :
    (PhraseTable.AgreeOn ops phrases phrases' →
      clientModule phrases ops = clientModule phrases' ops) ∧
    (∀ op : Operation,
      (op.code phrases).value.names = (op.code phrases').value.names ∧
      (op.code phrases).value.params = (op.code phrases').value.params ∧
      (op.code phrases).value.function = (op.code phrases').value.function ∧
      (op.code phrases).value.result =
        paragraphs (op.resultBlocksWith (op.variantNames phrases)) ∧
      (op.HasPlainPhrases phrases →
        renameVariants (op.variantNames phrases') (op.code phrases).value.result =
          (op.code phrases').value.result)) ∧
    (clientModule phrases ops).events.filter (!·.isUnknownCode) =
      (clientModule phrases' ops).events.filter (!·.isUnknownCode) := by
  refine ⟨clientModule_congr, fun op => ?_, filter_events_clientModule phrases phrases' ops⟩
  have hlength : (op.variantNames phrases').length = op.responses.length := List.length_map _
  have hrenamed (h : op.HasPlainPhrases phrases) :
      renameVariants (op.variantNames phrases') (op.code phrases).value.result =
        (op.code phrases').value.result := by
    rw [renameVariants_result h hlength, ← op.resultBlocks_eq, value_code phrases']
  refine ⟨?_, ?_, ?_, ?_, hrenamed⟩ <;> simp only [value_code, op.resultBlocks_eq]

/-- The registered phrases, with other ones for the default and for a code. -/
def sparePhrases : PhraseTable := fun code =>
  if code = "default" ∨ code = "404" then some "Spare" else standardPhrase code

theorem readReport_phrases :
    (PhraseTable.AgreeOn [readReport] standardPhrase sparePhrases ∧
      clientModule standardPhrase [readReport] = clientModule sparePhrases [readReport]) ∧
    readReport.HasPlainPhrases standardPhrase ∧
    renameVariants (readReport.variantNames fun code => some (code ++ " | "))
        (readReport.code standardPhrase).value.result =
      (readReport.code fun code => some (code ++ " | ")).value.result := by
  have hother : ∀ response ∈ readReport.responses, response.code ≠ "404" := by decide
  have hagree : PhraseTable.AgreeOn [readReport] standardPhrase sparePhrases := by
    intro op hop response hresponse hdefault
    rw [List.mem_singleton.1 hop] at hresponse
    rw [sparePhrases, if_neg (not_or.2 ⟨hdefault, hother response hresponse⟩)]
  have hplain : readReport.HasPlainPhrases standardPhrase := fun response _ =>
    (isWord_phrase hasWords_standardPhrase response).2
  refine ⟨⟨hagree, (clientModule_phrases _ _ _).1 hagree⟩, hplain, ?_⟩
  obtain ⟨-, hcode, -⟩ :=
    clientModule_phrases standardPhrase (fun code => some (code ++ " | ")) [readReport]
  exact (hcode readReport).2.2.2.2 hplain

end RestClient
