import RestClient.Proofs.Text.Lines
import RestClient.Proofs.TypeScript.Comment
import RestClient.Proofs.TypeScript.Literal
import RestClient.TypeScript.Declaration

/-! # Reading the keys of a declaration

The key of an entry is read from where the entry stands in a declaration: behind a margin, perhaps
behind a comment, and before a colon. A name without line ends is read as it was written. One with
line ends is not, because its key spans lines that the declaration indents.

* `IsEntryOf.entryKey?` and `isEntryOf_indentLines`: an entry is read as its name, and what it
  becomes in a declaration is an entry again, of the name laid out;
* `entryKey?_indentLines_format`: a field with a bare key is read as that key;
* `laidOut_of_notMem`, `length_lt_laidOut`: what that does to a name. -/

namespace RestClient.TypeScript

open RestClient.Text

/-- A text from its first character that is no blank. -/
def dropSpaces (s : List Char) : List Char := s.dropWhile fun c => c == ' ' || c == '\n'

/-- The key of a field, if the text is one. -/
def fieldKey? (s : List Char) : Option String :=
  match readKey s with
  | some (key, ':' :: _) => some (String.ofList key)
  | some (key, '?' :: ':' :: _) => some (String.ofList key)
  | _ => none

/-- The key of an entry of an object type, which may have a comment before it. -/
def entryKey? (entry : List Char) : Option String :=
  match dropSpaces entry with
  | '/' :: '*' :: r => fieldKey? (dropSpaces (behindComment r))
  | s => fieldKey? s

/-- A name with its line ends as they are in a declaration. -/
def laidOut (name : String) : String := String.ofList (reindent [' ', ' '] name.toList)

theorem head?_escapeString_append {s t : List Char} (hs : s.head? ≠ some '\n')
    (ht : t.head? ≠ some '\n') : (escapeString s ++ t).head? ≠ some '\n' := by
  cases s with
  | nil => exact ht
  | cons c s =>
    rw [escapeString_cons]
    split
    · simp
    · simpa using hs

theorem reindent_escapeString {margin : List Char} (hm : escapeString margin = margin)
    (s : List Char) :
    reindent margin (escapeString s ++ ['"']) = escapeString (reindent margin s) ++ ['"'] := by
  fun_induction reindent margin s with
  | case1 => rfl
  | case2 s ih =>
    have hescape : escapeString ('\r' :: '\n' :: s) = '\r' :: '\n' :: escapeString s := rfl
    rw [hescape, List.cons_append, List.cons_append, reindent, ih, escapeString_cons,
      escapeString_append, hm]
    simp
  | case3 s ih =>
    have hescape : escapeString ('\n' :: s) = '\n' :: escapeString s := rfl
    rw [hescape, List.cons_append, reindent, ih, escapeString_cons, escapeString_append, hm]
    simp
  | case4 c s hreturn hc ih =>
    rw [escapeString_cons, escapeString_cons]
    by_cases h : c = '\\' ∨ c = '"'
    · have hr : c ≠ '\r' := by rcases h with rfl | rfl <;> decide
      rw [if_pos h]
      simp only [List.cons_append, List.nil_append]
      rw [reindent_cons (by decide) (by simp), reindent_cons hc fun h => absurd h hr, ih]
    · rw [if_neg h]
      simp only [List.cons_append, List.nil_append]
      have hhead : c = '\r' → (escapeString s ++ ['"']).head? ≠ some '\n' := by
        intro hr
        refine head?_escapeString_append ?_ (by decide)
        intro hs
        obtain ⟨s', rfl⟩ := List.head?_eq_some_iff.1 hs
        exact hreturn s' hr rfl
      rw [reindent_cons hc hhead, ih]

/-- What a key becomes in a declaration is a key again. -/
theorem isKeyOf_reindent {name key : List Char} (h : IsKeyOf name key) :
    IsKeyOf (reindent [' ', ' '] name) (reindent [' ', ' '] key) := by
  cases h with
  | bare h =>
    have hline : '\n' ∉ name := fun hmem =>
      absurd (all_isNamePart_of_isBareName h _ hmem) (by decide)
    rw [reindent_of_notMem _ hline]
    exact .bare h
  | quoted =>
    rw [reindent_cons (by decide) (by simp), reindent_escapeString (by decide)]
    exact .quoted

/-- A key begins with a quote or a letter, and neither a blank nor a comment does. -/
theorem IsKeyOf.exists_cons {name key : List Char} (h : IsKeyOf name key) :
    ∃ c s, key = c :: s ∧ c ≠ ' ' ∧ c ≠ '\n' ∧ c ≠ '/' := by
  cases h with
  | quoted => exact ⟨'"', _, rfl, by decide, by decide, by decide⟩
  | bare h =>
    cases name with
    | nil => exact absurd h Bool.false_ne_true
    | cons c s =>
      have hc := all_isNamePart_of_isBareName h c List.mem_cons_self
      exact ⟨c, s, rfl, ne_of_isNamePart hc (by decide), ne_of_isNamePart hc (by decide),
        ne_of_isNamePart hc (by decide)⟩

/-! ### Entries -/

/-- A text that begins with the field of a property, perhaps behind spaces. -/
def IsFieldOf (name text : List Char) : Prop :=
  ∃ spaces key mark r, (∀ c ∈ spaces, c = ' ') ∧ IsKeyOf name key ∧ (mark = [] ∨ mark = ['?']) ∧
    text = spaces ++ (key ++ (mark ++ ':' :: r))

/-- A text that begins with the entry of a property: its field, perhaps behind a comment. -/
inductive IsEntryOf (name : List Char) : List Char → Prop
  | field {text : List Char} (h : IsFieldOf name text) : IsEntryOf name text
  | commented {text spaces : List Char} (description : String) (hspaces : ∀ c ∈ spaces, c = ' ')
    (h : IsFieldOf name text) :
    IsEntryOf name (spaces ++ ((docComment description).toList ++ '\n' :: text))

theorem isFieldOf_format {field : Field} {name : List Char} (hkey : IsKeyOf name field.key.toList)
    (hreadonly : field.readonly = false) : IsFieldOf name field.format.toList := by
  refine ⟨[], field.key.toList, if field.required then [] else ['?'],
    ' ' :: (field.type.toList ++ [';']), by simp, hkey, by cases field.required <;> simp, ?_⟩
  unfold Field.format
  rw [hreadonly]
  cases field.required <;> simp

theorem dropSpaces_append {spaces : List Char} (hspaces : ∀ c ∈ spaces, c = ' ') (s : List Char) :
    dropSpaces (spaces ++ s) = dropSpaces s :=
  List.dropWhile_append_of_pos fun c hc => by rw [hspaces c hc]; rfl

theorem dropSpaces_cons {c : Char} (s : List Char) (hspace : c ≠ ' ') (hline : c ≠ '\n') :
    dropSpaces (c :: s) = c :: s := by
  simp [dropSpaces, hspace, hline]

/-- Behind its spaces, a field begins with its key, and no comment does. -/
theorem IsFieldOf.dropSpaces {name text : List Char} (h : IsFieldOf name text) :
    ∃ c s, dropSpaces text = c :: s ∧ c ≠ '/' ∧ fieldKey? (c :: s) = some (String.ofList name) := by
  obtain ⟨spaces, key, mark, r, hspaces, hkey, hmark, rfl⟩ := h
  obtain ⟨c, s, hcons, hspace, hline, hslash⟩ := hkey.exists_cons
  have hstop : ∀ d ∈ (mark ++ ':' :: r).head?, isNamePart d = false := by
    rcases hmark with rfl | rfl <;>
    · rintro d ⟨⟩
      decide
  have hread := hkey.readKey hstop
  rw [hcons, List.cons_append] at hread
  refine ⟨c, s ++ (mark ++ ':' :: r), ?_, hslash, ?_⟩
  · rw [dropSpaces_append hspaces, hcons, List.cons_append, dropSpaces_cons _ hspace hline]
  · rw [fieldKey?, hread]
    rcases hmark with rfl | rfl <;> rfl

/-- **An entry is read as the property that it was written for.** -/
theorem IsEntryOf.entryKey? {name text : List Char} (h : IsEntryOf name text) :
    entryKey? text = some (String.ofList name) := by
  cases h with
  | field h =>
    obtain ⟨c, s, hdrop, hslash, hread⟩ := h.dropSpaces
    rw [TypeScript.entryKey?, hdrop]
    split
    · rename_i heq
      exact absurd (List.cons.inj heq).1 hslash
    · exact hread
  | @commented text spaces description hspaces h =>
    obtain ⟨c, s, hdrop, hslash, hread⟩ := h.dropSpaces
    obtain ⟨comment, hcomment, hbehind⟩ := behindComment_docComment description ('\n' :: text)
    have hline : TypeScript.dropSpaces ('\n' :: text) = TypeScript.dropSpaces text := rfl
    rw [TypeScript.entryKey?, dropSpaces_append hspaces, hcomment, List.cons_append,
      List.cons_append, dropSpaces_cons _ (by decide) (by decide)]
    simp only [hbehind, hline, hdrop, hread]

/-! ### Entries that are laid out -/

theorem isFieldOf_indentLines {name text : List Char} (h : IsFieldOf name text) :
    IsFieldOf (reindent [' ', ' '] name) (indentLines [' ', ' '] text) := by
  obtain ⟨spaces, key, mark, r, hspaces, hkey, hmark, rfl⟩ := h
  obtain ⟨c, s, hcons, -, hline, -⟩ := hkey.exists_cons
  obtain ⟨r', hr⟩ := exists_indentLines_append [' ', ' '] (spaces ++ (key ++ mark)) (c := ':') r
    (by decide) (by decide)
  have hplain : reindent [' ', ' '] spaces = spaces :=
    reindent_of_notMem _ fun hmem => absurd (hspaces _ hmem) (by decide)
  have hmarked : reindent [' ', ' '] mark = mark := by rcases hmark with rfl | rfl <;> rfl
  have hhead : mark.head? ≠ some '\n' := by rcases hmark with rfl | rfl <;> decide
  have hhead' : (key ++ mark).head? ≠ some '\n' := by simpa [hcons] using hline
  rw [reindent_append _ _ hhead', reindent_append _ _ hhead, hplain, hmarked] at hr
  refine ⟨[' ', ' '] ++ spaces, reindent [' ', ' '] key, mark, r', ?_, isKeyOf_reindent hkey, hmark,
    ?_⟩
  · simpa using hspaces
  · simpa only [List.append_assoc] using hr

/-- **What an entry becomes in a declaration is an entry again**, of the name laid out. -/
theorem isEntryOf_indentLines {name text : List Char} (h : IsEntryOf name text) :
    IsEntryOf (reindent [' ', ' '] name) (indentLines [' ', ' '] text) := by
  cases h with
  | field h => exact .field (isFieldOf_indentLines h)
  | @commented text spaces description hspaces h =>
    have hlast : dropReturn (spaces ++ (docComment description).toList) =
        spaces ++ (docComment description).toList :=
      dropReturn_append_of_ne spaces (by simp [toList_docComment, List.getLast?_cons])
    have hline : '\n' ∉ spaces ++ (docComment description).toList := by
      rw [List.mem_append, not_or]
      exact ⟨fun hmem => absurd (hspaces _ hmem) (by decide), notMem_docComment description⟩
    rw [← List.append_assoc, indentLines_newline _ hline, hlast, List.append_assoc,
      ← List.append_assoc [' ', ' '] spaces]
    exact .commented description (by simpa using hspaces) (isFieldOf_indentLines h)

/-- In a declaration, an entry is read as its name, laid out. -/
theorem entryKey?_indentLines {name : String} {text : List Char}
    (h : IsEntryOf name.toList text) :
    entryKey? (indentLines [' ', ' '] text) = some (laidOut name) :=
  (isEntryOf_indentLines h).entryKey?

/-! ### Names that are laid out -/

theorem laidOut_of_notMem {name : String} (h : '\n' ∉ name.toList) : laidOut name = name := by
  rw [laidOut, reindent_of_notMem _ h, String.ofList_toList]

/-- In a declaration, a field with a key that needs no quotes is read as that key. -/
theorem entryKey?_indentLines_format {field : Field} (hkey : isBareName field.key.toList = true)
    (hreadonly : field.readonly = false) :
    entryKey? (indentLines [' ', ' '] field.format.toList) = some field.key := by
  have hline : '\n' ∉ field.key.toList := fun hmem =>
    absurd (all_isNamePart_of_isBareName hkey _ hmem) (by decide)
  have hentry : IsEntryOf field.key.toList field.format.toList :=
    .field (isFieldOf_format (.bare hkey) hreadonly)
  rw [entryKey?_indentLines hentry, laidOut_of_notMem hline]

theorem length_lt_laidOut {name : String} (h : '\n' ∈ name.toList) :
    name.toList.length < (laidOut name).toList.length := by
  rw [laidOut, String.toList_ofList]
  exact length_lt_reindent (by decide) h

theorem mem_laidOut {name : String} (h : '\n' ∈ name.toList) : '\n' ∈ (laidOut name).toList := by
  rw [laidOut, String.toList_ofList]
  exact mem_reindent h

end RestClient.TypeScript
