import RestClient.Proofs.Text.Rows
import RestClient.TypeScript.Declaration

/-! # The layout of declarations

An object type is laid out in rows: one for its opening brace, one for each line of its entries, and
one for its closing brace. A declaration adds to the first row and to the last one, and both depend on
its form, which in turn depends on nothing but the braces and signs in the object type.

* `toList_declaration_objectBody`: what a declaration of an object type holds;
* `splitOn_append_objectBody_append` and `splitOn_declaration_objectBody`: the rows of an object type
  and of its declaration;
* `isSolid_declaration`: none of them is empty;
* `ofBody_objectBody_congr`: the form of a declaration depends on braces and signs only. -/

namespace RestClient.TypeScript

open RestClient.Text

/-! ### Object types -/

theorem toList_objectBody {entries : List String} (h : entries ≠ []) :
    (objectBody entries).toList =
      ['{', '\n'] ++ (entries.flatMap fun entry => indentLines [' ', ' '] entry.toList) ++ ['}'] := by
  have hempty : ¬ entries.isEmpty = true := by simpa using h
  rw [objectBody, if_neg hempty]
  simp

/-- The rows of an entry of an object type. -/
def entryRows (entry : String) : List (List Char) := marginLines [' ', ' '] entry.toList

theorem splitOn_entries_append (entries : List String) (t : List Char) :
    ((entries.flatMap fun entry => indentLines [' ', ' '] entry.toList) ++ t).splitOn '\n' =
      entries.flatMap entryRows ++ t.splitOn '\n' := by
  have hrows : ∀ row ∈ entries.flatMap entryRows, '\n' ∉ row := by
    intro row hrow
    obtain ⟨entry, -, hrow⟩ := List.mem_flatMap.1 hrow
    exact notMem_of_mem_marginLines (by decide) hrow
  rw [flatMap_indentLines_eq_endedRows]
  exact splitOn_endedRows_append hrows t

/-- **The rows of an object type** in a text: its opening brace ends a row, its closing brace begins
one, and the lines of the entries stand between them, one level in. -/
theorem splitOn_append_objectBody_append {entries : List String} (h : entries ≠ [])
    (front : List Char) {back : List Char} (hback : '\n' ∉ back) :
    (front ++ (objectBody entries).toList ++ back).splitOn '\n' =
      (front ++ ['{']).splitOn '\n' ++ (entries.flatMap entryRows ++ ['}' :: back]) := by
  have hlast : '\n' ∉ '}' :: back := List.not_mem_cons_of_ne_of_not_mem (by decide) hback
  have htext : front ++ (objectBody entries).toList ++ back =
      (front ++ ['{']) ++ '\n' ::
        ((entries.flatMap fun entry => indentLines [' ', ' '] entry.toList) ++ ('}' :: back)) := by
    rw [toList_objectBody h]
    simp
  rw [htext, List.splitOn_append_cons_self, splitOn_entries_append,
    List.splitOn_eq_singleton hlast]

/-! ### The two forms of a declaration -/

/-- What stands before the body of a declaration. -/
def DeclarationKind.opening (name : String) : DeclarationKind → String
  | .typeAlias => "export type " ++ name ++ " = "
  | .interface => "export interface " ++ name ++ " "

/-- What stands behind the body of a declaration. -/
def DeclarationKind.closing : DeclarationKind → String
  | .typeAlias => ";"
  | .interface => ""

theorem declaration_eq (name body : String) :
    declaration name body =
      (DeclarationKind.ofBody body.toList).opening name ++ body ++
        (DeclarationKind.ofBody body.toList).closing := by
  unfold declaration
  cases DeclarationKind.ofBody body.toList with
  | typeAlias => rfl
  | interface => exact String.append_empty.symm

theorem opening_typeAlias (name : String) :
    DeclarationKind.typeAlias.opening name = "export type " ++ name ++ " = " := rfl

theorem opening_interface (name : String) :
    DeclarationKind.interface.opening name = "export interface " ++ name ++ " " := rfl

theorem notMem_opening {name : String} (h : '\n' ∉ name.toList) (kind : DeclarationKind) :
    '\n' ∉ (kind.opening name).toList := by
  have hword : '\n' ∉ "export type ".toList ∧ '\n' ∉ "export interface ".toList := by decide
  have hbehind : '\n' ∉ " = ".toList ∧ '\n' ∉ " ".toList := by decide
  cases kind with
  | typeAlias =>
    rw [opening_typeAlias, String.toList_append, String.toList_append]
    exact List.not_mem_append (List.not_mem_append hword.1 h) hbehind.1
  | interface =>
    rw [opening_interface, String.toList_append, String.toList_append]
    exact List.not_mem_append (List.not_mem_append hword.2 h) hbehind.2

theorem notMem_closing (kind : DeclarationKind) : '\n' ∉ kind.closing.toList := by
  cases kind <;> decide

theorem closing_injective : Function.Injective DeclarationKind.closing := by
  intro kind kind' h
  cases kind <;> cases kind' <;> first | rfl | exact absurd h (by decide)

theorem head?_opening (name : String) (kind : DeclarationKind) :
    (kind.opening name).toList.head? = some 'e' := by
  cases kind with
  | typeAlias =>
    rw [opening_typeAlias]
    simp
  | interface =>
    rw [opening_interface]
    simp

/-- **A declaration of an object type holds its entries**, indented by one level and in order, between
its first line and its closing brace. -/
theorem toList_declaration_objectBody (name : String) {entries : List String} (h : entries ≠ [])
    {kind : DeclarationKind} (hkind : DeclarationKind.ofBody (objectBody entries).toList = kind) :
    (declaration name (objectBody entries)).toList =
      (kind.opening name).toList ++ ['{', '\n'] ++
        (entries.flatMap fun entry => indentLines [' ', ' '] entry.toList) ++
        '}' :: kind.closing.toList := by
  rw [declaration_eq, hkind, String.toList_append, String.toList_append, toList_objectBody h]
  simp only [List.append_assoc, List.singleton_append]

/-! ### The rows of a declaration -/

/-- **The rows of a declaration of an object type**: an opening row, the lines of the entries one
level in, and a closing row. A name with line feeds would spread the opening over several rows. -/
theorem splitOn_declaration_objectBody {name : String} {entries : List String} (h : entries ≠ [])
    {kind : DeclarationKind} (hkind : DeclarationKind.ofBody (objectBody entries).toList = kind) :
    (declaration name (objectBody entries)).toList.splitOn '\n' =
      ((kind.opening name).toList ++ ['{']).splitOn '\n' ++
        (entries.flatMap entryRows ++ ['}' :: kind.closing.toList]) := by
  rw [declaration_eq, hkind, String.toList_append, String.toList_append]
  exact splitOn_append_objectBody_append h _ (notMem_closing kind)

theorem isSolid_declaration_of_notMem {name body : String} (hname : '\n' ∉ name.toList)
    (hbody : '\n' ∉ body.toList) : IsSolid (declaration name body).toList := by
  rw [declaration_eq]
  generalize DeclarationKind.ofBody body.toList = kind
  have hopening := notMem_opening hname kind
  have hclosing := notMem_closing kind
  refine isSolid_of_notMem ?_ ?_
  · simp only [String.toList_append, List.mem_append, not_or]
    exact ⟨⟨hopening, hbody⟩, hclosing⟩
  · intro hnil
    have hhead := head?_opening name kind
    simp only [String.toList_append, List.append_eq_nil_iff] at hnil
    rw [hnil.1.1] at hhead
    cases hhead

/-- **No row of a declaration is empty**, whatever stands in its entries. -/
theorem isSolid_declaration {name : String} (hname : '\n' ∉ name.toList) (entries : List String) :
    IsSolid (declaration name (objectBody entries)).toList := by
  by_cases hentries : entries = []
  · rw [hentries]
    exact isSolid_declaration_of_notMem hname (by decide)
  · have hopening := notMem_opening hname (DeclarationKind.ofBody (objectBody entries).toList)
    have hfirst : '\n' ∉ ((DeclarationKind.ofBody (objectBody entries).toList).opening name).toList ++
        ['{'] := List.not_mem_append hopening (by decide)
    rw [IsSolid, splitOn_declaration_objectBody hentries rfl, List.splitOn_eq_singleton hfirst]
    simp [entryRows, marginLines]

/-! ### Braces and signs -/

/-- A brace, or the sign of a union or an intersection. -/
def isSign (c : Char) : Bool := c == '{' || c == '}' || c == '|' || c == '&'

/-- The braces and signs of a text. -/
def signs (s : List Char) : List Char := s.filter isSign

theorem signs_append (s t : List Char) : signs (s ++ t) = signs s ++ signs t :=
  List.filter_append s t

theorem signs_flatMap {α : Type} (l : List α) (f : α → List Char) :
    signs (l.flatMap f) = l.flatMap fun a => signs (f a) :=
  List.filter_flatMap

theorem signs_eq_nil_iff {s : List Char} : signs s = [] ↔ ∀ c ∈ s, isSign c = false := by
  simp only [signs, List.filter_eq_nil_iff, Bool.not_eq_true]

theorem joinsOutside_signs (depth : Nat) (s : List Char) :
    joinsOutside depth (signs s) = joinsOutside depth s := by
  induction s generalizing depth with
  | nil => rfl
  | cons c s ih =>
    by_cases hc : isSign c = true
    · rw [signs, List.filter_cons_of_pos hc, ← signs, joinsOutside, joinsOutside, ih, ih, ih]
    · have hplain : c ≠ '{' ∧ c ≠ '}' ∧ c ≠ '|' ∧ c ≠ '&' := by
        simpa [isSign, and_assoc] using hc
      rw [signs, List.filter_cons_of_neg hc, ← signs, joinsOutside, ih]
      simp [hplain]

theorem signs_indentLines {margin : List Char} (hmargin : signs margin = []) (s : List Char) :
    signs (indentLines margin s) = signs s := by
  have hreturn (line : List Char) : signs (dropReturn line) = signs line := by
    unfold dropReturn
    split
    · rename_i hlast
      obtain ⟨init, rfl⟩ := List.getLast?_eq_some_iff.1 hlast
      have hsign : signs ['\r'] = [] := by decide
      rw [List.dropLast_concat, signs_append, hsign, List.append_nil]
    · rfl
  have hline (s : List Char) : signs ('\n' :: s) = signs s := rfl
  induction s using newline_induction with
  | last s hs =>
    by_cases hne : s = []
    · rw [hne, indentLines_nil]
    · rw [indentLines, lines_of_notMem hs hne, List.flatMap_singleton, signs_append, signs_append,
        hmargin, hline, List.nil_append]
      exact List.append_nil _
  | line row rest hrow ih =>
    rw [indentLines_newline rest hrow, signs_append, signs_append, signs_append, hmargin, hreturn,
      hline, hline, ih, List.nil_append]

theorem signs_objectBody (entries : List String) :
    signs (objectBody entries).toList =
      '{' :: ((entries.flatMap fun entry => signs entry.toList) ++ ['}']) := by
  by_cases hentries : entries = []
  · rw [hentries]
    rfl
  · have hmargin : signs [' ', ' '] = [] := by decide
    rw [toList_objectBody hentries, signs_append, signs_append, signs_flatMap]
    simp only [signs_indentLines hmargin]
    rfl

/-- An object type begins with its brace. -/
theorem head?_trimStart_objectBody (entries : List String) :
    (trimStart (objectBody entries).toList).head? = some '{' := by
  have hcons : ∃ t, (objectBody entries).toList = '{' :: t := by
    by_cases hentries : entries = []
    · exact ⟨['}'], by rw [hentries]; rfl⟩
    · exact ⟨_, toList_objectBody hentries⟩
  obtain ⟨t, ht⟩ := hcons
  rw [ht, trimStart, List.dropWhile_cons_of_neg (by decide), List.head?_cons]

/-- **The form of a declaration depends on the braces and signs in its entries only.** -/
theorem ofBody_objectBody_congr {entries entries' : List String}
    (h : (entries.flatMap fun entry => signs entry.toList) =
      entries'.flatMap fun entry => signs entry.toList) :
    DeclarationKind.ofBody (objectBody entries).toList =
      DeclarationKind.ofBody (objectBody entries').toList := by
  have hjoins : joinsOutside 0 (objectBody entries).toList =
      joinsOutside 0 (objectBody entries').toList := by
    rw [← joinsOutside_signs, signs_objectBody, h, ← signs_objectBody, joinsOutside_signs]
  simp only [DeclarationKind.ofBody, head?_trimStart_objectBody, hjoins]

end RestClient.TypeScript
