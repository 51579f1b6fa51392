import RestClient.Proofs.Client.Descriptions
import RestClient.TypeScript.Stmt

/-! # Comments above fields

The comment above a field is one line. It closes at its end and not before, whatever the description
is, so that the field below it is read as code, at every depth. What was put into the description to
keep the comment open can be taken out again, which leaves the words of the description.

* `mendCommentEnds_breakCommentEnds`: breaking comment ends up can be undone, and
  `mendCommentEnds_docComment_iff` says when that gives back the description;
* `indentTimes_documented`: a comment stays above its field;
* `docComment_closes`: a comment closes only at its end. -/

namespace RestClient.TypeScript

open RestClient.Text

/-! ### Mended text -/

/-- A text with the backslashes taken out that break up comment ends. -/
def mendCommentEnds : List Char → List Char
  | [] => []
  | '*' :: '\\' :: '/' :: rest => '*' :: '/' :: mendCommentEnds rest
  | c :: rest => c :: mendCommentEnds rest

theorem mendCommentEnds_cons {c : Char} {rest : List Char}
    (h : ¬ (c = '*' ∧ ['\\', '/'] <+: rest)) :
    mendCommentEnds (c :: rest) = c :: mendCommentEnds rest := by
  rw [mendCommentEnds]
  rintro r rfl rfl
  exact h ⟨rfl, r, rfl⟩

theorem length_mendCommentEnds_le (s : List Char) : (mendCommentEnds s).length ≤ s.length := by
  fun_induction mendCommentEnds s with
  | case1 => exact Nat.le_refl 0
  | case2 rest ih => simp only [List.length_cons]; omega
  | case3 c rest _ ih => simp only [List.length_cons]; omega

/-- **Mending changes nothing exactly where no comment end is broken up.** -/
theorem mendCommentEnds_eq_self_iff {s : List Char} :
    mendCommentEnds s = s ↔ ¬ ['*', '\\', '/'] <:+: s := by
  fun_induction mendCommentEnds s with
  | case1 => simp
  | case2 rest ih =>
    have hshort := length_mendCommentEnds_le rest
    refine iff_of_false (fun heq => ?_) fun hnot => hnot ⟨[], rest, rfl⟩
    have hlength := congrArg List.length heq
    simp only [List.length_cons] at hlength
    omega
  | case3 c rest hnot ih =>
    have hopening : ¬ ['*', '\\', '/'] <+: c :: rest := by
      rintro ⟨r, hr⟩
      obtain ⟨rfl, rfl⟩ := List.cons.inj hr
      exact hnot r rfl rfl
    rw [List.cons.injEq, List.infix_cons_iff, not_or]
    simp [hopening, ih]

/-- Breaking comment ends up brings no backslash before a slash to the front of a text. -/
theorem isPrefix_breakCommentEnds_iff (s : List Char) :
    ['\\', '/'] <+: breakCommentEnds s ↔ ['\\', '/'] <+: s := by
  have hslash (t : List Char) : ['/'] <+: t ↔ t.head? = some '/' := by cases t <;> simp [eq_comm]
  have hhead (t : List Char) : (breakCommentEnds t).head? = t.head? := by
    have happend := head?_breakCommentEnds_append t []
    rwa [List.append_nil, List.append_nil] at happend
  fun_cases breakCommentEnds s with
  | case1 => rfl
  | case2 rest => simp
  | case3 c rest _ => rw [List.cons_prefix_cons, List.cons_prefix_cons, hslash, hslash, hhead]

/-- **Breaking comment ends up can be undone.** -/
theorem mendCommentEnds_breakCommentEnds (s : List Char) :
    mendCommentEnds (breakCommentEnds s) = mendCommentEnds s := by
  fun_induction breakCommentEnds s with
  | case1 => rfl
  | case2 rest ih =>
    rw [mendCommentEnds, ih, mendCommentEnds_cons (by simp), mendCommentEnds_cons (by simp)]
  | case3 c rest h ih =>
    by_cases hopen : c = '*' ∧ ['\\', '/'] <+: rest
    · -- A comment end that was broken up already is mended with the others.
      obtain ⟨rfl, rest, rfl⟩ := hopen
      have hrest : breakCommentEnds ('\\' :: '/' :: rest) =
          '\\' :: '/' :: breakCommentEnds rest := by
        simp [breakCommentEnds]
      simp only [List.cons_append, List.nil_append] at ih ⊢
      rw [hrest, mendCommentEnds_cons (by simp), mendCommentEnds_cons (by simp),
        mendCommentEnds_cons (by simp), mendCommentEnds_cons (by simp)] at ih
      rw [hrest, mendCommentEnds, mendCommentEnds]
      simpa using ih
    · rw [mendCommentEnds_cons hopen, mendCommentEnds_cons, ih]
      rwa [isPrefix_breakCommentEnds_iff]

theorem mendCommentEnds_append_space (s t : List Char) :
    mendCommentEnds (s ++ ' ' :: t) = mendCommentEnds s ++ ' ' :: mendCommentEnds t := by
  fun_induction mendCommentEnds s with
  | case1 => exact mendCommentEnds_cons (by simp)
  | case2 rest ih =>
    simp only [List.cons_append]
    rw [mendCommentEnds, ih]
  | case3 c rest h ih =>
    rw [List.cons_append, mendCommentEnds_cons, ih, List.cons_append]
    rintro ⟨rfl, hrest⟩
    -- What is broken up stands in one word.
    obtain ⟨r, rfl⟩ : ['\\', '/'] <+: rest := by
      cases rest with
      | nil => simp at hrest
      | cons d rest =>
        cases rest with
        | nil => simp at hrest
        | cons e rest => simpa using hrest
    exact h r rfl rfl

/-- **The text of a comment can be had back from it**, unless it holds a broken comment end
itself. -/
theorem mendCommentEnds_docComment_iff {text : String} :
    mendCommentEnds (docComment text).toList =
        ['/', '*', '*', ' '] ++ onOneLine text.toList ++ [' ', '*', '/'] ↔
      ¬ ['*', '\\', '/'] <:+: text.toList := by
  have hwords : words (onOneLine text.toList) = words text.toList :=
    words_intercalate fun word hword =>
      ⟨(of_mem_words hword).1, fun c hc => ((of_mem_words hword).2 c hc).2⟩
  have hplain : ∀ c ∈ ['*', '\\', '/'], isBlank c = false := by simp [isBlank]
  have hinfix : ['*', '\\', '/'] <:+: onOneLine text.toList ↔
      ['*', '\\', '/'] <:+: text.toList := by
    rw [isInfix_iff_words (by simp) hplain, isInfix_iff_words (by simp) hplain, hwords]
  have hopening : (docComment text).toList = '/' :: '*' :: ['*'] ++
      ' ' :: (breakCommentEnds (onOneLine text.toList) ++ ' ' :: ['*', '/']) := by
    rw [toList_docComment]
    rfl
  have hmended : mendCommentEnds (docComment text).toList =
      ['/', '*', '*', ' '] ++ mendCommentEnds (onOneLine text.toList) ++ [' ', '*', '/'] := by
    rw [hopening, mendCommentEnds_append_space, mendCommentEnds_append_space,
      mendCommentEnds_breakCommentEnds]
    rfl
  rw [hmended, List.append_left_inj, List.append_right_inj, mendCommentEnds_eq_self_iff, hinfix]

end RestClient.TypeScript

namespace RestClient

open RestClient.Text RestClient.TypeScript

/-! ### Comments at a depth -/

/-- A line that is a comment keeps its place above what follows it. -/
theorem indentLines_docComment {spaces : List Char} (h : ∀ c ∈ spaces, c = ' ') (text : String)
    (s : List Char) :
    indentLines [' ', ' '] (spaces ++ (docComment text).toList ++ '\n' :: s) =
      ' ' :: ' ' :: spaces ++ (docComment text).toList ++ '\n' :: indentLines [' ', ' '] s := by
  have hline : '\n' ∉ spaces ++ (docComment text).toList :=
    List.not_mem_append (fun hmem => absurd (h _ hmem) (by decide)) (notMem_docComment text)
  rw [indentLines_newline s hline, dropReturn_docComment]
  simp

/-- A text inside of a number of object types, indented once for each of them. -/
def indentTimes : Nat → List Char → List Char
  | 0, s => s
  | depth + 1, s => indentLines [' ', ' '] (indentTimes depth s)

/-- **A comment stays above its field** at every depth. -/
theorem indentTimes_documented {text : String} (h : isBlankText text.toList = false)
    (field : Field) (depth : Nat) :
    indentTimes depth (documented (some text) field).toList =
      (indentation depth).toList ++ (docComment text).toList ++
        '\n' :: indentTimes depth field.format.toList := by
  induction depth with
  | zero => simp [indentTimes, documented, h, indentation]
  | succ depth ih =>
    have hspaces : ∀ c ∈ (indentation depth).toList, c = ' ' := by
      rw [indentation, String.toList_ofList]
      exact fun c hc => List.eq_of_mem_replicate hc
    have hmargin : (indentation (depth + 1)).toList = ' ' :: ' ' :: (indentation depth).toList := by
      simp only [indentation, String.toList_ofList]
      rfl
    rw [indentTimes, ih, indentLines_docComment hspaces, hmargin, indentTimes]

/-! ### The end of a comment -/

/-- The characters that end a line of code. -/
def lineTerminators : List Char := ['\n', '\r', '\u2028', '\u2029']

/-- **A comment closes only at its end.** It is on one line, and the first comment end behind its
opening is its own, so that what stands behind it is read as code, and the field below it is at
every depth. Without the backslashes that were put into comment ends, it holds the words of the
description one space apart, if and only if the description has no such backslash itself. -/
theorem docComment_closes (text : String) :
    (∀ c ∈ lineTerminators, c ∉ (docComment text).toList) ∧
    (∃ inside, (docComment text).toList = ['/', '*', '*'] ++ inside ++ ['*', '/'] ∧
      (∀ before after, '*' :: inside ++ ['*', '/'] = before ++ ['*', '/'] ++ after → after = []) ∧
      ∀ rest, behindComment ('*' :: inside ++ ['*', '/'] ++ rest) = rest) ∧
    (∀ field depth, indentTimes depth (documented (some text) field).toList =
      if isBlankText text.toList then indentTimes depth field.format.toList
      else (indentation depth).toList ++ (docComment text).toList ++
        '\n' :: indentTimes depth field.format.toList) ∧
    (mendCommentEnds (docComment text).toList =
        ['/', '*', '*', ' '] ++ [' '].intercalate (words text.toList) ++ [' ', '*', '/'] ↔
      ¬ ['*', '\\', '/'] <:+: text.toList) := by
  have hterminators : ∀ c ∈ lineTerminators, isBlank c = true ∧ c ≠ ' ' := by
    simp [lineTerminators, isBlank]
  obtain ⟨inside, hinside⟩ : ∃ inside,
      (docComment text).toList = ['/', '*', '*'] ++ inside ++ ['*', '/'] :=
    ⟨' ' :: breakCommentEnds (onOneLine text.toList) ++ [' '], by simp [toList_docComment]⟩
  have hbehind (rest : List Char) : behindComment ('*' :: inside ++ ['*', '/'] ++ rest) = rest := by
    obtain ⟨s, hs, hrest⟩ := behindComment_docComment text rest
    obtain rfl : '*' :: inside ++ ['*', '/'] = s := by simpa [hinside] using hs
    exact hrest
  refine ⟨fun c hc hmem => ?_, ⟨inside, hinside, fun before after heq => ?_, hbehind⟩,
    fun field depth => ?_, mendCommentEnds_docComment_iff⟩
  · exact (hterminators c hc).2 (eq_space_of_mem_docComment hmem (hterminators c hc).1)
  · -- Nothing stands behind the first comment end, hence nothing behind any other one.
    have hsuffix := suffix_behindComment before after
    have hend := hbehind []
    rw [List.append_nil, heq, List.append_assoc] at hend
    rw [← List.suffix_nil, ← hend]
    exact hsuffix
  · split
    · rename_i hblank
      rw [documented, if_pos hblank]
    · rename_i hblank
      exact indentTimes_documented (Bool.eq_false_iff.2 hblank) field depth

theorem earlyEnds_docComment_closes :
    ('\n' ∈ lineTerminators ∧ '\n' ∉ (docComment "a **/ b\n*/").toList) ∧
    (∃ before after, after = [] ∧
      (docComment "a **/ b\n*/").toList = ['/', '*'] ++ (before ++ ['*', '/'] ++ after)) ∧
    ¬ ['*', '\\', '/'] <:+: "a **/ b\n*/".toList ∧
    mendCommentEnds (docComment "a **/ b\n*/").toList = "/** a **/ b */ */".toList := by
  have htext : "a **/ b\n*/".toList = ['a', ' ', '*', '*', '/', ' ', 'b', '\n', '*', '/'] :=
    String.toList_ofList
  have hcomment : "/** a **/ b */ */".toList =
      ['/', '*', '*', ' ', 'a', ' ', '*', '*', '/', ' ', 'b', ' ', '*', '/', ' ', '*', '/'] :=
    String.toList_ofList
  have hline : '\n' ∈ lineTerminators := List.mem_cons_self
  have hunbroken : ¬ ['*', '\\', '/'] <:+: "a **/ b\n*/".toList := by
    rw [htext]
    decide
  obtain ⟨hone, ⟨inside, hinside, hends, -⟩, -, hmended⟩ := docComment_closes "a **/ b\n*/"
  have hnothing := hends ('*' :: inside) [] (List.append_nil _).symm
  refine ⟨⟨hline, hone _ hline⟩, ⟨'*' :: inside, [], hnothing, ?_⟩, hunbroken, ?_⟩
  · rw [hinside]
    simp
  · rw [hmended.2 hunbroken, htext, hcomment]
    rfl

end RestClient
