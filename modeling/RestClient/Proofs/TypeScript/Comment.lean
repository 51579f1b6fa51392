import RestClient.Proofs.Text.Words
import RestClient.TypeScript.Comment

/-! # Reading documentation comments

A comment ends at the first `*/` behind its beginning. A documentation comment is on one line, and
no description ends it early.

* `eq_space_of_mem_docComment`: a documentation comment has no blanks but spaces, hence no line end;
* `behindComment_docComment`: what stands behind the comment is what was written behind it;
* `isCommentRow_iff`: the rows that are documentation comments. -/

namespace RestClient.TypeScript

open RestClient.Text

/-! ### Words on one line -/

theorem eq_or_exists_of_mem_intercalate {c d : Char} {texts : List (List Char)}
    (h : c ∈ [d].intercalate texts) : c = d ∨ ∃ text ∈ texts, c ∈ text := by
  induction texts with
  | nil => simp at h
  | cons text texts ih =>
    by_cases hne : texts = []
    · subst hne
      rw [List.intercalate_singleton] at h
      exact .inr ⟨text, .head _, h⟩
    · rw [List.intercalate_cons_of_ne_nil hne, List.append_assoc, List.mem_append,
        List.mem_append] at h
      rcases h with h | h | h
      · exact .inr ⟨text, .head _, h⟩
      · exact .inl (List.mem_singleton.1 h)
      · rcases ih h with h | ⟨text', hmem, h⟩
        · exact .inl h
        · exact .inr ⟨text', .tail _ hmem, h⟩

/-- The only blank on a line of words is the space. -/
theorem eq_or_isBlank_of_mem_onOneLine {c : Char} {s : List Char} (h : c ∈ onOneLine s) :
    c = ' ' ∨ isBlank c = false := by
  rcases eq_or_exists_of_mem_intercalate h with h | ⟨word, hword, hc⟩
  · exact .inl h
  · exact .inr ((of_mem_words hword).2 c hc).2

theorem mem_or_eq_of_mem_breakCommentEnds {c : Char} {s : List Char}
    (h : c ∈ breakCommentEnds s) : c ∈ s ∨ c = '\\' := by
  fun_induction breakCommentEnds s with
  | case1 => exact .inl h
  | case2 rest ih =>
    simp only [List.mem_cons] at h ⊢
    grind
  | case3 d rest _ ih =>
    simp only [List.mem_cons] at h ⊢
    grind

theorem toList_docComment (text : String) :
    (docComment text).toList =
      '/' :: '*' :: '*' :: ' ' ::
        (breakCommentEnds (onOneLine text.toList) ++ [' ', '*', '/']) := by
  simp [docComment]

/-- The only blank in a documentation comment is the space. -/
theorem eq_space_of_mem_docComment {c : Char} {text : String} (h : c ∈ (docComment text).toList)
    (hblank : isBlank c = true) : c = ' ' := by
  have hfixed : ∀ d ∈ ['/', '*', ' ', '\\'], isBlank d = true → d = ' ' := by
    simp [isBlank]
  have hcases : c ∈ ['/', '*', ' ', '\\'] ∨ c ∈ onOneLine text.toList := by
    rw [toList_docComment] at h
    have hbroken := mem_or_eq_of_mem_breakCommentEnds (c := c) (s := onOneLine text.toList)
    simp only [List.mem_cons, List.mem_append] at h ⊢
    grind
  rcases hcases with hc | hc
  · exact hfixed c hc hblank
  · exact (eq_or_isBlank_of_mem_onOneLine hc).resolve_right (by simp [hblank])

/-- **A documentation comment has no line end.** -/
theorem notMem_docComment (text : String) : '\n' ∉ (docComment text).toList := fun h =>
  absurd (eq_space_of_mem_docComment h (by decide)) (by decide)

/-! ### Reading -/

/-- What stands behind the first comment end of a text. -/
def behindComment : List Char → List Char
  | [] => []
  | '*' :: '/' :: r => r
  | _ :: r => behindComment r

theorem head?_breakCommentEnds_append (s t : List Char) :
    (breakCommentEnds s ++ t).head? = (s ++ t).head? := by
  unfold breakCommentEnds
  split <;> rfl

/-- No text ends the comment that it is broken up for. -/
theorem behindComment_breakCommentEnds (s r : List Char) :
    behindComment (breakCommentEnds s ++ ' ' :: '*' :: '/' :: r) = r := by
  fun_induction breakCommentEnds s with
  | case1 => rfl
  | case2 rest ih => exact ih
  | case3 c rest h ih =>
    rw [List.cons_append, behindComment, ih]
    rintro r' rfl hr
    -- A star before a slash would have been broken up, and the comment end has a space before it.
    have hhead := head?_breakCommentEnds_append rest (' ' :: '*' :: '/' :: r)
    rw [hr] at hhead
    cases rest with
    | nil => simp at hhead
    | cons d rest =>
      obtain rfl : '/' = d := by simpa using hhead
      exact h rest rfl rfl

/-- **A documentation comment ends where it was written to end.** -/
theorem behindComment_docComment (text : String) (r : List Char) :
    ∃ s, (docComment text).toList = '/' :: '*' :: s ∧ behindComment (s ++ r) = r := by
  refine ⟨_, toList_docComment text, ?_⟩
  rw [List.cons_append, List.cons_append, List.append_assoc]
  exact behindComment_breakCommentEnds _ r

/-- What stands behind any comment end of a text also stands behind the first one. -/
theorem suffix_behindComment (before after : List Char) :
    after <:+ behindComment (before ++ '*' :: '/' :: after) := by
  induction before with
  | nil => exact List.suffix_refl after
  | cons c before ih =>
    rw [List.cons_append]
    cases hend : before ++ '*' :: '/' :: after with
    | nil => simp at hend
    | cons d r =>
      by_cases h : c = '*' ∧ d = '/'
      · obtain ⟨rfl, rfl⟩ := h
        rw [behindComment]
        cases before with
        | nil => simp at hend
        | cons e before =>
          obtain ⟨-, rfl⟩ := List.cons.inj hend
          exact ⟨before ++ ['*', '/'], by simp⟩
      · rw [behindComment, ← hend]
        · exact ih
        · rintro r' rfl hr
          exact h ⟨rfl, (List.cons.inj hr).1⟩

/-! ### Rows that are comments -/

theorem breakCommentEnds_append_space (s t : List Char) :
    breakCommentEnds (s ++ ' ' :: t) = breakCommentEnds s ++ ' ' :: breakCommentEnds t := by
  fun_induction breakCommentEnds s with
  | case1 => rfl
  | case2 rest ih =>
    rw [List.cons_append, List.cons_append, breakCommentEnds, ih]
    rfl
  | case3 c rest h ih =>
    rw [List.cons_append, breakCommentEnds, ih, List.cons_append]
    rintro s' rfl hs
    -- A star before a slash would have been broken up, and behind the text there is a space.
    cases rest with
    | nil => simp at hs
    | cons d rest =>
      obtain ⟨rfl, -⟩ := List.cons.inj hs
      exact h rest rfl rfl

/-- Words are broken up one by one. -/
theorem breakCommentEnds_intercalate (texts : List (List Char)) :
    breakCommentEnds ([' '].intercalate texts) =
      [' '].intercalate (texts.map breakCommentEnds) := by
  induction texts with
  | nil => rfl
  | cons text texts ih =>
    by_cases hempty : texts = []
    · rw [hempty, List.intercalate_singleton, List.map_singleton, List.intercalate_singleton]
    · have hmap : texts.map breakCommentEnds ≠ [] := by simpa using hempty
      rw [List.intercalate_cons_of_ne_nil hempty, List.map_cons,
        List.intercalate_cons_of_ne_nil hmap, List.append_assoc, List.singleton_append,
        breakCommentEnds_append_space, ih, List.append_assoc, List.singleton_append]

/-- Nothing is left to break up. -/
theorem breakCommentEnds_breakCommentEnds (s : List Char) :
    breakCommentEnds (breakCommentEnds s) = breakCommentEnds s := by
  fun_induction breakCommentEnds s with
  | case1 => rfl
  | case2 rest ih => simp [breakCommentEnds, ih]
  | case3 c rest h ih =>
    rw [breakCommentEnds, ih]
    rintro s' rfl hs
    have hhead := head?_breakCommentEnds_append rest []
    rw [List.append_nil, List.append_nil, hs] at hhead
    obtain ⟨rest', rfl⟩ := List.head?_eq_some_iff.1 hhead.symm
    exact h rest' rfl rfl

/-- The text of a comment is laid out on one line already. -/
theorem onOneLine_breakCommentEnds (s : List Char) :
    onOneLine (breakCommentEnds (onOneLine s)) = breakCommentEnds (onOneLine s) := by
  have hwords : ∀ word ∈ (words s).map breakCommentEnds,
      word ≠ [] ∧ ∀ c ∈ word, isBlank c = false := by
    refine List.forall_mem_map.2 fun word hword => ⟨fun hnil => ?_, fun c hc => ?_⟩
    · have hhead := head?_breakCommentEnds_append word []
      rw [List.append_nil, List.append_nil, hnil, eq_comm, List.head?_nil,
        List.head?_eq_none_iff] at hhead
      exact (of_mem_words hword).1 hhead
    · rcases mem_or_eq_of_mem_breakCommentEnds hc with hc | rfl
      · exact ((of_mem_words hword).2 c hc).2
      · decide
  have hbroken : breakCommentEnds (onOneLine s) =
      [' '].intercalate ((words s).map breakCommentEnds) := breakCommentEnds_intercalate (words s)
  rw [hbroken, onOneLine, words_intercalate hwords]

/-- What stands between the beginning and the end of a documentation comment. -/
def commentText (comment : List Char) : List Char :=
  (comment.drop "/** ".toList.length).take (comment.length - "/**  */".toList.length)

theorem commentText_docComment (text : String) :
    commentText (docComment text).toList = breakCommentEnds (onOneLine text.toList) := by
  have hlength : (docComment text).toList.length - "/**  */".toList.length =
      (breakCommentEnds (onOneLine text.toList)).length := by
    rw [toList_docComment]
    simp
  rw [commentText, hlength, toList_docComment]
  exact List.take_left

/-- A comment can be written from its own text again. -/
theorem docComment_commentText (text : String) :
    docComment (String.ofList (commentText (docComment text).toList)) = docComment text := by
  rw [commentText_docComment, docComment, docComment, String.toList_ofList,
    onOneLine_breakCommentEnds, breakCommentEnds_breakCommentEnds]

/-- A row that is nothing but a documentation comment behind spaces. -/
def isCommentRow (row : List Char) : Bool :=
  let comment := row.dropWhile (· == ' ')
  comment == (docComment (String.ofList (commentText comment))).toList

/-- **The rows that are comments** are those that a documentation comment makes at any depth. -/
theorem isCommentRow_iff {row : List Char} :
    isCommentRow row = true ↔
      ∃ spaces description, (∀ c ∈ spaces, c = ' ') ∧
        row = spaces ++ (docComment description).toList := by
  constructor
  · intro h
    obtain ⟨description, hcomment⟩ : ∃ description : String,
        row.dropWhile (· == ' ') = (docComment description).toList := ⟨_, beq_iff_eq.1 h⟩
    refine ⟨row.takeWhile (· == ' '), description, fun c hc => ?_, ?_⟩
    · exact beq_iff_eq.1 (List.all_eq_true.1 List.all_takeWhile c hc)
    · rw [← hcomment, List.takeWhile_append_dropWhile]
  · rintro ⟨spaces, description, hspaces, rfl⟩
    have hdrop : (spaces ++ (docComment description).toList).dropWhile (· == ' ') =
        (docComment description).toList := by
      rw [List.dropWhile_append_of_pos fun c hc => beq_iff_eq.2 (hspaces c hc), toList_docComment]
      rfl
    rw [isCommentRow, hdrop, docComment_commentText]
    exact beq_self_eq_true _

end RestClient.TypeScript
