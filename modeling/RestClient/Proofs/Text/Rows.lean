import Mathlib.Data.List.ModifyLast
import RestClient.Proofs.Text.Lines
import RestClient.Proofs.Text.Words

/-! # Rows and blank lines

The rows of a text are what stands between its line feeds, `splitOn '\n'`. Carriage returns belong to
them, unlike to lines. Texts that are indented add up to rows in a simple way. A text without an
empty row stays in one piece where texts are put one blank line apart, and can be found again.

* `splitOn_endedRows_append` and `lines_endedRows_append`: rows and lines of texts that are put
  together from rows;
* `indentLines_eq_endedRows`: indented texts are of this kind;
* `lines_eq_splitOn`: a text without carriage returns has its rows as lines;
* `fullRows`: the rows of a text that a line feed ends, and `endedRows_fullRows`: they are all of a
  text with nothing behind its last line feed;
* `exists_splitOn_append` and `splitOn_append_of_notMem`: texts next to each other share a row;
* `IsSolid`: texts without an empty row, and `atBlankLines_intercalate`: they are found again. -/

namespace RestClient.Text

/-! ### Texts made of rows -/

/-- Rows as one text, each with a line feed behind it. -/
def endedRows (rows : List (List Char)) : List Char := rows.flatMap (· ++ ['\n'])

theorem endedRows_cons_append (row : List Char) (rows : List (List Char)) (t : List Char) :
    endedRows (row :: rows) ++ t = row ++ '\n' :: (endedRows rows ++ t) := by
  simp [endedRows]

theorem splitOn_endedRows_append {rows : List (List Char)} (h : ∀ row ∈ rows, '\n' ∉ row)
    (t : List Char) : (endedRows rows ++ t).splitOn '\n' = rows ++ t.splitOn '\n' := by
  induction rows with
  | nil => rfl
  | cons row rows ih =>
    obtain ⟨hrow, hrows⟩ := List.forall_mem_cons.1 h
    rw [endedRows_cons_append, List.splitOn_append_cons_self_of_not_mem hrow, ih hrows,
      List.cons_append]

theorem lines_endedRows_append {rows : List (List Char)} (h : ∀ row ∈ rows, '\n' ∉ row)
    (t : List Char) : lines (endedRows rows ++ t) = rows.map dropReturn ++ lines t := by
  induction rows with
  | nil => rfl
  | cons row rows ih =>
    obtain ⟨hrow, hrows⟩ := List.forall_mem_cons.1 h
    rw [endedRows_cons_append, lines_append_newline _ hrow, ih hrows, List.map_cons,
      List.cons_append]

/-- The lines of a text, each behind a margin. -/
def marginLines (margin s : List Char) : List (List Char) := (lines s).map (margin ++ ·)

theorem indentLines_eq_endedRows (margin s : List Char) :
    indentLines margin s = endedRows (marginLines margin s) := by
  rw [endedRows, marginLines, List.flatMap_map]
  rfl

theorem flatMap_indentLines_eq_endedRows {α : Type} (margin : List Char) (f : α → List Char)
    (as : List α) :
    (as.flatMap fun a => indentLines margin (f a)) =
      endedRows (as.flatMap fun a => marginLines margin (f a)) := by
  simp only [indentLines_eq_endedRows, endedRows, List.flatMap_assoc]

theorem notMem_of_mem_marginLines {margin s row : List Char} (hmargin : '\n' ∉ margin)
    (h : row ∈ marginLines margin s) : '\n' ∉ row := by
  obtain ⟨line, hline, rfl⟩ := List.mem_map.1 h
  exact List.not_mem_append hmargin (notMem_of_mem_lines hline)

/-! ### Rows and lines -/

theorem dropReturn_of_notMem {line : List Char} (h : '\r' ∉ line) : dropReturn line = line :=
  if_neg fun hlast => h (List.mem_of_getLast? hlast)

/-- Rows are lines where no carriage return and no line feed at the end comes in between. -/
theorem lines_eq_splitOn {s : List Char} (hreturn : '\r' ∉ s)
    (hlast : s.getLast?.any (· ≠ '\n') = true) : lines s = s.splitOn '\n' := by
  induction s using newline_induction with
  | last s hs =>
    have hne : s ≠ [] := by
      rintro rfl
      cases hlast
    rw [lines_of_notMem hs hne, List.splitOn_eq_singleton hs]
  | line first rest hfirst ih =>
    have hplain : '\r' ∉ first ∧ '\r' ∉ rest := by
      simp only [List.mem_append, List.mem_cons, not_or] at hreturn
      exact ⟨hreturn.1, hreturn.2.2⟩
    have hrest : rest.getLast?.any (· ≠ '\n') = true := by
      rw [List.getLast?_append, List.getLast?_cons] at hlast
      cases hgetLast : rest.getLast? with
      | none => simp [hgetLast] at hlast
      | some c => simpa [hgetLast] using hlast
    rw [lines_append_newline rest hfirst, dropReturn_of_notMem hplain.1, ih hplain.2 hrest,
      List.splitOn_append_cons_self_of_not_mem hfirst]

theorem notMem_of_mem_splitOn {c : Char} {s row : List Char} (h : c ∉ s)
    (hrow : row ∈ s.splitOn '\n') : c ∉ row := fun hc => h (of_mem_splitOnP hrow hc).1

/-! ### Rows that are ended -/

/-- The rows of a text that a line feed ends. What stands behind the last line feed is no such row. -/
def fullRows (s : List Char) : List (List Char) := (s.splitOn '\n').dropLast

theorem fullRows_row_append {row : List Char} (h : '\n' ∉ row) (s : List Char) :
    fullRows (row ++ '\n' :: s) = row :: fullRows s := by
  rw [fullRows, List.splitOn_append_cons_self_of_not_mem h,
    List.dropLast_cons_of_ne_nil (List.splitOn_ne_nil '\n' s), fullRows]

theorem notMem_of_mem_fullRows {s row : List Char} (h : row ∈ fullRows s) : '\n' ∉ row := by
  intro hmem
  simpa using (of_mem_splitOnP (List.dropLast_subset _ h) hmem).2

/-- A text with nothing behind its last line feed has its rows before those of the text behind it. -/
theorem fullRows_append {s : List Char} (h : IsEnded s) (t : List Char) :
    fullRows (s ++ t) = fullRows s ++ fullRows t := by
  induction s using newline_induction with
  | last s hs => rw [h.eq_nil hs, List.nil_append]; rfl
  | line row rest hrow ih =>
    rw [List.append_assoc, List.cons_append, fullRows_row_append hrow, fullRows_row_append hrow,
      ih h.of_newline_append, List.cons_append]

/-- **A text with nothing behind its last line feed is its rows**, each with its line feed. -/
theorem endedRows_fullRows {s : List Char} (h : IsEnded s) : endedRows (fullRows s) = s := by
  induction s using newline_induction with
  | last s hs => rw [h.eq_nil hs]; rfl
  | line row rest hrow ih =>
    have hcons := endedRows_cons_append row (fullRows rest) []
    rw [List.append_nil, List.append_nil, ih h.of_newline_append] at hcons
    rw [fullRows_row_append hrow, hcons]

/-! ### Texts next to each other -/

theorem splitOn_notMem_append {front : List Char} (h : '\n' ∉ front) (s : List Char) :
    (front ++ s).splitOn '\n' = (s.splitOn '\n').modifyHead (front ++ ·) := by
  rcases mem_newline_cases s with hs | ⟨row, rest, rfl, hrow⟩
  · rw [List.splitOn_eq_singleton hs, List.splitOn_eq_singleton (List.not_mem_append h hs),
      List.modifyHead_cons]
  · rw [← List.append_assoc, List.splitOn_append_cons_self_of_not_mem hrow,
      List.splitOn_append_cons_self_of_not_mem (List.not_mem_append h hrow), List.modifyHead_cons]

/-- The last row of a text goes in front of the first row of the next one. -/
theorem exists_splitOn_append (front s : List Char) :
    ∃ before last, front.splitOn '\n' = before ++ [last] ∧
      (front ++ s).splitOn '\n' = before ++ (s.splitOn '\n').modifyHead (last ++ ·) := by
  induction front using newline_induction with
  | last front h => exact ⟨[], front, List.splitOn_eq_singleton h, splitOn_notMem_append h s⟩
  | line row rest hrow ih =>
    obtain ⟨before, last, hrest, happend⟩ := ih
    refine ⟨row :: before, last, ?_, ?_⟩
    · rw [List.splitOn_append_cons_self_of_not_mem hrow, hrest, List.cons_append]
    · rw [List.append_assoc, List.cons_append, List.splitOn_append_cons_self_of_not_mem hrow, happend,
        List.cons_append]

/-- What has no line feed goes behind the last row of a text. -/
theorem splitOn_append_of_notMem (s : List Char) {back : List Char} (h : '\n' ∉ back) :
    (s ++ back).splitOn '\n' = (s.splitOn '\n').modifyLast (· ++ back) := by
  induction s using newline_induction with
  | last s hs =>
    rw [List.splitOn_eq_singleton hs, List.splitOn_eq_singleton (List.not_mem_append hs h)]
    exact (List.modifyLast_concat (· ++ back) s []).symm
  | line row rest hrow ih =>
    have hrows := List.modifyLast_append_of_right_ne_nil (· ++ back) [row] (rest.splitOn '\n')
      (List.splitOn_ne_nil '\n' rest)
    rw [List.append_assoc, List.cons_append, List.splitOn_append_cons_self_of_not_mem hrow, ih,
      List.splitOn_append_cons_self_of_not_mem hrow]
    exact hrows.symm

/-! ### Texts without empty rows -/

/-- A text without an empty row: no line feed begins it, ends it or stands next to another. -/
def IsSolid (s : List Char) : Prop := [] ∉ s.splitOn '\n'

instance (s : List Char) : Decidable (IsSolid s) :=
  inferInstanceAs (Decidable ([] ∉ s.splitOn '\n'))

theorem isSolid_of_notMem {s : List Char} (h : '\n' ∉ s) (hne : s ≠ []) : IsSolid s := by
  rw [IsSolid, List.splitOn_eq_singleton h, List.mem_singleton]
  exact hne.symm

theorem isSolid_append_newline {s t : List Char} :
    IsSolid (s ++ '\n' :: t) ↔ IsSolid s ∧ IsSolid t := by
  rw [IsSolid, List.splitOn_append_cons_self, List.mem_append, not_or]
  rfl

/-- **A text without an empty row has no two line feeds next to each other.** -/
theorem IsSolid.not_isInfix {s : List Char} (h : IsSolid s) : ¬ ['\n', '\n'] <:+: s := by
  rintro ⟨front, back, rfl⟩
  have hsplit : front ++ ['\n', '\n'] ++ back = front ++ '\n' :: ([] ++ '\n' :: back) := by simp
  rw [hsplit, isSolid_append_newline, isSolid_append_newline] at h
  exact h.2.1 List.mem_cons_self

theorem IsSolid.exists_cons {s : List Char} (h : IsSolid s) : ∃ c t, s = c :: t ∧ c ≠ '\n' := by
  cases s with
  | nil => exact absurd List.mem_cons_self h
  | cons c t =>
    refine ⟨c, t, rfl, ?_⟩
    rintro rfl
    exact absurd List.mem_cons_self (isSolid_append_newline (s := []).1 h).1

/-! ### Blank lines -/

/-- The texts between the blank lines of a text: what stands between two line feeds next to each
other, taken from the front. -/
def atBlankLines : List Char → List (List Char)
  | [] => [[]]
  | '\n' :: '\n' :: s => [] :: atBlankLines s
  | c :: s => (atBlankLines s).modifyHead (c :: ·)

theorem atBlankLines_cons {c : Char} {s : List Char} (h : c = '\n' → s.head? ≠ some '\n') :
    atBlankLines (c :: s) = (atBlankLines s).modifyHead (c :: ·) := by
  rw [atBlankLines]
  rintro s' rfl rfl
  exact h rfl rfl

theorem atBlankLines_append_of_notMem {row : List Char} (h : '\n' ∉ row) (t : List Char) :
    atBlankLines (row ++ t) = (atBlankLines t).modifyHead (row ++ ·) := by
  induction row with
  | nil =>
    have hid : (fun text : List Char => [] ++ text) = id := rfl
    rw [hid, List.modifyHead_id, List.nil_append, id]
  | cons c row ih =>
    obtain ⟨hc, hrow⟩ := List.ne_and_not_mem_of_not_mem_cons h
    rw [List.cons_append, atBlankLines_cons fun heq => absurd heq.symm hc, ih hrow,
      List.modifyHead_modifyHead]
    rfl

/-- A text without an empty row goes in front of what stands behind it, unless that begins with a
single line feed. -/
theorem IsSolid.atBlankLines_append {s : List Char} (h : IsSolid s) (t : List Char) :
    atBlankLines (s ++ t) = (atBlankLines t).modifyHead (s ++ ·) := by
  induction s using newline_induction with
  | last s hs => exact atBlankLines_append_of_notMem hs t
  | line row rest hrow ih =>
    rw [isSolid_append_newline] at h
    obtain ⟨c, rest', hcons, hc⟩ := h.2.exists_cons
    have hhead : '\n' = '\n' → (rest ++ t).head? ≠ some '\n' := by
      intro _
      rw [hcons, List.cons_append, List.head?_cons, ne_eq, Option.some.injEq]
      exact hc
    rw [List.append_assoc, List.cons_append, atBlankLines_append_of_notMem hrow,
      atBlankLines_cons hhead, ih h.2, List.modifyHead_modifyHead, List.modifyHead_modifyHead]
    simp only [Function.comp_def, List.append_assoc, List.cons_append]

/-- **Texts without empty rows are found again between blank lines.** -/
theorem atBlankLines_intercalate {texts : List (List Char)} (hne : texts ≠ [])
    (h : ∀ text ∈ texts, IsSolid text) :
    atBlankLines (['\n', '\n'].intercalate texts) = texts := by
  induction texts with
  | nil => exact absurd rfl hne
  | cons text texts ih =>
    obtain ⟨htext, htexts⟩ := List.forall_mem_cons.1 h
    by_cases hempty : texts = []
    · have hone := htext.atBlankLines_append []
      rw [List.append_nil] at hone
      rw [hempty, List.intercalate_singleton, hone, atBlankLines, List.modifyHead_cons,
        List.append_nil]
    · rw [List.intercalate_cons_of_ne_nil hempty, List.append_assoc,
        htext.atBlankLines_append]
      rw [List.cons_append, List.cons_append, List.nil_append, atBlankLines, ih hempty htexts,
        List.modifyHead_cons, List.append_nil]

end RestClient.Text
