import RestClient.Text.Lines

/-! # Text that is indented

What indenting does to a text that begins another one. Its first line goes behind a margin, and so
does every line after it: a text that spans several lines is not the same text afterwards.

* `exists_indentLines_append`: the text that stands behind the first margin is `reindent`;
* `reindent_of_notMem` and `length_lt_reindent`: it is the text itself if it has no line end, and
  longer otherwise;
* `reindent_inj`: texts with plain line ends stay different;
* `indentLines_append`: indenting goes line by line. -/

namespace RestClient.Text

/-! ### Lines -/

theorem mem_of_mem_dropReturn {c : Char} {line : List Char} (h : c ∈ dropReturn line) : c ∈ line := by
  unfold dropReturn at h
  split at h
  · exact List.dropLast_subset line h
  · exact h

theorem lines_of_notMem {s : List Char} (h : '\n' ∉ s) (hs : s ≠ []) : lines s = [s] := by
  unfold lines
  rw [List.splitOn_eq_singleton h]
  simp [hs]

theorem lines_append_newline {line : List Char} (s : List Char) (h : '\n' ∉ line) :
    lines (line ++ '\n' :: s) = dropReturn line :: lines s := by
  unfold lines
  rw [List.splitOn_append_cons_self_of_not_mem h]
  obtain ⟨piece, pieces, hs⟩ := List.exists_cons_of_ne_nil (List.splitOn_ne_nil '\n' s)
  rw [hs]
  rfl

/-- A text is one line, or a line with more text behind it. -/
theorem mem_newline_cases (s : List Char) :
    '\n' ∉ s ∨ ∃ line rest, s = line ++ '\n' :: rest ∧ '\n' ∉ line := by
  by_cases h : '\n' ∈ s
  · exact .inr (List.eq_append_cons_of_mem h)
  · exact .inl h

/-- What holds of a text without line ends, and of a text behind one more line, holds of all. -/
theorem newline_induction {motive : List Char → Prop} (s : List Char)
    (last : ∀ s, '\n' ∉ s → motive s)
    (line : ∀ line rest, '\n' ∉ line → motive rest → motive (line ++ '\n' :: rest)) : motive s := by
  induction hn : s.length using Nat.strongRecOn generalizing s with
  | ind n ih =>
    rcases mem_newline_cases s with h | ⟨first, rest, rfl, h⟩
    · exact last s h
    · have hlength : rest.length < n := by
        rw [← hn, List.length_append, List.length_cons]
        omega
      exact line first rest h (ih rest.length hlength rest rfl)

/-- A text with nothing behind its last line feed: an empty one, or one that ends in a line feed. -/
def IsEnded (s : List Char) : Prop := ∀ c ∈ s.getLast?, c = '\n'

theorem isEnded_append_newline (s : List Char) : IsEnded (s ++ ['\n']) := by
  intro c hc
  rw [List.getLast?_concat, Option.mem_some_iff] at hc
  exact hc.symm

theorem IsEnded.append {s t : List Char} (hs : IsEnded s) (ht : IsEnded t) : IsEnded (s ++ t) := by
  intro c hc
  rw [List.getLast?_append, Option.mem_def, Option.or_eq_some_iff] at hc
  rcases hc with hc | ⟨-, hc⟩
  · exact ht c hc
  · exact hs c hc

theorem IsEnded.of_newline_append {line rest : List Char} (h : IsEnded (line ++ '\n' :: rest)) :
    IsEnded rest := by
  intro c hc
  refine h c ?_
  rw [List.getLast?_append, List.getLast?_cons, Option.mem_def.1 hc]
  rfl

theorem IsEnded.eq_nil {s : List Char} (h : IsEnded s) (hs : '\n' ∉ s) : s = [] := by
  cases hlast : s.getLast? with
  | none => exact List.getLast?_eq_none_iff.1 hlast
  | some c => exact absurd (h c hlast ▸ List.mem_of_getLast? hlast) hs

/-- A text with nothing behind its last line feed has its lines before those of the text behind it. -/
theorem lines_append {s : List Char} (t : List Char) (h : IsEnded s) :
    lines (s ++ t) = lines s ++ lines t := by
  induction s using newline_induction with
  | last s hs => rw [h.eq_nil hs, List.nil_append, lines_nil, List.nil_append]
  | line first rest hfirst ih =>
    rw [List.append_assoc, List.cons_append, lines_append_newline _ hfirst,
      lines_append_newline _ hfirst, ih h.of_newline_append, List.cons_append]

theorem notMem_of_mem_lines {s line : List Char} (h : line ∈ lines s) : '\n' ∉ line := by
  induction s using newline_induction with
  | last s hs =>
    by_cases hne : s = []
    · rw [hne, lines_nil] at h
      cases h
    · rw [lines_of_notMem hs hne, List.mem_singleton] at h
      exact h ▸ hs
  | line first rest hfirst ih =>
    rw [lines_append_newline rest hfirst, List.mem_cons] at h
    rcases h with rfl | h
    · exact fun hmem => hfirst (mem_of_mem_dropReturn hmem)
    · exact ih h

theorem dropReturn_cons {c : Char} {line : List Char} (h : line = [] → c ≠ '\r') :
    dropReturn (c :: line) = c :: dropReturn line := by
  cases line with
  | nil => simp [dropReturn, h rfl]
  | cons d line =>
    unfold dropReturn
    rw [List.getLast?_cons_cons]
    split <;> rfl

theorem dropReturn_append_of_ne (line : List Char) {s : List Char}
    (h : s.getLast?.any (· ≠ '\r') = true) : dropReturn (line ++ s) = line ++ s := by
  rw [dropReturn, if_neg]
  rw [List.getLast?_append]
  cases hs : s.getLast? with
  | none => simp [hs] at h
  | some c => simpa [hs] using h

/-- A character that is part of no line end goes on the line that it stands before. -/
theorem exists_lines_cons {c : Char} {s : List Char} (hc : c ≠ '\n') (hs : s ≠ [])
    (hr : c = '\r' → s.head? ≠ some '\n') :
    ∃ line rest, lines s = line :: rest ∧ lines (c :: s) = (c :: line) :: rest := by
  rcases mem_newline_cases s with h | ⟨line, rest, rfl, h⟩
  · refine ⟨s, [], lines_of_notMem h hs, lines_of_notMem ?_ (by simp)⟩
    simp [h, Ne.symm hc]
  · refine ⟨dropReturn line, lines rest, lines_append_newline rest h, ?_⟩
    have hline : '\n' ∉ c :: line := by simp [h, Ne.symm hc]
    rw [← List.cons_append, lines_append_newline rest hline, dropReturn_cons]
    rintro rfl rfl
    exact hr rfl rfl

/-! ### Indented text -/

/-- A text whose line ends are each a line feed with a margin behind it. -/
def reindent (margin : List Char) : List Char → List Char
  | [] => []
  | '\r' :: '\n' :: s => '\n' :: (margin ++ reindent margin s)
  | '\n' :: s => '\n' :: (margin ++ reindent margin s)
  | c :: s => c :: reindent margin s

theorem reindent_of_notMem (margin : List Char) {s : List Char} (h : '\n' ∉ s) :
    reindent margin s = s := by
  fun_induction reindent margin s with
  | case1 => rfl
  | case2 => simp at h
  | case3 => simp at h
  | case4 c s _ _ ih => rw [ih fun hs => h (List.mem_cons_of_mem c hs)]

theorem reindent_cons {margin : List Char} {c : Char} {s : List Char} (hc : c ≠ '\n')
    (hr : c = '\r' → s.head? ≠ some '\n') : reindent margin (c :: s) = c :: reindent margin s := by
  rw [reindent]
  · rintro s' rfl rfl
    exact hr rfl rfl
  · exact hc

theorem reindent_append (margin s : List Char) {t : List Char} (ht : t.head? ≠ some '\n') :
    reindent margin (s ++ t) = reindent margin s ++ reindent margin t := by
  fun_induction reindent margin s with
  | case1 => rfl
  | case2 s ih =>
    rw [List.cons_append, List.cons_append, reindent, ih]
    simp
  | case3 s ih =>
    rw [List.cons_append, reindent, ih]
    simp
  | case4 c s hreturn hc ih =>
    rw [List.cons_append, reindent_cons hc, ih, List.cons_append]
    intro hr
    cases s with
    | nil => exact ht
    | cons d s =>
      rw [List.cons_append, List.head?_cons, ne_eq, Option.some.injEq]
      rintro rfl
      exact hreturn s hr rfl

theorem length_le_reindent {margin : List Char} (s : List Char) (hm : 2 ≤ margin.length) :
    s.length ≤ (reindent margin s).length := by
  fun_induction reindent margin s with
  | case1 => exact Nat.le_refl _
  | case2 s ih =>
    simp only [List.length_cons, List.length_append]
    omega
  | case3 s ih =>
    simp only [List.length_cons, List.length_append]
    omega
  | case4 c s _ _ ih =>
    simp only [List.length_cons]
    omega

/-- A text with a line end becomes longer. -/
theorem length_lt_reindent {margin s : List Char} (hm : 2 ≤ margin.length) (h : '\n' ∈ s) :
    s.length < (reindent margin s).length := by
  fun_induction reindent margin s with
  | case1 => simp at h
  | case2 s ih =>
    have := length_le_reindent s hm
    simp only [List.length_cons, List.length_append]
    omega
  | case3 s ih =>
    have := length_le_reindent s hm
    simp only [List.length_cons, List.length_append]
    omega
  | case4 c s _ hc ih =>
    have := ih ((List.mem_cons.1 h).resolve_left (Ne.symm hc))
    simp only [List.length_cons]
    omega

/-- A line end stays a line end. -/
theorem mem_reindent {margin s : List Char} (h : '\n' ∈ s) : '\n' ∈ reindent margin s := by
  fun_induction reindent margin s with
  | case1 => simp at h
  | case2 => exact .head _
  | case3 => exact .head _
  | case4 c s _ hc ih => exact .tail _ (ih ((List.mem_cons.1 h).resolve_left (Ne.symm hc)))

theorem indentLines_newline {margin line : List Char} (s : List Char) (h : '\n' ∉ line) :
    indentLines margin (line ++ '\n' :: s) =
      margin ++ (dropReturn line ++ '\n' :: indentLines margin s) := by
  rw [indentLines, lines_append_newline s h, List.flatMap_cons, ← indentLines]
  simp

theorem indentLines_cons {margin : List Char} {c : Char} {s t : List Char} (hc : c ≠ '\n')
    (hs : s ≠ []) (hr : c = '\r' → s.head? ≠ some '\n')
    (h : indentLines margin s = margin ++ t) : indentLines margin (c :: s) = margin ++ c :: t := by
  obtain ⟨line, rest, hline, hcons⟩ := exists_lines_cons hc hs hr
  rw [indentLines, hline, List.flatMap_cons] at h
  rw [indentLines, hcons, List.flatMap_cons]
  simp only [List.append_assoc, List.append_cancel_left_eq] at h ⊢
  rw [List.cons_append, h]

/-- **The text behind the first margin of an indented text** is what it begins with, with a margin
behind every line end. -/
theorem exists_indentLines_append (margin s : List Char) {c : Char} (t : List Char) (hc : c ≠ '\n')
    (hr : c ≠ '\r') :
    ∃ r, indentLines margin (s ++ c :: t) = margin ++ (reindent margin s ++ c :: r) := by
  -- A line end takes a line off the front of the text, any other character goes on its first line.
  fun_induction reindent margin s with
  | case1 =>
    by_cases ht : t = []
    · subst ht
      refine ⟨['\n'], ?_⟩
      rw [List.nil_append, indentLines, lines_of_notMem (by simp [Ne.symm hc]) (by simp)]
      simp
    · obtain ⟨line, rest, -, hcons⟩ := exists_lines_cons hc ht fun h => absurd h hr
      refine ⟨line ++ '\n' :: rest.flatMap fun line => margin ++ line ++ ['\n'], ?_⟩
      rw [List.nil_append, indentLines, hcons]
      simp
  | case2 s ih =>
    obtain ⟨r, hi⟩ := ih
    have hline : '\n' ∉ ['\r'] := by decide
    refine ⟨r, (indentLines_newline (s ++ c :: t) hline).trans ?_⟩
    rw [hi]
    simp [dropReturn]
  | case3 s ih =>
    obtain ⟨r, hi⟩ := ih
    have hline : '\n' ∉ ([] : List Char) := by decide
    refine ⟨r, (indentLines_newline (s ++ c :: t) hline).trans ?_⟩
    rw [hi]
    simp [dropReturn]
  | case4 d s hd hd' ih =>
    obtain ⟨r, hi⟩ := ih
    have hhead : d = '\r' → (s ++ c :: t).head? ≠ some '\n' := by
      intro hdr
      cases s with
      | nil => simpa using hc
      | cons e s =>
        rw [List.cons_append, List.head?_cons, ne_eq, Option.some.injEq]
        rintro rfl
        exact hd s hdr rfl
    exact ⟨r, indentLines_cons hd' (by simp) hhead hi⟩

/-! ### Texts that become different -/

/-- A text in which no carriage return belongs to a line end. -/
def HasPlainLineEnds (s : List Char) : Prop := ¬ ['\r', '\n'] <:+: s

instance (s : List Char) : Decidable (HasPlainLineEnds s) :=
  inferInstanceAs (Decidable (¬ ['\r', '\n'] <:+: s))

theorem HasPlainLineEnds.cons {c : Char} {s : List Char} :
    HasPlainLineEnds (c :: s) ↔ HasPlainLineEnds s ∧ (c = '\r' → s.head? ≠ some '\n') := by
  have hprefix : ['\r', '\n'] <+: c :: s ↔ c = '\r' ∧ s.head? = some '\n' := by
    rw [List.cons_prefix_cons, eq_comm (a := '\r')]
    cases s with
    | nil => simp
    | cons d s => rw [List.cons_prefix_cons, List.head?_cons, Option.some.injEq,
        eq_comm (a := '\n'), and_iff_left (List.nil_prefix)]
  rw [HasPlainLineEnds, HasPlainLineEnds, List.infix_cons_iff, not_or, and_comm, hprefix, not_and]

theorem reindent_cons_of_plain (margin : List Char) {c : Char} {s : List Char}
    (h : HasPlainLineEnds (c :: s)) :
    reindent margin (c :: s) = c :: ((if c = '\n' then margin else []) ++ reindent margin s) := by
  by_cases hc : c = '\n'
  · subst hc
    rw [if_pos rfl, reindent]
  · rw [if_neg hc, List.nil_append, reindent_cons hc (HasPlainLineEnds.cons.1 h).2]

theorem head?_reindent (margin : List Char) {s : List Char} (h : HasPlainLineEnds s) :
    (reindent margin s).head? = s.head? := by
  cases s with
  | nil => rfl
  | cons c s => rw [reindent_cons_of_plain margin h, List.head?_cons, List.head?_cons]

theorem reindent_inj {margin s t : List Char} (hs : HasPlainLineEnds s) (ht : HasPlainLineEnds t) :
    reindent margin s = reindent margin t ↔ s = t := by
  refine ⟨fun h => ?_, congrArg _⟩
  induction s generalizing t with
  | nil =>
    cases t with
    | nil => rfl
    | cons d t => rw [reindent_cons_of_plain margin ht] at h; cases h
  | cons c s ih =>
    cases t with
    | nil => rw [reindent_cons_of_plain margin hs] at h; cases h
    | cons d t =>
      rw [reindent_cons_of_plain margin hs, reindent_cons_of_plain margin ht, List.cons.injEq] at h
      obtain ⟨rfl, h⟩ := h
      have htail := ih (HasPlainLineEnds.cons.1 hs).1 (HasPlainLineEnds.cons.1 ht).1
        (List.append_cancel_left h)
      rw [htail]

/-- Indented, a text has no other line ends than before. -/
theorem HasPlainLineEnds.reindent {s : List Char} (h : HasPlainLineEnds s) :
    HasPlainLineEnds (reindent [' ', ' '] s) := by
  induction s with
  | nil => exact h
  | cons c s ih =>
    obtain ⟨hs, hc⟩ := HasPlainLineEnds.cons.1 h
    have hmargin : HasPlainLineEnds (' ' :: ' ' :: Text.reindent [' ', ' '] s) := by
      simpa [HasPlainLineEnds.cons] using ih hs
    rw [reindent_cons_of_plain _ h]
    split
    · rename_i hline
      exact HasPlainLineEnds.cons.2 ⟨hmargin, by simp [hline]⟩
    · exact HasPlainLineEnds.cons.2 ⟨ih hs, by rwa [List.nil_append, head?_reindent _ hs]⟩

/-! ### Lines that are indented again -/

/-- Indenting goes line by line. -/
theorem indentLines_append (margin : List Char) {s : List Char} (t : List Char) (h : IsEnded s) :
    indentLines margin (s ++ t) = indentLines margin s ++ indentLines margin t := by
  rw [indentLines, lines_append t h, List.flatMap_append]
  rfl

theorem isEnded_indentLines (margin s : List Char) : IsEnded (indentLines margin s) := by
  intro c hc
  unfold indentLines at hc
  cases hlines : (lines s).getLast? with
  | none =>
    rw [List.getLast?_eq_none_iff.1 hlines] at hc
    cases hc
  | some line =>
    obtain ⟨init, hinit⟩ := List.getLast?_eq_some_iff.1 hlines
    rw [hinit, List.flatMap_append, List.flatMap_singleton, List.getLast?_append,
      List.getLast?_append] at hc
    simpa [eq_comm] using hc

/-- Indented texts are indented again one by one. -/
theorem indentLines_flatMap_indentLines {α : Type} (margin : List Char) (f : α → List Char)
    (as : List α) (t : List Char) :
    indentLines margin ((as.flatMap fun a => indentLines margin (f a)) ++ t) =
      (as.flatMap fun a => indentLines margin (indentLines margin (f a))) ++
        indentLines margin t := by
  induction as with
  | nil => rfl
  | cons a as ih =>
    rw [List.flatMap_cons, List.flatMap_cons, List.append_assoc,
      indentLines_append margin _ (isEnded_indentLines margin (f a)), ih, List.append_assoc]

end RestClient.Text
