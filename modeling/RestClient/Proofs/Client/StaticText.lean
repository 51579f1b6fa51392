import RestClient.Proofs.Client.Literals
import RestClient.Proofs.Client.Scan

/-! # Static text next to other text

The static text of a template literal is put together from pieces that are escaped one by one, and it
stands in front of a substitution or of the end of the literal. Escaping makes one text out of three
replacements, the last of which looks at two characters at once. Only there can it matter what a
piece stands next to.

* `escapeTemplate_eq_replace`: the three replacements, of which none undoes what another one did;
* `readTemplate_eq_takeStatic`: a literal is read from its static text on, whatever it is;
* `escapeTemplate_append_iff`: which texts can be escaped one by one;
* `escapeTemplate_in_context`: escaped text is read as the text itself, up to what ends it, and it
  can be put together from pieces unless these open a substitution between them. -/

namespace RestClient.TypeScript

/-! ### The three replacements -/

/-- A text with a backslash before every dollar sign that a brace follows, from the front on. -/
def replaceOpenings : List Char → List Char
  | [] => []
  | '$' :: '{' :: s => '\\' :: '$' :: '{' :: replaceOpenings s
  | c :: s => c :: replaceOpenings s

theorem replaceOpenings_cons {c : Char} {s : List Char} (h : ¬ (c = '$' ∧ s.head? = some '{')) :
    replaceOpenings (c :: s) = c :: replaceOpenings s := by
  rw [replaceOpenings]
  rintro r rfl rfl
  exact h ⟨rfl, rfl⟩

theorem replaceChar_cons_of_ne {c d : Char} (h : d ≠ c) (replacement s : List Char) :
    replaceChar c replacement (d :: s) = d :: replaceChar c replacement s := by
  rw [replaceChar_cons, if_neg h, List.singleton_append]

/-- A backslash put before a character brings no brace to the front of a text. -/
theorem head?_replaceChar {c : Char} (hc : c ≠ '{') (s : List Char) :
    (replaceChar c ['\\', c] s).head? = some '{' ↔ s.head? = some '{' := by
  cases s with
  | nil => rfl
  | cons d s =>
    by_cases hd : d = c
    · subst hd
      simp [replaceChar_cons, hc]
    · rw [replaceChar_cons_of_ne hd, List.head?_cons, List.head?_cons]

/-- **Escaping replaces the backslashes first**, the back quotes second and the openings of
substitutions last. -/
theorem escapeTemplate_eq_replace (s : List Char) :
    escapeTemplate s = replaceOpenings
      (replaceChar backquote ['\\', backquote] (replaceChar '\\' ['\\', '\\'] s)) := by
  have hquote : '\\' ≠ backquote := by decide
  fun_induction escapeTemplate s with
  | case1 => rfl
  | case2 rest ih =>
    rw [ih, replaceChar_cons_of_ne (by decide), replaceChar_cons_of_ne (by decide),
      replaceChar_cons_of_ne (by decide), replaceChar_cons_of_ne (by decide), replaceOpenings]
  | case3 c rest _ hc ih =>
    have hopening : ∀ d s, d ≠ '$' → replaceOpenings (d :: s) = d :: replaceOpenings s :=
      fun d s hd => replaceOpenings_cons fun h => hd h.1
    rcases hc with rfl | rfl
    · -- The backslashes are there before the other two replacements, which leave them alone.
      rw [ih, replaceChar_cons, if_pos rfl, List.cons_append, List.singleton_append,
        replaceChar_cons_of_ne hquote, replaceChar_cons_of_ne hquote, hopening _ _ (by decide),
        hopening _ _ (by decide)]
    · rw [ih, replaceChar_cons_of_ne hquote.symm, replaceChar_cons, if_pos rfl, List.cons_append,
        List.singleton_append, hopening _ _ (by decide), hopening _ _ (by decide)]
  | case4 c rest hopen hc ih =>
    obtain ⟨hslash, hback⟩ := not_or.1 hc
    rw [ih, replaceChar_cons_of_ne hslash, replaceChar_cons_of_ne hback, replaceOpenings_cons]
    rintro ⟨rfl, hhead⟩
    rw [head?_replaceChar (by decide), head?_replaceChar (by decide)] at hhead
    obtain ⟨rest, rfl⟩ := List.head?_eq_some_iff.1 hhead
    exact hopen rest rfl rfl

/-- Last of all, the backslashes of the openings would be doubled if they came first. -/
example :
    replaceChar '\\' ['\\', '\\'] (replaceOpenings ['$', '{']) = ['\\', '\\', '$', '{'] := by
  decide

/-! ### Reading static text -/

/-- **A literal is read from its static text on**: the text without its escapes joins the pieces that
are read from behind it. -/
theorem readTemplate_eq_takeStatic (s : List Char) :
    readTemplate s = (readTemplate (takeStatic s).2).map fun (pieces, rest) =>
      (Piece.pushText (unescape (takeStatic s).1) pieces, rest) := by
  have hnothing (r : List Char) : readTemplate r = (readTemplate r).map fun (pieces, rest) =>
      (Piece.pushText (unescape []) pieces, rest) := (Option.map_id' (x := readTemplate r)).symm
  fun_induction takeStatic s with
  | case1 => exact hnothing []
  | case2 r => exact hnothing ('\x60' :: r)
  | case3 c r ih =>
    rw [readTemplate_escaped, ih, Option.map_map, unescape]
    rfl
  | case4 r => exact hnothing ('$' :: '{' :: r)
  | case5 c r hquote hslash hopen ih =>
    have hplain : readTemplate (c :: r) =
        (readTemplate r).map fun (pieces, rest) => (Piece.push c pieces, rest) := by
      rw [readTemplate]
      exacts [hquote, hslash, hopen]
    have hunescape : unescape (c :: (takeStatic r).1) = c :: unescape (takeStatic r).1 := by
      by_cases hc : c = '\\'
      · -- A backslash that escapes nothing has nothing behind it.
        subst hc
        cases r with
        | nil => rfl
        | cons d r => exact (hslash d r rfl rfl).elim
      · exact unescape_plain _ hc
    rw [hplain, ih, Option.map_map, hunescape]
    rfl

/-! ### Texts next to each other -/

/-- What escaping makes of two texts that open a substitution between them: on their own they lack a
backslash. -/
theorem exists_escapeTemplate_of_opensBetween {s t : List Char} (h : OpensBetween s t) :
    ∃ front back, escapeTemplate (s ++ t) = front ++ '\\' :: '$' :: '{' :: back ∧
      escapeTemplate s ++ escapeTemplate t = front ++ '$' :: '{' :: back := by
  obtain ⟨s, rfl⟩ := List.getLast?_eq_some_iff.1 h.1
  obtain ⟨t, rfl⟩ := List.head?_eq_some_iff.1 h.2
  have hjunction (r : List Char) : ¬ OpensBetween s ('$' :: r) := by simp [OpensBetween]
  have hbrace : escapeTemplate ('{' :: t) = '{' :: escapeTemplate t :=
    escapeTemplate_append (s := ['{']) (by simp [OpensBetween])
  have hdollar : escapeTemplate (s ++ ['$']) = escapeTemplate s ++ ['$'] :=
    escapeTemplate_append (hjunction [])
  refine ⟨escapeTemplate s, escapeTemplate t, ?_, ?_⟩
  · rw [List.append_assoc, List.singleton_append, escapeTemplate_append (hjunction _),
      escapeTemplate]
  · rw [hdollar, hbrace, List.append_assoc, List.singleton_append]

/-- **Two texts can be escaped one by one** iff they do not open a substitution between them. -/
theorem escapeTemplate_append_iff {s t : List Char} :
    escapeTemplate (s ++ t) = escapeTemplate s ++ escapeTemplate t ↔ ¬ OpensBetween s t := by
  refine ⟨fun heq hopens => ?_, escapeTemplate_append⟩
  obtain ⟨front, back, happend, hpieces⟩ := exists_escapeTemplate_of_opensBetween hopens
  rw [happend, hpieces] at heq
  simpa using List.append_cancel_left heq

/-- **Escaped text keeps its meaning next to other text.** In front of a substitution and of the end
of the literal, it is read whole and as the text itself, and what ends it is read next. Two texts can
be escaped one by one if and only if it is not the case that the first one ends in a dollar sign and
the second one begins with a brace. -/
theorem escapeTemplate_in_context :
    (∀ s t, EndsStatic t →
      takeStatic (escapeTemplate s ++ t) = (escapeTemplate s, t) ∧
      unescape (takeStatic (escapeTemplate s ++ t)).1 = s ∧
      readTemplate (escapeTemplate s ++ t) =
        (readTemplate t).map fun (pieces, rest) => (Piece.pushText s pieces, rest)) ∧
    ∀ s t, escapeTemplate (s ++ t) = escapeTemplate s ++ escapeTemplate t ↔
      ¬ (s.getLast? = some '$' ∧ t.head? = some '{') := by
  refine ⟨fun s t ht => ?_, fun s t => escapeTemplate_append_iff⟩
  have htake := takeStatic_escapeTemplate s ht
  have htext : unescape (takeStatic (escapeTemplate s ++ t)).1 = s := by
    rw [htake, unescape_escapeTemplate]
  refine ⟨htake, htext, ?_⟩
  rw [readTemplate_eq_takeStatic, htext, htake]

theorem dollarSigns_escapeTemplate_in_context :
    EndsStatic ['$', '{', 'q', '}', '\x60'] ∧
    takeStatic ['$', '\\', '$', '{', '\\', '\\', '$', '$', '{', 'q', '}', '\x60'] =
      (['$', '\\', '$', '{', '\\', '\\', '$'], ['$', '{', 'q', '}', '\x60']) ∧
    readTemplate ['$', '\\', '$', '{', '\\', '\\', '$', '$', '{', 'q', '}', '\x60'] =
      some ([.text ['$', '$', '{', '\\', '$'], .substitution ['q']], []) := by
  have hescaped : escapeTemplate ['$', '$', '{', '\\', '$'] =
      ['$', '\\', '$', '{', '\\', '\\', '$'] := by
    decide
  have hend : EndsStatic ['$', '{', 'q', '}', '\x60'] := .substitution _
  have hcode : readSubstitution false ['q', '}', '\x60'] = some (['q'], ['\x60']) := by decide
  obtain ⟨htake, -, hread⟩ := escapeTemplate_in_context.1 ['$', '$', '{', '\\', '$'] _ hend
  rw [hescaped] at htake hread
  refine ⟨hend, htake, hread.trans ?_⟩
  rw [readTemplate_substitution hcode, readTemplate_backquote]
  rfl

end RestClient.TypeScript
