import RestClient.TypeScript.Template

/-! # Reading template literals

A template literal is read as a list of pieces, each a text or the code of a substitution. Outside a
substitution a backslash makes the next character literal, `${` opens a substitution and a back
quote ends the literal. Inside a substitution the first closing brace outside all strings closes it.

* `readTemplate` is the reader, from behind the opening back quote;
* `readTemplate_escapeTemplate_append`: escaped text is read as the text itself, whatever follows,
  unless the text ends in a dollar sign and what follows begins with a brace;
* `takeStatic_escapeTemplate`: in front of a substitution or the end of the literal, the static text
  is what was escaped, no more and no less. -/

namespace RestClient.TypeScript

/-- A piece of a template literal as it is read. -/
inductive Piece where
  /-- Text that stands for itself. -/
  | text (s : List Char)
  /-- The code of a substitution. -/
  | substitution (code : List Char)
  deriving DecidableEq, Repr

namespace Piece

/-- Pieces with one more character before them. It joins the text that they begin with. -/
def push (c : Char) : List Piece → List Piece
  | .text s :: pieces => .text (c :: s) :: pieces
  | pieces => .text [c] :: pieces

/-- Pieces with a text before them. -/
def pushText (s : List Char) (pieces : List Piece) : List Piece := s.foldr push pieces

/-- The code of the substitutions, in order. -/
def codes : List Piece → List (List Char)
  | [] => []
  | .text _ :: pieces => codes pieces
  | .substitution code :: pieces => code :: codes pieces

theorem codes_push (c : Char) (pieces : List Piece) : codes (push c pieces) = codes pieces := by
  unfold push
  split <;> rfl

theorem codes_pushText (s : List Char) (pieces : List Piece) :
    codes (pushText s pieces) = codes pieces := by
  induction s with
  | nil => rfl
  | cons c s ih => exact (codes_push c _).trans ih

end Piece

/-! ### Substitutions -/

/-- The code of a substitution from behind its opening brace, with what stands behind its closing
brace. A string in it is passed over: there a backslash goes with the character behind it. -/
def readSubstitution : (quoted : Bool) → List Char → Option (List Char × List Char)
  | _, [] => none
  | false, '}' :: r => some ([], r)
  | true, '\\' :: c :: r =>
    (readSubstitution true r).map fun (code, rest) => ('\\' :: c :: code, rest)
  | quoted, c :: r =>
    (readSubstitution (if c = '"' then !quoted else quoted) r).map fun (code, rest) =>
      (c :: code, rest)

/-- A substitution consists of its code and its closing brace. -/
theorem eq_append_of_readSubstitution {quoted : Bool} {s code rest : List Char}
    (h : readSubstitution quoted s = some (code, rest)) : s = code ++ '}' :: rest := by
  fun_induction readSubstitution quoted s generalizing code rest with
  | case1 => simp at h
  | case2 r =>
    obtain ⟨rfl, rfl⟩ : [] = code ∧ r = rest := by simpa using h
    rfl
  | case3 c r ih =>
    obtain ⟨⟨code', rest'⟩, hr, he⟩ := Option.map_eq_some_iff.1 h
    obtain ⟨rfl, rfl⟩ := Prod.mk.inj he
    rw [ih hr]
    rfl
  | case4 quoted c r _ _ ih =>
    obtain ⟨⟨code', rest'⟩, hr, he⟩ := Option.map_eq_some_iff.1 h
    obtain ⟨rfl, rfl⟩ := Prod.mk.inj he
    rw [ih hr]
    rfl

theorem length_of_readSubstitution {quoted : Bool} {s code rest : List Char}
    (h : readSubstitution quoted s = some (code, rest)) : rest.length < s.length := by
  rw [eq_append_of_readSubstitution h, List.length_append, List.length_cons]
  omega

/-! ### Literals -/

/-- The pieces of a template literal from behind its opening back quote, with what stands behind its
closing one. -/
def readTemplate (s : List Char) : Option (List Piece × List Char) :=
  match s with
  | [] => none
  | '\x60' :: r => some ([], r)
  | '\\' :: c :: r => (readTemplate r).map fun (pieces, rest) => (Piece.push c pieces, rest)
  | '$' :: '{' :: r =>
    match h : readSubstitution false r with
    | none => none
    | some (code, r') =>
      have := length_of_readSubstitution h
      (readTemplate r').map fun (pieces, rest) => (.substitution code :: pieces, rest)
  | c :: r => (readTemplate r).map fun (pieces, rest) => (Piece.push c pieces, rest)
termination_by s.length

/-- The pieces of the template literal at the front of a text, with what stands behind it. -/
def readTemplateLiteral : List Char → Option (List Piece × List Char)
  | '\x60' :: r => readTemplate r
  | _ => none

theorem readTemplate_backquote (r : List Char) : readTemplate ('\x60' :: r) = some ([], r) := by
  rw [readTemplate]

theorem readTemplate_escaped (c : Char) (r : List Char) :
    readTemplate ('\\' :: c :: r) =
      (readTemplate r).map fun (pieces, rest) => (Piece.push c pieces, rest) := by
  rw [readTemplate]

theorem readTemplate_substitution {r code r' : List Char}
    (h : readSubstitution false r = some (code, r')) :
    readTemplate ('$' :: '{' :: r) =
      (readTemplate r').map fun (pieces, rest) => (.substitution code :: pieces, rest) := by
  rw [readTemplate]
  split
  · simp_all
  · simp_all

theorem readTemplate_open_none {r : List Char} (h : readSubstitution false r = none) :
    readTemplate ('$' :: '{' :: r) = none := by
  rw [readTemplate]
  split
  · rfl
  · simp_all

/-- A character that neither ends the literal nor escapes nor opens anything stands for itself. -/
theorem readTemplate_plain {c : Char} {r : List Char} (hq : c ≠ '\x60') (hb : c ≠ '\\')
    (hd : ¬ (c = '$' ∧ r.head? = some '{')) :
    readTemplate (c :: r) =
      (readTemplate r).map fun (pieces, rest) => (Piece.push c pieces, rest) := by
  rw [readTemplate]
  · exact hq
  · rintro d r' rfl
    exact absurd rfl hb
  · rintro r' rfl rfl
    exact hd ⟨rfl, rfl⟩

/-! ### Escaped text -/

/-- The first text ends in a dollar sign and the second one begins with a brace, so that the two
together open a substitution. -/
def OpensBetween (s t : List Char) : Prop := s.getLast? = some '$' ∧ t.head? = some '{'

instance (s t : List Char) : Decidable (OpensBetween s t) := by unfold OpensBetween; infer_instance

theorem OpensBetween.cons {s t : List Char} (c : Char) (h : OpensBetween s t) :
    OpensBetween (c :: s) t := by
  refine ⟨?_, h.2⟩
  cases s with
  | nil => exact absurd h.1 (by simp)
  | cons d s => rw [List.getLast?_cons_cons]; exact h.1

/-- A text begins with a brace after escaping iff it did before. -/
theorem head?_escapeTemplate_append (s t : List Char) :
    (escapeTemplate s ++ t).head? = some '{' ↔ (s ++ t).head? = some '{' := by
  fun_cases escapeTemplate s with
  | case1 => rfl
  | case2 => simp
  | case3 c rest _ h => rcases h with rfl | rfl <;> simp [backquote]
  | case4 => rfl

/-- Escaping adds backslashes only. -/
theorem notMem_escapeTemplate {c : Char} {s : List Char} (h : c ∉ s) (hc : c ≠ '\\') :
    c ∉ escapeTemplate s := by
  fun_induction escapeTemplate s with
  | case1 => exact h
  | case2 rest ih => simp_all
  | case3 d rest _ _ ih => simp_all
  | case4 d rest _ _ ih => simp_all

/-- A character that opens no substitution with what follows it is escaped on its own. -/
theorem escapeTemplate_cons {c : Char} {s : List Char} (h : ¬ (c = '$' ∧ s.head? = some '{')) :
    escapeTemplate (c :: s) =
      if c = '\\' ∨ c = backquote then '\\' :: c :: escapeTemplate s
      else c :: escapeTemplate s := by
  rw [escapeTemplate]
  rintro rest rfl rfl
  exact h ⟨rfl, rfl⟩

/-- Two texts are escaped one by one, unless they open a substitution between them. -/
theorem escapeTemplate_append {s t : List Char} (h : ¬ OpensBetween s t) :
    escapeTemplate (s ++ t) = escapeTemplate s ++ escapeTemplate t := by
  fun_induction escapeTemplate s with
  | case1 => rfl
  | case2 rest ih =>
    rw [List.cons_append, List.cons_append, escapeTemplate,
      ih fun hr => h ((hr.cons '{').cons '$')]
    rfl
  | case3 c rest hopen hc ih =>
    have hd : ¬ (c = '$' ∧ (rest ++ t).head? = some '{') := by
      rintro ⟨rfl, -⟩
      exact absurd hc (by decide)
    rw [List.cons_append, escapeTemplate_cons hd, if_pos hc, ih fun hr => h (hr.cons c)]
    rfl
  | case4 c rest hopen hc ih =>
    have hd : ¬ (c = '$' ∧ (rest ++ t).head? = some '{') := by
      rintro ⟨rfl, ht⟩
      cases rest with
      | nil => exact h ⟨rfl, ht⟩
      | cons d rest => exact hopen rest rfl (by simpa using ht)
    rw [List.cons_append, escapeTemplate_cons hd, if_neg hc, ih fun hr => h (hr.cons c)]
    rfl

/-- A dollar sign that was left alone has no brace behind it, in the text or after it. -/
theorem not_open_of_plain {c : Char} {s t : List Char}
    (hopen : ∀ r, c = '$' → s = '{' :: r → False) (h : ¬ OpensBetween (c :: s) t) :
    ¬ (c = '$' ∧ (escapeTemplate s ++ t).head? = some '{') := by
  rintro ⟨rfl, ht⟩
  rw [head?_escapeTemplate_append] at ht
  cases s with
  | nil => exact h ⟨rfl, ht⟩
  | cons d r =>
    obtain rfl : d = '{' := by simpa using ht
    exact hopen r rfl rfl

/-- **Escaped text is read as the text itself**, whatever follows, unless the two open a
substitution between them. -/
theorem readTemplate_escapeTemplate_append {s t : List Char} (h : ¬ OpensBetween s t) :
    readTemplate (escapeTemplate s ++ t) =
      (readTemplate t).map fun (pieces, rest) => (Piece.pushText s pieces, rest) := by
  fun_induction escapeTemplate s with
  | case1 => exact (Option.map_id' (x := readTemplate t)).symm
  | case2 rest ih =>
    rw [List.cons_append, List.cons_append, List.cons_append, readTemplate_escaped,
      readTemplate_plain (by decide) (by decide) (by simp),
      ih fun hr => h ((hr.cons '{').cons '$'), Option.map_map, Option.map_map]
    rfl
  | case3 c rest _ _ ih =>
    rw [List.cons_append, List.cons_append, readTemplate_escaped, ih fun hr => h (hr.cons c),
      Option.map_map]
    rfl
  | case4 c rest hopen hc ih =>
    rw [not_or] at hc
    have hplain := not_open_of_plain hopen h
    rw [List.cons_append, readTemplate_plain hc.2 hc.1 hplain, ih fun hr => h (hr.cons c),
      Option.map_map]
    rfl

/-! ### Static text -/

/-- The static text at the front of the inside of a template literal, as it is written there, and
what stands behind it. -/
def takeStatic : List Char → List Char × List Char
  | [] => ([], [])
  | '\x60' :: r => ([], '\x60' :: r)
  | '\\' :: c :: r => ('\\' :: c :: (takeStatic r).1, (takeStatic r).2)
  | '$' :: '{' :: r => ([], '$' :: '{' :: r)
  | c :: r => (c :: (takeStatic r).1, (takeStatic r).2)

theorem takeStatic_append (s : List Char) : (takeStatic s).1 ++ (takeStatic s).2 = s := by
  fun_induction takeStatic s <;> simp_all

theorem length_of_takeStatic {s text rest : List Char} (h : takeStatic s = (text, rest)) :
    rest.length ≤ s.length := by
  have happend := takeStatic_append s
  rw [h] at happend
  rw [← happend, List.length_append]
  exact Nat.le_add_left _ _

theorem takeStatic_plain {c : Char} {r : List Char} (hq : c ≠ '\x60') (hb : c ≠ '\\')
    (hd : ¬ (c = '$' ∧ r.head? = some '{')) :
    takeStatic (c :: r) = (c :: (takeStatic r).1, (takeStatic r).2) := by
  rw [takeStatic]
  · exact hq
  · rintro d r' rfl
    exact absurd rfl hb
  · rintro r' rfl rfl
    exact hd ⟨rfl, rfl⟩

/-- What ends the static text in front of it: the end of the literal, or a substitution. -/
inductive EndsStatic : List Char → Prop
  | backquote (r : List Char) : EndsStatic ('\x60' :: r)
  | substitution (r : List Char) : EndsStatic ('$' :: '{' :: r)

theorem EndsStatic.takeStatic {t : List Char} (h : EndsStatic t) : takeStatic t = ([], t) := by
  cases h <;> rw [TypeScript.takeStatic]

theorem EndsStatic.not_opensBetween {t : List Char} (h : EndsStatic t) (s : List Char) :
    ¬ OpensBetween s t := by
  rintro ⟨-, ht⟩
  cases h <;> simp at ht

/-- **Escaped text is taken whole** from in front of what ends it. -/
theorem takeStatic_escapeTemplate {t : List Char} (s : List Char) (h : EndsStatic t) :
    takeStatic (escapeTemplate s ++ t) = (escapeTemplate s, t) := by
  fun_induction escapeTemplate s with
  | case1 => exact h.takeStatic
  | case2 rest ih =>
    rw [List.cons_append, List.cons_append, List.cons_append, takeStatic,
      takeStatic_plain (by decide) (by decide) (by simp), ih]
  | case3 c rest _ _ ih => rw [List.cons_append, List.cons_append, takeStatic, ih]
  | case4 c rest hopen hc ih =>
    rw [not_or] at hc
    have hplain := not_open_of_plain hopen (h.not_opensBetween (c :: rest))
    rw [List.cons_append, takeStatic_plain hc.2 hc.1 hplain, ih]

end RestClient.TypeScript
