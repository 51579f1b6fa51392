import Mathlib.Data.List.Basic
import RestClient.Proofs.Text.Rows
import RestClient.Proofs.TypeScript.Literal
import RestClient.TypeScript.Stmt

/-! # The indentation of statements

A statement is printed on lines of its own. A branch holds other statements, which stand one level
further in than it does, so that the front of a line says how many branches are around it. This holds
as long as no name, type or expression has a line feed in it.

* `Stmt.Unbroken` says that of a statement and of all inside of it;
* `Stmt.rows`: the lines of a statement at a depth, and `rows_of_print` and `rows_branch`: what they
  are for a statement of one line and for a branch;
* `Stmt.Unbroken.rows_add`: further in, every line moves by the same number of blanks;
* `Stmt.Nested`: a statement inside of another one, with the number of branches between them. Every
  line belongs to such a statement (`Stmt.Unbroken.exists_nested_of_mem_rows`), and each of them is
  printed in one piece (`Stmt.Nested.isInfix_rows`);
* `Stmt.rows_uniform`: all of this for a statement at any depth, and `Function.fullRows_print`: the
  lines of a function. -/

namespace RestClient.TypeScript

open RestClient.Text

/-! ### Statements without line breaks -/

namespace Stmt

/-- No name, type or expression in a statement has a line feed in it. -/
inductive Unbroken : Stmt → Prop
  | declare {kind : VariableKind} {name : String} {type : Option TypeExpr} {value : Option Expr}
    (hname : '\n' ∉ name.toList) (htype : ∀ t ∈ type, '\n' ∉ t.print.toList)
    (hvalue : ∀ e ∈ value, '\n' ∉ e.print.toList) : Unbroken (.declare kind name type value)
  | assign {name : String} {value : Expr} (hname : '\n' ∉ name.toList)
    (hvalue : '\n' ∉ value.print.toList) : Unbroken (.assign name value)
  | result {value : Expr} (hvalue : '\n' ∉ value.print.toList) : Unbroken (.result value)
  | branch {condition : Expr} {consequent alternative : List Stmt}
    (hcondition : '\n' ∉ condition.print.toList)
    (hblocks : ∀ s ∈ consequent ++ alternative, Unbroken s) :
    Unbroken (.branch condition consequent alternative)

/-- The first line of a branch. -/
def opening (condition : Expr) : String := "if (" ++ condition.print ++ ") \x7b"

/-- The line between the two blocks of a branch. -/
def otherwise : String := "\x7d else \x7b"

/-- The last line of a branch. -/
def closing : String := "\x7d"

/-- The lines of a statement that belong to no other statement inside of it, without their
indentation. -/
def ownLines : Stmt → List String
  | .declare kind name type value =>
    [kind.keyword ++ " " ++ name ++
      (match type with
        | none => ""
        | some type => ": " ++ type.print) ++
      (match value with
        | none => ""
        | some value => " = " ++ value.print) ++ ";"]
  | .assign name value => [name ++ " = " ++ value.print ++ ";"]
  | .result value => ["return " ++ value.print ++ ";"]
  | .branch condition _ _ => [opening condition, otherwise, closing]

/-- What holds of statements on one line, and of a branch around statements, holds of all that have
no line breaks in them. -/
theorem Unbroken.induction {motive : (s : Stmt) → s.Unbroken → Prop} {s : Stmt} (h : s.Unbroken)
    (line : ∀ (s : Stmt) (h : s.Unbroken) (text : String), s.ownLines = [text] →
      '\n' ∉ text.toList → (∀ depth, s.print depth = indentation depth ++ text ++ "\n") → motive s h)
    (branch : ∀ (condition : Expr) (consequent alternative : List Stmt)
      (hcondition : '\n' ∉ condition.print.toList)
      (hblocks : ∀ s ∈ consequent ++ alternative, s.Unbroken),
      (∀ s (hs : s ∈ consequent ++ alternative), motive s (hblocks s hs)) →
      motive (.branch condition consequent alternative) (.branch hcondition hblocks)) :
    motive s h := by
  induction h with
  | @declare kind name type value hname htype hvalue =>
    refine line _ _ _ rfl ?_ fun depth => ?_
    · have hkeyword : '\n' ∉ kind.keyword.toList := by cases kind <;> decide
      cases type <;> cases value <;> simp_all
    · cases type <;> cases value <;> simp [Stmt.print, String.append_assoc]
  | assign hname hvalue =>
    refine line _ _ _ rfl ?_ fun depth => ?_
    · simp [hname, hvalue]
    · simp [Stmt.print, String.append_assoc]
  | result hvalue =>
    refine line _ _ _ rfl ?_ fun depth => ?_
    · simp [hvalue]
    · simp [Stmt.print, String.append_assoc]
  | branch hcondition hblocks ih => exact branch _ _ _ hcondition hblocks ih

/-! ### The lines of a statement -/

/-- The blanks at the front of a line at a depth. -/
def margin (depth : Nat) : List Char := List.replicate (2 * depth) ' '

/-- The lines of a statement at a depth, without their ends. -/
def rows (depth : Nat) (s : Stmt) : List (List Char) := fullRows (s.print depth).toList

theorem margin_add (depth levels : Nat) :
    margin (depth + levels) = margin levels ++ margin depth := by
  rw [margin, margin, margin, List.replicate_append_replicate, Nat.mul_add, Nat.add_comm]

theorem toList_indentation (depth : Nat) : (indentation depth).toList = margin depth :=
  String.toList_ofList

/-- A line at a depth has no line feed in it if its text has none. -/
theorem notMem_margin_append {text : List Char} (h : '\n' ∉ text) (depth : Nat) :
    '\n' ∉ margin depth ++ text :=
  List.not_mem_append (fun hmem => absurd (List.eq_of_mem_replicate hmem) (by decide)) h

/-- Every statement ends its last line. -/
theorem isEnded_print (depth : Nat) (s : Stmt) : IsEnded (s.print depth).toList := by
  have hend (front last : String) (h : last.toList.getLast? = some '\n') :
      IsEnded (front ++ last).toList := by
    intro c hc
    rw [String.toList_append, List.getLast?_append, h] at hc
    exact (Option.mem_some_iff.1 hc).symm
  cases s with
  | declare kind name type value => exact hend _ ";\n" rfl
  | assign name value => exact hend _ ";\n" rfl
  | result value => exact hend _ ";\n" rfl
  | branch condition consequent alternative => exact hend _ "\x7d\n" rfl

theorem isEnded_printAll (depth : Nat) (statements : List Stmt) :
    IsEnded (printAll depth statements).toList := by
  induction statements with
  | nil => simp [printAll, IsEnded]
  | cons s statements ih =>
    rw [printAll, String.toList_append]
    exact (isEnded_print depth s).append ih

theorem fullRows_printAll (depth : Nat) (statements : List Stmt) :
    fullRows (printAll depth statements).toList = statements.flatMap (rows depth) := by
  induction statements with
  | nil => rfl
  | cons s statements ih =>
    rw [printAll, String.toList_append, fullRows_append (isEnded_print depth s), ih,
      List.flatMap_cons, rows]

theorem rows_of_print {s : Stmt} {text : String} {depth : Nat}
    (hprint : s.print depth = indentation depth ++ text ++ "\n") (h : '\n' ∉ text.toList) :
    s.rows depth = [margin depth ++ text.toList] := by
  have htext : (s.print depth).toList = margin depth ++ text.toList ++ ['\n'] := by
    rw [hprint, String.toList_append, String.toList_append, toList_indentation]
    rfl
  rw [rows, htext, fullRows_row_append (notMem_margin_append h depth)]
  rfl

/-- **The lines of a branch**: three lines of its own, which share their indentation, and between
them those of its two blocks, one level further in. -/
theorem rows_branch {condition : Expr} (h : '\n' ∉ condition.print.toList)
    (consequent alternative : List Stmt) (depth : Nat) :
    (branch condition consequent alternative).rows depth =
      (margin depth ++ (opening condition).toList) :: (consequent.flatMap (rows (depth + 1)) ++
        (margin depth ++ otherwise.toList) :: (alternative.flatMap (rows (depth + 1)) ++
          [margin depth ++ closing.toList])) := by
  have hopening : '\n' ∉ (opening condition).toList := by simp [opening, h]
  have htext : ((branch condition consequent alternative).print depth).toList =
      margin depth ++ (opening condition).toList ++ '\n' ::
        ((printAll (depth + 1) consequent).toList ++
          (margin depth ++ otherwise.toList ++ '\n' ::
            ((printAll (depth + 1) alternative).toList ++
              (margin depth ++ closing.toList ++ '\n' :: [])))) := by
    simp [Stmt.print, opening, otherwise, closing, toList_indentation]
  rw [rows, htext, fullRows_row_append (notMem_margin_append hopening depth),
    fullRows_append (isEnded_printAll _ _), fullRows_printAll,
    fullRows_row_append (notMem_margin_append (by decide) depth),
    fullRows_append (isEnded_printAll _ _), fullRows_printAll,
    fullRows_row_append (notMem_margin_append (by decide) depth)]
  rfl

/-! ### Further in -/

/-- **Further in, every line of a statement moves by the same number of blanks.** -/
theorem Unbroken.rows_add {s : Stmt} (h : s.Unbroken) (depth levels : Nat) :
    s.rows (depth + levels) = (s.rows depth).map (margin levels ++ ·) := by
  induction h using Unbroken.induction generalizing depth with
  | line s _ text _ htext hprint =>
    rw [rows_of_print (hprint _) htext, rows_of_print (hprint _) htext, margin_add,
      List.append_assoc]
    rfl
  | branch condition consequent alternative hcondition _ ih =>
    have hblock {block : List Stmt} (hsubset : block ⊆ consequent ++ alternative) :
        block.flatMap (rows (depth + levels + 1)) =
          (block.flatMap (rows (depth + 1))).map (margin levels ++ ·) := by
      rw [List.map_flatMap, Nat.add_right_comm]
      exact List.flatMap_congr fun s hs => ih s (hsubset hs) (depth + 1)
    rw [rows_branch hcondition, rows_branch hcondition, hblock (List.subset_append_left _ _),
      hblock (List.subset_append_right _ _), margin_add]
    simp only [List.map_cons, List.map_append, List.map_nil, List.append_assoc]

/-! ### Statements inside of statements -/

/-- A statement inside of another one, with the number of branches between the two. -/
inductive Nested (t : Stmt) : Nat → Stmt → Prop
  | self : Nested t 0 t
  | inside {levels : Nat} {condition : Expr} {consequent alternative : List Stmt} {s : Stmt}
    (hs : s ∈ consequent ++ alternative) (h : Nested t levels s) :
    Nested t (levels + 1) (.branch condition consequent alternative)

/-- A statement inside of one without line breaks has none either. -/
theorem Nested.unbroken {s t : Stmt} {levels : Nat} (h : t.Nested levels s) (hs : s.Unbroken) :
    t.Unbroken := by
  induction h with
  | self => exact hs
  | inside hmem _ ih =>
    cases hs with
    | branch _ hblocks => exact ih (hblocks _ hmem)

/-- The blocks of a branch are printed in one piece each. -/
theorem isInfix_rows_branch {condition : Expr} (h : '\n' ∉ condition.print.toList)
    {consequent alternative : List Stmt} {s : Stmt} (hs : s ∈ consequent ++ alternative)
    (depth : Nat) :
    s.rows (depth + 1) <:+: (branch condition consequent alternative).rows depth := by
  have hblock {block : List Stmt} (hmem : s ∈ block) :
      s.rows (depth + 1) <:+: block.flatMap (rows (depth + 1)) := by
    rw [List.flatMap_def]
    exact List.infix_of_mem_flatten (List.mem_map_of_mem hmem)
  rw [rows_branch h]
  rcases List.mem_append.1 hs with hs | hs
  · exact (hblock hs).trans ⟨[_], _, rfl⟩
  · refine (hblock hs).trans ⟨(margin depth ++ (opening condition).toList) ::
      (consequent.flatMap (rows (depth + 1)) ++ [margin depth ++ otherwise.toList]),
      [margin depth ++ closing.toList], ?_⟩
    simp only [List.cons_append, List.append_assoc, List.nil_append]

/-- **A statement inside of another one is printed in one piece**, as it would be on its own. -/
theorem Nested.isInfix_rows {s t : Stmt} {levels : Nat} (h : t.Nested levels s) (hs : s.Unbroken)
    (depth : Nat) : t.rows (depth + levels) <:+: s.rows depth := by
  induction h generalizing depth with
  | self => exact List.infix_rfl
  | @inside levels condition consequent alternative s hmem _ ih =>
    cases hs with
    | branch hcondition hblocks =>
      have hinside := ih (hblocks s hmem) (depth + 1)
      rw [Nat.add_right_comm] at hinside
      exact hinside.trans (isInfix_rows_branch hcondition hmem depth)

/-- **Every line of a statement belongs to a statement inside of it**, and stands as far in as there
are branches around that one. -/
theorem Unbroken.exists_nested_of_mem_rows {s : Stmt} (h : s.Unbroken) {depth : Nat}
    {row : List Char} (hrow : row ∈ s.rows depth) :
    ∃ (levels : Nat) (t : Stmt), t.Nested levels s ∧
      ∃ text ∈ t.ownLines, row = margin (depth + levels) ++ text.toList := by
  induction h using Unbroken.induction generalizing depth with
  | line s _ text hown htext hprint =>
    rw [rows_of_print (hprint _) htext, List.mem_singleton] at hrow
    exact ⟨0, s, .self, text, by simp [hown], hrow⟩
  | branch condition consequent alternative hcondition _ ih =>
    have hblock {block : List Stmt} (hsubset : block ⊆ consequent ++ alternative)
        (hmem : row ∈ block.flatMap (rows (depth + 1))) :
        ∃ (levels : Nat) (t : Stmt), t.Nested levels (.branch condition consequent alternative) ∧
          ∃ text ∈ t.ownLines, row = margin (depth + levels) ++ text.toList := by
      obtain ⟨s, hs, hmem⟩ := List.mem_flatMap.1 hmem
      obtain ⟨levels, t, ht, text, htext, heq⟩ := ih s (hsubset hs) hmem
      rw [Nat.add_right_comm] at heq
      exact ⟨levels + 1, t, .inside (hsubset hs) ht, text, htext, heq⟩
    rw [rows_branch hcondition, List.mem_cons, List.mem_append, List.mem_cons, List.mem_append,
      List.mem_singleton] at hrow
    rcases hrow with hrow | hrow | hrow | hrow | hrow
    · exact ⟨0, _, .self, opening condition, by simp [ownLines], hrow⟩
    · exact hblock (List.subset_append_left _ _) hrow
    · exact ⟨0, _, .self, otherwise, by simp [ownLines], hrow⟩
    · exact hblock (List.subset_append_right _ _) hrow
    · exact ⟨0, _, .self, closing, by simp [ownLines], hrow⟩

/-- The lines of a statement are printed at its depth. -/
theorem Unbroken.mem_rows {t : Stmt} (h : t.Unbroken) {text : String} (htext : text ∈ t.ownLines)
    (depth : Nat) : margin depth ++ text.toList ∈ t.rows depth := by
  induction h using Unbroken.induction with
  | line t _ line hown hline hprint =>
    rw [hown, List.mem_singleton] at htext
    rw [rows_of_print (hprint depth) hline, htext]
    exact List.mem_singleton_self _
  | branch condition consequent alternative hcondition _ _ =>
    rw [ownLines, List.mem_cons, List.mem_cons, List.mem_singleton] at htext
    rw [rows_branch hcondition]
    rcases htext with rfl | rfl | rfl <;> simp

/-! ### The front of a line -/

/-- Whether the text of a statement begins with a character that is no blank. This is so for all but
assignments to a variable whose name is empty or begins with a blank. -/
def HasVisibleFront : Stmt → Prop
  | .assign name _ => ∃ c ∈ name.toList.head?, c ≠ ' '
  | _ => True

theorem HasVisibleFront.head? {t : Stmt} (h : t.HasVisibleFront) {text : String}
    (htext : text ∈ t.ownLines) : ∃ c ∈ text.toList.head?, c ≠ ' ' := by
  cases t with
  | declare kind name type value =>
    rw [List.mem_singleton.1 htext]
    cases kind
    · exact ⟨'c', by simp [VariableKind.keyword], by decide⟩
    · exact ⟨'l', by simp [VariableKind.keyword], by decide⟩
  | assign name value =>
    obtain ⟨c, hc, hne⟩ := h
    rw [List.mem_singleton.1 htext]
    exact ⟨c, by simp [Option.mem_def.1 hc], hne⟩
  | result value =>
    rw [List.mem_singleton.1 htext]
    exact ⟨'r', by simp, by decide⟩
  | branch condition consequent alternative =>
    rw [ownLines, List.mem_cons, List.mem_cons, List.mem_singleton] at htext
    rcases htext with rfl | rfl | rfl
    · exact ⟨'i', by simp [opening], by decide⟩
    · exact ⟨'\x7d', by decide, by decide⟩
    · exact ⟨'\x7d', by decide, by decide⟩

/-- A line begins with the blanks of its indentation and no other ones. -/
theorem HasVisibleFront.takeWhile_row {t : Stmt} (h : t.HasVisibleFront) {text : String}
    (htext : text ∈ t.ownLines) (depth : Nat) :
    (margin depth ++ text.toList).takeWhile (· == ' ') = margin depth := by
  obtain ⟨c, hc, hne⟩ := h.head? htext
  have hmargin : ∀ d ∈ margin depth, (d == ' ') = true := fun d hd =>
    beq_iff_eq.2 (List.eq_of_mem_replicate hd)
  have htext : ∀ d ∈ text.toList.head?, (d == ' ') = false := by
    intro d hd
    obtain rfl : c = d := Option.mem_unique hc hd
    exact beq_eq_false_iff_ne.2 hne
  exact (takeWhile_append_of_head? hmargin htext).1

/-! ### All lines -/

/-- **The lines of a statement are indented uniformly.** If no name, type or expression in it has a
line feed, then its text is its lines, each with a line feed behind it. Further in, each of them has
two more blanks before it for each level. Every line belongs to a statement inside of it, and begins
with two blanks for each level and for each branch around that statement, and with no other blank
unless an assigned name does. Every statement inside of it is printed in one piece, with its lines
behind these blanks. The three lines of a branch share their indentation, and its two blocks stand
one level further in. -/
theorem rows_uniform {s : Stmt} (h : s.Unbroken) (depth : Nat) :
    (s.print depth).toList = endedRows (s.rows depth) ∧
    (∀ row ∈ s.rows depth, '\n' ∉ row) ∧
    (∀ levels, (s.print (depth + levels)).toList =
      endedRows ((s.rows depth).map (List.replicate (2 * levels) ' ' ++ ·))) ∧
    (∀ row ∈ s.rows depth, ∃ (levels : Nat) (t : Stmt), t.Nested levels s ∧
      (∃ text ∈ t.ownLines, row = List.replicate (2 * (depth + levels)) ' ' ++ text.toList) ∧
      (t.HasVisibleFront →
        row.takeWhile (· == ' ') = List.replicate (2 * (depth + levels)) ' ')) ∧
    (∀ (levels : Nat) (t : Stmt), t.Nested levels s → t.rows (depth + levels) <:+: s.rows depth ∧
      ∀ text ∈ t.ownLines,
        List.replicate (2 * (depth + levels)) ' ' ++ text.toList ∈ t.rows (depth + levels)) ∧
    ∀ (levels : Nat) (condition : Expr) (consequent alternative : List Stmt),
      (branch condition consequent alternative).Nested levels s →
      (branch condition consequent alternative).rows (depth + levels) =
        (List.replicate (2 * (depth + levels)) ' ' ++ (opening condition).toList) ::
          (consequent.flatMap (rows (depth + levels + 1)) ++
        (List.replicate (2 * (depth + levels)) ' ' ++ otherwise.toList) ::
          (alternative.flatMap (rows (depth + levels + 1)) ++
        [List.replicate (2 * (depth + levels)) ' ' ++ closing.toList])) := by
  refine ⟨(endedRows_fullRows (isEnded_print depth s)).symm, fun row => notMem_of_mem_fullRows,
    fun levels => ?_, fun row hrow => ?_, fun levels t ht => ⟨ht.isInfix_rows h depth, ?_⟩,
    fun levels condition consequent alternative hbranch => ?_⟩
  · rw [← endedRows_fullRows (isEnded_print (depth + levels) s)]
    exact congrArg endedRows (h.rows_add depth levels)
  · obtain ⟨levels, t, ht, text, htext, rfl⟩ := h.exists_nested_of_mem_rows hrow
    exact ⟨levels, t, ht, ⟨text, htext, rfl⟩, fun hfront => hfront.takeWhile_row htext _⟩
  · exact fun text htext => (ht.unbroken h).mem_rows htext _
  · cases hbranch.unbroken h with
    | branch hcondition _ => exact rows_branch hcondition consequent alternative _

/-- A branch in a branch. -/
def choice : Stmt :=
  .branch (.identifier "ready")
    [.branch (.identifier "plain") [.assign "data" (.literal "a")] [], .result (.identifier "data")]
    [.declare .mutable "data" (some .any) none]

theorem choice_rows_uniform :
    choice.Unbroken ∧ (assign "data" (.literal "a")).Nested 2 choice ∧
    (choice.print (1 + 2)).toList =
      endedRows ((choice.rows 1).map (List.replicate 4 ' ' ++ ·)) ∧
    (assign "data" (.literal "a")).rows 3 <:+: choice.rows 1 := by
  have hassign : (assign "data" (.literal "a")).Unbroken :=
    .assign (by decide) (by simp [Expr.print, stringLiteral, escapeString])
  have hresult : (result (.identifier "data")).Unbroken := .result (by decide)
  have hdeclare : (declare .mutable "data" (some .any) none).Unbroken :=
    .declare (by decide) (by simp [TypeExpr.print]) (by simp)
  have hinner : (branch (.identifier "plain") [.assign "data" (.literal "a")] []).Unbroken :=
    .branch (by decide) (List.forall_mem_singleton.2 hassign)
  have hunbroken : choice.Unbroken := by
    refine .branch (by decide) (List.forall_mem_cons.2 ⟨hinner, ?_⟩)
    exact List.forall_mem_cons.2 ⟨hresult, List.forall_mem_singleton.2 hdeclare⟩
  have hnested : (assign "data" (.literal "a")).Nested 2 choice :=
    .inside List.mem_cons_self (.inside List.mem_cons_self .self)
  obtain ⟨-, -, hfurther, -, hpieces, -⟩ := rows_uniform hunbroken 1
  exact ⟨hunbroken, hnested, hfurther 2, (hpieces 2 _ hnested).1⟩

end Stmt

/-! ### Functions -/

/-- The first line of a function. -/
def Function.opening (f : Function) : String :=
  "export async function " ++ f.name ++ "(" ++
    ", ".intercalate (f.parameters.map Parameter.print) ++ "): " ++ f.returnType.print ++ " \x7b"

/-- **The statements of a function stand one level in**, between its first line and its last. -/
theorem Function.fullRows_print {f : Function} (h : '\n' ∉ f.opening.toList) :
    fullRows f.print.toList =
      f.opening.toList :: (f.body.flatMap (Stmt.rows 1) ++ [['\x7d']]) := by
  have htext : f.print.toList =
      f.opening.toList ++ '\n' :: ((Stmt.printAll 1 f.body).toList ++ (['\x7d'] ++ ['\n'])) := by
    unfold Function.print Function.opening
    simp
  rw [htext, fullRows_row_append h, fullRows_append (Stmt.isEnded_printAll 1 f.body),
    Stmt.fullRows_printAll, fullRows_row_append (by decide)]
  rfl

end RestClient.TypeScript
