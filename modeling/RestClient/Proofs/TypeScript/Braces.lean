import Mathlib.Data.List.TakeWhile
import RestClient.Proofs.TypeScript.Comment
import RestClient.Proofs.TypeScript.Layout
import RestClient.Proofs.TypeScript.Literal

/-! # Texts with paired braces

A text is balanced if its braces come in pairs, some inside others and some behind others. The pairs
of a text make a tree (`BraceTree`), and each character stands inside a number of them. The form of a
declaration is found without that tree, by counting braces from the front. For balanced texts the two
agree: the count at a character is the number of pairs around it.

* `joinsOutside_text_append`: what counting finds in the text of a tree;
* `ofBody_text_eq_interface_iff`: which balanced bodies are declared as interfaces;
* `isBalanced_iff_closes` and `isBalanced_signs`: counting also tells which texts are balanced, and
  only their braces matter;
* `IsBalanced.closes_append`: a balanced text can be left out in counting;
* `isBalanced_objectBody` and `ofBody_objectBody_eq_interface`: object types with balanced entries. -/

namespace RestClient.TypeScript

open RestClient.Text

/-! ### Trees of braces -/

/-- An opening or a closing brace. -/
def isBrace (c : Char) : Bool := c == '{' || c == '}'

/-- A text whose braces come in pairs, cut at them. -/
inductive BraceTree where
  /-- The empty text. -/
  | empty
  /-- A character that is no brace, and the text behind it. -/
  | plain (c : Char) (hc : isBrace c = false) (rest : BraceTree)
  /-- A pair of braces with the text between them, and the text behind them. -/
  | pair (inner rest : BraceTree)

namespace BraceTree

/-- The text of a tree. -/
def text : BraceTree → List Char
  | empty => []
  | plain c _ rest => c :: rest.text
  | pair inner rest => '{' :: (inner.text ++ '}' :: rest.text)

/-- The characters of a text, each with the number of pairs of braces around it, where some number of
pairs is around the whole text. -/
def depths (depth : Nat) : BraceTree → List (Char × Nat)
  | empty => []
  | plain c _ rest => (c, depth) :: rest.depths depth
  | pair inner rest =>
    ('{', depth) :: (inner.depths (depth + 1) ++ ('}', depth) :: rest.depths depth)

theorem map_fst_depths (tree : BraceTree) (depth : Nat) :
    (tree.depths depth).map Prod.fst = tree.text := by
  induction tree generalizing depth with
  | empty => rfl
  | plain c hc rest ih => rw [depths, List.map_cons, ih, text]
  | pair inner rest ih ih' =>
    rw [depths, List.map_cons, List.map_append, List.map_cons, ih, ih', text]

theorem le_of_mem_depths {tree : BraceTree} {depth : Nat} {p : Char × Nat}
    (h : p ∈ tree.depths depth) : depth ≤ p.2 := by
  induction tree generalizing depth with
  | empty => cases h
  | plain c hc rest ih =>
    rcases List.mem_cons.1 h with rfl | h
    · exact Nat.le_refl depth
    · exact ih h
  | pair inner rest ih ih' =>
    rw [depths, List.mem_cons, List.mem_append, List.mem_cons] at h
    rcases h with rfl | h | rfl | h
    · exact Nat.le_refl depth
    · exact Nat.le_of_succ_le (ih h)
    · exact Nat.le_refl depth
    · exact ih' h

end BraceTree

theorem ne_of_isBrace_eq_false {c : Char} (h : isBrace c = false) : c ≠ '{' ∧ c ≠ '}' := by
  simpa [isBrace] using h

/-! ### Signs outside of braces -/

theorem joinsOutside_open (depth : Nat) (s : List Char) :
    joinsOutside depth ('{' :: s) = joinsOutside (depth + 1) s := rfl

theorem joinsOutside_close (depth : Nat) (s : List Char) :
    joinsOutside (depth + 1) ('}' :: s) = joinsOutside depth s := rfl

theorem joinsOutside_plain {c : Char} (h : isBrace c = false) (depth : Nat) (s : List Char) :
    joinsOutside depth (c :: s) = true ↔
      ((c = '|' ∨ c = '&') ∧ depth = 0) ∨ joinsOutside depth s = true := by
  obtain ⟨hopen, hclose⟩ := ne_of_isBrace_eq_false h
  rw [joinsOutside, if_neg hopen, if_neg hclose]
  split
  · rename_i hjoin
    exact iff_of_true rfl (.inl hjoin)
  · rename_i hjoin
    exact ⟨.inr, fun h => h.resolve_left hjoin⟩

/-- **Counting finds the signs that stand inside of no pair**, in the text of a tree and in what
stands behind it. -/
theorem joinsOutside_text_append (tree : BraceTree) (depth : Nat) (t : List Char) :
    joinsOutside depth (tree.text ++ t) = true ↔
      (∃ p ∈ tree.depths depth, (p.1 = '|' ∨ p.1 = '&') ∧ p.2 = 0) ∨
        joinsOutside depth t = true := by
  induction tree generalizing depth t with
  | empty => simp [BraceTree.text, BraceTree.depths]
  | plain c hc rest ih =>
    rw [BraceTree.text, List.cons_append, joinsOutside_plain hc, ih, BraceTree.depths]
    simp only [List.mem_cons, exists_eq_or_imp, or_assoc]
  | pair inner rest ih ih' =>
    rw [BraceTree.text, List.cons_append, joinsOutside_open, List.append_assoc, List.cons_append, ih,
      joinsOutside_close, ih', BraceTree.depths]
    simp only [List.mem_cons, List.mem_append, or_and_right, exists_or, exists_eq_left, or_assoc,
      Char.reduceEq, or_self, false_and, false_or]

/-- **Which balanced bodies are interfaces**: those that begin with a brace, blanks apart, and have
every sign of a union or an intersection inside of some pair of braces. -/
theorem ofBody_text_eq_interface_iff (tree : BraceTree) :
    DeclarationKind.ofBody tree.text = .interface ↔
      tree.text.find? (fun c => !isBlank c) = some '{' ∧
        ∀ p ∈ tree.depths 0, p.1 = '|' ∨ p.1 = '&' → 0 < p.2 := by
  have hhead : tree.text.find? (fun c => !isBlank c) = (trimStart tree.text).head? :=
    List.find?_not_eq_head?_dropWhile isBlank tree.text
  have hjoins : joinsOutside 0 tree.text = false ↔
      ∀ p ∈ tree.depths 0, p.1 = '|' ∨ p.1 = '&' → 0 < p.2 := by
    have hfound := joinsOutside_text_append tree 0 []
    rw [List.append_nil] at hfound
    rw [← Bool.not_eq_true, hfound]
    simp only [joinsOutside, Bool.false_eq_true, or_false, not_exists, not_and, Nat.pos_iff_ne_zero]
  rw [DeclarationKind.ofBody, hhead, ← hjoins]
  split
  · rename_i h
    exact iff_of_true rfl h
  · rename_i h
    exact iff_of_false (by decide) h

/-! ### Balanced texts -/

/-- A text is balanced if it is the text of a tree. -/
def IsBalanced (s : List Char) : Prop := ∃ tree : BraceTree, tree.text = s

/-- Whether every brace of a text has its partner, where some number of pairs is still open. -/
def closes : Nat → List Char → Bool
  | depth, [] => depth == 0
  | depth, c :: rest =>
    if c = '{' then closes (depth + 1) rest
    else if c = '}' then 0 < depth && closes (depth - 1) rest
    else closes depth rest

theorem closes_plain {c : Char} (h : isBrace c = false) (depth : Nat) (s : List Char) :
    closes depth (c :: s) = closes depth s := by
  obtain ⟨hopen, hclose⟩ := ne_of_isBrace_eq_false h
  rw [closes, if_neg hopen, if_neg hclose]

theorem closes_open (depth : Nat) (s : List Char) :
    closes depth ('{' :: s) = closes (depth + 1) s := rfl

theorem closes_close (depth : Nat) (s : List Char) :
    closes (depth + 1) ('}' :: s) = closes depth s := by
  rw [closes, if_neg (by decide), if_pos rfl, decide_eq_true (Nat.succ_pos depth), Bool.true_and,
    Nat.add_sub_cancel]

theorem closes_text_append (tree : BraceTree) (depth : Nat) (t : List Char) :
    closes depth (tree.text ++ t) = closes depth t := by
  induction tree generalizing depth t with
  | empty => rfl
  | plain c hc rest ih => rw [BraceTree.text, List.cons_append, closes_plain hc, ih]
  | pair inner rest ih ih' =>
    rw [BraceTree.text, List.cons_append, closes_open, List.append_assoc, List.cons_append, ih,
      closes_close, ih']

/-- A text that closes all open pairs is that of a tree up to the next brace that closes one of
them. -/
theorem exists_text_of_closes {depth : Nat} {s : List Char} (h : closes depth s = true) :
    ∃ (tree : BraceTree) (t : List Char), s = tree.text ++ t ∧
      ((depth = 0 ∧ t = []) ∨
        ∃ depth' r, depth = depth' + 1 ∧ t = '}' :: r ∧ closes depth' r = true) := by
  -- Behind an opening brace there are two trees: one up to its partner, and one behind that.
  induction hn : s.length using Nat.strongRecOn generalizing s depth with
  | ind n ih =>
    cases s with
    | nil => exact ⟨.empty, [], rfl, .inl ⟨beq_iff_eq.1 h, rfl⟩⟩
    | cons c s =>
      rw [List.length_cons] at hn
      by_cases hbrace : isBrace c = true
      · rw [isBrace, Bool.or_eq_true, beq_iff_eq, beq_iff_eq] at hbrace
        rcases hbrace with rfl | rfl
        · rw [closes_open] at h
          obtain ⟨inner, t, rfl, hinner⟩ := ih s.length (by omega) h rfl
          obtain ⟨depth', r, hdepth, rfl, hr⟩ := hinner.resolve_left fun h => by omega
          obtain rfl : depth = depth' := Nat.succ.inj hdepth
          have hlength : r.length < n := by
            rw [List.length_append, List.length_cons] at hn
            omega
          obtain ⟨rest, t', rfl, hrest⟩ := ih r.length hlength hr rfl
          refine ⟨.pair inner rest, t', ?_, hrest⟩
          simp [BraceTree.text]
        · cases depth with
          | zero => simp [closes] at h
          | succ depth =>
            rw [closes_close] at h
            exact ⟨.empty, '}' :: s, rfl, .inr ⟨depth, s, rfl, rfl, h⟩⟩
      · rw [Bool.not_eq_true] at hbrace
        rw [closes_plain hbrace] at h
        obtain ⟨rest, t, rfl, hrest⟩ := ih s.length (by omega) h rfl
        exact ⟨.plain c hbrace rest, t, rfl, hrest⟩

/-- **A text is balanced iff counting its braces finds a partner for each.** -/
theorem isBalanced_iff_closes {s : List Char} : IsBalanced s ↔ closes 0 s = true := by
  constructor
  · rintro ⟨tree, rfl⟩
    have hcloses := closes_text_append tree 0 []
    rwa [List.append_nil] at hcloses
  · intro h
    obtain ⟨tree, t, rfl, ht⟩ := exists_text_of_closes h
    rcases ht with ⟨-, rfl⟩ | ⟨depth', r, hdepth, -⟩
    · exact ⟨tree, (List.append_nil _).symm⟩
    · cases hdepth

instance (s : List Char) : Decidable (IsBalanced s) := decidable_of_iff _ isBalanced_iff_closes.symm

theorem closes_signs (depth : Nat) (s : List Char) : closes depth (signs s) = closes depth s := by
  induction s generalizing depth with
  | nil => rfl
  | cons c s ih =>
    by_cases hc : isSign c = true
    · rw [signs, List.filter_cons_of_pos hc, ← signs, closes, closes, ih, ih, ih]
    · have hbrace : isBrace c = false := by
        simp only [isSign, isBrace, Bool.or_eq_true, not_or, Bool.not_eq_true] at hc ⊢
        rw [hc.1.1.1, hc.1.1.2]
        rfl
      rw [signs, List.filter_cons_of_neg hc, ← signs, ih, closes_plain hbrace]

/-- **Whether a text is balanced depends on its braces only.** -/
theorem isBalanced_signs {s : List Char} : IsBalanced (signs s) ↔ IsBalanced s := by
  rw [isBalanced_iff_closes, closes_signs, ← isBalanced_iff_closes]

theorem isBalanced_of_signs_eq_nil {s : List Char} (h : signs s = []) : IsBalanced s :=
  isBalanced_signs.1 (h ▸ ⟨.empty, rfl⟩)

/-- Counting passes over a balanced text. -/
theorem IsBalanced.closes_append {s : List Char} (h : IsBalanced s) (depth : Nat) (t : List Char) :
    closes depth (s ++ t) = closes depth t := by
  obtain ⟨tree, rfl⟩ := h
  exact closes_text_append tree depth t

theorem IsBalanced.append {s t : List Char} (hs : IsBalanced s) (ht : IsBalanced t) :
    IsBalanced (s ++ t) := by
  rw [isBalanced_iff_closes, hs.closes_append, ← isBalanced_iff_closes]
  exact ht

theorem IsBalanced.flatMap {α : Type} {l : List α} {f : α → List Char}
    (h : ∀ a ∈ l, IsBalanced (f a)) : IsBalanced (l.flatMap f) := by
  induction l with
  | nil => exact ⟨.empty, rfl⟩
  | cons a l ih =>
    obtain ⟨ha, hl⟩ := List.forall_mem_cons.1 h
    exact ha.append (ih hl)

/-- What stands behind a text counts only for the pairs that are open there. -/
theorem closes_append_congr (s : List Char) {t t' : List Char}
    (h : ∀ depth, closes depth t = closes depth t') (depth : Nat) :
    closes depth (s ++ t) = closes depth (s ++ t') := by
  induction s generalizing depth with
  | nil => exact h depth
  | cons c s ih => rw [List.cons_append, List.cons_append, closes, closes, ih, ih, ih]

theorem closes_flatMap_congr {α : Type} {l : List α} {f g : α → List Char}
    (h : ∀ a ∈ l, ∀ depth t, closes depth (f a ++ t) = closes depth (g a ++ t)) (depth : Nat)
    (t : List Char) : closes depth (l.flatMap f ++ t) = closes depth (l.flatMap g ++ t) := by
  induction l generalizing depth with
  | nil => rfl
  | cons a l ih =>
    obtain ⟨ha, hl⟩ := List.forall_mem_cons.1 h
    rw [List.flatMap_cons, List.flatMap_cons, List.append_assoc, List.append_assoc, ha]
    exact closes_append_congr (g a) (ih hl) depth

/-! ### Object types -/

section Entries

variable {entries : List String} (h : ∀ entry ∈ entries, IsBalanced entry.toList)
include h

theorem isBalanced_flatMap_signs : IsBalanced (entries.flatMap fun entry => signs entry.toList) :=
  IsBalanced.flatMap fun entry hentry => isBalanced_signs.2 (h entry hentry)

/-- **An object type with balanced entries is balanced**, whatever lines they are on. -/
theorem isBalanced_objectBody : IsBalanced (objectBody entries).toList := by
  obtain ⟨inner, hinner⟩ := isBalanced_flatMap_signs h
  rw [← isBalanced_signs, signs_objectBody, ← hinner]
  exact ⟨.pair inner .empty, rfl⟩

/-- **An object type with balanced entries is an interface**: all that they hold is inside of its own
braces. -/
theorem ofBody_objectBody_eq_interface :
    DeclarationKind.ofBody (objectBody entries).toList = .interface := by
  obtain ⟨inner, hinner⟩ := isBalanced_flatMap_signs h
  have hjoins : joinsOutside 0 (objectBody entries).toList = false := by
    rw [← joinsOutside_signs, signs_objectBody, ← hinner, joinsOutside_open, ← Bool.not_eq_true,
      joinsOutside_text_append, joinsOutside_close]
    rintro (⟨p, hp, -, hzero⟩ | hend)
    · have := BraceTree.le_of_mem_depths hp
      omega
    · cases hend
  rw [DeclarationKind.ofBody, head?_trimStart_objectBody, if_pos ⟨rfl, hjoins⟩]

end Entries

/-! ### Names, types and comments -/

theorem signs_escapeString (s : List Char) : signs (escapeString s) = signs s := by
  induction s with
  | nil => rfl
  | cons c s ih =>
    rw [escapeString_cons, signs_append, ih]
    split
    · rename_i hc
      rcases hc with rfl | rfl <;> rfl
    · exact (signs_append [c] s).symm

theorem signs_stringLiteral (s : String) : signs (stringLiteral s).toList = signs s.toList := by
  have hquote : signs ['"'] = [] := by decide
  rw [toList_stringLiteral, ← List.singleton_append, signs_append, signs_append, hquote,
    signs_escapeString, List.append_nil, List.nil_append]

theorem signs_propertyKey (name : String) : signs (propertyKey name).toList = signs name.toList := by
  unfold propertyKey
  split
  · rfl
  · exact signs_stringLiteral name

theorem signs_breakCommentEnds (s : List Char) : signs (breakCommentEnds s) = signs s := by
  have hcons (c : Char) (s : List Char) : signs (c :: s) = signs [c] ++ signs s :=
    signs_append [c] s
  fun_induction breakCommentEnds s with
  | case1 => rfl
  | case2 rest ih => exact ih
  | case3 c rest _ ih => rw [hcons, ih, ← hcons]

theorem signs_intercalate_space (texts : List (List Char)) :
    signs ([' '].intercalate texts) = texts.flatMap signs := by
  have hspace : signs [' '] = [] := by decide
  induction texts with
  | nil => rfl
  | cons text texts ih =>
    by_cases hempty : texts = []
    · rw [hempty, List.intercalate_singleton, List.flatMap_singleton]
    · rw [List.intercalate_cons_of_ne_nil hempty, signs_append, signs_append, hspace, ih,
        List.append_nil, List.flatMap_cons]

theorem isBlank_of_isSign {c : Char} (h : isSign c = true) : isBlank c = false := by
  simp only [isSign, Bool.or_eq_true, beq_iff_eq] at h
  rcases h with ((rfl | rfl) | rfl) | rfl <;> decide

theorem signs_onOneLine (s : List Char) : signs (onOneLine s) = signs s := by
  have hwords : (words s).flatMap signs = signs (s.filter fun c => !isBlank c) := by
    rw [← flatten_words, ← List.flatMap_id, signs_flatMap]
    rfl
  rw [onOneLine, signs_intercalate_space, hwords, signs, List.filter_filter, signs]
  refine List.filter_congr fun c _ => ?_
  cases hc : isSign c with
  | true => rw [isBlank_of_isSign hc]; rfl
  | false => rfl

/-- **A comment has the braces and signs of its text.** -/
theorem signs_docComment (text : String) : signs (docComment text).toList = signs text.toList := by
  have hopening : signs ['/', '*', '*', ' '] = [] := by decide
  have hclosing : signs [' ', '*', '/'] = [] := by decide
  have htext : (docComment text).toList = ['/', '*', '*', ' '] ++
      (breakCommentEnds (onOneLine text.toList) ++ [' ', '*', '/']) := toList_docComment text
  rw [htext, signs_append, signs_append, hopening, hclosing, signs_breakCommentEnds,
    signs_onOneLine, List.append_nil, List.nil_append]

theorem isBalanced_docComment {text : String} :
    IsBalanced (docComment text).toList ↔ IsBalanced text.toList := by
  rw [← isBalanced_signs, signs_docComment, isBalanced_signs]

end RestClient.TypeScript
