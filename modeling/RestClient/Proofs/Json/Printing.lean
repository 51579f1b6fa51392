import Mathlib.Data.List.Forall2
import RestClient.Json.Quoted
import RestClient.Proofs.Json.Strings

/-! # What is written

The writers of strings, lists and objects against the grammar: each writes something that spells
one tree, whatever stands behind it. What is written has no blanks, and a comma before every
element but the first one.

* `exists_spells_printString`: a string is written as one that means it;
* `spells_elements` and `spells_members`: what stands between commas and brackets. -/

namespace RestClient.Json

open RestClient.Text

/-- A text spells a tree, whatever stands behind it. -/
def Spells (s : List Char) (t : Tree) : Prop := ∀ r, Value (s ++ r) t r

/-- A text spells a member of an object: a key, a colon and a value. -/
def SpellsMember (s : List Char) (m : List Atom × Tree) : Prop :=
  ∃ key value, s = '"' :: key ++ ':' :: value ∧ (∀ r, Atoms (key ++ r) m.1 r) ∧ Spells value m.2

/-! ### Strings -/

theorem hexNumber?_digitChar :
    ∀ n < 0x20, hexNumber? ['0', '0', Nat.digitChar (n / 16), Nat.digitChar (n % 16)] = some n := by
  decide

/-- A control character is written as the code unit that it is. -/
theorem codeUnit_of_isControl {c : Char} (h : isControl c = true) (s : List Char) :
    CodeUnit
      ('u' :: '0' :: '0' :: Nat.digitChar (c.toNat / 16) :: Nat.digitChar (c.toNat % 16) :: s)
      c.toNat s :=
  ⟨_, _, _, _, rfl, hexNumber?_digitChar _ (by simpa [isControl] using h)⟩

/-- A character is written as one atom, which means it. -/
theorem exists_atom_printChar (c : Char) :
    ∃ a, (∀ {s as r}, Atoms s as r → Atoms (printChar c ++ s) (a :: as) r) ∧
      ∀ as, characters? (a :: as) = (characters? as).map (c :: ·) := by
  unfold printChar
  split
  case h_8 hquote hbackslash _ _ _ _ _ =>
    split
    · rename_i hc
      have hn : c.toNat < 0x20 := by simpa [isControl] using hc
      refine ⟨.unit c.toNat, fun h => .unit (codeUnit_of_isControl hc _) h, fun as => ?_⟩
      obtain ⟨hlow, hhigh⟩ := not_surrogate_iff.1 (.inl (Nat.lt_trans hn (by decide)))
      rw [characters?_unit hlow hhigh, Char.ofNat_toNat]
    · rename_i hc
      rw [Bool.not_eq_true] at hc
      exact ⟨.char c, fun h => .plain (isControl_eq_false_iff.1 hc) hquote hbackslash h,
        fun _ => rfl⟩
  all_goals exact ⟨.char _, fun h => .escape (by simp [escapes]) h, fun _ => rfl⟩

/-- The characters of a string are written as atoms that mean them. -/
theorem exists_atoms_printChars (cs : List Char) :
    ∃ as, (∀ r, Atoms (cs.flatMap printChar ++ '"' :: r) as r) ∧ characters? as = some cs := by
  induction cs with
  | nil => exact ⟨[], fun r => .ended, rfl⟩
  | cons c cs ih =>
    obtain ⟨as, has, hcs⟩ := ih
    obtain ⟨a, ha, hc⟩ := exists_atom_printChar c
    refine ⟨a :: as, fun r => ?_, by rw [hc, hcs, Option.map_some]⟩
    rw [List.flatMap_cons, List.append_assoc]
    exact ha (has r)

theorem exists_spells_printString (cs : List Char) :
    ∃ as, Spells (printString cs) (.string as) ∧ characters? as = some cs := by
  obtain ⟨as, has, hcs⟩ := exists_atoms_printChars cs
  refine ⟨as, fun r => ?_, hcs⟩
  simp only [printString, List.cons_append, List.append_assoc, List.nil_append]
  exact .string (has r)

/-! ### Commas and brackets -/

theorem intercalate_cons (c : Char) (text : List Char) (texts : List (List Char)) :
    [c].intercalate (text :: texts) = text ++ texts.flatMap (c :: ·) := by
  induction texts generalizing text with
  | nil => simp
  | cons text' texts ih =>
    rw [List.intercalate_cons_cons, ih]
    simp

theorem elements_of_spells {texts : List (List Char)} {ts : List Tree}
    (h : List.Forall₂ Spells texts ts) (r : List Char) :
    Elements false (texts.flatMap (',' :: ·) ++ ']' :: r) ts r := by
  induction h with
  | nil => exact .ended .none
  | cons ht _ ih =>
    rw [List.flatMap_cons, List.append_assoc]
    exact .more ⟨_, .none, .none⟩ (ht _) ih

/-- What is written for the elements of a list spells the list of their trees. -/
theorem spells_elements {texts : List (List Char)} {ts : List Tree}
    (h : List.Forall₂ Spells texts ts) :
    Spells ('[' :: [','].intercalate texts ++ [']']) (.list ts) := by
  intro r
  simp only [List.cons_append, List.append_assoc, List.nil_append]
  refine .list ?_
  cases h with
  | nil => exact .ended .none
  | cons ht hts =>
    rw [intercalate_cons, List.append_assoc]
    exact .more .none (ht _) (elements_of_spells hts r)

theorem members_of_spells {texts : List (List Char)} {ms : List (List Atom × Tree)}
    (h : List.Forall₂ SpellsMember texts ms) (r : List Char) :
    Members false (texts.flatMap (',' :: ·) ++ '}' :: r) ms r := by
  induction h with
  | nil => exact .ended .none
  | cons hm _ ih =>
    obtain ⟨key, value, rfl, hkey, ht⟩ := hm
    simp only [List.flatMap_cons, List.cons_append, List.append_assoc]
    exact .more ⟨_, .none, .none⟩ (hkey _) .none .none (ht _) ih

/-- What is written for the members of an object spells the object of their trees. -/
theorem spells_members {texts : List (List Char)} {ms : List (List Atom × Tree)}
    (h : List.Forall₂ SpellsMember texts ms) :
    Spells ('{' :: [','].intercalate texts ++ ['}']) (.object ms) := by
  intro r
  simp only [List.cons_append, List.append_assoc, List.nil_append]
  refine .object ?_
  cases h with
  | nil => exact .ended .none
  | cons hm hms =>
    obtain ⟨key, value, rfl, hkey, ht⟩ := hm
    simp only [intercalate_cons, List.cons_append, List.append_assoc]
    exact .more .none (hkey _) .none .none (ht _) (members_of_spells hms r)

end RestClient.Json
