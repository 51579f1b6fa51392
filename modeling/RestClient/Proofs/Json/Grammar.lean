import RestClient.Text.Hex

/-! # The grammar of JSON

What a JSON text is, apart from any reader. `Value s t r` says that the text `s` begins with a
spelling of the tree `t` and goes on with `r`; the other relations are read in the same way. A tree
keeps all that is written: the order of keys, keys that are repeated, the digits of numbers, and in
strings which characters are written as code units.

`IsText` is the grammar of whole texts: one value between blanks. -/

namespace RestClient.Json

open RestClient.Text

/-- A part of a string as it is written. -/
inductive Atom where
  /-- A character, as it stands or behind a backslash. -/
  | char (c : Char)
  /-- A code unit of UTF-16, in hexadecimal digits. -/
  | unit (n : Nat)
  deriving DecidableEq, Repr

/-- A JSON value as it is written. -/
inductive Tree where
  /-- The literal `null`. -/
  | null
  /-- A boolean. -/
  | boolean (value : Bool)
  /-- A number. -/
  | number (text : List Char)
  /-- A string. -/
  | string (atoms : List Atom)
  /-- A list. -/
  | list (items : List Tree)
  /-- An object. -/
  | object (members : List (List Atom × Tree))

/-! ### Blanks, numbers and strings -/

/-- Any number of blanks. -/
inductive Blanks : List Char → List Char → Prop where
  | none {s : List Char} : Blanks s s
  | more {c : Char} {s r : List Char} : c ∈ [' ', '\t', '\n', '\r'] → Blanks s r → Blanks (c :: s) r

/-- One or more digits. -/
def IsDigits (s : List Char) : Prop := s ≠ [] ∧ ∀ d ∈ s, d.isDigit = true

/-- The digits before the point: a zero, or digits that do not begin with one. -/
def IsWhole (s : List Char) : Prop := s = ['0'] ∨ IsDigits s ∧ s.head? ≠ some '0'

/-- A point with digits behind it, or nothing. -/
def IsFraction (s : List Char) : Prop := s = [] ∨ ∃ ds, IsDigits ds ∧ s = '.' :: ds

/-- An exponent with or without a sign, or nothing. -/
def IsExponent (s : List Char) : Prop :=
  s = [] ∨ ∃ e ∈ ['e', 'E'], ∃ sign ∈ [[], ['+'], ['-']], ∃ ds, IsDigits ds ∧ s = e :: (sign ++ ds)

/-- A number. -/
def IsNumber (s : List Char) : Prop :=
  ∃ sign ∈ [[], ['-']], ∃ whole fraction exponent, IsWhole whole ∧ IsFraction fraction ∧
    IsExponent exponent ∧ s = sign ++ (whole ++ (fraction ++ exponent))

/-- The letters that may stand behind a backslash, with the characters they stand for. -/
def escapes : List (Char × Char) :=
  [('"', '"'), ('\\', '\\'), ('/', '/'), ('b', '\x08'), ('f', '\x0c'), ('n', '\n'), ('r', '\r'),
    ('t', '\t')]

/-- A code unit behind its backslash. -/
def CodeUnit (s : List Char) (n : Nat) (r : List Char) : Prop :=
  ∃ a b c d, s = 'u' :: a :: b :: c :: d :: r ∧ hexNumber? [a, b, c, d] = some n

/-- The rest of a string behind its opening quote. -/
inductive Atoms : List Char → List Atom → List Char → Prop where
  | ended {r : List Char} : Atoms ('"' :: r) [] r
  | plain {c : Char} {s r : List Char} {as : List Atom} : 0x20 ≤ c.toNat → c ≠ '"' → c ≠ '\\' →
      Atoms s as r → Atoms (c :: s) (.char c :: as) r
  | escape {c d : Char} {s r : List Char} {as : List Atom} : (c, d) ∈ escapes →
      Atoms s as r → Atoms ('\\' :: c :: s) (.char d :: as) r
  | unit {n : Nat} {s s₁ r : List Char} {as : List Atom} : CodeUnit s n s₁ →
      Atoms s₁ as r → Atoms ('\\' :: s) (.unit n :: as) r

/-! ### Values -/

/-- What stands before an element or a member: blanks, and a comma unless it is the first one. -/
def Lead (first : Bool) (s r : List Char) : Prop :=
  if first then Blanks s r else ∃ s₁, Blanks s (',' :: s₁) ∧ Blanks s₁ r

mutual

/-- A value. -/
inductive Value : List Char → Tree → List Char → Prop where
  | null {r : List Char} : Value ('n' :: 'u' :: 'l' :: 'l' :: r) .null r
  | true {r : List Char} : Value ('t' :: 'r' :: 'u' :: 'e' :: r) (.boolean true) r
  | false {r : List Char} : Value ('f' :: 'a' :: 'l' :: 's' :: 'e' :: r) (.boolean false) r
  | number {text r : List Char} : IsNumber text → Value (text ++ r) (.number text) r
  | string {s r : List Char} {as : List Atom} : Atoms s as r → Value ('"' :: s) (.string as) r
  | list {s r : List Char} {ts : List Tree} : Elements true s ts r → Value ('[' :: s) (.list ts) r
  | object {s r : List Char} {ms : List (List Atom × Tree)} : Members true s ms r →
      Value ('{' :: s) (.object ms) r

/-- The rest of a list, before its first element or behind another one. -/
inductive Elements : Bool → List Char → List Tree → List Char → Prop where
  | ended {first : Bool} {s r : List Char} : Blanks s (']' :: r) → Elements first s [] r
  | more {first : Bool} {s s₁ s₂ r : List Char} {t : Tree} {ts : List Tree} : Lead first s s₁ →
      Value s₁ t s₂ → Elements false s₂ ts r → Elements first s (t :: ts) r

/-- The rest of an object, before its first member or behind another one. -/
inductive Members : Bool → List Char → List (List Atom × Tree) → List Char → Prop where
  | ended {first : Bool} {s r : List Char} : Blanks s ('}' :: r) → Members first s [] r
  | more {first : Bool} {s s₁ s₂ s₃ s₄ s₅ r : List Char} {key : List Atom} {t : Tree}
      {ms : List (List Atom × Tree)} : Lead first s ('"' :: s₁) → Atoms s₁ key s₂ →
      Blanks s₂ (':' :: s₃) → Blanks s₃ s₄ → Value s₄ t s₅ → Members false s₅ ms r →
      Members first s ((key, t) :: ms) r

end

/-- **A JSON text**: a value, with blanks before and behind it. -/
def IsText (s : List Char) (t : Tree) : Prop :=
  ∃ s₁ s₂, Blanks s s₁ ∧ Value s₁ t s₂ ∧ Blanks s₂ []

end RestClient.Json
