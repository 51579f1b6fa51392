import RestClient.Text.Hex
import RestClient.Text.Pattern.Options

/-! # Primitives of regular expressions

What an expression, or a set in it, is made of: characters that stand for themselves, and signs and
escapes for characters and for places.

* `readPrimitive` reads one in an expression, and `readMember` one in a set;
* `Primitive.isMatchable` and `Primitive.isMember` say where one can be used. It cannot if it takes
  a table of the properties of characters, or if it would match a part of a character.

Braces never come in pairs in an expression, since a closing one ends the text before. So there are
no escapes with braces. -/

namespace RestClient.Text.Pattern

/-- What stands for one character or for a place. -/
inductive Primitive where
  /-- A character. It may be spelt as a byte, by two hexadecimal digits. -/
  | char (code : Nat) (asByte : Bool)
  /-- Any character of a line. -/
  | any
  /-- A letter for the digits, the blanks or the characters of words, or for all others. -/
  | shorthand (negated : Bool)
  /-- An end of a line or of the text. -/
  | anchor
  /-- An end of a word, or the lack of one. -/
  | boundary
  deriving DecidableEq, Repr

/-- The code of a primitive for one character. -/
def Primitive.code? : Primitive → Option Nat
  | .char code _ => some code
  | _ => none

/-- Whether a primitive can be used in an expression. -/
def Primitive.isMatchable (options : Options) : Primitive → Bool
  | .char code asByte => !options.needsCases && (options.unicode || !asByte || code < 0x80)
  | .any => options.unicode
  | .shorthand negated => !options.unicode && !negated
  | .anchor => true
  | .boundary => true

/-- Whether a primitive can be used in a set. -/
def Primitive.isMember (options : Options) : Primitive → Bool
  | .char code _ => !options.needsCases && (options.unicode || code < 0x80)
  | .shorthand negated => !options.unicode && !negated
  | _ => false

/-! ### Escapes -/

/-- The number of some hexadecimal digits that follow those of `code`. There may be blanks between
them. -/
def readDigits (options : Options) (digits code : Nat) (s : List Char) :
    Option (Nat × List Char) :=
  match digits with
  | 0 => some (code, s)
  | digits + 1 =>
    match options.skip s with
    | [] => none
    | c :: r =>
      match hexDigit? c with
      | none => none
      | some digit => readDigits options digits (16 * code + digit) r

/-- The character whose code some hexadecimal digits give. -/
def readCode (options : Options) (digits : Nat) (s : List Char) :
    Option (Primitive × List Char) :=
  match readDigits options digits 0 s with
  | none => none
  | some (code, r) => if code.isValidChar then some (.char code (digits = 2), r) else none

/-- The code of a control that has a letter. -/
def controlCode? : Char → Option Nat
  | 'a' => some 0x07
  | 't' => some 0x09
  | 'n' => some 0x0A
  | 'v' => some 0x0B
  | 'f' => some 0x0C
  | 'r' => some 0x0D
  | _ => none

/-- The primitive that a letter or sign stands for behind a backslash. The signs of ASCII stand for
themselves. -/
def Primitive.ofEscaped? (c : Char) : Option Primitive :=
  if c ∈ ['d', 's', 'w'] then some (.shorthand false)
  else if c ∈ ['D', 'S', 'W'] then some (.shorthand true)
  else if c ∈ ['b', 'B', '<', '>'] then some .boundary
  else if c ∈ ['A', 'z'] then some .anchor
  else if c.isAlphanum then (controlCode? c).map fun code => .char code false
  else if c.toNat < 0x80 then some (.char c.toNat false)
  else none

/-- The primitive of an escape, from behind its backslash. -/
def readEscape (options : Options) (s : List Char) : Option (Primitive × List Char) :=
  match s with
  | [] => none
  | 'x' :: r => readCode options 2 r
  | 'u' :: r => readCode options 4 r
  | 'U' :: r => readCode options 8 r
  | c :: r => (Primitive.ofEscaped? c).map fun primitive => (primitive, r)

/-- The primitive that a character of a set begins. -/
def readMember (options : Options) (c : Char) (r : List Char) : Option (Primitive × List Char) :=
  if c = '\\' then readEscape options r else some (.char c.toNat false, r)

/-- The primitive that a character of an expression begins. -/
def readPrimitive (options : Options) (c : Char) (r : List Char) :
    Option (Primitive × List Char) :=
  if c = '.' then some (.any, r)
  else if c = '^' ∨ c = '$' then some (.anchor, r)
  else readMember options c r

/-! ### What is left of a text -/

theorem length_of_readDigits {options : Options} {digits code number : Nat} {s r : List Char}
    (h : readDigits options digits code s = some (number, r)) : r.length ≤ s.length := by
  fun_induction readDigits options digits code s with
  | case1 code s =>
    simp only [Option.some.injEq, Prod.mk.injEq] at h
    exact h.2 ▸ Nat.le_refl _
  | case2 => simp at h
  | case3 => simp at h
  | case4 code s digits c t hs digit hd ih =>
    exact Nat.le_of_lt (Nat.lt_of_le_of_lt (ih h) (Options.length_of_skip hs))

theorem length_of_readCode {options : Options} {digits : Nat} {primitive : Primitive}
    {s r : List Char} (h : readCode options digits s = some (primitive, r)) :
    r.length ≤ s.length := by
  simp only [readCode] at h
  split at h
  · simp at h
  · rename_i hd
    split at h
    · simp only [Option.some.injEq, Prod.mk.injEq] at h
      exact h.2 ▸ length_of_readDigits hd
    · simp at h

theorem length_of_readEscape {options : Options} {primitive : Primitive} {s r : List Char}
    (h : readEscape options s = some (primitive, r)) : r.length ≤ s.length := by
  have le_cons {c : Char} {t : List Char} (h : r.length ≤ t.length) :
      r.length ≤ (c :: t).length := Nat.le_succ_of_le h
  unfold readEscape at h
  split at h
  · simp at h
  · exact le_cons (length_of_readCode h)
  · exact le_cons (length_of_readCode h)
  · exact le_cons (length_of_readCode h)
  · simp only [Option.map_eq_some_iff, Prod.mk.injEq] at h
    obtain ⟨_, _, _, h⟩ := h
    exact le_cons (h ▸ Nat.le_refl _)

theorem length_of_readMember {options : Options} {c : Char} {primitive : Primitive}
    {s r : List Char} (h : readMember options c s = some (primitive, r)) :
    r.length ≤ s.length := by
  unfold readMember at h
  split at h
  · exact length_of_readEscape h
  · simp only [Option.some.injEq, Prod.mk.injEq] at h
    exact h.2 ▸ Nat.le_refl _

theorem length_of_readPrimitive {options : Options} {c : Char} {primitive : Primitive}
    {s r : List Char} (h : readPrimitive options c s = some (primitive, r)) :
    r.length ≤ s.length := by
  unfold readPrimitive at h
  split at h
  · simp only [Option.some.injEq, Prod.mk.injEq] at h
    exact h.2 ▸ Nat.le_refl _
  · split at h
    · simp only [Option.some.injEq, Prod.mk.injEq] at h
      exact h.2 ▸ Nat.le_refl _
    · exact length_of_readMember h

end RestClient.Text.Pattern
