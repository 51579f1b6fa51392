/-! # Identifiers

Which words the language keeps for itself, and which property names may stand bare. The bare names
are the ASCII identifiers: a letter, `_` or `$`, followed by letters, digits, `_` and `$`. Reserved
words are bare names too, because a property may be called by one. -/

namespace RestClient.TypeScript

/-- The words that cannot name a function. -/
def reservedWords : List String := [
  "break", "case", "catch", "class", "const", "continue", "debugger", "default", "delete", "do",
  "else", "enum", "export", "extends", "false", "finally", "for", "function", "if", "import", "in",
  "instanceof", "new", "null", "return", "super", "switch", "this", "throw", "true", "try",
  "typeof", "var", "void", "while", "with", "yield", "let", "static", "implements", "interface",
  "package", "private", "protected", "public", "await", "async"]

/-- A word that cannot name a function. -/
def isReserved (name : String) : Bool := reservedWords.contains name

/-- A character that a bare name may start with. -/
def isNameStart (c : Char) : Bool := c.isAlpha || c == '_' || c == '$'

/-- A character that a bare name may go on with. -/
def isNamePart (c : Char) : Bool := c.isAlphanum || c == '_' || c == '$'

/-- A property name that needs no quotes. -/
def isBareName (name : List Char) : Bool :=
  match name with
  | [] => false
  | c :: rest => isNameStart c && rest.all isNamePart

theorem isNamePart_of_isNameStart {c : Char} (h : isNameStart c = true) : isNamePart c = true := by
  simp only [isNameStart, isNamePart, Char.isAlphanum, Bool.or_eq_true] at h ⊢
  rcases h with (h | h) | h <;> simp [h]

/-- Every character of a bare name is a name character. -/
theorem all_isNamePart_of_isBareName {name : List Char} (h : isBareName name = true) :
    ∀ c ∈ name, isNamePart c = true := by
  cases name with
  | nil => simp
  | cons c rest =>
    simp only [isBareName, Bool.and_eq_true, List.all_eq_true] at h
    intro d hd
    rcases List.mem_cons.1 hd with rfl | hd
    · exact isNamePart_of_isNameStart h.1
    · exact h.2 d hd

end RestClient.TypeScript
