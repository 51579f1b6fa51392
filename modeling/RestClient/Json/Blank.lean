/-! # Blanks and literals

JSON knows four blanks. They may stand before every token, so a reader drops them before it looks at
the next character. -/

namespace RestClient.Json

/-- The blanks of JSON. -/
def isBlank (c : Char) : Bool := c == ' ' || c == '\n' || c == '\t' || c == '\r'

/-- A text from its first character that is no blank. -/
def dropBlanks (s : List Char) : List Char := s.dropWhile isBlank

theorem length_dropBlanks_le (s : List Char) : (dropBlanks s).length ≤ s.length :=
  (List.dropWhile_sublist _).length_le

/-- What stands behind the first character that is no blank is shorter than the whole. -/
theorem length_lt_of_dropBlanks {s r : List Char} {c : Char} (h : dropBlanks s = c :: r) :
    r.length < s.length := by
  have := length_dropBlanks_le s
  rw [h, List.length_cons] at this
  omega

end RestClient.Json
