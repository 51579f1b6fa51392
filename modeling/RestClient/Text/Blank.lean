/-! # Blanks in texts

The blanks are the characters of the Unicode property `White_Space`. A zero-width space, a byte
order mark and the information separators are not among them.

* `trim` and its two halves take the blanks off the ends of a text;
* `words` are the maximal runs of other characters;
* `isBlankText` says that a text holds nothing else. -/

namespace RestClient.Text

/-- The characters of the Unicode property `White_Space`. -/
def isBlank (c : Char) : Bool :=
  let n := c.toNat
  (0x09 ≤ n && n ≤ 0x0D) || n == 0x20 || n == 0x85 || n == 0xA0 || n == 0x1680 ||
    (0x2000 ≤ n && n ≤ 0x200A) || n == 0x2028 || n == 0x2029 || n == 0x202F || n == 0x205F ||
    n == 0x3000

/-- A text without the blanks at its start. -/
def trimStart (s : List Char) : List Char := s.dropWhile isBlank

/-- A text without the blanks at its end. -/
def trimEnd (s : List Char) : List Char := (s.reverse.dropWhile isBlank).reverse

/-- A text without the blanks at both ends. -/
def trim (s : List Char) : List Char := trimEnd (trimStart s)

/-- The maximal runs of characters that are no blanks, in order. -/
def words (s : List Char) : List (List Char) := (s.splitOnP isBlank).filter fun w => !w.isEmpty

/-- A text of blanks only. -/
def isBlankText (s : List Char) : Bool := s.all isBlank

end RestClient.Text
