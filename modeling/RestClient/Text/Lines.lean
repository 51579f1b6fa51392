/-! # The lines of a text

A line ends at a line feed, together with one carriage return right before it. A carriage return
elsewhere, also at the very end of the text, belongs to its line, and a text that ends in a line
feed has no empty line after it. -/

namespace RestClient.Text

/-- A line without the carriage return that belonged to its line end. -/
def dropReturn (line : List Char) : List Char :=
  if line.getLast? = some '\r' then line.dropLast else line

/-- The lines of a text, without their ends. -/
def lines (s : List Char) : List (List Char) :=
  let pieces := s.splitOn '\n'
  pieces.dropLast.map dropReturn ++ pieces.getLast?.toList.filter fun l => !l.isEmpty

/-- The part of a text that stands before every line of it: each line is put after `margin` and
ended by a line feed. -/
def indentLines (margin : List Char) (s : List Char) : List Char :=
  (lines s).flatMap fun line => margin ++ line ++ ['\n']

theorem lines_nil : lines [] = [] := rfl

theorem indentLines_nil (margin : List Char) : indentLines margin [] = [] := rfl

end RestClient.Text
