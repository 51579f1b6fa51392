import RestClient.Text.Blank

/-! # Documentation comments

A description becomes a comment of one line: its words, one space apart, with every comment end in
them broken up by a backslash. -/

namespace RestClient.TypeScript

open RestClient.Text

/-- A text in which no `*` is directly followed by a `/`: a backslash goes between them. -/
def breakCommentEnds : List Char → List Char
  | [] => []
  | '*' :: '/' :: rest => '*' :: '\\' :: '/' :: breakCommentEnds rest
  | c :: rest => c :: breakCommentEnds rest

/-- The words of a text on one line. -/
def onOneLine (s : List Char) : List Char := [' '].intercalate (words s)

/-- A text as a documentation comment. -/
def docComment (text : String) : String :=
  "/** " ++ String.ofList (breakCommentEnds (onOneLine text.toList)) ++ " */"

end RestClient.TypeScript
