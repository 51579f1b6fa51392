/-! # Text inside template literals

Static text of a template literal: a backslash goes before every backslash, every back quote and
every dollar sign that a brace follows, so that the text neither ends the literal nor opens a
substitution. -/

namespace RestClient.TypeScript

/-- The back quote, which delimits template literals. -/
def backquote : Char := '\x60'

/-- Static text as it stands in a template literal. -/
def escapeTemplate : List Char → List Char
  | [] => []
  | '$' :: '{' :: rest => '\\' :: '$' :: '{' :: escapeTemplate rest
  | c :: rest =>
    if c = '\\' ∨ c = backquote then '\\' :: c :: escapeTemplate rest
    else c :: escapeTemplate rest

end RestClient.TypeScript
