import RestClient.TypeScript.Identifier

/-! # String literals and property keys

A string literal stands between double quotes, and inside it a backslash goes before every backslash
and every double quote. A property key is written bare where it can be and as a literal otherwise,
and a property is read with a dot or with brackets by the same rule. -/

namespace RestClient.TypeScript

/-- The inside of a string literal. -/
def escapeString (s : List Char) : List Char :=
  s.flatMap fun c => if c = '\\' ∨ c = '"' then ['\\', c] else [c]

/-- A text as a string literal. -/
def stringLiteral (s : String) : String :=
  "\"" ++ String.ofList (escapeString s.toList) ++ "\""

/-- A property key, quoted only where a bare name would not do. -/
def propertyKey (name : String) : String :=
  if isBareName name.toList then name else stringLiteral name

/-- The property `name` of the value that `object` denotes. -/
def propertyAccess (object name : String) : String :=
  if isBareName name.toList then object ++ "." ++ name
  else object ++ "[" ++ stringLiteral name ++ "]"

theorem escapeString_append (s t : List Char) :
    escapeString (s ++ t) = escapeString s ++ escapeString t := List.flatMap_append

end RestClient.TypeScript
