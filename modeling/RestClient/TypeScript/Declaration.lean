import RestClient.Text.Blank
import RestClient.Text.Lines

/-! # Fields, object types and declarations

Types arrive as text, so declarations are put together as text.

* `Field.format` writes one field of an object type;
* `objectBody` puts entries of any number of lines between braces, indented by one level;
* `DeclarationKind.ofBody` chooses how a body is declared: an interface for an object type, an alias
  for all else, in particular for a union or intersection of object types;
* `declaration` writes an exported declaration. -/

namespace RestClient.TypeScript

open RestClient.Text

/-- A field of an object type. -/
structure Field where
  /-- The property key, quoted where it has to be. -/
  key : String
  /-- The type of the property. -/
  type : String
  /-- A field that is not required carries a question mark. -/
  required : Bool
  /-- A field that cannot be assigned. -/
  readonly : Bool := false
  deriving DecidableEq, Repr

/-- A field as written in an object type. -/
def Field.format (field : Field) : String :=
  (if field.readonly then "readonly " else "") ++ field.key ++
    (if field.required then "" else "?") ++ ": " ++ field.type ++ ";"

/-- The two forms of a declaration. -/
inductive DeclarationKind where
  /-- A name for any type. -/
  | typeAlias
  /-- A named object type. -/
  | interface
  deriving DecidableEq, Repr

/-- Whether a union or intersection sign stands outside all braces, counted from a depth. A closing
brace without its opening one leaves the depth at zero. -/
def joinsOutside : Nat → List Char → Bool
  | _, [] => false
  | depth, c :: rest =>
    if c = '{' then joinsOutside (depth + 1) rest
    else if c = '}' then joinsOutside (depth - 1) rest
    else if (c = '|' ∨ c = '&') ∧ depth = 0 then true
    else joinsOutside depth rest

/-- How a body is declared: as an interface iff it starts with a brace, blanks apart, and is no
union or intersection. -/
def DeclarationKind.ofBody (body : List Char) : DeclarationKind :=
  if (trimStart body).head? = some '{' ∧ joinsOutside 0 body = false then .interface else .typeAlias

/-- The exported declaration of a name. -/
def declaration (name body : String) : String :=
  match DeclarationKind.ofBody body.toList with
  | .typeAlias => "export type " ++ name ++ " = " ++ body ++ ";"
  | .interface => "export interface " ++ name ++ " " ++ body

/-- The body of an object type with the given entries, each of any number of lines. -/
def objectBody (entries : List String) : String :=
  if entries.isEmpty then "\x7b\x7d"
  else
    "\x7b\n" ++
      String.ofList (entries.flatMap fun entry => indentLines [' ', ' '] entry.toList) ++ "\x7d"

end RestClient.TypeScript
