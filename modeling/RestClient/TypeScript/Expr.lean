import RestClient.TypeScript.Literal

/-! # Expressions

The expressions that a request function is made of, and their text. An expression is printed on one
line, without parentheses of its own: the generator only nests expressions that need none.

* `TypeExpr.print`, `Expr.print`, `Entry.print` and `Part.print` give the text of each kind of node;
* `Expr.printAll_eq_map` and its companions say that a list of nodes is printed node by node. -/

namespace RestClient.TypeScript

/-- A type annotation. -/
inductive TypeExpr where
  /-- A type by its name, or any type already written out. -/
  | named (name : String)
  /-- The promise of a value. -/
  | promise (inner : TypeExpr)
  /-- The type of all values. -/
  | any
  deriving DecidableEq, Repr

mutual

/-- An expression. -/
inductive Expr where
  /-- A variable. -/
  | identifier (name : String)
  /-- A string literal with the given value. -/
  | literal (value : String)
  /-- A function call. -/
  | call (callee : Expr) (arguments : List Expr)
  /-- An object literal. -/
  | object (entries : List Entry)
  /-- A property by its bare name. -/
  | member (object : Expr) (property : String)
  /-- A template literal. -/
  | template (parts : List Part)
  /-- An awaited promise. -/
  | await (operand : Expr)
  /-- The left operand unless it is missing, else the right one. -/
  | nullish (left right : Expr)
  /-- A choice between two values. -/
  | conditional (condition consequent alternative : Expr)
  /-- An expression taken at another type. -/
  | cast (operand : Expr) (type : TypeExpr)
  /-- Code written out. -/
  | raw (code : String)

/-- An entry of an object literal. -/
inductive Entry where
  /-- A property with its value. -/
  | property (key : String) (value : Expr)
  /-- A property called like the variable that holds its value. -/
  | shorthand (name : String)
  /-- All properties of another object. -/
  | spread (operand : Expr)

/-- A part of a template literal. -/
inductive Part where
  /-- Text as it stands in the literal, already escaped. -/
  | text (text : String)
  /-- A substituted value. -/
  | substitution (operand : Expr)

end

/-! ### Text -/

/-- The text of a type annotation. -/
def TypeExpr.print : TypeExpr → String
  | .named name => name
  | .promise inner => "Promise<" ++ inner.print ++ ">"
  | .any => "any"

mutual

/-- The text of an expression. -/
def Expr.print : Expr → String
  | .identifier name => name
  | .literal value => stringLiteral value
  | .call callee arguments =>
    callee.print ++ "(" ++ ", ".intercalate (Expr.printAll arguments) ++ ")"
  | .object [] => "\x7b\x7d"
  | .object (entry :: entries) =>
    "\x7b " ++ ", ".intercalate (entry.print :: Entry.printAll entries) ++ " \x7d"
  | .member object property => object.print ++ "." ++ property
  | .template parts => "\x60" ++ String.join (Part.printAll parts) ++ "\x60"
  | .await operand => "await " ++ operand.print
  | .nullish left right => left.print ++ " ?? " ++ right.print
  | .conditional condition consequent alternative =>
    condition.print ++ " ? " ++ consequent.print ++ " : " ++ alternative.print
  | .cast operand type => operand.print ++ " as " ++ type.print
  | .raw code => code

/-- The texts of expressions. -/
def Expr.printAll : List Expr → List String
  | [] => []
  | e :: es => e.print :: Expr.printAll es

/-- The text of an entry of an object literal. -/
def Entry.print : Entry → String
  | .property key value => propertyKey key ++ ": " ++ value.print
  | .shorthand name => name
  | .spread operand => "..." ++ operand.print

/-- The texts of the entries of an object literal. -/
def Entry.printAll : List Entry → List String
  | [] => []
  | entry :: entries => entry.print :: Entry.printAll entries

/-- The text of a part of a template literal. -/
def Part.print : Part → String
  | .text text => text
  | .substitution operand => "$\x7b" ++ operand.print ++ "\x7d"

/-- The texts of the parts of a template literal. -/
def Part.printAll : List Part → List String
  | [] => []
  | part :: parts => part.print :: Part.printAll parts

end

/-! ### Lists of nodes -/

theorem Expr.printAll_eq_map (es : List Expr) : Expr.printAll es = es.map Expr.print := by
  induction es with
  | nil => rfl
  | cons e es ih => rw [Expr.printAll, ih, List.map_cons]

theorem Entry.printAll_eq_map (entries : List Entry) :
    Entry.printAll entries = entries.map Entry.print := by
  induction entries with
  | nil => rfl
  | cons entry entries ih => rw [Entry.printAll, ih, List.map_cons]

theorem Part.printAll_eq_map (parts : List Part) :
    Part.printAll parts = parts.map Part.print := by
  induction parts with
  | nil => rfl
  | cons part parts ih => rw [Part.printAll, ih, List.map_cons]

end RestClient.TypeScript
