import RestClient.TypeScript.Expr

/-! # Statements and functions

A statement is printed on lines of its own, two spaces further in for each block around it. A
function is exported, asynchronous, and holds its body one level in. -/

namespace RestClient.TypeScript

/-- The two kinds of variables. -/
inductive VariableKind where
  /-- A variable that keeps its first value. -/
  | constant
  /-- A variable that may be assigned. -/
  | mutable
  deriving DecidableEq, Repr

/-- The word that declares a variable. -/
def VariableKind.keyword : VariableKind → String
  | .constant => "const"
  | .mutable => "let"

/-- A statement. -/
inductive Stmt where
  /-- The declaration of a variable. -/
  | declare (kind : VariableKind) (name : String) (type : Option TypeExpr) (value : Option Expr)
  /-- An assignment. -/
  | assign (name : String) (value : Expr)
  /-- The end of the function with its value. -/
  | result (value : Expr)
  /-- A choice between two blocks. -/
  | branch (condition : Expr) (consequent alternative : List Stmt)

/-- The declaration of a variable that keeps its value. -/
def Stmt.constant (name : String) (value : Expr) : Stmt := .declare .constant name none (some value)

/-- The blanks before a statement at a depth. -/
def indentation (depth : Nat) : String := String.ofList (List.replicate (2 * depth) ' ')

mutual

/-- The lines of a statement at a depth. -/
def Stmt.print (depth : Nat) : Stmt → String
  | .declare kind name type value =>
    indentation depth ++ kind.keyword ++ " " ++ name ++
      (match type with
        | none => ""
        | some type => ": " ++ type.print) ++
      (match value with
        | none => ""
        | some value => " = " ++ value.print) ++ ";\n"
  | .assign name value => indentation depth ++ name ++ " = " ++ value.print ++ ";\n"
  | .result value => indentation depth ++ "return " ++ value.print ++ ";\n"
  | .branch condition consequent alternative =>
    indentation depth ++ "if (" ++ condition.print ++ ") \x7b\n" ++
      Stmt.printAll (depth + 1) consequent ++
      indentation depth ++ "\x7d else \x7b\n" ++
      Stmt.printAll (depth + 1) alternative ++
      indentation depth ++ "\x7d\n"

/-- The lines of statements at a depth. -/
def Stmt.printAll (depth : Nat) : List Stmt → String
  | [] => ""
  | s :: rest => s.print depth ++ Stmt.printAll depth rest

end

/-- A parameter of a function. -/
structure Parameter where
  /-- The variable that holds the argument. -/
  name : String
  /-- The type of the argument. -/
  type : TypeExpr
  /-- The value of a missing argument. -/
  default : Option Expr

/-- The text of a parameter. -/
def Parameter.print (parameter : Parameter) : String :=
  parameter.name ++ ": " ++ parameter.type.print ++
    match parameter.default with
    | none => ""
    | some value => " = " ++ value.print

/-- An exported asynchronous function. -/
structure Function where
  /-- The name of the function. -/
  name : String
  /-- The parameters in order. -/
  parameters : List Parameter
  /-- The type of the value. -/
  returnType : TypeExpr
  /-- The statements in order. -/
  body : List Stmt

/-- The lines of a function. -/
def Function.print (f : Function) : String :=
  "export async function " ++ f.name ++ "(" ++
    ", ".intercalate (f.parameters.map Parameter.print) ++ "): " ++ f.returnType.print ++
    " \x7b\n" ++ Stmt.printAll 1 f.body ++ "\x7d\n"

end RestClient.TypeScript
