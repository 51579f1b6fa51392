import RestClient.Proofs.TypeScript.Access
import RestClient.TypeScript.Stmt

/-! # What a function reads of a variable

The properties of a variable that a function reads, wherever the variable occurs in its expressions:
as a property by its bare name, or in code that is written out. -/

namespace RestClient.TypeScript

/-- Whether an expression is the variable of a name. -/
def Expr.isVariable (name : String) : Expr → Bool
  | .identifier name' => name' == name
  | _ => false

/-- The properties of a variable that code reads which is written out. -/
def codeReads (object code : String) : List String :=
  (accesses object.toList code.toList).map String.ofList

/-- **A property access reads the property it was written for and no other.** -/
theorem codeReads_propertyAccess {object : String} (name : String)
    (h : isBareName object.toList = true) :
    codeReads object (propertyAccess object name) = [name] := by
  rw [codeReads, accesses_propertyAccess name h, List.map_singleton, String.ofList_toList]

mutual

/-- The properties of a variable that an expression reads. -/
def Expr.reads (object : String) : Expr → List String
  | .identifier _ => []
  | .literal _ => []
  | .call callee arguments => callee.reads object ++ Expr.readsAll object arguments
  | .object entries => Entry.readsAll object entries
  | .member operand property =>
    (if operand.isVariable object then [property] else []) ++ operand.reads object
  | .template parts => Part.readsAll object parts
  | .await operand => operand.reads object
  | .nullish left right => left.reads object ++ right.reads object
  | .conditional condition consequent alternative =>
    condition.reads object ++ consequent.reads object ++ alternative.reads object
  | .cast operand _ => operand.reads object
  | .raw code => codeReads object code

/-- The properties of a variable that expressions read. -/
def Expr.readsAll (object : String) : List Expr → List String
  | [] => []
  | e :: es => e.reads object ++ Expr.readsAll object es

/-- The properties of a variable that an entry of an object literal reads. -/
def Entry.reads (object : String) : Entry → List String
  | .property _ value => value.reads object
  | .shorthand _ => []
  | .spread operand => operand.reads object

/-- The properties of a variable that the entries of an object literal read. -/
def Entry.readsAll (object : String) : List Entry → List String
  | [] => []
  | entry :: entries => entry.reads object ++ Entry.readsAll object entries

/-- The properties of a variable that a part of a template literal reads. -/
def Part.reads (object : String) : Part → List String
  | .text _ => []
  | .substitution operand => operand.reads object

/-- The properties of a variable that the parts of a template literal read. -/
def Part.readsAll (object : String) : List Part → List String
  | [] => []
  | part :: parts => part.reads object ++ Part.readsAll object parts

end

mutual

/-- The properties of a variable that a statement reads. -/
def Stmt.reads (object : String) : Stmt → List String
  | .declare _ _ _ none => []
  | .declare _ _ _ (some value) => value.reads object
  | .assign _ value => value.reads object
  | .result value => value.reads object
  | .branch condition consequent alternative =>
    condition.reads object ++ Stmt.readsAll object consequent ++ Stmt.readsAll object alternative

/-- The properties of a variable that statements read. -/
def Stmt.readsAll (object : String) : List Stmt → List String
  | [] => []
  | s :: rest => s.reads object ++ Stmt.readsAll object rest

end

/-- The properties of a variable that a function reads. -/
def Function.reads (object : String) (f : Function) : List String :=
  Expr.readsAll object (f.parameters.filterMap Parameter.default) ++ Stmt.readsAll object f.body

variable {object : String}

theorem Entry.readsAll_append (entries entries' : List Entry) :
    Entry.readsAll object (entries ++ entries') =
      Entry.readsAll object entries ++ Entry.readsAll object entries' := by
  induction entries with
  | nil => rfl
  | cons entry entries ih =>
    rw [List.cons_append, Entry.readsAll, ih, Entry.readsAll, List.append_assoc]

theorem Part.readsAll_append (parts parts' : List Part) :
    Part.readsAll object (parts ++ parts') =
      Part.readsAll object parts ++ Part.readsAll object parts' := by
  induction parts with
  | nil => rfl
  | cons part parts ih =>
    rw [List.cons_append, Part.readsAll, ih, Part.readsAll, List.append_assoc]

theorem Stmt.readsAll_append (stmts stmts' : List Stmt) :
    Stmt.readsAll object (stmts ++ stmts') =
      Stmt.readsAll object stmts ++ Stmt.readsAll object stmts' := by
  induction stmts with
  | nil => rfl
  | cons stmt stmts ih =>
    rw [List.cons_append, Stmt.readsAll, ih, Stmt.readsAll, List.append_assoc]

end RestClient.TypeScript
