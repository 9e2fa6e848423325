import GameScript.Token
import GameScript.Value.Operator

/-!
# Syntax of the script language

A script declares components. A component has typed fields, each with an
optional initial expression, and methods with typed parameters and a body of
statements. Statements assign (plainly or with a compound operator), branch on
a condition, call a function, or are a single token the reader could not
place. Expressions are literals, names, prefix and binary operations, and
calls.

Nodes keep where they were read: an expression its line and column, a
statement or declaration its line.
-/

namespace GameScript

/-- A literal: a number (always a double), a string or a boolean. -/
inductive Literal where
  | number (x : Float)
  | text (s : String)
  | boolean (b : Bool)
  deriving Inhabited

/-- The value a literal denotes. -/
def Literal.value : Literal → Value
  | .number x => .float x 0
  | .text s => .str s
  | .boolean b => .bool b

/-- An expression. -/
inductive Expr where
  | literal (value : Literal) (position : Position)
  | identifier (name : String) (position : Position)
  | unary (op : UnaryOp) (operand : Expr) (position : Position)
  | binary (op : BinOp) (left right : Expr) (position : Position)
  | call (name : String) (args : List Expr) (position : Position)
  deriving Inhabited

/-- An assignment operator: plain, or compound with a binary operator. -/
inductive AssignOp where
  | set
  | compound (op : BinOp)
  deriving Repr, DecidableEq, Inhabited

/-- A statement. -/
inductive Stmt where
  | assign (target : String) (op : AssignOp) (value : Expr) (line : Nat)
  | ifThen (condition : Expr) (body : List Stmt) (line : Nat)
  | call (function : String) (args : List Expr) (line : Nat)
  | unknown (token : String) (line : Nat)
  deriving Inhabited

/-- A typed parameter. -/
structure Param where
  dataType : String
  name : String
  deriving Repr, DecidableEq, Inhabited

/-- A field: its type, name, optional initial expression and line. -/
structure FieldDecl where
  dataType : String
  name : String
  init : Option Expr
  line : Nat
  deriving Inhabited

/-- A method: name, parameters, body and the line of `fn`. -/
structure MethodDecl where
  name : String
  params : List Param
  body : List Stmt
  line : Nat
  deriving Inhabited

/-- A component declaration: name, fields and methods in source order, and the line of `component`. -/
structure Declaration where
  name : String
  fields : List FieldDecl
  methods : List MethodDecl
  line : Nat
  deriving Inhabited

namespace AssignOp

/-- How the operator is written. -/
def symbol : AssignOp → String
  | .set => "="
  | .compound op => op.symbol ++ "="

end AssignOp

namespace Declaration

/--
The methods by name: a later method of the same name replaces an earlier one
and takes its place in the order.
-/
def methodTable (d : Declaration) : List (String × MethodDecl) :=
  d.methods.foldl (fun table m =>
    if table.any (·.1 == m.name) then
      table.map (fun entry => if entry.1 == m.name then (m.name, m) else entry)
    else table ++ [(m.name, m)]) []

end Declaration

end GameScript
