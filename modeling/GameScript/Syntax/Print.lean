import GameScript.Syntax

/-!
# Printing syntax

The text forms of expressions, statements and declarations. An operation is
written in parentheses, so the text shows the tree: `((a + b) * c)`, `(-x)`.
A string literal is written between double quotes exactly as it is (no
escapes), a number as the language formats it, a call as `f(a, b)`. A
statement reads as its source form (`x += (a * b);`, `f(a);`), an `if` as a
summary of its body, and a declaration as a summary of its members.
-/

namespace GameScript

/-- The text of a literal. -/
def Literal.render : Literal → String
  | .number x => formatFloat x
  | .text s => "\"" ++ s ++ "\""
  | .boolean b => if b then "true" else "false"

mutual

/-- The text of an expression. -/
def Expr.render : Expr → String
  | .literal value _ => value.render
  | .identifier name _ => name
  | .unary op operand _ => "(" ++ op.symbol ++ operand.render ++ ")"
  | .binary op left right _ => "(" ++ left.render ++ " " ++ op.symbol ++ " " ++ right.render ++ ")"
  | .call name args _ => name ++ "(" ++ Expr.renderList args ++ ")"

/-- Expressions separated by commas. -/
def Expr.renderList : List Expr → String
  | [] => ""
  | [e] => e.render
  | e :: rest => e.render ++ ", " ++ Expr.renderList rest

end

/-- The text of a statement. -/
def Stmt.render : Stmt → String
  | .assign target op value _ => target ++ " " ++ op.symbol ++ " " ++ value.render ++ ";"
  | .ifThen condition body _ =>
    "if " ++ condition.render ++ " \x7b " ++ digitText body.length ++ " statement(s) \x7d"
  | .call function args _ => function ++ "(" ++ Expr.renderList args ++ ");"
  | .unknown token _ => "<unknown " ++ Text.quote token ++ ">"

/-- The summary of a declaration. -/
def Declaration.summary (d : Declaration) : String :=
  "component " ++ d.name ++ " (" ++ digitText d.fields.length ++ " fields, " ++
    digitText d.methods.length ++ " methods)"

end GameScript
