import NullLogic.Expr.Children

/-!
# Expressions without their types

`erase` forgets what the text of an expression does not show: the types of all
nodes, and whether columns may be `NULL`.
-/

namespace NullLogic

namespace Expr

def eraseNode : Expr → Expr
  | constant value _ => constant value .null
  | column source name _ _ => column source name .null false
  | parameter name _ => parameter name .null
  | unary op operand _ => unary op operand .null
  | binary op left right _ => binary op left right .null
  | like subject pattern escape => like subject pattern escape
  | call name receiver args _ => call name receiver args .null
  | caseWhen operand clauses otherwise _ => caseWhen operand clauses otherwise .null
  | table name label => table name label
  | join kind source predicate => join kind source predicate

def erase (e : Expr) : Expr :=
  e.fold fun e below => (e.refill below).eraseNode

theorem erase_eq (e : Expr) : e.erase = (e.refill (e.children.map erase)).eraseNode :=
  fold_eq _ e

end Expr

end NullLogic
