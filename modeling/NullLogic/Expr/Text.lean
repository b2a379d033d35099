import NullLogic.Expr.Basic

/-!
# Expressions as text

`Expr.text` writes an expression in the manner of SQL. An operand that is itself
an operator stands in parentheses, so nothing depends on precedence; calls,
`COALESCE` among them, and `CASE` delimit themselves and need none.
-/

namespace NullLogic

def JoinKind.text : JoinKind → String
  | inner => "INNER"
  | left => "LEFT"

namespace Expr

/-- Whether the text of the node has no delimiters of its own. -/
def isOpen : Expr → Bool
  | unary _ _ _ => true
  | binary .coalesce _ _ _ => false
  | binary _ _ _ _ => true
  | like _ _ _ => true
  | join _ _ _ => true
  | _ => false

/-- The text of `e` as an operand, given its text alone. -/
def operandText (e : Expr) (alone : String) : String :=
  if e.isOpen then "(" ++ alone ++ ")" else alone

def columnText (source name : String) : String :=
  if source = "" then name else source ++ "." ++ name

def parameterText (name : String) : String :=
  "@" ++ name

def unaryText (op : UnaryOp) (operand : String) : String :=
  match op with
  | .not => "NOT " ++ operand
  | .isNull => operand ++ " IS NULL"
  | .isNotNull => operand ++ " IS NOT NULL"
  | .negate => "-" ++ operand

mutual

def text : Expr → String
  | constant value _ => value.text
  | column source name _ _ => columnText source name
  | parameter name _ => parameterText name
  | unary op operand _ => unaryText op (operandText operand (text operand))
  | binary .coalesce left right _ => "COALESCE(" ++ text left ++ ", " ++ text right ++ ")"
  | binary op left right _ =>
      operandText left (text left) ++ " " ++ op.symbol ++ " " ++ operandText right (text right)
  | like subject pattern escape =>
      operandText subject (text subject) ++ " LIKE " ++ operandText pattern (text pattern) ++
        optionText " ESCAPE " "" escape
  | call name receiver args _ =>
      optionText "" "." receiver ++ name ++ "(" ++ ", ".intercalate (listText args) ++ ")"
  | caseWhen operand clauses otherwise _ =>
      "CASE" ++ optionText " " "" operand ++ clausesText clauses ++
        optionText " ELSE " "" otherwise ++ " END"
  | table name none => name
  | table name (some label) => name ++ " AS " ++ label
  | join kind source predicate =>
      kind.text ++ " JOIN " ++ text source ++ " ON " ++ text predicate

/-- An optional operand between two texts, and nothing in its absence. -/
def optionText (before after : String) : Option Expr → String
  | none => ""
  | some e => before ++ operandText e (text e) ++ after

def listText : List Expr → List String
  | [] => []
  | e :: es => text e :: listText es

def clausesText : List (Clause Expr) → String
  | [] => ""
  | ⟨test, result⟩ :: clauses =>
      " WHEN " ++ operandText test (text test) ++ " THEN " ++ operandText result (text result) ++
        clausesText clauses

end

theorem listText_eq (es : List Expr) : listText es = es.map text := by
  induction es with
  | nil => rfl
  | cons e es ih => simp [listText, ih]

end Expr

end NullLogic
