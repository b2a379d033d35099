import NullLogic.Expr.Nodes
import NullLogic.Expr.Token

/-!
# Plain expressions

An expression is `Plain` if its text shows what it is: its names are identifiers and none of
the words that texts are made of, it has no numbers that are negative or of double
precision, and it has no relations.
-/

namespace NullLogic

/-- The words that the text of an expression has besides names and numbers. -/
def keywords : List String :=
  ["NULL", "TRUE", "FALSE", "NOT", "IS", "AND", "OR", "LIKE", "ESCAPE", "CASE", "WHEN", "THEN",
    "ELSE", "END", "COALESCE"]

/-- A letter or an underscore, and more of these and of digits. -/
def IsIdentifier (s : String) : Prop :=
  s.toList.head?.any (fun c => c.isAlpha || c = '_') = true ∧
    s.toList.all Token.isWordChar = true

def IsName (s : String) : Prop :=
  IsIdentifier s ∧ s ∉ keywords

instance (s : String) : Decidable (IsIdentifier s) :=
  inferInstanceAs (Decidable (_ ∧ _))

instance (s : String) : Decidable (IsName s) :=
  inferInstanceAs (Decidable (_ ∧ _))

def Value.Plain : Value → Prop
  | int n => 0 ≤ n.toInt
  | float _ => False
  | _ => True

instance : DecidablePred Value.Plain
  | .int n => inferInstanceAs (Decidable (0 ≤ n.toInt))
  | .float _ => isFalse id
  | .null | .bool _ | .string _ => isTrue trivial

namespace Expr

def PlainNode : Expr → Prop
  | constant value _ => value.Plain
  | column source name _ _ => (source = "" ∨ IsName source) ∧ IsName name
  | parameter name _ => IsName name
  | call name _ _ _ => IsName name
  | table _ _ | join _ _ _ => False
  | _ => True

instance : DecidablePred PlainNode
  | constant value _ => inferInstanceAs (Decidable value.Plain)
  | column source name _ _ =>
      inferInstanceAs (Decidable ((source = "" ∨ IsName source) ∧ IsName name))
  | parameter name _ => inferInstanceAs (Decidable (IsName name))
  | call name _ _ _ => inferInstanceAs (Decidable (IsName name))
  | table _ _ | join _ _ _ => isFalse id
  | unary _ _ _ | binary _ _ _ _ | like _ _ _ | caseWhen _ _ _ _ => isTrue trivial

def Plain (e : Expr) : Prop :=
  Everywhere PlainNode e

instance (e : Expr) : Decidable e.Plain :=
  inferInstanceAs (Decidable (Everywhere PlainNode e))

end Expr

end NullLogic
