import NullLogic.Expr.Basic
import NullLogic.Expr.Token

/-!
# Reading expressions

`Expr.Parse.expr` reads the text of an expression back. What the text does not show is left
open: all types are `null`, and no column may be `NULL`.

An operand is an atom, a call, a `CASE` or an expression in parentheses, and any of them may
be the receiver of calls that follow it. An expression is a prefix operator with its operand,
or an operand and the rest of an operator that stands behind it.

Every function takes the number of calls that may be nested in it, and gives nothing if it
needs more.
-/

namespace NullLogic

namespace Expr

namespace Parse

open Token

/-- What a word stands for that is not the name of a call. -/
def atom (w : String) : Expr :=
  if w = "NULL" then constant .null .null
  else if w = "TRUE" then constant (.bool true) .null
  else if w = "FALSE" then constant (.bool false) .null
  else if w.toList.head?.any Char.isDigit then
    constant (.int (Int64.ofNat (Nat.ofDigitChars 10 w.toList 0))) .null
  else column "" w .null false

/-- The call without a receiver, or `COALESCE`, which is written as a call. -/
def application (name : String) (args : List Expr) : Expr :=
  match args with
  | [left, right] =>
      if name = "COALESCE" then binary .coalesce left right .null
      else call name none args .null
  | args => call name none args .null

/-- The operators that stand between their operands. -/
def operators : List BinaryOp :=
  [.comparison .equal, .comparison .notEqual, .comparison .less, .comparison .lessEqual,
    .comparison .greater, .comparison .greaterEqual, .connective .and, .connective .or,
    .arithmetic .add, .arithmetic .subtract, .arithmetic .multiply, .arithmetic .divide,
    .arithmetic .modulo]

/-- An operator and the blank after it. -/
def operator? (ts : List Token) : Option (BinaryOp × List Token) :=
  operators.findSome? fun op =>
    (skip (scan (op.symbol.toList ++ [' '])) ts).map fun rest => (op, rest)

/-- Whether the next part of a `CASE` begins, rather than its operand. -/
def endsSubject : List Token → Bool
  | word w :: _ => w ∈ ["WHEN", "ELSE", "END"]
  | _ => false

mutual

/-- An expression that stands alone. -/
def expr : Nat → List Token → Option (Expr × List Token)
  | 0, _ => none
  | n + 1, ts =>
      match ts with
      | mark '-' :: ts => do
          let (x, ts) ← operand n ts
          some (unary .negate x .null, ts)
      | word "NOT" :: mark ' ' :: ts => do
          let (x, ts) ← operand n ts
          some (unary .not x .null, ts)
      | ts => do
          let (x, ts) ← operand n ts
          continued n x ts

/-- The operator behind the operand `x`, if there is one. -/
def continued : Nat → Expr → List Token → Option (Expr × List Token)
  | 0, _, _ => none
  | n + 1, x, ts =>
      match ts with
      | mark ' ' :: word "IS" :: mark ' ' :: word "NULL" :: ts => some (unary .isNull x .null, ts)
      | mark ' ' :: word "IS" :: mark ' ' :: word "NOT" :: mark ' ' :: word "NULL" :: ts =>
          some (unary .isNotNull x .null, ts)
      | mark ' ' :: word "LIKE" :: mark ' ' :: ts => do
          let (pattern, ts) ← operand n ts
          let (escape, ts) ← optional n "ESCAPE" ts
          some (like x pattern escape, ts)
      | mark ' ' :: ts => do
          let (op, ts) ← operator? ts
          let (y, ts) ← operand n ts
          some (binary op x y .null, ts)
      | ts => some (x, ts)

/-- An expression of which the end can be seen. -/
def operand : Nat → List Token → Option (Expr × List Token)
  | 0, _ => none
  | n + 1, ts =>
      match ts with
      | mark '(' :: ts => do
          let (x, ts) ← expr n ts
          let ts ← skip [mark ')'] ts
          calls n x ts
      | mark '@' :: word name :: ts => calls n (parameter name .null) ts
      | quoted s :: ts => calls n (constant (.string s) .null) ts
      | word w :: ts =>
          if w = "CASE" then do
            let (x, ts) ← subject n ts
            let (clauses, ts) ← branches n ts
            let (otherwise, ts) ← optional n "ELSE" ts
            let ts ← skip [mark ' ', word "END"] ts
            calls n (caseWhen x clauses otherwise .null) ts
          else named n w ts
      | _ => none

/-- What begins with a word. After a point it may be a column or a method of what the word
stands for. -/
def named : Nat → String → List Token → Option (Expr × List Token)
  | 0, _, _ => none
  | n + 1, w, ts =>
      match ts with
      | mark '(' :: ts => do
          let (args, ts) ← arguments n ts
          calls n (application w args) ts
      | mark '.' :: word name :: mark '(' :: ts =>
          calls n (atom w) (mark '.' :: word name :: mark '(' :: ts)
      | mark '.' :: word name :: ts => calls n (column w name .null false) ts
      | ts => calls n (atom w) ts

/-- The calls of methods of `x`. -/
def calls : Nat → Expr → List Token → Option (Expr × List Token)
  | 0, _, _ => none
  | n + 1, x, ts =>
      match ts with
      | mark '.' :: word name :: mark '(' :: ts => do
          let (args, ts) ← arguments n ts
          calls n (call name (some x) args .null) ts
      | ts => some (x, ts)

/-- The arguments of a call, with the parenthesis after them. -/
def arguments : Nat → List Token → Option (List Expr × List Token)
  | 0, _ => none
  | n + 1, ts =>
      match ts with
      | mark ')' :: ts => some ([], ts)
      | ts => do
          let (x, ts) ← expr n ts
          match ts with
          | mark ')' :: ts => some ([x], ts)
          | ts => do
              let ts ← skip [mark ',', mark ' '] ts
              let (xs, ts) ← arguments n ts
              some (x :: xs, ts)

/-- The operand of a `CASE`. -/
def subject : Nat → List Token → Option (Option Expr × List Token)
  | 0, _ => none
  | n + 1, ts => do
      let rest ← skip [mark ' '] ts
      if endsSubject rest then some (none, ts)
      else do
        let (x, ts) ← operand n rest
        some (some x, ts)

def branches : Nat → List Token → Option (List (Clause Expr) × List Token)
  | 0, _ => none
  | n + 1, ts =>
      match ts with
      | mark ' ' :: word "WHEN" :: mark ' ' :: ts => do
          let (test, ts) ← operand n ts
          let ts ← skip [mark ' ', word "THEN", mark ' '] ts
          let (result, ts) ← operand n ts
          let (clauses, ts) ← branches n ts
          some (⟨test, result⟩ :: clauses, ts)
      | ts => some ([], ts)

/-- An operand that the keyword introduces, if it is there. -/
def optional : Nat → String → List Token → Option (Option Expr × List Token)
  | 0, _, _ => none
  | n + 1, keyword, ts =>
      match skip [mark ' ', word keyword, mark ' '] ts with
      | none => some (none, ts)
      | some ts => do
          let (x, ts) ← operand n ts
          some (some x, ts)

end

end Parse

end Expr

end NullLogic
