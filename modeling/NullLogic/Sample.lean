import NullLogic.Evaluate

/-!
# A sample table

The table `t` with two Boolean columns, `a` and `b`, and two columns of integers,
`x` and `y`; `a` and `x` may be `NULL`. With the parameters `q`, a truth value, and
`p`, an integer, it serves to tabulate predicates: `rows` binds all of these in
every way that truth values, `0`, `1` and `NULL` allow.
-/

namespace NullLogic

namespace Sample

def table : String := "t"

def a : Expr := .column table "a" .boolean true

def b : Expr := .column table "b" .boolean false

def x : Expr := .column table "x" .int64 true

def y : Expr := .column table "y" .int64 false

def q : Expr := .parameter "q" .boolean

def p : Expr := .parameter "p" .int64

def bools : List Value := [.bool true, .bool false]

def ints : List Value := [.int 0, .int 1]

def bindings (a b q x y p : Value) : Bindings :=
  (((((Bindings.empty.setColumn table "a" a).setColumn table "b" b).setParameter "q" q).setColumn
    table "x" x).setColumn table "y" y).setParameter "p" p

/-- All rows. The parameter `p` changes from each row to the next, `y` after all values
of `p`, and so on through `x`, `q`, `b` and `a`. -/
def rows : List Bindings :=
  (bools ++ [Value.null]).flatMap fun a =>
  bools.flatMap fun b =>
  (bools ++ [Value.null]).flatMap fun q =>
  (ints ++ [Value.null]).flatMap fun x =>
  ints.flatMap fun y =>
  (ints ++ [Value.null]).map fun p => bindings a b q x y p

def tabulate (reading : NullReading) (e : Expr) : List (Except EvalError Value) :=
  rows.map fun row => evaluate reading row e

end Sample

end NullLogic
