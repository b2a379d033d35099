import NullLogic.Checked

/-!
# Replacing children one by one

`Expr.withChildren` puts all new children into a node at once. `Expr.rebuilt` comes to the same
by steps: it compares the numbers, gives back the node itself if all its children are kept, and
otherwise goes through the places for children in order and fills each with the next of the new
ones.

Two faults are internal. The new children may run out before the places do, and a node without
places may be asked to fill them.
-/

namespace NullLogic

/-- Why a node is not rebuilt. -/
inductive RebuildError where
  | refused (cause : BuildError)
  | internal (reason : String)

namespace Expr

/-- A step that takes from the new children those it needs. -/
abbrev Filling := StateT (List Expr) (Except RebuildError)

/-- The next of the new children. -/
def nextChild : Filling Expr := fun news =>
  match news with
  | [] => .error (.internal "child count verified above")
  | new :: rest => .ok (new, rest)

def nextClause : Filling (Clause Expr) :=
  return ⟨← nextChild, ← nextChild⟩

/-- The node with all its places filled. -/
def filled (e : Expr) : Filling Expr :=
  match e with
  | constant _ _ | column _ _ _ _ | parameter _ _ | table _ _ =>
      throw (.internal "leaf nodes have no children")
  | unary op _ type => return unary op (← nextChild) type
  | binary op _ _ type => return binary op (← nextChild) (← nextChild) type
  | like _ _ escape => do
      let subject ← nextChild
      let pattern ← nextChild
      let escape ← escape.mapM fun _ => nextChild
      return like subject pattern escape
  | call name receiver args type => do
      let receiver ← receiver.mapM fun _ => nextChild
      let args ← args.mapM fun _ => nextChild
      return call name receiver args type
  | caseWhen operand clauses otherwise type => do
      let operand ← operand.mapM fun _ => nextChild
      let clauses ← clauses.mapM fun _ => nextClause
      let otherwise ← otherwise.mapM fun _ => nextChild
      return caseWhen operand clauses otherwise type
  | join kind _ _ => return join kind (← nextChild) (← nextChild)

/-- `kept i` tells whether the new child at `i` is the old one itself. -/
def rebuilt (e : Expr) (kept : Nat → Bool) (news : List Expr) : Except RebuildError Expr :=
  if e.children.length ≠ news.length then
    .error (.refused (.childCount e.kind e.children.length news.length))
  else if (List.range news.length).all kept then .ok e
  else (e.filled.run news).map Prod.fst

end Expr

end NullLogic
