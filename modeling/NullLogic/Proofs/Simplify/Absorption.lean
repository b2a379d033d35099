import NullLogic.Proofs.Simplify.Typing

/-!
# Boolean constants in connectives

`tree_unary` and `tree_binary` say what a node is simplified to, given what its operands are
simplified to. Of a connective this is `absorbed`, which has the constants `truth c` as
absorbing and neutral operands on either side. On the right this needs the other operand to be
Boolean, as it may be the same constant of another type.
-/

namespace NullLogic

namespace Simplify

variable {flip : Bool}

/-! ### A node over simplified children -/

theorem tree_unary {op : UnaryOp} {x x' : Expr} (h : tree flip x = .ok x') (t : DataType) :
    tree flip (.unary op x t) = node flip (.unary op x' t) := by
  rw [tree_eq]
  simp only [Expr.children, List.mapM_cons, List.mapM_nil, h]
  rfl

theorem tree_binary {op : BinaryOp} {l r l' r' : Expr} (hl : tree flip l = .ok l')
    (hr : tree flip r = .ok r') (t : DataType) :
    tree flip (.binary op l r t) = node flip (.binary op l' r' t) := by
  rw [tree_eq]
  simp only [Expr.children, List.mapM_cons, List.mapM_nil, hl, hr]
  rfl

/-- What is left of a Boolean connective. -/
def absorbed (kind : Connective) (l r : Expr) : Expr :=
  (absorb? kind l r).getD (.binary (.connective kind) l r .boolean)

theorem tree_connective {kind : Connective} {l r l' r' : Expr} (hl : tree flip l = .ok l')
    (hr : tree flip r = .ok r') :
    tree flip (.binary (.connective kind) l r .boolean) = .ok (absorbed kind l' r') :=
  tree_binary hl hr .boolean

theorem tree_test {kind : NullTest} {x x' : Expr} (h : tree flip x = .ok x') (t : DataType) :
    tree flip (.unary (.test kind) x t) = .ok (nullTest kind x' t) :=
  tree_unary h t

theorem tree_not {x x' : Expr} (h : tree flip x = .ok x') (t : DataType) :
    tree flip (.unary .not x t) = negate flip x' t :=
  tree_unary h t

/-! ### Constants in connectives -/

theorem absorbed_constant_left (kind : Connective) (c : Bool) (t : DataType) (r : Expr) :
    absorbed kind (.constant (.bool c) t) r =
      if c = kind.absorbing then .constant (.bool c) t else r := by
  simp [absorbed, absorb?, Value.toBool?]

theorem absorbed_constant_right (kind : Connective) {l : Expr} (hl : l.bool? = none) (c : Bool)
    (t : DataType) :
    absorbed kind l (.constant (.bool c) t) =
      if c = kind.absorbing then .constant (.bool c) t else l := by
  simp [absorbed, absorb?, hl, Value.toBool?]

theorem absorbed_of_bool?_eq_none (kind : Connective) {l r : Expr} (hl : l.bool? = none)
    (hr : r.bool? = none) : absorbed kind l r = .binary (.connective kind) l r .boolean := by
  simp [absorbed, absorb?, hl, hr]

/-! ### Absorbing and neutral operands -/

def truth (c : Bool) : Expr :=
  .constant (.bool c) .boolean

theorem eq_truth_of_bool? {e : Expr} {c : Bool} (h : e.bool? = some c)
    (he : e.dataType = .boolean) : e = truth c := by
  obtain ⟨t, rfl⟩ := (Expr.bool?_eq_some_iff e c).1 h
  obtain rfl : t = .boolean := he
  rfl

theorem absorbed_truth_left (kind : Connective) (c : Bool) (r : Expr) :
    absorbed kind (truth c) r = if c = kind.absorbing then truth c else r :=
  absorbed_constant_left kind c .boolean r

theorem absorbed_truth_right (kind : Connective) {l : Expr} (hl : l.dataType = .boolean)
    (c : Bool) : absorbed kind l (truth c) = if c = kind.absorbing then truth c else l := by
  cases hb : l.bool? with
  | none => exact absorbed_constant_right kind hb c .boolean
  | some d =>
      rw [eq_truth_of_bool? hb hl, absorbed_truth_left]
      -- two constants: they are equal, or one of them absorbs the other
      cases c <;> cases d <;> cases kind <;> rfl

end Simplify

end NullLogic
