import NullLogic.Proofs.TwoValued.Form

/-!
# The nodes of two-valued forms

A guarded comparison consists of its operands, the comparison of their values, and null
tests and connectives of its own. `form_everywhere` says so for properties of nodes, and
`twoValued_everywhere` follows for those that new nodes always have.
-/

namespace NullLogic

namespace TwoValued

variable {p : Expr → Prop}

/-- Everything between the comparison of values and the operands' own nodes is Boolean. -/
theorem form_everywhere {positive : Bool} {type : DataType} {l r : Operand}
    (test : ∀ kind x, p (tested kind x))
    (connective : ∀ kind x y, x.dataType = type ∨ x.dataType = .boolean →
      y.dataType = .boolean → p (connected kind x y))
    (compared : p (values positive type l r))
    (hl : l.expr.Everywhere p) (hr : r.expr.Everywhere p) :
    (form positive type l r).Everywhere p := by
  have htested : ∀ kind x, x.Everywhere p → (tested kind x).Everywhere p :=
    fun kind x hx => Expr.everywhere_unary (test kind x) hx
  have hconnected : ∀ kind x y, x.dataType = type ∨ x.dataType = .boolean →
      y.dataType = .boolean → x.Everywhere p → y.Everywhere p →
        (connected kind x y).Everywhere p :=
    fun kind x y htx hty hx hy => Expr.everywhere_binary (connective kind x y htx hty) hx hy
  have hcompared : (values positive type l r).Everywhere p :=
    Expr.everywhere_binary compared hl hr
  unfold form
  split
  · exact hcompared
  · exact hconnected _ _ _ (.inl rfl) rfl hcompared (htested _ _ hl)
  · exact hconnected _ _ _ (.inl rfl) rfl hcompared (htested _ _ hr)
  · have htests : ∀ kind test, (connected kind (tested test l.expr)
        (tested test r.expr)).Everywhere p :=
      fun kind test => hconnected _ _ _ (.inr rfl) rfl (htested _ _ hl) (htested _ _ hr)
    refine hconnected _ _ _ (.inr rfl) rfl ?_ (htests _ _)
    exact hconnected _ _ _ (.inl rfl) rfl hcompared (htests _ _)

theorem dataType_form {positive : Bool} {l r : Operand} :
    (form positive .boolean l r).dataType = .boolean := by
  unfold form
  split <;> rfl

theorem nullable_form (positive : Bool) (type : DataType) (l r : Operand) :
    (form positive type l r).nullable = false := by
  have hcompared : (values positive type l r).nullable = false := by
    unfold values
    cases positive == (l.negated == r.negated) <;> rfl
  unfold form
  split <;> simp [connected, tested, Expr.nullable, hcompared]

end TwoValued

open TwoValued

variable {p : Expr → Prop}

theorem twoValued_everywhere (test : ∀ kind x t, p (.unary (.test kind) x t))
    (connective : ∀ kind x y t, p (.binary (.connective kind) x y t))
    (equality : ∀ positive x y t, p (.binary (.comparison (.equality positive)) x y t))
    (alike : ∀ e m, e.Alike (fun c c' => twoValued c = .ok c') m → p e → p m) {e e' : Expr}
    (h : twoValued e = .ok e') (he : e.Everywhere p) : e'.Everywhere p := by
  revert he
  refine twoValued_induction (motive := fun e e' => e.Everywhere p → e'.Everywhere p) ?_ ?_ h
  · intro positive left right type l r _ _ _ hl hr he
    refine form_everywhere ?_ ?_ (equality _ _ _ _) (hl he.left.bare) (hr he.right.bare)
    · exact fun kind x => test kind x .boolean
    · exact fun kind x y _ _ => connective kind x y .boolean
  · intro e e' _ halike he
    refine halike.everywhere ?_ fun c hc c' hc' => hc'.2 (he.child hc)
    exact alike e e' (halike.imp fun c _ c' hc' => hc'.1) he.self

end NullLogic
