import NullLogic.Proofs.TwoValued.Nodes
import NullLogic.Proofs.WellTyped.Rules

/-!
# Types of two-valued forms

A two-valued form has the type of the expression: whatever replaces an equality is Boolean,
and other nodes keep their types. Its nodes are typed where those of the expression are,
so all checks on the way pass (`exists_twoValued`). The operands of an equality may lose a
`NOT`; what is left of them may then be an untyped `NULL` and can still be compared.
-/

namespace NullLogic

/-- An operand without its leading `NOT`. -/
theorem Expr.NodeTyped.bare {e : Expr} (h : e.NodeTyped) :
    e.dataType.SimplifiesTo e.bare.dataType := by
  cases hneg : e.isNegation with
  | false => rw [Expr.bare_of_isNegation_eq_false hneg]
  | true =>
      obtain ⟨type, hnot⟩ := Expr.exists_eq_not_of_isNegation hneg
      rw [hnot] at h
      obtain ⟨hboolean, rfl⟩ := h.not
      rw [hnot]
      exact DataType.boolean_simplifiesTo_iff.2 hboolean

/-! ### The type on top -/

theorem dataType_of_twoValued {e e' : Expr} (h : twoValued e = .ok e') (he : e.NodeTyped) :
    e'.dataType = e.dataType := by
  obtain ⟨positive, left, right, type, l, r, rfl, -, -, rfl⟩ | ⟨-, halike⟩ := twoValued_cases h
  · obtain rfl : type = .boolean := he.comparison.1
    exact TwoValued.dataType_form
  · exact halike.dataType

theorem replaceableBy_of_twoValued {e e' : Expr} (h : twoValued e = .ok e')
    (he : e.NodeTyped) : e.ReplaceableBy e' := by
  refine ⟨.inl (dataType_of_twoValued h he), fun htable => ?_⟩
  obtain ⟨positive, left, right, type, l, r, rfl, -⟩ | ⟨-, halike⟩ := twoValued_cases h
  · simp [Expr.isTable] at htable
  · exact halike.isTable.trans htable

/-- The two-valued forms of two operands without their leading `NOT`s can be compared if the
operands can. -/
theorem exists_commonType?_of_twoValued {kind : Comparison} {left right l r : Expr}
    {type : DataType}
    (he : (Expr.binary (.comparison kind) left right type).Everywhere Expr.NodeTyped)
    (hl : twoValued left.bare = .ok l) (hr : twoValued right.bare = .ok r) :
    ∃ t, l.dataType.commonType? r.dataType = some t := by
  obtain ⟨t, ht⟩ := he.self.comparison.2
  obtain ⟨t', ht', -⟩ := DataType.exists_commonType? ht he.left.self.bare he.right.self.bare
  rw [← dataType_of_twoValued hl he.left.bare.self,
    ← dataType_of_twoValued hr he.right.bare.self] at ht'
  exact ⟨t', ht'⟩

/-! ### All nodes -/

namespace TwoValued

theorem nodeTyped_tested (kind : NullTest) (x : Expr) : (tested kind x).NodeTyped :=
  .unary rfl (.refl .boolean)

theorem nodeTyped_connected {kind : Connective} {x y : Expr} (hx : x.dataType = .boolean)
    (hy : y.dataType = .boolean) : (connected kind x y).NodeTyped := by
  refine .binary (t := .boolean) ?_ (.refl .boolean)
  rw [hx, hy]
  rfl

theorem nodeTyped_values {positive : Bool} {l r : Operand} {t : DataType}
    (h : l.expr.dataType.commonType? r.expr.dataType = some t) :
    (values positive .boolean l r).NodeTyped := by
  refine .binary (t := .boolean) ?_ (.refl .boolean)
  rw [BinaryOp.resultType?, h]
  rfl

end TwoValued

open TwoValued

theorem nodeTyped_of_twoValued {e e' : Expr} (h : twoValued e = .ok e')
    (he : e.Everywhere Expr.NodeTyped) : e'.Everywhere Expr.NodeTyped := by
  revert he
  refine twoValued_induction
    (motive := fun e e' => e.Everywhere Expr.NodeTyped → e'.Everywhere Expr.NodeTyped) ?_ ?_ h
  · intro positive left right type l r _ hl hr ihl ihr he
    obtain rfl : type = .boolean := he.self.comparison.1
    obtain ⟨t, ht⟩ := exists_commonType?_of_twoValued he hl hr
    refine form_everywhere nodeTyped_tested ?_ (nodeTyped_values ht) (ihl he.left.bare)
      (ihr he.right.bare)
    exact fun kind x y hx hy => nodeTyped_connected (hx.elim id id) hy
  · intro e e' _ halike he
    refine halike.everywhere ?_ fun c hc c' hc' => hc'.2 (he.child hc)
    refine he.self.of_alike (halike.imp fun c hc c' hc' => ?_)
    exact replaceableBy_of_twoValued hc'.1 (he.child hc).self

/-! ### The checks on the way -/

namespace TwoValued

/-- The null tests and connectives around a comparison of values pass their checks. -/
theorem guarded_values (positive : Bool) (l r : Operand) :
    guarded positive (values positive .boolean l r) l r = .ok (form positive .boolean l r) := by
  obtain ⟨x, p, m⟩ := l
  obtain ⟨y, q, n⟩ := r
  cases positive <;> cases m <;> cases n <;> rfl

theorem expand_eq_form {positive : Bool} {l r : Operand} {t : DataType}
    (h : l.expr.dataType.commonType? r.expr.dataType = some t) :
    expand positive l r .boolean = .ok (form positive .boolean l r) := by
  rw [expand, Checked.binaryAs_comparison h .boolean]
  exact guarded_values positive l r

theorem exists_comparison {positive : Bool} {left right left' right' : Expr} {t : DataType}
    (h : (operand left left').expr.dataType.commonType? (operand right right').expr.dataType =
      some t) : ∃ g, comparison positive left right .boolean left' right' = .ok g := by
  simp only [comparison, expand_eq_form h]
  split
  · -- a comparison that needs no guard stays, whatever its operands are
    exact ⟨_, rfl⟩
  · exact ⟨_, rfl⟩

theorem exists_node {e : Expr} {news : List Expr} (he : e.Everywhere Expr.NodeTyped)
    (hnews : List.Forall₂ (fun c c' => twoValued c = .ok c') e.children news) :
    ∃ e', node e news = .ok e' := by
  cases heq : e.isEquality with
  | false => exact ⟨e.refill news, node_eq_refill heq news⟩
  | true =>
      obtain ⟨positive, left, right, type, rfl⟩ := Expr.exists_equality_of_isEquality heq
      obtain rfl : type = .boolean := he.self.comparison.1
      rcases hnews with _ | ⟨hleft, _ | ⟨hright, ⟨⟩⟩⟩
      obtain ⟨l, hl, hlo⟩ := operand_of_twoValued_eq_ok hleft
      obtain ⟨r, hr, hro⟩ := operand_of_twoValued_eq_ok hright
      obtain ⟨t, ht⟩ := exists_commonType?_of_twoValued he hl hr
      obtain ⟨g, hg⟩ : ∃ g, comparison positive left right .boolean _ _ = .ok g :=
        exists_comparison (by rw [hlo, hro]; exact ht)
      refine ⟨g, ?_⟩
      cases positive <;> exact hg

theorem joinCheck_of_isChecked {e : Expr} (h : e.IsChecked) : joinCheck e = .ok () := by
  cases e with
  | join kind source predicate => rw [joinCheck, h.isEquiPredicate, if_pos rfl]
  | _ => rfl

end TwoValued

/-- Typed expressions whose joins are on equalities have two-valued forms. -/
theorem exists_twoValued {e : Expr} (he : e.Everywhere Expr.NodeTyped)
    (hjoin : e.Everywhere fun n => joinCheck n = .ok ()) : ∃ e', twoValued e = .ok e' := by
  induction e using Expr.induction with
  | step e ih =>
      have hchildren : ∀ c ∈ e.children, ∃ c', twoValued c = .ok c' :=
        fun c hc => ih c hc (he.child hc) (hjoin.child hc)
      obtain ⟨news, hnews⟩ := exists_mapM_eq_ok hchildren
      obtain ⟨e', he'⟩ := exists_node he (mapM_eq_ok_iff.1 hnews)
      exact ⟨e', by rw [twoValued_eq, hjoin.self, hnews]; exact he'⟩

end NullLogic
