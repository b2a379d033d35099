import NullLogic.Optimize
import NullLogic.Proofs.Simplify.Negation
import NullLogic.Sample

/-!
# Double negation and De Morgan's laws

A `NOT` before a simple truth value is moved inwards, so a second one does not meet the first:
it meets what the rules have made of it. Still the two cancel, as each rule is undone by the
rule for the node that it makes (`Negated.symm`). Together with `Opposite.connective`, which
takes a negation through a connective, this gives the laws for simplified trees.
-/

namespace NullLogic

/-- Both expressions are simplified, and to the same one, with the rule for negated
comparisons and also without it, as under relational nulls. -/
def SimplifyAlike (e f : Expr) : Prop :=
  (∃ s, simplify true e = .ok s ∧ simplify true f = .ok s) ∧
    ∃ s, optimize { useRelationalNulls := true } e = .ok s ∧
      optimize { useRelationalNulls := true } f = .ok s

namespace Simplify

variable {flip : Bool}

/-! ### Negating twice -/

theorem negate_negate {x y : Expr} {t : DataType} (h : negate flip x t = .ok y)
    (hx : IsNormal flip x) (htyped : x.Everywhere Expr.NodeTyped) :
    negate flip y .boolean = .ok x := by
  revert htyped
  refine negate_induction_of_isNormal (motive := fun x y => x.Everywhere Expr.NodeTyped →
    negate flip y .boolean = .ok x) ?_ ?_ ?_ ?_ ?_ ?_ h hx
  · intro c u htyped
    obtain rfl := htyped.self.truth
    rw [negate, Bool.not_not]
  · intro x u hredex htyped
    obtain ⟨-, rfl⟩ := htyped.self.not
    exact negate_of_not_redex hredex
  · intro kind x u hredex htyped
    obtain rfl := htyped.self.test
    rw [negate, NullTest.complement_complement, nullTest_of_not_redex hredex]
  · intro kind l r u l' r' hredex hl' hr' ihl ihr htyped
    obtain ⟨hl, hr, rfl⟩ := htyped.self.connective
    -- neither operand is a constant, so nothing is absorbed on the way back either
    rw [negate_connective hl' hr' hl hr (ihl htyped.left) (ihr htyped.right),
      Connective.dual_dual, absorbed_of_bool?_eq_none kind (bool?_left_of_not_redex hredex)
        (bool?_right_of_not_redex hredex)]
  · intro kind l r u hflip htyped
    obtain ⟨v, hv⟩ := htyped.self.comparison.2
    rw [negate, if_pos hflip, Comparison.complement_complement]
    exact Checked.binaryAs_comparison hv u
  · intro x t _ _
    rw [negate]

theorem Negated.symm {x y : Expr} (h : Negated flip x y) : Negated flip y x where
  normal := by
    refine isNormal_of_node_eq_ok (e := .unary .not x .boolean) h.eq_ok fun c hc => ?_
    rw [List.mem_singleton.1 hc]
    exact h.normal
  typed := nodeTyped_of_node (e := .unary .not x .boolean) h.eq_ok
    (Expr.everywhere_unary (Made.not h.boolean).nodeTyped h.typed)
  boolean := h.boolean_right
  eq_ok := negate_negate h.eq_ok h.normal h.typed

theorem Opposite.symm {e f : Expr} (h : Opposite flip e f) : Opposite flip f e := by
  obtain ⟨s, s', hs, hs', hneg⟩ := h
  exact ⟨s', s, hs', hs, hneg.symm⟩

theorem opposite_not {e : Expr} (he : e.Everywhere Expr.NodeTyped)
    (hboolean : e.dataType.isBoolean = true) : Opposite flip e (.unary .not e .boolean) := by
  obtain ⟨s, hs⟩ : ∃ s, tree flip e = .ok s := exists_tree he
  obtain ⟨s', hs'⟩ : ∃ s', tree flip (.unary .not e .boolean) = .ok s' :=
    exists_tree (Expr.everywhere_unary (Made.not hboolean).nodeTyped he)
  exact opposite_of_negate he hboolean hs hs' ((tree_not hs .boolean).symm.trans hs')

theorem simplifyAlike_not {e f : Expr} (h : ∀ flip, Opposite flip e f) :
    SimplifyAlike (.unary .not e .boolean) f := by
  have hsimplify : ∀ flip, ∃ s, simplify flip (.unary .not e .boolean) = .ok s ∧
      simplify flip f = .ok s := by
    intro flip
    have htree : tree flip (.unary .not e .boolean) = tree flip f := (h flip).tree_not
    obtain ⟨-, s, -, hs, -⟩ := h flip
    exact ⟨s, simplify_of_tree (htree.trans hs), simplify_of_tree hs⟩
  exact ⟨hsimplify true, hsimplify false⟩

end Simplify

open Simplify

variable {a b : Expr}

/-- A double negation is simplified to what the expression below it is simplified to. -/
theorem simplify_not_not (ha : a.WellTyped)
    (hboolean : a.dataType = .boolean ∨ a.dataType = .null) :
    ∃ n m, Checked.not a = .ok n ∧ Checked.not n = .ok m ∧ SimplifyAlike m a := by
  have hnot : a.dataType.isBoolean = true := DataType.isBoolean_iff.2 hboolean
  refine ⟨_, _, Checked.not_eq_ok_iff.2 ⟨hnot, rfl⟩, Checked.not_eq_ok_iff.2 ⟨rfl, rfl⟩, ?_⟩
  exact simplifyAlike_not fun flip => (opposite_not ha.nodeTyped hnot).symm

/-- `NOT (NOT ((x < p AND NOT NULL) OR a IS NULL))`. -/
theorem simplify_not_not_of_or :
    ∃ n m, Checked.not (.binary .or (.binary .and (.binary (.comparison .less) Sample.x Sample.p
          .boolean) (.unary .not (.constant .null .null) .boolean) .boolean)
          (.unary .isNull Sample.a .boolean) .boolean) = .ok n ∧
      Checked.not n = .ok m ∧
      SimplifyAlike m (.binary .or (.binary .and (.binary (.comparison .less) Sample.x Sample.p
        .boolean) (.unary .not (.constant .null .null) .boolean) .boolean)
        (.unary .isNull Sample.a .boolean) .boolean) :=
  simplify_not_not (by decide) (.inl rfl)

/-- The negation of a connective is simplified to what the dual connective of the negated
operands is simplified to. -/
theorem simplify_deMorgan (ha : a.WellTyped) (hb : b.WellTyped)
    (hleft : a.dataType = .boolean ∨ a.dataType = .null)
    (hright : b.dataType = .boolean ∨ b.dataType = .null) (kind : Connective) :
    ∃ na nb c n d, Checked.not a = .ok na ∧ Checked.not b = .ok nb ∧
      Checked.binary (.connective kind) a b = .ok c ∧ Checked.not c = .ok n ∧
      Checked.binary (.connective kind.dual) na nb = .ok d ∧ SimplifyAlike n d := by
  have hl : a.dataType.isBoolean = true := DataType.isBoolean_iff.2 hleft
  have hr : b.dataType.isBoolean = true := DataType.isBoolean_iff.2 hright
  refine ⟨_, _, _, _, _, Checked.not_eq_ok_iff.2 ⟨hl, rfl⟩, Checked.not_eq_ok_iff.2 ⟨hr, rfl⟩,
    Checked.connective_eq_ok_iff.2 ⟨hl, hr, rfl⟩, Checked.not_eq_ok_iff.2 ⟨rfl, rfl⟩,
    Checked.connective_eq_ok_iff.2 ⟨rfl, rfl, rfl⟩, ?_⟩
  exact simplifyAlike_not fun flip =>
    (opposite_not ha.nodeTyped hl).connective (opposite_not hb.nodeTyped hr)

/-- `NOT (FALSE AND (a OR NOT q))`, where a constant is absorbed on both sides. -/
theorem simplify_deMorgan_of_false :
    ∃ na nb c n d, Checked.not (.constant (.bool false) .boolean) = .ok na ∧
      Checked.not (.binary .or Sample.a (.unary .not Sample.q .boolean) .boolean) = .ok nb ∧
      Checked.binary (.connective .and) (.constant (.bool false) .boolean)
        (.binary .or Sample.a (.unary .not Sample.q .boolean) .boolean) = .ok c ∧
      Checked.not c = .ok n ∧ Checked.binary (.connective .or) na nb = .ok d ∧
      SimplifyAlike n d :=
  simplify_deMorgan (by decide) (by decide) (.inl rfl) (.inl rfl) .and

end NullLogic
