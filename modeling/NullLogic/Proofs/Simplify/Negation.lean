import NullLogic.Proofs.Simplify.Absorption
import NullLogic.Proofs.Simplify.Normal

/-!
# Negations of simplified truth values

In a simple expression a connective has no constant operand, and a negation puts none there
(`bool?_of_negate_eq_ok`). So it does not matter whether constants are absorbed before a
negation is moved inwards or afterwards, and De Morgan's laws hold of trees, not only of
values: `Negated.absorbed` for simple operands, `Opposite.connective` for all.
-/

namespace NullLogic

namespace Simplify

variable {flip : Bool}

/-! ### Negations -/

theorem IsNormal.not_redex {e : Expr} (h : IsNormal flip e) : ¬ Redex flip e :=
  ((isNormal_iff flip e).1 h).1

theorem bool?_eq_none {e : Expr} (h : ∀ c t, e ≠ .constant (.bool c) t) : e.bool? = none := by
  cases hb : e.bool? with
  | none => rfl
  | some c =>
      obtain ⟨t, he⟩ := (Expr.bool?_eq_some_iff e c).1 hb
      exact absurd he (h c t)

theorem bool?_left_of_not_redex {kind : Connective} {l r : Expr} {t : DataType}
    (h : ¬ Redex flip (.binary (.connective kind) l r t)) : l.bool? = none := by
  refine bool?_eq_none fun c s hl => ?_
  subst hl
  exact h (.constantLeft kind c r s t)

theorem bool?_right_of_not_redex {kind : Connective} {l r : Expr} {t : DataType}
    (h : ¬ Redex flip (.binary (.connective kind) l r t)) : r.bool? = none := by
  refine bool?_eq_none fun c s hr => ?_
  subst hr
  exact h (.constantRight kind l c s t)

theorem bool?_operand_of_not_redex {x : Expr} {t : DataType}
    (h : ¬ Redex flip (.unary .not x t)) : x.bool? = none := by
  refine bool?_eq_none fun c s hx => ?_
  subst hx
  exact h (.notConstant c s t)

/-- A null test that stays as it is does so for the opposite test. -/
theorem nullTest_complement_of_not_redex {kind : NullTest} {x : Expr} {t : DataType}
    (h : ¬ Redex flip (.unary (.test kind) x t)) (u : DataType) :
    nullTest kind.complement x u = .unary (.test kind.complement) x u := by
  have hredex : ¬ Redex flip (.unary (.test kind.complement) x u) := by
    intro hredex
    cases hredex with
    | testNot _ x s => exact h (.testNot kind x s t)
    | testNull _ s => exact h (.testNull kind s t)
  exact nullTest_of_not_redex hredex

/-- The cases of a negation of what is simple. Those of `motive x s` say what the negation of
`x` is; no constant comes up in them, so nothing is absorbed. -/
theorem negate_induction_of_isNormal {motive : Expr → Expr → Prop}
    (constant : ∀ c u, motive (.constant (.bool c) u) (.constant (.bool !c) .boolean))
    (negation : ∀ x u, ¬ Redex flip (.unary .not x u) → motive (.unary .not x u) x)
    (test : ∀ kind x u, ¬ Redex flip (.unary (.test kind) x u) →
      motive (.unary (.test kind) x u) (.unary (.test kind.complement) x .boolean))
    (connective : ∀ kind l r u l' r', ¬ Redex flip (.binary (.connective kind) l r u) →
      l'.dataType.isBoolean = true → r'.dataType.isBoolean = true → motive l l' → motive r r' →
      motive (.binary (.connective kind) l r u) (.binary (.connective kind.dual) l' r' .boolean))
    (comparison : ∀ kind l r u, flip = true →
      motive (.binary (.comparison kind) l r u) (.binary (.comparison kind.complement) l r u))
    (kept : ∀ x t, ¬ Redex flip (.unary .not x t) → motive x (.unary .not x t))
    {x s : Expr} {t : DataType} (h : negate flip x t = .ok s) (hx : IsNormal flip x) :
    motive x s := by
  suffices hboth : (x.bool? = none → s.bool? = none) ∧ motive x s from hboth.2
  revert hx
  refine negate_induction (motive := fun x _ s => IsNormal flip x →
    (x.bool? = none → s.bool? = none) ∧ motive x s) ?_ ?_ ?_ ?_ ?_ ?_ h
  · intro c u t _
    exact ⟨fun hc => by simp [Value.toBool?] at hc, constant c u⟩
  · intro x u t hx
    exact ⟨fun _ => bool?_operand_of_not_redex hx.not_redex, negation x u hx.not_redex⟩
  · intro kind x u t hx
    rw [nullTest_complement_of_not_redex hx.not_redex]
    exact ⟨fun _ => rfl, test kind x u hx.not_redex⟩
  · intro kind l r u t l' r' _ _ hl' hr' ihl ihr hx
    obtain ⟨hl, ihl⟩ := ihl hx.left
    obtain ⟨hr, ihr⟩ := ihr hx.right
    have hkept := absorbed_of_bool?_eq_none kind.dual (hl (bool?_left_of_not_redex hx.not_redex))
      (hr (bool?_right_of_not_redex hx.not_redex))
    rw [← absorbed, hkept]
    exact ⟨fun _ => rfl, connective kind l r u l' r' hx.not_redex hl' hr' ihl ihr⟩
  · intro kind l r u t hflip _
    exact ⟨fun _ => rfl, comparison kind l r u hflip⟩
  · intro x t hredex _
    exact ⟨fun _ => rfl, kept x t hredex⟩

theorem bool?_of_negate_eq_ok {x s : Expr} {t : DataType} (h : negate flip x t = .ok s)
    (hx : IsNormal flip x) : x.bool? = none → s.bool? = none := by
  refine negate_induction_of_isNormal (motive := fun x s => x.bool? = none → s.bool? = none)
    ?_ ?_ ?_ ?_ ?_ ?_ h hx
  · intro c u hc
    simp [Value.toBool?] at hc
  · intro x u hredex _
    exact bool?_operand_of_not_redex hredex
  all_goals
    intros
    rfl

/-- The negation of a null test is the opposite test, whatever is tested. -/
theorem negate_nullTest (kind : NullTest) (x : Expr) (t u : DataType) :
    negate flip (nullTest kind x t) u = .ok (nullTest kind.complement x .boolean) := by
  refine nullTest_induction flip (motive := fun x _ s =>
    negate flip s u = .ok (nullTest kind.complement x .boolean)) ?_ ?_ ?_ x t
  · intro s t
    rw [negate, nullTest, kind.holds_complement]
  · intro x s t r ih
    rw [nullTest]
    exact ih
  · intro x t _
    rw [negate]

/-! ### Simple operands -/

/-- The simple truth value `x` has the negation `y`. -/
structure Negated (flip : Bool) (x y : Expr) : Prop where
  normal : IsNormal flip x
  typed : x.Everywhere Expr.NodeTyped
  boolean : x.dataType.isBoolean = true
  eq_ok : negate flip x .boolean = .ok y

theorem Negated.boolean_right {x y : Expr} (h : Negated flip x y) :
    y.dataType.isBoolean = true :=
  isBoolean_of_negate h.eq_ok h.typed.self h.boolean

theorem negate_connective {kind : Connective} {l r l' r' : Expr}
    (hl : l.dataType.isBoolean = true) (hr : r.dataType.isBoolean = true)
    (hl' : l'.dataType.isBoolean = true) (hr' : r'.dataType.isBoolean = true)
    (hleft : negate flip l .boolean = .ok l') (hright : negate flip r .boolean = .ok r')
    (t u : DataType) :
    negate flip (.binary (.connective kind) l r t) u = .ok (absorbed kind.dual l' r') := by
  rw [negate, Checked.not_eq_ok_iff.2 ⟨hl, rfl⟩, hleft, Checked.not_eq_ok_iff.2 ⟨hr, rfl⟩, hright]
  exact connect_eq_ok_iff.2 ⟨hl', hr', rfl⟩

/-- Constants can be absorbed before or after a negation is moved inwards. -/
theorem negate_absorbed {kind : Connective} {l r l' r' : Expr} (hl : Negated flip l l')
    (hr : Negated flip r r') :
    negate flip (absorbed kind l r) .boolean = .ok (absorbed kind.dual l' r') := by
  have hconstant : ∀ c t, negate flip (.constant (.bool c) t) .boolean =
      .ok (.constant (.bool !c) .boolean) := fun _ _ => rfl
  cases hlc : l.bool? with
  | some c =>
      obtain ⟨t, rfl⟩ := (Expr.bool?_eq_some_iff l c).1 hlc
      obtain rfl := Except.ok.inj ((hconstant c t).symm.trans hl.eq_ok)
      simp only [absorbed_constant_left, Connective.absorbing_dual, Bool.not_inj_iff]
      split
      · exact hl.eq_ok
      · exact hr.eq_ok
  | none =>
      have hlc' := bool?_of_negate_eq_ok hl.eq_ok hl.normal hlc
      cases hrc : r.bool? with
      | some c =>
          obtain ⟨t, rfl⟩ := (Expr.bool?_eq_some_iff r c).1 hrc
          obtain rfl := Except.ok.inj ((hconstant c t).symm.trans hr.eq_ok)
          simp only [absorbed_constant_right, hlc, hlc', Connective.absorbing_dual,
            Bool.not_inj_iff]
          split
          · exact hr.eq_ok
          · exact hl.eq_ok
      | none =>
          rw [absorbed_of_bool?_eq_none kind hlc hrc]
          exact negate_connective hl.boolean hr.boolean hl.boolean_right hr.boolean_right
            hl.eq_ok hr.eq_ok .boolean .boolean

theorem Negated.absorbed {kind : Connective} {l r l' r' : Expr} (hl : Negated flip l l')
    (hr : Negated flip r r') :
    Negated flip (absorbed kind l r) (absorbed kind.dual l' r') where
  normal := absorb?_everywhere hl.normal hr.normal id
  typed := by
    have hmade := (Made.connective kind hl.boolean hr.boolean).nodeTyped
    exact absorb?_everywhere hl.typed hr.typed fun (_ : ¬ Redex flip _) => hmade
  boolean := isBoolean_absorb? hl.boolean hr.boolean
  eq_ok := negate_absorbed hl hr

/-! ### All operands -/

/-- What `f` is simplified to is the negation of what `e` is simplified to. -/
def Opposite (flip : Bool) (e f : Expr) : Prop :=
  ∃ s s', tree flip e = .ok s ∧ tree flip f = .ok s' ∧ Negated flip s s'

theorem Opposite.tree_not {e f : Expr} (h : Opposite flip e f) :
    tree flip (.unary .not e .boolean) = tree flip f := by
  obtain ⟨s, s', hs, hs', hneg⟩ := h
  rw [Simplify.tree_not hs, hs', hneg.eq_ok]

theorem opposite_of_negate {e f s s' : Expr} (he : e.Everywhere Expr.NodeTyped)
    (hboolean : e.dataType.isBoolean = true) (hs : tree flip e = .ok s)
    (hs' : tree flip f = .ok s') (hneg : negate flip s .boolean = .ok s') :
    Opposite flip e f := by
  obtain ⟨hreplaceable, htyped⟩ := nodeTyped_of_tree hs he
  exact ⟨s, s', hs, hs', isNormal_of_tree_eq_ok hs, htyped,
    hreplaceable.type.isBoolean hboolean, hneg⟩

theorem Opposite.connective {kind : Connective} {l r l' r' : Expr} (hl : Opposite flip l l')
    (hr : Opposite flip r r') :
    Opposite flip (.binary (.connective kind) l r .boolean)
      (.binary (.connective kind.dual) l' r' .boolean) := by
  obtain ⟨s, s', hs, hs', hnegl⟩ := hl
  obtain ⟨u, u', hu, hu', hnegr⟩ := hr
  exact ⟨_, _, tree_connective hs hu, tree_connective hs' hu', hnegl.absorbed hnegr⟩

theorem opposite_test {x : Expr} (hx : x.Everywhere Expr.NodeTyped) (kind : NullTest) :
    Opposite flip (.unary (.test kind) x .boolean)
      (.unary (.test kind.complement) x .boolean) := by
  obtain ⟨x', hx'⟩ : ∃ x', tree flip x = .ok x' := exists_tree hx
  have htyped : (Expr.unary (.test kind) x .boolean).Everywhere Expr.NodeTyped :=
    Expr.everywhere_unary (Made.test kind x).nodeTyped hx
  exact opposite_of_negate htyped rfl (tree_test hx' .boolean) (tree_test hx' .boolean)
    (negate_nullTest kind x' .boolean .boolean)

theorem opposite_comparison {kind : Comparison} {l r : Expr}
    (h : (Expr.binary (.comparison kind) l r .boolean).Everywhere Expr.NodeTyped) :
    Opposite true (.binary (.comparison kind) l r .boolean)
      (.binary (.comparison kind.complement) l r .boolean) := by
  obtain ⟨l', hl⟩ : ∃ l', tree true l = .ok l' := exists_tree h.left
  obtain ⟨r', hr⟩ : ∃ r', tree true r = .ok r' := exists_tree h.right
  have htree : ∀ k : Comparison, tree true (.binary (.comparison k) l r .boolean) =
      .ok (.binary (.comparison k) l' r' .boolean) := fun k => tree_binary hl hr .boolean
  obtain ⟨t, ht⟩ := (nodeTyped_of_tree (htree kind) h).2.self.comparison.2
  exact opposite_of_negate h rfl (htree kind) (htree kind.complement)
    (Checked.binaryAs_comparison ht .boolean)

end Simplify

end NullLogic
