import NullLogic.Proofs.Optimize.Equality

/-!
# Equalities with the constant `NULL`

Of the guards of an equality with `NULL` one null test of the other operand is left, or a
constant if that operand is never `NULL` (`IsTestOf`). What is tested is the operand without
its leading `NOT`, which the comparison has taken off. The test of the whole operand is
optimized to the same, except where simplifying moves the `NOT` on into what is below it.
-/

namespace NullLogic

/-- A `NOT` before the simple expression is moved into it, other than by leaving it out. -/
def Expr.takesNot : Expr → Bool
  | constant (.bool _) _ => true
  | unary (.test _) _ _ => true
  | binary (.connective _) _ _ _ => true
  | binary (.comparison _) _ _ _ => true
  | _ => false

namespace Simplify

/-- A null test of a negation looks below it, unless the negation has changed what is there. -/
theorem nullTest_negate_eq_iff {kind : NullTest} {x s : Expr} {t : DataType}
    (h : negate true x t = .ok s) (hx : IsNormal true x) :
    nullTest kind s .boolean = nullTest kind x .boolean ↔ x.takesNot = false := by
  refine negate_induction_of_isNormal (motive := fun x s =>
    nullTest kind s .boolean = nullTest kind x .boolean ↔ x.takesNot = false) ?_ ?_ ?_ ?_ ?_ ?_ h hx
  · intro c u
    simp [nullTest, Expr.takesNot]
  · intro x u _
    simp [nullTest, Expr.takesNot]
  · intro k x u _
    cases k <;> simp [nullTest, Expr.takesNot, NullTest.complement]
  · intro k l r u l' r' _ _ _ _ _
    cases k <;> simp [nullTest, Expr.takesNot, Connective.dual]
  · intro k l r u _
    cases k <;> simp [nullTest, Expr.takesNot, Comparison.complement]
  · intro x t hredex
    have htakes : x.takesNot = false := by
      unfold Expr.takesNot
      split
      · exact absurd (.notConstant _ _ t) hredex
      · exact absurd (.notTest _ _ _ t) hredex
      · exact absurd (.notConnective _ _ _ _ t) hredex
      · exact absurd (.notComparison _ _ _ _ t rfl) hredex
      · rfl
    rw [nullTest, htakes]
    simp

end Simplify

/-! ### Forms with an operand `NULL` -/

namespace TwoValued

open Simplify

theorem holds_guardTest (positive : Bool) :
    (guardTest positive).holds true = (guardKind positive).absorbing := by
  cases positive <;> rfl

/-- The simplified form of operands with the simplified expressions `x` and `y`, where `v` is
the comparison of these. -/
def reduced (positive leftNullable rightNullable : Bool) (v x y : Expr) : Expr :=
  let kind := guardKind positive
  let test := guardTest positive
  match leftNullable, rightNullable with
  | false, false => v
  | true, false => absorbed kind v (nullTest test x .boolean)
  | false, true => absorbed kind v (nullTest test y .boolean)
  | true, true =>
      absorbed kind.dual
        (absorbed kind v (absorbed kind (nullTest test x .boolean) (nullTest test y .boolean)))
        (absorbed kind (nullTest test.complement x .boolean)
          (nullTest test.complement y .boolean))

theorem tree_form {l r : Operand} {x y : Expr} (hx : tree true l.expr = .ok x)
    (hy : tree true r.expr = .ok y) (positive : Bool) :
    tree true (form positive .boolean l r) =
      .ok (reduced positive l.nullable r.nullable
        (values positive .boolean { l with expr := x } { r with expr := y }) x y) := by
  have hv : tree true (values positive .boolean l r) =
      .ok (values positive .boolean { l with expr := x } { r with expr := y }) :=
    tree_binary hx hy .boolean
  have htests : ∀ kind test, tree true (connected kind (tested test l.expr)
      (tested test r.expr)) =
        .ok (absorbed kind (nullTest test x .boolean) (nullTest test y .boolean)) :=
    fun kind test => tree_connective (tree_test hx .boolean) (tree_test hy .boolean)
  unfold form reduced
  cases l.nullable <;> cases r.nullable
  · exact hv
  · exact tree_connective hv (tree_test hy .boolean)
  · exact tree_connective hv (tree_test hx .boolean)
  · exact tree_connective (tree_connective hv (htests _ _)) (htests _ _)

theorem dataType_values (positive : Bool) (type : DataType) (l r : Operand) :
    (values positive type l r).dataType = type := rfl

/-- What an equality with `NULL` comes to, given what the other operand is simplified to. -/
def againstNull (positive nullable : Bool) (x : Expr) : Expr :=
  if nullable then nullTest (guardTest positive).complement x .boolean
  else truth (guardKind positive).absorbing

theorem nullTest_null (kind : NullTest) (s t : DataType) :
    nullTest kind (.constant .null s) t = truth (kind.holds true) := rfl

variable {v : Expr} (hv : v.dataType = .boolean)

include hv

theorem reduced_null_right (positive nullable : Bool) (x : Expr) (t : DataType) :
    reduced positive nullable true v x (.constant .null t) = againstNull positive nullable x := by
  cases nullable <;>
    simp [reduced, againstNull, nullTest_null, holds_guardTest, NullTest.holds_complement,
      absorbed_truth_left, absorbed_truth_right, hv, dataType_nullTest]

theorem reduced_null_left (positive nullable : Bool) (x : Expr) (t : DataType) :
    reduced positive true nullable v (.constant .null t) x = againstNull positive nullable x := by
  cases nullable <;>
    simp [reduced, againstNull, nullTest_null, holds_guardTest, NullTest.holds_complement,
      absorbed_truth_left, absorbed_truth_right, hv]

end TwoValued

/-! ### Optimized equalities with `NULL` -/

open TwoValued

/-- The expression begins with a `NOT`, and simplifying moves it into what is below. -/
def MovesNot (x : Expr) : Prop :=
  x.isNegation = true ∧ ∃ y, optimize {} x.bare = .ok y ∧ y.takesNot = true

/-- `c` is optimized to the null test of `x` without its leading `NOT`, which is the null test
of `x` unless the `NOT` is moved, or to the outcome of the test if `x` is never `NULL`. -/
structure IsTestOf (kind : NullTest) (c x : Expr) : Prop where
  bare : x.nullable = true → OptimizeAlike c (.unary (.test kind) x.bare .boolean)
  whole : x.nullable = true →
    (OptimizeAlike c (.unary (.test kind) x .boolean) ↔ ¬ MovesNot x)
  decided : x.nullable = false →
    optimize {} c = .ok (.constant (.bool (kind.holds false)) .boolean)

theorem optimizeAlike_iff {e f o p : Expr} (he : optimize {} e = .ok o)
    (hf : optimize {} f = .ok p) : OptimizeAlike e f ↔ p = o := by
  simp [OptimizeAlike, he, hf, eq_comm]

theorem optimize_test {x r s : Expr} (hr : twoValued x = .ok r)
    (hs : Simplify.tree true r = .ok s) (kind : NullTest) :
    optimize {} (.unary (.test kind) x .boolean) =
      .ok (Simplify.nullTest kind s .boolean) :=
  optimize_of_tree (twoValued_unary hr (.test kind) .boolean) (Simplify.tree_test hs .boolean)

theorem optimizeAlike_test_iff {kind : NullTest} {c x r s : Expr} (hx : x.WellTyped)
    (hr : twoValued x.bare = .ok r) (hs : Simplify.tree true r = .ok s)
    (hc : optimize {} c = .ok (Simplify.nullTest kind s .boolean)) :
    OptimizeAlike c (.unary (.test kind) x .boolean) ↔ ¬ MovesNot x := by
  cases hneg : x.isNegation with
  | false =>
      rw [Expr.bare_of_isNegation_eq_false hneg] at hr
      simp [optimizeAlike_iff hc (optimize_test hr hs kind), MovesNot, hneg]
  | true =>
      obtain ⟨type, hnot⟩ := Expr.exists_eq_not_of_isNegation hneg
      obtain ⟨r', hr'⟩ := exists_twoValued hx.nodeTyped hx.joinCheck
      obtain ⟨s', hs'⟩ : ∃ s', Simplify.tree true r' = .ok s' :=
        Simplify.exists_tree (nodeTyped_of_twoValued hr' hx.nodeTyped)
      have hnegate : Simplify.negate true s type = .ok s' := by
        rw [hnot, twoValued_unary hr] at hr'
        rw [← Except.ok.inj hr', Simplify.tree_not hs] at hs'
        exact hs'
      have hmoves : MovesNot x ↔ s.takesNot = true := by
        simp [MovesNot, hneg, optimize_of_tree hr hs]
      rw [optimizeAlike_iff hc (optimize_test hr' hs' kind),
        Simplify.nullTest_negate_eq_iff hnegate (Simplify.isNormal_of_tree_eq_ok hs), hmoves,
        Bool.not_eq_true]

theorem isTestOf_of_againstNull {positive : Bool} {c x r s : Expr} (hx : x.WellTyped)
    (hr : twoValued x.bare = .ok r) (hs : Simplify.tree true r = .ok s)
    (hc : optimize {} c = .ok (againstNull positive x.nullable s)) :
    IsTestOf (guardTest positive).complement c x where
  bare hn := by
    rw [hn] at hc
    exact ⟨_, hc, optimize_test hr hs _⟩
  whole hn := by
    rw [hn] at hc
    exact optimizeAlike_test_iff hx hr hs hc
  decided hn := by
    rw [hn] at hc
    rw [hc]
    cases positive <;> rfl

theorem optimize_against_null {x : Expr} (hx : x.WellTyped) {t u : DataType}
    (ht : x.dataType.commonType? t = some u) :
    ∃ r s, twoValued x.bare = .ok r ∧ Simplify.tree true r = .ok s ∧ ∀ positive,
      optimize {} (.binary (.comparison (.equality positive)) x (.constant .null t) .boolean) =
          .ok (againstNull positive x.nullable s) ∧
        optimize {} (.binary (.comparison (.equality positive)) (.constant .null t) x .boolean) =
          .ok (againstNull positive x.nullable s) := by
  have hnull : (Expr.constant .null t).WellTyped := Expr.everywhere_constant rfl
  have ht' : t.commonType? x.dataType = some u := (DataType.commonType?_comm _ _).trans ht
  obtain ⟨r, n, hr, hn, hright⟩ := exists_twoValued_equality hx hnull ht
  obtain rfl : n = .constant .null t := Except.ok.inj (hn.symm.trans rfl)
  obtain ⟨m, r', hm, hr', hleft⟩ := exists_twoValued_equality hnull hx ht'
  obtain rfl : m = .constant .null t := Except.ok.inj (hm.symm.trans rfl)
  obtain rfl : r' = r := Except.ok.inj (hr'.symm.trans hr)
  obtain ⟨s, hs⟩ : ∃ s, Simplify.tree true r' = .ok s :=
    Simplify.exists_tree (nodeTyped_of_twoValued hr hx.nodeTyped.bare)
  refine ⟨r', s, hr, hs, fun positive => ⟨?_, ?_⟩⟩
  · refine optimize_of_tree (hright positive) ((tree_form hs rfl positive).trans ?_)
    exact congrArg Except.ok (reduced_null_right (dataType_values ..) positive x.nullable s t)
  · refine optimize_of_tree (hleft positive) ((tree_form rfl hs positive).trans ?_)
    exact congrArg Except.ok (reduced_null_left (dataType_values ..) positive x.nullable s t)

/-- An equality with `NULL` is optimized to a null test, in either order of its operands, and
an inequality to the opposite test. -/
theorem optimize_equal_null {x n e : Expr} (hx : x.WellTyped) (hn : n.isNullConstant = true)
    (h : Checked.equal x n = .ok e) :
    ∃ e' d d', Checked.equal n x = .ok e' ∧ Checked.notEqual x n = .ok d ∧
      Checked.notEqual n x = .ok d' ∧ IsTestOf .isNull e x ∧ IsTestOf .isNull e' x ∧
      IsTestOf .isNotNull d x ∧ IsTestOf .isNotNull d' x := by
  obtain ⟨t, rfl⟩ := (Expr.isNullConstant_iff n).1 hn
  obtain ⟨⟨u, hu⟩, rfl⟩ := Checked.comparison_eq_ok_iff.1 h
  have hu' : t.commonType? x.dataType = some u := (DataType.commonType?_comm _ _).trans hu
  obtain ⟨r, s, hr, hs, hoptimize⟩ := optimize_against_null hx hu
  refine ⟨_, _, _, Checked.comparison_eq_ok_iff.2 ⟨⟨u, hu'⟩, rfl⟩,
    Checked.comparison_eq_ok_iff.2 ⟨⟨u, hu⟩, rfl⟩, Checked.comparison_eq_ok_iff.2 ⟨⟨u, hu'⟩, rfl⟩,
    ?_, ?_, ?_, ?_⟩
  · exact isTestOf_of_againstNull hx hr hs (hoptimize true).1
  · exact isTestOf_of_againstNull hx hr hs (hoptimize true).2
  · exact isTestOf_of_againstNull hx hr hs (hoptimize false).1
  · exact isTestOf_of_againstNull hx hr hs (hoptimize false).2

/-- `NOT q = NULL`. -/
theorem optimize_equal_null_of_not :
    ∃ e' d d', Checked.equal (.constant .null .boolean) (.unary .not Sample.q .boolean) = .ok e' ∧
      Checked.notEqual (.unary .not Sample.q .boolean) (.constant .null .boolean) = .ok d ∧
      Checked.notEqual (.constant .null .boolean) (.unary .not Sample.q .boolean) = .ok d' ∧
      OptimizeAlike e' (.unary .isNull Sample.q .boolean) ∧
      OptimizeAlike d (.unary .isNotNull Sample.q .boolean) ∧
      OptimizeAlike d' (.unary .isNotNull Sample.q .boolean) := by
  obtain ⟨e', d, d', he', hd, hd', -, he, hdt, hdt'⟩ := optimize_equal_null
    (show (Expr.unary .not Sample.q .boolean).WellTyped by decide)
    (show (Expr.constant .null .boolean).isNullConstant = true from rfl) rfl
  exact ⟨e', d, d', he', hd, hd', he.bare rfl, hdt.bare rfl, hdt'.bare rfl⟩

/-- `NOT (x < p) = NULL` asks whether `x < p` is `NULL`, while `NOT (x < p) IS NULL` is turned
into the question whether `x >= p` is. -/
theorem optimize_equal_null_ne_isNull :
    (Expr.unary .not (.binary (.comparison .less) Sample.x Sample.p .boolean)
        .boolean).WellTyped ∧
      (Expr.constant .null .boolean).isNullConstant = true ∧
      (Expr.unary .not (.binary (.comparison .less) Sample.x Sample.p .boolean)
        .boolean).nullable = true ∧
      Checked.equal (.unary .not (.binary (.comparison .less) Sample.x Sample.p .boolean) .boolean)
          (.constant .null .boolean) =
        .ok (.binary .equal (.unary .not (.binary (.comparison .less) Sample.x Sample.p .boolean)
          .boolean) (.constant .null .boolean) .boolean) ∧
      optimize {} (.binary .equal (.unary .not (.binary (.comparison .less) Sample.x Sample.p
          .boolean) .boolean) (.constant .null .boolean) .boolean) ≠
        optimize {} (.unary .isNull (.unary .not (.binary (.comparison .less) Sample.x Sample.p
          .boolean) .boolean) .boolean) := by
  refine ⟨by decide, rfl, rfl, rfl, ?_⟩
  have hequal : optimize {} (.binary .equal (.unary .not (.binary (.comparison .less) Sample.x
      Sample.p .boolean) .boolean) (.constant .null .boolean) .boolean) =
    .ok (.unary .isNull (.binary (.comparison .less) Sample.x Sample.p .boolean) .boolean) := rfl
  have htest : optimize {} (.unary .isNull (.unary .not (.binary (.comparison .less) Sample.x
      Sample.p .boolean) .boolean) .boolean) =
    .ok (.unary .isNull (.binary (.comparison .greaterEqual) Sample.x Sample.p .boolean)
      .boolean) := rfl
  rw [hequal, htest]
  simp

end NullLogic
