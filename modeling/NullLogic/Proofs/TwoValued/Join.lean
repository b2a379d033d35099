import NullLogic.Proofs.Nullability
import NullLogic.Proofs.TwoValued.Meaning

/-!
# Predicates of joins

A join keeps only rows on which its predicate is true, so a predicate that is `NULL` drops a
row like one that is false. The predicate is a conjunction of equalities in any nesting; each
of these has a two-valued form that is never `NULL`, and a conjunction of such is not either.
-/

namespace NullLogic

namespace Expr

theorem nullable_of_isEquiPredicate {e : Expr} (h : e.isEquiPredicate = true) :
    e.nullable = false := by
  fun_induction isEquiPredicate e with
  | case1 => rfl
  | case2 left right type ihl ihr =>
      rw [Bool.and_eq_true] at h
      exact nullable_binary_of_or (by rw [ihl h.1, ihr h.2]; rfl)
  | case3 => simp at h

end Expr

/-- A join has a two-valued form if its predicate is a conjunction of equalities, and table and
predicate have one. -/
theorem twoValued_join_eq_ok_iff {kind : JoinKind} {source predicate r : Expr} :
    twoValued (.join kind source predicate) = .ok r ↔
      predicate.isEquiPredicate = true ∧ ∃ source' predicate', twoValued source = .ok source' ∧
        twoValued predicate = .ok predicate' ∧ r = .join kind source' predicate' := by
  rw [twoValued_eq, TwoValued.joinCheck]
  cases predicate.isEquiPredicate with
  | false => simp
  | true =>
      simp only [if_true, ok_bind, Expr.children, bind_eq_ok_iff, mapM_eq_ok_iff, true_and]
      constructor
      · rintro ⟨news, hsource | ⟨hsource, hpredicate | ⟨hpredicate, ⟨⟩⟩⟩, h⟩
        exact ⟨_, _, hsource, hpredicate, (Except.ok.inj h).symm⟩
      · rintro ⟨source', predicate', hsource, hpredicate, rfl⟩
        exact ⟨[source', predicate'], .cons hsource (.cons hpredicate .nil), rfl⟩

/-- The two-valued form of a join is a join of the same kind, whose predicate is never `NULL`.
Read with three-valued comparisons, it has the value that the predicate has when `NULL` is a
value equal to itself only. -/
theorem twoValued_join {kind : JoinKind} {source predicate r : Expr}
    (h : twoValued (.join kind source predicate) = .ok r) :
    (Expr.join kind source predicate).nullable = false ∧
      ∃ source' predicate', r = .join kind source' predicate' ∧
        twoValued source = .ok source' ∧ twoValued predicate = .ok predicate' ∧
        ∀ b : Bindings, b.Respect predicate →
          evaluate .threeValued b predicate' ≠ .ok .null ∧
          (predicate.Guarded → ∀ v, evaluate .asValue b predicate = .ok v →
            evaluate .threeValued b predicate' = .ok v) := by
  obtain ⟨hequi, source', predicate', hsource, hpredicate, rfl⟩ := twoValued_join_eq_ok_iff.1 h
  refine ⟨rfl, source', predicate', rfl, hsource, hpredicate, fun b hb => ⟨?_, ?_⟩⟩
  · have hnull : NullOnlyIf .threeValued b predicate predicate' :=
      evaluate_ne_null_of_twoValued hpredicate hb
    exact hnull (Expr.nullable_of_isEquiPredicate hequi)
  · intro hg v hv
    have hkeeps : KeepsUnder False .asValue .threeValued b predicate predicate' :=
      twoValued_keeps hpredicate hg hb False.elim
    exact hkeeps.ok hv

/-- `LEFT JOIN t ON x = p AND a = NOT q`, for a `NULL` on both sides of each equality. -/
theorem twoValued_join_of_nulls :
    ∃ source' predicate', twoValued (.join .left (.table "t" none) (.binary .and (.binary .equal
        Sample.x Sample.p .boolean) (.binary .equal Sample.a (.unary .not Sample.q .boolean)
        .boolean) .boolean)) = .ok (.join .left source' predicate') ∧
      evaluate .threeValued (Sample.bindings .null (.bool true) .null .null (.int 0) .null)
        predicate' ≠ .ok .null ∧
      evaluate .threeValued (Sample.bindings .null (.bool true) .null .null (.int 0) .null)
        predicate' = .ok (.bool true) := by
  obtain ⟨r, h⟩ : ∃ r, twoValued (.join .left (.table "t" none) (.binary .and (.binary .equal
      Sample.x Sample.p .boolean) (.binary .equal Sample.a (.unary .not Sample.q .boolean)
      .boolean) .boolean)) = .ok r := ⟨_, rfl⟩
  obtain ⟨-, source', predicate', rfl, -, -, hvalue⟩ := twoValued_join h
  have hpredicate := hvalue (Sample.bindings .null (.bool true) .null .null (.int 0) .null)
    (by decide)
  exact ⟨source', predicate', h, hpredicate.1, hpredicate.2 (by decide) _ rfl⟩

end NullLogic
