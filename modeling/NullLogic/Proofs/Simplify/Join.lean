import NullLogic.Proofs.Simplify.Normal
import NullLogic.Proofs.TwoValued.Failure

/-!
# Simplifying the predicates of joins

What has been simplified may still have to be made two-valued, and that is refused where a join
is on anything but a conjunction of equalities. Simplifying keeps such conjunctions: operands
of the equalities may change, but no rule applies to an equality or to `AND` between
equalities, and no rule makes a join.
-/

namespace NullLogic

namespace Expr

/-- A join is on equalities. -/
def EquiJoinNode : Expr → Prop
  | join _ _ predicate => predicate.isEquiPredicate = true
  | _ => True

instance : DecidablePred EquiJoinNode := fun e => by
  unfold EquiJoinNode
  split <;> infer_instance

def EquiJoins (e : Expr) : Prop :=
  Everywhere EquiJoinNode e

instance (e : Expr) : Decidable e.EquiJoins :=
  inferInstanceAs (Decidable (Everywhere EquiJoinNode e))

/-- The shape of the predicate does not depend on what its equalities compare. -/
theorem isEquiPredicate_of_alike {e m : Expr}
    (h : e.Alike (fun c c' => c.isEquiPredicate = true → c'.isEquiPredicate = true) m)
    (he : e.isEquiPredicate = true) : m.isEquiPredicate = true := by
  cases h with
  | binary op type hx hx' =>
      rcases op with kind | kind | _ | kind
      · cases kind <;> exact he
      · cases kind with
        | and =>
            rw [isEquiPredicate, Bool.and_eq_true] at he ⊢
            exact ⟨hx he.1, hx' he.2⟩
        | or => exact he
      · exact he
      · exact he
  | _ => exact he

theorem EquiJoins.twoValued_ne {e : Expr} (he : e.EquiJoins) (predicate : Expr) :
    twoValued e ≠ .error (.joinPredicate predicate) := by
  intro h
  obtain ⟨kind, source, hmem, hequi⟩ := exists_join_of_twoValued_eq_error h
  have htrue : predicate.isEquiPredicate = true := he _ hmem
  simp [hequi] at htrue

end Expr

namespace Simplify

variable {flip : Bool}

theorem not_redex_of_isEquiPredicate {e : Expr} (h : e.isEquiPredicate = true) :
    ¬ Redex flip e := by
  intro hredex
  cases hredex with
  | constantLeft kind => cases kind <;> simp [Expr.isEquiPredicate] at h
  | constantRight kind => cases kind <;> simp [Expr.isEquiPredicate] at h
  | _ => simp [Expr.isEquiPredicate] at h

theorem isEquiPredicate_of_tree {e s : Expr} (h : tree flip e = .ok s)
    (he : e.isEquiPredicate = true) : s.isEquiPredicate = true := by
  revert he
  refine tree_induction
    (motive := fun e s => e.isEquiPredicate = true → s.isEquiPredicate = true) ?_ h
  intro e m s halike hnode he
  have hm : m.isEquiPredicate = true :=
    Expr.isEquiPredicate_of_alike (halike.imp fun c _ c' hc' => hc'.2) he
  rw [node_of_not_redex (not_redex_of_isEquiPredicate hm)] at hnode
  rwa [← Except.ok.inj hnode]

theorem equiJoins_of_tree {e s : Expr} (h : tree flip e = .ok s) (he : e.EquiJoins) :
    s.EquiJoins := by
  refine tree_everywhere ?_ ?_ ?_ h he
  · intro n hn _
    cases hn <;> trivial
  · exact fun kind l r t _ => trivial
  · intro e m halike he
    cases halike with
    | join kind hx hx' => exact isEquiPredicate_of_tree hx' he
    | _ => trivial

end Simplify

/-- If all joins are on equalities, they are so after simplifying, with and without the rule
for negated comparisons. Making the result two-valued cannot fail on account of a join. -/
theorem equiJoins_of_simplify {e : Expr} (he : e.EquiJoins) :
    (∀ s, simplify true e = .ok s →
      s.EquiJoins ∧ ∀ predicate, twoValued s ≠ .error (.joinPredicate predicate)) ∧
    ∀ options s, options.useRelationalNulls = true → optimize options e = .ok s →
      s.EquiJoins ∧ ∀ predicate, twoValued s ≠ .error (.joinPredicate predicate) := by
  have hsimplify : ∀ flip s, simplify flip e = .ok s → s.EquiJoins :=
    fun flip s hs => Simplify.equiJoins_of_tree (Simplify.tree_of_simplify_eq_ok hs) he
  constructor
  · intro s hs
    have hjoins : s.EquiJoins := hsimplify true s hs
    exact ⟨hjoins, hjoins.twoValued_ne⟩
  · rintro ⟨relational, skip⟩ s rfl hs
    rw [optimize_relational] at hs
    have hjoins : s.EquiJoins := by
      cases skip with
      | true =>
          obtain rfl := Except.ok.inj hs
          exact he
      | false => exact hsimplify false s hs
    exact ⟨hjoins, hjoins.twoValued_ne⟩

/-- A join on `x = p AND (NOT NOT a) = (NOT (y < p))`, with operands to be simplified. -/
def Sample.joined : Expr :=
  .join .left (.table Sample.table none)
    (.binary (.connective .and) (.binary .equal Sample.x Sample.p .boolean)
      (.binary .equal (.unary .not (.unary .not Sample.a .boolean) .boolean)
        (.unary .not (.binary (.comparison .less) Sample.y Sample.p .boolean) .boolean) .boolean)
      .boolean)

theorem equiJoins_of_simplify_of_joined :
    ∃ s o, simplify true Sample.joined = .ok s ∧ s ≠ Sample.joined ∧ s.EquiJoins ∧
      optimize ⟨true, false⟩ Sample.joined = .ok o ∧ o.EquiJoins := by
  obtain ⟨hsimplify, hoptimize⟩ := equiJoins_of_simplify (e := Sample.joined) (by decide)
  exact ⟨_, _, rfl, by decide, (hsimplify _ rfl).1, rfl, (hoptimize ⟨true, false⟩ _ rfl rfl).1⟩

end NullLogic
