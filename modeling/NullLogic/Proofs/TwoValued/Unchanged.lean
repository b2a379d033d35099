import NullLogic.Proofs.Expr.Equality
import NullLogic.Proofs.TwoValued.Form
import NullLogic.Sample

/-!
# What making equalities two-valued leaves unchanged

An equality is settled if neither operand might be `NULL` and neither begins with `NOT`.
A tree whose equalities are all settled is its own two-valued form. Conversely, if a tree
comes back unchanged, even up to the sign of zeros, its equalities are settled: null tests
put a connective on top, and a `NOT` taken off one operand reverses the operator. A `NOT`
taken off both operands keeps the operator, but leaves operands that are not the ones from
before, as no expression has its own negation for two-valued form (`twoValued_not_same_not`).
-/

namespace NullLogic

namespace Expr

/-- The expression is known not to be `NULL` and does not begin with `NOT`. -/
def IsComparable (e : Expr) : Prop :=
  e.nullable = false ∧ e.isNegation = false

instance (e : Expr) : Decidable e.IsComparable :=
  inferInstanceAs (Decidable (_ ∧ _))

/-- If the node is an equality or inequality, its operands are compared as they are. -/
def SettledNode (e : Expr) : Prop :=
  e.isEquality = true → ∀ c ∈ e.children, c.IsComparable

instance : DecidablePred SettledNode := fun e =>
  inferInstanceAs (Decidable (e.isEquality = true → ∀ c ∈ e.children, c.IsComparable))

def Settled (e : Expr) : Prop :=
  e.Everywhere SettledNode

instance (e : Expr) : Decidable e.Settled :=
  inferInstanceAs (Decidable (Everywhere _ _))

theorem settledNode_equality_iff {positive : Bool} {left right : Expr} {type : DataType} :
    SettledNode (binary (.comparison (.equality positive)) left right type) ↔
      left.IsComparable ∧ right.IsComparable := by
  cases positive <;> simp [SettledNode, isEquality, children, Comparison.equality]

theorem settledNode_of_isEquality_eq_false {e : Expr} (h : e.isEquality = false) :
    e.SettledNode := by
  intro htrue
  simp [h] at htrue

theorem IsComparable.bare_eq {e : Expr} (h : e.IsComparable) : e.bare = e :=
  bare_of_isNegation_eq_false h.2

end Expr

open TwoValued

/-! ### Settled trees are kept -/

theorem form_of_isComparable {positive : Bool} {left right : Expr} {type : DataType}
    (hleft : left.IsComparable) (hright : right.IsComparable) :
    form positive type ⟨left, left.isNegation, left.nullable⟩
        ⟨right, right.isNegation, right.nullable⟩ =
      .binary (.comparison (.equality positive)) left right type := by
  rw [hleft.1, hleft.2, hright.1, hright.2]
  cases positive <;> rfl

theorem eq_of_twoValued_of_settled {e r : Expr} (h : twoValued e = .ok r) (he : e.Settled) :
    r = e := by
  revert he
  refine twoValued_induction (motive := fun e r => e.Settled → r = e) ?_ ?_ h
  · intro positive left right type l r _ _ _ ihl ihr he
    obtain ⟨hleft, hright⟩ := Expr.settledNode_equality_iff.1 he.self
    have hl : l = left := hleft.bare_eq ▸ ihl (hleft.bare_eq.symm ▸ he.left)
    have hr : r = right := hright.bare_eq ▸ ihr (hright.bare_eq.symm ▸ he.right)
    rw [hl, hr]
    exact form_of_isComparable hleft hright
  · intro e r _ halike he
    exact (halike.imp fun c hc c' hc' => (hc'.2 (he.child hc)).symm).eq.symm

/-! ### Trees that are kept are settled -/

theorem form_not_same_not {positive : Bool} {type t : DataType} {l r : Operand} {x : Expr} :
    (form positive type l r).same (.unary .not x t) = false := by
  unfold form
  split <;> rfl

/-- The two-valued form of an expression is not the negation of the expression. -/
theorem twoValued_not_same_not {e r : Expr} (h : twoValued e = .ok r) (t : DataType) :
    r.same (.unary .not e t) = false := by
  revert t
  refine twoValued_induction (motive := fun e r => ∀ t, r.same (.unary .not e t) = false) ?_ ?_ h
  · intro positive left right type l r _ _ _ _ _ t
    exact form_not_same_not
  · intro e r _ halike t
    cases halike with
    | unary op type hx =>
        cases op with
        | not =>
            have hinner := hx.2 type
            simp_all [Expr.same, Expr.agree]
        | _ => simp [Expr.same, Expr.agree]
    | _ => rfl

/-- The guarded comparison is the comparison itself just if there are no guards, the operator
is not reversed and the operands are the same. -/
theorem same_form_iff {positive : Bool} {type : DataType} {l r : Operand} {left right : Expr} :
    (form positive type l r).same
        (.binary (.comparison (.equality positive)) left right type) = true ↔
      l.nullable = false ∧ r.nullable = false ∧ l.negated = r.negated ∧
        l.expr.same left = true ∧ r.expr.same right = true := by
  have hkind : Comparison.equality (positive == (l.negated == r.negated)) =
      .equality positive ↔ l.negated = r.negated := by
    rw [Comparison.equality_inj]
    cases positive <;> simp
  cases hl : l.nullable <;> cases hr : r.nullable <;>
    simp [form, hl, hr, connected, values, Expr.same, Expr.agree, hkind, and_assoc]

theorem settled_of_same {e r : Expr} (h : twoValued e = .ok r) (hsame : r.same e = true) :
    e.Settled := by
  revert hsame
  refine twoValued_induction (motive := fun e r => r.same e = true → e.Settled) ?_ ?_ h
  · intro positive left right type l r _ hl hr ihl ihr hsame
    obtain ⟨hnleft, hnright, hneg, hsleft, hsright⟩ := same_form_iff.1 hsame
    have hbegins : left.isNegation = false := by
      by_contra hnot
      obtain ⟨t, heq⟩ := Expr.exists_eq_not_of_isNegation (eq_true_of_ne_false hnot)
      rw [heq, twoValued_not_same_not hl t] at hsleft
      cases hsleft
    have hleft : left.IsComparable := ⟨hnleft, hbegins⟩
    have hright : right.IsComparable := ⟨hnright, hneg.symm.trans hbegins⟩
    refine Expr.everywhere_binary (Expr.settledNode_equality_iff.2 ⟨hleft, hright⟩) ?_ ?_
    · exact hleft.bare_eq ▸ ihl (hleft.bare_eq.symm ▸ hsleft)
    · exact hright.bare_eq ▸ ihr (hright.bare_eq.symm ▸ hsright)
  · intro e r he halike hsame
    refine (Expr.everywhere_iff _ _).2 ⟨Expr.settledNode_of_isEquality_eq_false he, fun c hc => ?_⟩
    have hsettled : List.Forall₂ (fun c _ => c.Settled) e.children r.children :=
      List.Forall₂.mp (fun c c' hc hcsame => hc.2 hcsame) halike.children
        (Expr.forall₂_children_of_agree hsame).flip
    obtain ⟨_, -, hcsettled⟩ := Expr.exists_mem_right_of_forall₂ hsettled hc
    exact hcsettled

/-- An expression is its own two-valued form, whether compared exactly or up to the sign of
zeros, if and only if the operands of all its equalities are known not to be `NULL` and do not
begin with `NOT`. Without equalities it always is. -/
theorem twoValued_unchanged_iff {e r : Expr} (h : twoValued e = .ok r) :
    (r = e ↔ e.Settled) ∧ (r.same e = true ↔ e.Settled) ∧
      ((∀ n ∈ e.nodes, n.isEquality = false) → r = e) := by
  have hkept : e.Settled → r = e := eq_of_twoValued_of_settled h
  have hsettled : r.same e = true → e.Settled := settled_of_same h
  refine ⟨⟨?_, hkept⟩, ⟨hsettled, ?_⟩, ?_⟩
  · rintro rfl
    exact hsettled (Expr.same_self r)
  · intro he
    rw [hkept he]
    exact Expr.same_self e
  · intro hnone
    exact hkept fun n hn => Expr.settledNode_of_isEquality_eq_false (hnone n hn)

/-- `(NOT NOT b) = (NOT b)`, in which `NOT` is taken off both operands. -/
def Sample.negations : Expr :=
  .binary .equal (.unary .not (.unary .not Sample.b .boolean) .boolean)
    (.unary .not Sample.b .boolean) .boolean

/-- `NOT (b = (y <> y))`, which needs no null tests. -/
def Sample.comparisons : Expr :=
  .unary .not (.binary .equal Sample.b (.binary .notEqual Sample.y Sample.y .boolean)
    .boolean) .boolean

theorem twoValued_unchanged_iff_of_comparisons :
    (∃ r, twoValued Sample.negations = .ok r ∧ r ≠ Sample.negations ∧
      r.same Sample.negations = false) ∧
    ∃ r, twoValued Sample.comparisons = .ok r ∧ r = Sample.comparisons := by
  obtain ⟨hsame, hchanged, -⟩ := twoValued_unchanged_iff (e := Sample.negations) rfl
  refine ⟨⟨_, rfl, mt hsame.1 (by decide), ?_⟩, _, rfl, ?_⟩
  · exact eq_false_of_ne_true (mt hchanged.1 (by decide))
  · exact (twoValued_unchanged_iff (e := Sample.comparisons) rfl).1.2 (by decide)

end NullLogic
