import NullLogic.Proofs.Evaluation
import NullLogic.Proofs.Expr.Bare
import NullLogic.Proofs.Simplify.Rules
import NullLogic.Proofs.Truth
import NullLogic.Sample

/-!
# The meaning of simplified expressions

A simplified expression has the value of the expression, if that has one. Each rule is
shown to keep values by itself, and the tree follows from the leaves up. Errors are not
kept: a double negation is taken away from what is no truth value, and a complement
names another operator in its error.

All rules but one hold under both readings of `NULL`. The complement of a comparison
need not be its negation where `NULL` is a value, so `flip` asks for comparisons of which
this is true (`Complements`). Where comparisons with `NULL` are unknown, it is true of
all.
-/

namespace NullLogic

variable {reading : NullReading} {b : Bindings} {flip : Bool}

namespace Simplify

/-! ### Null tests and constants -/

theorem evaluate_test_of_not {kind : NullTest} {x : Expr} {s t : DataType} {v : Value}
    (h : evaluate reading b (.unary (.test kind) (.unary .not x s) t) = .ok v) :
    evaluate reading b (.unary (.test kind) x t) = .ok v := by
  rcases bind_eq_ok_iff.1 h with ⟨w, hw, hv⟩
  rcases evaluate_not_eq_ok_iff.1 hw with ⟨p, hx, rfl⟩
  rw [evaluate, hx, ← hv]
  -- a truth value and its negation are `NULL` together
  cases p <;> rfl

theorem nullTest_keeps (kind : NullTest) (x : Expr) (t : DataType) :
    KeepsUnder False reading reading b (.unary (.test kind) x t) (nullTest kind x t) := by
  refine nullTest_induction true
    (motive := fun x t s => KeepsUnder False reading reading b (.unary (.test kind) x t) s)
    ?_ ?_ ?_ x t
  · intro u t
    exact Keeps.refl _
  · intro x u t s ih
    exact (keeps_false_iff.2 fun v hv => evaluate_test_of_not hv).trans ih
  · intro x t _
    exact Keeps.refl _

theorem absorb?_keeps (kind : Connective) (l r : Expr) (t : DataType) :
    KeepsUnder False reading reading b (.binary (.connective kind) l r t)
      ((absorb? kind l r).getD (.binary (.connective kind) l r t)) := by
  rw [KeepsUnder, keeps_false_iff]
  intro v hv
  rcases evaluate_connective_eq_ok_iff.1 hv with ⟨p, q, hl, hr, rfl⟩
  obtain ⟨c, s, rfl, heq⟩ | ⟨c, s, rfl, heq⟩ | ⟨-, -, heq⟩ :=
    absorb?_cases kind l r (.binary (.connective kind) l r t)
  · obtain rfl : p = some c := Value.ofTruth_injective (Except.ok.inj hl).symm
    rw [heq, kind.apply_some]
    split
    · rfl
    · exact hr
  · obtain rfl : q = some c := Value.ofTruth_injective (Except.ok.inj hr).symm
    rw [heq, kind.apply_comm, kind.apply_some]
    split
    · rfl
    · exact hl
  · rw [heq]
    exact hv

/-! ### Negations -/

theorem evaluate_of_not_not {x : Expr} {s t : DataType} {v : Value}
    (h : evaluate reading b (.unary .not (.unary .not x s) t) = .ok v) :
    evaluate reading b x = .ok v := by
  rcases evaluate_not_eq_ok_iff.1 h with ⟨_, hnot, rfl⟩
  rcases evaluate_not_eq_ok_iff.1 hnot with ⟨p, hp, heq⟩
  obtain rfl := Value.ofTruth_injective heq
  rw [hp]
  cases p <;> simp

theorem evaluate_test_complement {kind : NullTest} {x : Expr} {s t u : DataType} {v : Value}
    (h : evaluate reading b (.unary .not (.unary (.test kind) x s) t) = .ok v) :
    evaluate reading b (.unary (.test kind.complement) x u) = .ok v := by
  rcases bind_eq_ok_iff.1 h with ⟨w, hw, hv⟩
  rcases bind_eq_ok_iff.1 hw with ⟨y, hy, hw⟩
  rw [evaluate, hy, ← hv, ← Except.ok.inj hw]
  exact congrArg (Except.ok ∘ Value.bool) (kind.holds_complement y.isNull)

/-- A comparison on top has a complement that is true where it is false, false where it
is true, and unknown where it is unknown. -/
def Complements (reading : NullReading) (b : Bindings) : Expr → Prop
  | .binary (.comparison kind) left right _ => ∀ v w t, evaluate reading b left = .ok v →
      evaluate reading b right = .ok w → kind.apply reading v w = .ok (Value.ofTruth t) →
        kind.complement.apply reading v w = .ok (Value.ofTruth (t.map (!·)))
  | _ => True

theorem complements_threeValued (e : Expr) : Complements .threeValued b e := by
  unfold Complements
  split
  · exact fun v w t _ _ h => Comparison.apply_complement h
  · trivial

theorem evaluate_complement {kind : Comparison} {l r : Expr} {s t : DataType} {v : Value}
    (hc : Complements reading b (.binary (.comparison kind) l r s))
    (h : evaluate reading b (.unary .not (.binary (.comparison kind) l r s) t) = .ok v) :
    evaluate reading b (.binary (.comparison kind.complement) l r s) = .ok v := by
  rcases evaluate_not_eq_ok_iff.1 h with ⟨p, hp, rfl⟩
  rw [evaluate_comparison] at hp
  rcases bind_eq_ok_iff.1 hp with ⟨u, hu, hp⟩
  rcases bind_eq_ok_iff.1 hp with ⟨w, hw, hp⟩
  rw [evaluate_comparison, hu, hw]
  exact hc u w p hu hw hp

/-- De Morgan's law for operands whose negations are known. -/
theorem evaluate_deMorgan {kind : Connective} {l r l' r' : Expr} {s t : DataType} {v : Value}
    (hl : KeepsUnder False reading reading b (.unary .not l .boolean) l')
    (hr : KeepsUnder False reading reading b (.unary .not r .boolean) r')
    (h : evaluate reading b (.unary .not (.binary (.connective kind) l r s) t) = .ok v) :
    evaluate reading b (.binary (.connective kind.dual) l' r' .boolean) = .ok v := by
  rcases evaluate_not_eq_ok_iff.1 h with ⟨_, hboth, rfl⟩
  rcases evaluate_connective_eq_ok_iff.1 hboth with ⟨p, q, hp, hq, heq⟩
  obtain rfl := Value.ofTruth_injective heq
  rw [kind.map_not_apply]
  refine evaluate_connective_eq_ok_iff.2 ⟨_, _, hl.ok ?_, hr.ok ?_, rfl⟩
  · exact evaluate_not_eq_ok_iff.2 ⟨p, hp, rfl⟩
  · exact evaluate_not_eq_ok_iff.2 ⟨q, hq, rfl⟩

theorem negate_keeps {x s : Expr} {t : DataType} (h : negate flip x t = .ok s)
    (hx : flip = true → x.Everywhere (Complements reading b)) :
    KeepsUnder False reading reading b (.unary .not x t) s := by
  revert hx
  refine negate_induction
    (motive := fun x t s => (flip = true → x.Everywhere (Complements reading b)) →
      KeepsUnder False reading reading b (.unary .not x t) s)
    ?_ ?_ ?_ ?_ ?_ ?_ h
  · intro c u t _
    exact Keeps.refl _
  · intro x u t _
    exact keeps_false_iff.2 fun v hv => evaluate_of_not_not hv
  · intro kind x u t _
    refine Keeps.trans ?_ (nullTest_keeps kind.complement x .boolean)
    exact keeps_false_iff.2 fun v hv => evaluate_test_complement hv
  · intro kind l r u t l' r' _ _ _ _ ihl ihr hx
    have hl := ihl fun hf => (hx hf).left
    have hr := ihr fun hf => (hx hf).right
    refine Keeps.trans ?_ (absorb?_keeps kind.dual l' r' .boolean)
    exact keeps_false_iff.2 fun v hv => evaluate_deMorgan hl hr hv
  · intro kind l r u t hf hx
    exact keeps_false_iff.2 fun v hv => evaluate_complement (hx hf).self hv
  · intro x t _ _
    exact Keeps.refl _

/-! ### All nodes -/

theorem node_keeps {e s : Expr} (h : node flip e = .ok s)
    (he : flip = true → e.Everywhere (Complements reading b)) :
    KeepsUnder False reading reading b e s := by
  obtain ⟨x, t, rfl, hs⟩ | ⟨kind, x, t, rfl, rfl⟩ | ⟨kind, l, r, t, rfl, rfl⟩ | ⟨-, rfl⟩ :=
    node_cases h
  · exact negate_keeps hs fun hf => (he hf).child List.mem_cons_self
  · exact nullTest_keeps kind x t
  · exact absorb?_keeps kind l r t
  · exact Keeps.refl _

theorem tree_keeps (hflip : flip = true → reading = .threeValued) {e s : Expr}
    (h : tree flip e = .ok s) : KeepsUnder False reading reading b e s := by
  refine tree_induction (motive := fun e s => KeepsUnder False reading reading b e s) ?_ h
  intro e m s halike hnode
  have hchildren : KeepsUnder False reading reading b e m :=
    evaluate_keeps (halike.imp fun c _ c' hc' => hc'.2) (.inl rfl)
  refine hchildren.trans (node_keeps hnode fun hf => ?_)
  obtain rfl := hflip hf
  exact fun n _ => complements_threeValued n

end Simplify

/-- Where comparisons with `NULL` are unknown, simplifying neither changes a value nor
puts an error in its place. -/
theorem evaluate_simplify {e s : Expr} {b : Bindings} {v : Value}
    (h : simplify true e = .ok s) (hv : evaluate .threeValued b e = .ok v) :
    evaluate .threeValued b s = .ok v :=
  (Simplify.tree_keeps (fun _ => rfl) (Simplify.tree_of_simplify_eq_ok h)).ok hv

/-- `NOT (a AND x = y)` for a `NULL` in `a`, where `x` and `y` differ. -/
theorem evaluate_simplify_not_and :
    ∃ s, simplify true (.unary .not (.binary .and Sample.a (.binary .equal Sample.x Sample.y
        .boolean) .boolean) .boolean) = .ok s ∧
      evaluate .threeValued (Sample.bindings .null (.bool true) .null (.int 0) (.int 1) .null) s =
        .ok (.bool true) := by
  obtain ⟨s, h⟩ : ∃ s, simplify true (.unary .not (.binary .and Sample.a (.binary .equal Sample.x
      Sample.y .boolean) .boolean) .boolean) = .ok s := ⟨_, rfl⟩
  exact ⟨s, h, evaluate_simplify h rfl⟩

end NullLogic
