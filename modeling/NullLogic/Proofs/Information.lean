import NullLogic.Expr.Nodes
import NullLogic.Proofs.Truth
import NullLogic.Sample

/-!
# `NULL` as missing information

`v.Approximates w` says that `w` is `v`, unless `v` is `NULL`, which may stand for any value.
Under three-valued comparisons every operator of a `Kleene` expression respects this order:
most have no value other than `NULL` if an operand is `NULL`, and a connective is decided
without an operand only where that operand does not matter. So what is known of the
expression does not change when more of its columns and parameters are known. Null tests,
`COALESCE` and `CASE` look at what is missing, and are left out.
-/

namespace NullLogic

namespace Expr

/-- The node takes `NULL` for an operand of which nothing is known. -/
def KleeneNode : Expr → Prop
  | constant _ _ | column _ _ _ _ | parameter _ _ => True
  | unary .not _ _ | unary .negate _ _ => True
  | binary (.comparison _) _ _ _ | binary (.connective _) _ _ _ | binary (.arithmetic _) _ _ _ =>
      True
  | like _ _ _ => True
  | _ => False

instance : DecidablePred KleeneNode
  | constant _ _ | column _ _ _ _ | parameter _ _ | like _ _ _ => isTrue trivial
  | unary .not _ _ | unary .negate _ _ => isTrue trivial
  | binary (.comparison _) _ _ _ | binary (.connective _) _ _ _ | binary (.arithmetic _) _ _ _ =>
      isTrue trivial
  | unary (.test _) _ _ | binary .coalesce _ _ _ => isFalse id
  | call _ _ _ _ | caseWhen _ _ _ _ | table _ _ | join _ _ _ => isFalse id

def Kleene (e : Expr) : Prop :=
  Everywhere KleeneNode e

instance (e : Expr) : Decidable e.Kleene :=
  inferInstanceAs (Decidable (Everywhere KleeneNode e))

end Expr

/-! ### The order on values -/

def Value.Approximates (v w : Value) : Prop :=
  v = null ∨ v = w

/-- The second bindings have values for the same names, and may have any where the first
have `NULL`. -/
structure Bindings.Approximates (b c : Bindings) : Prop where
  column : ∀ source name,
    Option.Rel Value.Approximates (b.column source name) (c.column source name)
  parameter : ∀ name, Option.Rel Value.Approximates (b.parameter name) (c.parameter name)

theorem Value.Approximates.refl (v : Value) : v.Approximates v :=
  .inr rfl

theorem Value.rel_approximates_refl (o : Option Value) : Option.Rel Approximates o o := by
  cases o with
  | none => exact .none
  | some v => exact .some (.refl v)

/-- A `NULL` in a column is filled in. -/
theorem Bindings.approximates_setColumn {b : Bindings} {source name : String}
    (h : b.column source name = some .null) (v : Value) :
    b.Approximates (b.setColumn source name v) where
  column source' name' := by
    by_cases heq : source' = source ∧ name' = name
    · obtain ⟨rfl, rfl⟩ := heq
      rw [h, column_setColumn_self]
      exact .some (.inl rfl)
    · rw [b.column_setColumn_of_ne v heq]
      exact Value.rel_approximates_refl _
  parameter name' := Value.rel_approximates_refl (b.parameter name')

/-! ### Operators -/

section Operators

open Value (Approximates)

variable {v v' w w' : Value}

theorem related_self (x : Except EvalError Value) : Related Approximates x x := by
  intro v w hv hw
  obtain rfl := Except.ok.inj (hv.symm.trans hw)
  exact .refl v

theorem related_null (y : Except EvalError Value) : Related Approximates (.ok .null) y :=
  fun _ _ hv _ => .inl (Except.ok.inj hv).symm

theorem related_of_strict {f : Value → Except EvalError Value} (hf : f .null = .ok .null)
    (hv : v.Approximates v') : Related Approximates (f v) (f v') := by
  rcases hv with rfl | rfl
  · rw [hf]
    exact related_null _
  · exact related_self _

theorem related_of_strict₂ {f : Value → Value → Except EvalError Value}
    (hf : ∀ v w, (v.isNull || w.isNull) = true → f v w = .ok .null) (hv : v.Approximates v')
    (hw : w.Approximates w') : Related Approximates (f v w) (f v' w') := by
  rcases hv with rfl | rfl
  · rw [hf .null w rfl]
    exact related_null _
  · exact related_of_strict (hf v .null (Bool.or_true _)) hw

theorem UnaryOp.apply_related {op : UnaryOp} (hop : ∀ kind, op ≠ .test kind)
    (hv : v.Approximates v') : Related Approximates (op.apply v) (op.apply v') := by
  refine related_of_strict ?_ hv
  cases op with
  | test kind => exact absurd rfl (hop kind)
  | _ => rfl

theorem Comparison.apply_related (kind : Comparison) (hv : v.Approximates v')
    (hw : w.Approximates w') :
    Related Approximates (kind.apply .threeValued v w) (kind.apply .threeValued v' w') := by
  refine related_of_strict₂ (fun v w hnull => ?_) hv hw
  rw [Comparison.apply, if_pos hnull]

theorem Arithmetic.apply_related (kind : Arithmetic) (hv : v.Approximates v')
    (hw : w.Approximates w') : Related Approximates (kind.apply v w) (kind.apply v' w') := by
  refine related_of_strict₂ (fun v w hnull => ?_) hv hw
  unfold Arithmetic.apply
  rw [if_pos hnull]

/-- Where an unknown operand does not make the result unknown, it does not matter what it
stands for. -/
theorem Connective.apply_eq_of_apply_none {kind : Connective} {t : Option Bool}
    (h : kind.apply none t ≠ none) (s : Option Bool) : kind.apply none t = kind.apply s t := by
  cases t with
  | none => exact absurd rfl h
  | some c =>
      have hc : c = kind.absorbing := by
        by_contra hne
        exact h (by simp [Connective.apply, hne])
      rw [kind.apply_comm none, kind.apply_comm s, kind.apply_some, kind.apply_some, if_pos hc,
        if_pos hc]

theorem Connective.apply_approximates (kind : Connective) {s s' t t' : Option Bool}
    (hs : s = none ∨ s = s') (ht : t = none ∨ t = t') :
    kind.apply s t = none ∨ kind.apply s t = kind.apply s' t' := by
  by_cases h : kind.apply s t = none
  · exact .inl h
  · have hleft : kind.apply s t = kind.apply s' t := by
      rcases hs with rfl | rfl
      · exact apply_eq_of_apply_none h s'
      · rfl
    have hright : kind.apply s' t = kind.apply s' t' := by
      rw [hleft] at h
      rcases ht with rfl | rfl
      · rw [kind.apply_comm] at h ⊢
        rw [kind.apply_comm s' t']
        exact apply_eq_of_apply_none h t'
      · rfl
    exact .inr (hleft.trans hright)

theorem Value.ofTruth_approximates_iff {s t : Option Bool} :
    (ofTruth s).Approximates (ofTruth t) ↔ s = none ∨ s = t :=
  or_congr (ofTruth_injective.eq_iff (b := none)) ofTruth_injective.eq_iff

theorem Connective.evaluate_related (kind : Connective) (hv : v.Approximates v')
    (hw : w.Approximates w') : Related Approximates (kind.evaluate v w) (kind.evaluate v' w') := by
  intro u u' hu hu'
  rcases kind.evaluate_eq_ok_iff.1 hu with ⟨s, t, rfl, rfl, rfl⟩
  rcases kind.evaluate_eq_ok_iff.1 hu' with ⟨s', t', rfl, rfl, rfl⟩
  rw [Value.ofTruth_approximates_iff] at hv hw ⊢
  exact kind.apply_approximates hv hw

theorem Like.apply_related {o o' : Option Value} (hv : v.Approximates v')
    (hw : w.Approximates w') (ho : Option.Rel Approximates o o') :
    Related Approximates (Like.apply v w o) (Like.apply v' w' o') := by
  by_cases hnull : (v :: w :: o.toList).any Value.isNull = true
  · have hstrict : Like.apply v w o = .ok .null := if_pos hnull
    rw [hstrict]
    exact related_null _
  · simp only [List.any_cons, Bool.or_eq_true, Value.isNull_eq_true_iff, not_or] at hnull
    obtain ⟨hvn, hwn, hon⟩ := hnull
    obtain rfl := hv.resolve_left hvn
    obtain rfl := hw.resolve_left hwn
    cases ho with
    | none => exact related_self _
    | some hc =>
        obtain rfl := hc.resolve_left (by simpa using hon)
        exact related_self _

end Operators

/-! ### Expressions -/

section Evaluation

open Value (Approximates)

variable {b c : Bindings}

/-- The two evaluations of the expression, if both have a value. -/
abbrev RelatedUnder (b c : Bindings) (e : Expr) : Prop :=
  Related Approximates (evaluate .threeValued b e) (evaluate .threeValued c e)

theorem evaluateOption_related {o : Option Expr} (h : ∀ x ∈ o.toList, RelatedUnder b c x) :
    Related (Option.Rel Approximates) (evaluateOption .threeValued b o)
      (evaluateOption .threeValued c o) := by
  cases o with
  | none => exact related_ok .none
  | some x => exact (h x List.mem_cons_self).bind fun v w hvw => related_ok (.some hvw)

theorem evaluate_related {e : Expr} (he : e.Kleene) (h : b.Approximates c) :
    RelatedUnder b c e := by
  induction e using Expr.induction with
  | step e ih =>
      have hchildren : ∀ x ∈ e.children, RelatedUnder b c x :=
        fun x hx => ih x hx (he.child hx)
      have hnode : e.KleeneNode := he.self
      cases e with
      | constant value type => exact related_self _
      | column source name type nullable =>
          have hvalue := h.column source name
          rw [RelatedUnder, evaluate, evaluate]
          generalize b.column source name = o, c.column source name = o' at hvalue
          cases hvalue with
          | none => exact related_self _
          | some hvw => exact related_ok hvw
      | parameter name type =>
          have hvalue := h.parameter name
          rw [RelatedUnder, evaluate, evaluate]
          generalize b.parameter name = o, c.parameter name = o' at hvalue
          cases hvalue with
          | none => exact related_self _
          | some hvw => exact related_ok hvw
      | unary op x type =>
          refine (hchildren x List.mem_cons_self).bind fun v w hvw => ?_
          refine UnaryOp.apply_related ?_ hvw
          rintro kind rfl
          exact hnode
      | binary op l r type =>
          refine (hchildren l List.mem_cons_self).bind fun v v' hv => ?_
          refine (hchildren r (List.mem_cons_of_mem l List.mem_cons_self)).bind fun w w' hw => ?_
          cases op with
          | comparison kind =>
              simpa only [BinaryOp.apply_comparison] using kind.apply_related hv hw
          | connective kind => exact kind.evaluate_related hv hw
          | arithmetic kind =>
              simpa only [BinaryOp.apply_arithmetic] using kind.apply_related hv hw
          | coalesce => exact hnode.elim
      | like subject pattern escape =>
          simp only [Expr.children, List.mem_cons] at hchildren
          refine (hchildren subject (.inl rfl)).bind fun s s' hs => ?_
          refine (hchildren pattern (.inr (.inl rfl))).bind fun p p' hp => ?_
          refine (evaluateOption_related fun x hx => hchildren x (.inr (.inr hx))).bind ?_
          exact fun o o' ho => Like.apply_related hs hp ho
      | _ => exact hnode.elim

/-- What a `Kleene` expression is known to be, it is for every value that a `NULL` among those
that it reads might stand for. -/
theorem evaluate_eq_of_approximates {e : Expr} {b c : Bindings} {v w : Value} (he : e.Kleene)
    (h : b.Approximates c) (hv : evaluate .threeValued b e = .ok v) (hne : v ≠ .null)
    (hw : evaluate .threeValued c e = .ok w) : w = v :=
  ((evaluate_related he h v w hv hw).resolve_left hne).symm

/-- `NOT (a AND x < p)` is true without `a` if `x` is not less than `p`. -/
theorem evaluate_eq_of_approximates_of_not_less :
    ∃ w, evaluate .threeValued ((Sample.bindings .null (.bool true) .null (.int 1) (.int 0)
        (.int 0)).setColumn Sample.table "a" (.bool true)) (.unary .not (.binary .and Sample.a
        (.binary (.comparison .less) Sample.x Sample.p .boolean) .boolean) .boolean) = .ok w ∧
      w = .bool true := by
  have hfilled : (Sample.bindings .null (.bool true) .null (.int 1) (.int 0) (.int 0)).Approximates
      ((Sample.bindings .null (.bool true) .null (.int 1) (.int 0) (.int 0)).setColumn
        Sample.table "a" (.bool true)) := Bindings.approximates_setColumn rfl (.bool true)
  obtain ⟨w, hw⟩ : ∃ w, evaluate .threeValued ((Sample.bindings .null (.bool true) .null (.int 1)
      (.int 0) (.int 0)).setColumn Sample.table "a" (.bool true)) (.unary .not (.binary .and
      Sample.a (.binary (.comparison .less) Sample.x Sample.p .boolean) .boolean) .boolean) =
      .ok w := ⟨_, rfl⟩
  exact ⟨w, hw, evaluate_eq_of_approximates (by decide) hfilled rfl (by simp) hw⟩

end Evaluation

end NullLogic
