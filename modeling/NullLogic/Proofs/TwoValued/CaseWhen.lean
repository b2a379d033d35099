import NullLogic.Proofs.TwoValued.Meaning

/-!
# `CASE` with an operand

The tests of a `CASE` with an operand are compared with it like the sides of an equality, but
there is no equality in the tree that could be made two-valued. If `NULL` is a value, a test
that is `NULL` is taken for an operand that is `NULL`; under three-valued comparisons nothing
is. So the two-valued form keeps the value unless both are `NULL`, and has the value of the
`ELSE` branch wherever the operand is `NULL`.
-/

namespace NullLogic

namespace Expr

/-- The node is a constant or a reference, a null test, an equality, or one of `NOT`, `AND`
and `OR`. -/
def isElementary : Expr → Bool
  | constant _ _ | column _ _ _ _ | parameter _ _ => true
  | unary .not _ _ | unary (.test _) _ _ => true
  | binary (.connective _) _ _ _ => true
  | binary (.comparison .equal) _ _ _ | binary (.comparison .notEqual) _ _ _ => true
  | _ => false

def Elementary (e : Expr) : Prop :=
  Everywhere (fun n => n.isElementary = true) e

instance (e : Expr) : Decidable e.Elementary :=
  inferInstanceAs (Decidable (Everywhere (fun n => n.isElementary = true) e))

theorem guardedNode_of_isElementary {e : Expr} (h : e.isElementary = true) : e.GuardedNode := by
  unfold isElementary at h
  split at h
  case h_9 => simp at h
  all_goals trivial

theorem Elementary.guarded {e : Expr} (h : e.Elementary) : e.Guarded :=
  h.mono fun _ hn => guardedNode_of_isElementary hn

end Expr

variable {reading : NullReading} {b : Bindings}

/-! ### An operand that is `NULL` -/

theorem isTaken_threeValued_null (t : Value) :
    isTaken .threeValued (some .null) t = .ok false := rfl

theorem evaluateClauses_of_null {clauses : List (Clause Expr)}
    (h : ∀ clause ∈ clauses, ∃ t, evaluate .threeValued b clause.test = .ok t) :
    evaluateClauses .threeValued b (some .null) clauses = .ok none := by
  induction clauses with
  | nil => rfl
  | cons clause clauses ih =>
      obtain ⟨t, ht⟩ := h clause List.mem_cons_self
      rw [evaluateClauses, ht, ok_bind, isTaken_threeValued_null, ok_bind]
      exact ih fun clause' hclause' => h clause' (List.mem_cons_of_mem clause hclause')

/-- Under three-valued comparisons no branch is taken for an operand that is `NULL`. -/
theorem evaluate_caseWhen_of_null {operand : Expr} {clauses : List (Clause Expr)}
    {otherwise : Option Expr} {type : DataType} {d : Option Value}
    (hoperand : evaluate .threeValued b operand = .ok .null)
    (htests : ∀ clause ∈ clauses, ∃ t, evaluate .threeValued b clause.test = .ok t)
    (hd : evaluateOption .threeValued b otherwise = .ok d) :
    evaluate .threeValued b (.caseWhen (some operand) clauses otherwise type) =
      .ok (d.getD .null) := by
  rw [evaluate, evaluateOption, hoperand]
  simp only [ok_bind, pure_bind, evaluateClauses_of_null htests, hd]
  rfl

/-! ### Two-valued forms -/

theorem alike_keeps_of_twoValued {e e' : Expr} (h : twoValued e = .ok e')
    (he : e.isEquality = false) (hg : ∀ c ∈ e.children, c.Guarded) (hb : b.Respect e) :
    e.Alike (KeepsUnder False .asValue reading b) e' :=
  (alike_of_twoValued_eq_ok h he).imp fun c hc _ hc' =>
    twoValued_keeps hc' (hg c hc) (hb.child hc) False.elim

variable {operand r : Expr} {clauses : List (Clause Expr)} {otherwise : Option Expr}
  {type : DataType}

/-- The two-valued form of a `CASE` with an operand, read with three-valued comparisons, has
the value that the `CASE` has when `NULL` is a value, unless the operand and a test are `NULL`
both. For an operand that is `NULL` it has the value of the `ELSE` branch. -/
theorem evaluate_twoValued_caseWhen
    (h : twoValued (.caseWhen (some operand) clauses otherwise type) = .ok r)
    (helementary : ∀ c ∈ (Expr.caseWhen (some operand) clauses otherwise type).children,
      c.Elementary)
    (hb : b.Respect (.caseWhen (some operand) clauses otherwise type)) :
    ((evaluate .asValue b operand ≠ .ok .null ∨
        ∀ clause ∈ clauses, evaluate .asValue b clause.test ≠ .ok .null) →
      ∀ v, evaluate .asValue b (.caseWhen (some operand) clauses otherwise type) = .ok v →
        evaluate .threeValued b r = .ok v) ∧
      (evaluate .asValue b operand = .ok .null →
        (∀ clause ∈ clauses, ∃ t, evaluate .asValue b clause.test = .ok t) →
        ∀ d, evaluateOption .asValue b otherwise = .ok d →
          evaluate .threeValued b r = .ok (d.getD .null)) := by
  have halike : (Expr.caseWhen (some operand) clauses otherwise type).Alike
      (KeepsUnder False .asValue .threeValued b) r :=
    alike_keeps_of_twoValued h rfl (fun c hc => (helementary c hc).guarded) hb
  constructor
  · intro hfree v hv
    have hkeeps : KeepsUnder False .asValue .threeValued b
        (.caseWhen (some operand) clauses otherwise type) r :=
      evaluate_keeps halike (.inr hfree)
    exact hkeeps.ok hv
  · intro hnull htests d hd
    cases halike with
    | caseWhen _ hoperand hclauses hotherwise =>
        cases hoperand with
        | some hx =>
            refine evaluate_caseWhen_of_null (hx.ok hnull) (fun l hl => ?_)
              ((evaluateOption_keeps hotherwise).ok hd)
            obtain ⟨k, hk, hkl⟩ := Expr.exists_mem_left_of_forall₂ hclauses hl
            obtain ⟨t, ht⟩ := htests k hk
            exact ⟨t, hkl.test.ok ht⟩

/-- `CASE x WHEN p THEN a = q ELSE b END`: for a `NULL` on both sides of the equality, and for
a `NULL` in `x`. -/
theorem evaluate_twoValued_caseWhen_of_nulls :
    ∃ r, twoValued (.caseWhen (some Sample.x) [⟨Sample.p, .binary .equal Sample.a Sample.q
        .boolean⟩] (some Sample.b) .boolean) = .ok r ∧
      evaluate .threeValued (Sample.bindings .null (.bool false) .null (.int 1) (.int 0)
        (.int 1)) r = .ok (.bool true) ∧
      evaluate .threeValued (Sample.bindings .null (.bool false) .null .null (.int 0) (.int 1))
        r = .ok (.bool false) := by
  obtain ⟨r, h⟩ : ∃ r, twoValued (.caseWhen (some Sample.x) [⟨Sample.p, .binary .equal Sample.a
      Sample.q .boolean⟩] (some Sample.b) .boolean) = .ok r := ⟨_, rfl⟩
  refine ⟨r, h, ?_, ?_⟩
  · have hne : evaluate .asValue (Sample.bindings .null (.bool false) .null (.int 1) (.int 0)
        (.int 1)) Sample.x ≠ .ok .null := nofun
    exact (evaluate_twoValued_caseWhen h (by decide) (by decide)).1 (.inl hne) _ rfl
  · have htests : ∀ clause ∈ [(⟨Sample.p, .binary .equal Sample.a Sample.q .boolean⟩ :
        Clause Expr)], ∃ t, evaluate .asValue (Sample.bindings .null (.bool false) .null .null
          (.int 0) (.int 1)) clause.test = .ok t := by
      intro clause hclause
      rw [List.mem_singleton.1 hclause]
      exact ⟨_, rfl⟩
    exact (evaluate_twoValued_caseWhen h (by decide) (by decide)).2 rfl htests _ rfl

/-- `CASE x WHEN p THEN 1 ELSE 0 END`. -/
def Sample.indicator : Expr :=
  .caseWhen (some x) [⟨p, .constant (.int 1) .int64⟩] (some (.constant (.int 0) .int64)) .int64

/-- For a `NULL` in both `x` and `p` the value is `1` if `NULL` is a value, but the two-valued
form has the value `0`. -/
theorem evaluate_twoValued_indicator_ne :
    ∃ r, (∀ c ∈ Sample.indicator.children, c.Elementary) ∧
      Bindings.Respect (Sample.bindings (.bool true) (.bool true) .null .null (.int 0) .null)
        Sample.indicator ∧
      twoValued Sample.indicator = .ok r ∧
      evaluate .asValue (Sample.bindings (.bool true) (.bool true) .null .null (.int 0) .null)
        Sample.indicator = .ok (.int 1) ∧
      evaluate .threeValued (Sample.bindings (.bool true) (.bool true) .null .null (.int 0)
        .null) r = .ok (.int 0) :=
  ⟨_, by decide, by decide, rfl, rfl, rfl⟩

end NullLogic
