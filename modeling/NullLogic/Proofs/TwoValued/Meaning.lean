import NullLogic.Proofs.TwoValued.Nullability

/-!
# The meaning of two-valued forms

Read with three-valued comparisons, the two-valued form of an expression has the value
that the expression has when `NULL` is read as a value, and the form does not depend
on the reading at all. Both hold of expressions that are `Guarded`: where an ordering
or a `CASE` compares what might be `NULL`, the readings differ, and nothing is
spelled out.

`twoValued_keeps` is the first statement by induction, for values and, with `faults`,
for errors too; the form may be read either way. A comparison that takes a `NOT` off its
operands then has to meet truth values, since the error of a `NOT` is lost with it; this is
`NegatesTruth`.
-/

namespace NullLogic

variable {faults : Prop} {reading : NullReading} {b : Bindings}

/-! ### Nodes that compare no `NULL`s -/

theorem nullFree_of_alike {e e' : Expr} (h : e.Alike (NullOnlyIf reading b) e')
    (he : e.isEquality = false) (hg : e.GuardedNode) : NullFree reading b e' := by
  cases h with
  | @binary op type x x' y y' hx hx' =>
      cases op with
      | comparison kind =>
          have hn : x.nullable = false ∧ x'.nullable = false := by
            cases kind <;> simp [Expr.isEquality] at he <;> exact hg
          exact ⟨hx hn.1, hx' hn.2⟩
      | _ => trivial
  | caseWhen type hu hxs hu' =>
      cases hu with
      | none => trivial
      | some hx =>
          refine hg.imp hx fun htests l hl => ?_
          obtain ⟨k, hk, hkl⟩ := Expr.exists_mem_left_of_forall₂ hxs hl
          exact hkl.test (htests k hk)
  | _ => trivial

/-! ### Operands without their `NOT` -/

/-- What a `NOT`, if there is one, makes of a value. -/
def negateIf (negated : Bool) (v : Value) : Except EvalError Value :=
  if negated then UnaryOp.not.apply v else .ok v

theorem evaluate_eq_bare (e : Expr) :
    evaluate reading b e = evaluate reading b e.bare >>= negateIf e.isNegation := by
  cases hn : e.isNegation with
  | true =>
      obtain ⟨type, hnot⟩ := Expr.exists_eq_not_of_isNegation hn
      rw [hnot]
      rfl
  | false =>
      rw [Expr.bare_of_isNegation_eq_false hn]
      cases evaluate reading b e <;> rfl

def Value.IsTruth (v : Value) : Prop :=
  ∃ t, v = ofTruth t

theorem negateIf_ofTruth (negated : Bool) (t : Option Bool) :
    negateIf negated (Value.ofTruth t) = .ok (Value.ofTruth (t.map (negated ^^ ·))) := by
  cases negated <;> cases t <;> simp [negateIf, UnaryOp.apply, Value.ofTruth]

theorem isTruth_of_negateIf_true {v w : Value} (h : negateIf true v = .ok w) : v.IsTruth := by
  rcases UnaryOp.not_eq_ok_iff.1 h with ⟨t, rfl, -⟩
  exact ⟨t, rfl⟩

theorem exists_negateIf_eq_ok (negated : Bool) (v : Value) (h : negated = true → v.IsTruth) :
    ∃ w, negateIf negated v = .ok w := by
  cases negated with
  | false => exact ⟨v, rfl⟩
  | true =>
      obtain ⟨t, rfl⟩ := h rfl
      exact ⟨_, negateIf_ofTruth true t⟩

/-- Outcomes are kept if what follows a `NOT` on the one side follows its operand on the
other. -/
theorem Keeps.bind_negateIf {negated : Bool} {x y : Except EvalError Value}
    {f g : Value → Except EvalError Value} (h : Keeps faults x y)
    (htruth : ∀ u, x = .ok u → faults → negated = true → u.IsTruth)
    (hfg : ∀ u v, x = .ok u → negateIf negated u = .ok v → Keeps faults (f v) (g u)) :
    Keeps faults (x >>= negateIf negated >>= f) (y >>= g) := by
  rw [bind_assoc]
  refine h.bind fun u hu => ?_
  cases hv : negateIf negated u with
  | ok v => exact hfg u v hu hv
  | error e =>
      intro hf
      obtain ⟨v, hv'⟩ := exists_negateIf_eq_ok negated u (htruth u hu hf)
      simp [hv] at hv'

theorem isTruth_iff_of_negateIf {negated : Bool} {v w : Value}
    (h : negateIf negated v = .ok w) : v.IsTruth ↔ w.IsTruth := by
  cases negated with
  | false => rw [Except.ok.inj h]
  | true =>
      obtain ⟨t, rfl⟩ := isTruth_of_negateIf_true h
      rw [negateIf_ofTruth] at h
      exact ⟨fun _ => ⟨_, (Except.ok.inj h).symm⟩, fun _ => ⟨t, rfl⟩⟩

theorem isNull_of_negateIf {negated : Bool} {v w : Value} (h : negateIf negated v = .ok w) :
    w.isNull = v.isNull := by
  cases negated with
  | false => rw [Except.ok.inj h]
  | true =>
      obtain ⟨t, rfl⟩ := isTruth_of_negateIf_true h
      rw [negateIf_ofTruth] at h
      rw [← Except.ok.inj h]
      cases t <;> rfl

/-- A truth value is compared with truth values only. -/
theorem isTruth_iff_of_compare? {v w : Value} {o : Ordering} (h : v.compare? w = some o) :
    v.IsTruth ↔ w.IsTruth := by
  cases v <;> cases w <;> simp [Value.compare?] at h
  all_goals simp [Value.IsTruth, Value.ofTruth, Option.exists]

namespace TwoValued

/-- Two truth values are equal exactly when their negations are, and one is equal to
the negation of the other exactly when they differ. -/
theorem apply_eq_outcome_of_truth (positive m n : Bool) (s t : Option Bool) :
    (Comparison.equality positive).apply .asValue (Value.ofTruth (s.map (m ^^ ·)))
        (Value.ofTruth (t.map (n ^^ ·))) =
      outcome positive (m == n) (Value.ofTruth s) (Value.ofTruth t) := by
  rcases s with _ | _ | _ <;> rcases t with _ | _ | _ <;> cases positive <;> cases m <;>
    cases n <;> rfl

theorem outcome_of_isNull {positive agree : Bool} {v w : Value}
    (h : (v.isNull || w.isNull) = true) :
    outcome positive agree v w =
      .ok (.bool ((Comparison.equality positive).holdsOfNull (v.isNull && w.isNull))) := by
  simp [outcome, Comparison.apply, h]

theorem outcome_of_agree (positive : Bool) (v w : Value) :
    outcome positive true v w = (Comparison.equality positive).apply .asValue v w := by
  simp [outcome]

/-- The outcome for the operands without their `NOT`s is that of the comparison with
them, except that it may be a value where a `NOT` is applied to no truth value. -/
theorem outcome_keeps {positive m n : Bool} {u u' v w : Value} (hv : negateIf m u = .ok v)
    (hw : negateIf n u' = .ok w)
    (htruth : faults → (m || n) = true → u.IsTruth ∧ u'.IsTruth) :
    Keeps faults ((Comparison.equality positive).apply .asValue v w)
      (outcome positive (m == n) u u') := by
  cases hmn : m || n with
  | false =>
      obtain ⟨rfl, rfl⟩ : m = false ∧ n = false := by simpa using hmn
      rw [← Except.ok.inj hv, ← Except.ok.inj hw]
      exact keeps_of_eq (outcome_of_agree positive u u').symm
  | true =>
      by_cases hboth : u.IsTruth ∧ u'.IsTruth
      · obtain ⟨⟨s, rfl⟩, ⟨t, rfl⟩⟩ := hboth
        rw [negateIf_ofTruth] at hv hw
        rw [← Except.ok.inj hv, ← Except.ok.inj hw]
        exact keeps_of_eq (apply_eq_outcome_of_truth positive m n s t)
      · cases hnull : u.isNull || u'.isNull with
        | true =>
            rw [outcome_of_isNull hnull, ← isNull_of_negateIf hv, ← isNull_of_negateIf hw]
            rw [← isNull_of_negateIf hv, ← isNull_of_negateIf hw] at hnull
            exact keeps_of_eq (by simp [Comparison.apply, hnull])
        | false =>
            -- one of the two is a truth value and the other is not
            have herror : v.compare? w = none := by
              by_contra hne
              rcases Option.ne_none_iff_exists'.1 hne with ⟨o, ho⟩
              have hiff := isTruth_iff_of_compare? ho
              rw [← isTruth_iff_of_negateIf hv, ← isTruth_iff_of_negateIf hw] at hiff
              rcases Bool.or_eq_true_iff.1 hmn with rfl | rfl
              · have hu := isTruth_of_negateIf_true hv
                exact hboth ⟨hu, hiff.1 hu⟩
              · have hu' := isTruth_of_negateIf_true hw
                exact hboth ⟨hiff.2 hu', hu'⟩
            rw [← isNull_of_negateIf hv, ← isNull_of_negateIf hw] at hnull
            simp only [Comparison.apply, hnull, herror]
            exact fun hf => absurd (htruth hf hmn) hboth

end TwoValued

/-! ### All nodes -/

/-- A comparison from which a `NOT` is taken has truth values on both sides, if it has
values there. -/
def NegatesTruth (b : Bindings) : Expr → Prop
  | .binary (.comparison _) left right _ => (left.isNegation || right.isNegation) = true →
      (∀ v, evaluate .asValue b left.bare = .ok v → v.IsTruth) ∧
        ∀ w, evaluate .asValue b right.bare = .ok w → w.IsTruth
  | _ => True

theorem form_keeps {positive : Bool} {left right l r : Expr} {type : DataType}
    (hl : KeepsUnder faults .asValue reading b left.bare l)
    (hr : KeepsUnder faults .asValue reading b right.bare r)
    (hln : NullOnlyIf reading b left.bare l)
    (hrn : NullOnlyIf reading b right.bare r)
    (htruth : faults →
      NegatesTruth b (.binary (.comparison (.equality positive)) left right type)) :
    KeepsUnder faults .asValue reading b
      (.binary (.comparison (.equality positive)) left right type)
      (TwoValued.form positive type ⟨l, left.isNegation, left.nullable⟩
        ⟨r, right.isNegation, right.nullable⟩) := by
  have hsource : evaluate .asValue b (.binary (.comparison (.equality positive)) left right type) =
      (evaluate .asValue b left.bare >>= negateIf left.isNegation) >>= fun v =>
        (evaluate .asValue b right.bare >>= negateIf right.isNegation) >>= fun w =>
          (Comparison.equality positive).apply .asValue v w := by
    rw [← evaluate_eq_bare, ← evaluate_eq_bare]
    exact evaluate_comparison _ _ _ left right type
  rw [KeepsUnder, hsource, TwoValued.evaluate_form]
  · refine hl.bind_negateIf ?_ ?_
    · exact fun u hu hf hm => (htruth hf (by simp [hm])).1 u hu
    · intro u v hu hv
      refine hr.bind_negateIf ?_ ?_
      · exact fun u' hu' hf hn => (htruth hf (by simp [hn])).2 u' hu'
      · intro u' w hu' hw
        refine TwoValued.outcome_keeps hv hw ?_
        exact fun hf hmn => ⟨(htruth hf hmn).1 u hu, (htruth hf hmn).2 u' hu'⟩
  · exact nullable_of_evaluate_eq_null hln
  · exact nullable_of_evaluate_eq_null hrn

theorem twoValued_keeps {e e' : Expr} (h : twoValued e = .ok e') (hg : e.Guarded)
    (hb : b.Respect e) (htruth : faults → e.Everywhere (NegatesTruth b)) :
    KeepsUnder faults .asValue reading b e e' := by
  revert hg hb htruth
  refine twoValued_induction
    (motive := fun e e' => e.Guarded → b.Respect e → (faults → e.Everywhere (NegatesTruth b)) →
      KeepsUnder faults .asValue reading b e e') ?_ ?_ h
  · intro positive left right type l r _ hl hr ihl ihr hg hb htruth
    refine form_keeps ?_ ?_ ?_ ?_ fun hf => (htruth hf).self
    · exact ihl hg.left.bare hb.left.bare fun hf => (htruth hf).left.bare
    · exact ihr hg.right.bare hb.right.bare fun hf => (htruth hf).right.bare
    · exact evaluate_ne_null_of_twoValued hl hb.left.bare
    · exact evaluate_ne_null_of_twoValued hr hb.right.bare
  · intro e e' he halike hg hb htruth
    refine evaluate_keeps (halike.imp fun c hc c' hc' => ?_) (.inr ?_)
    · exact hc'.2 (hg.child hc) (hb.child hc) fun hf => (htruth hf).child hc
    · refine nullFree_of_alike (Expr.alike_self fun c hc hn hnull => ?_) he hg.self
      obtain ⟨c', -, hc', ih⟩ := Expr.exists_mem_right_of_forall₂ halike.children hc
      have hkeeps := ih (hg.child hc) (hb.child hc) fun hf => (htruth hf).child hc
      exact evaluate_ne_null_of_twoValued hc' (hb.child hc) hn (hkeeps.ok hnull)

/-- Under three-valued comparisons the two-valued form has the value that the expression
has when `NULL` is a value equal to itself only. -/
theorem evaluate_twoValued_of_asValue {e e' : Expr} {b : Bindings} {v : Value}
    (h : twoValued e = .ok e') (hg : e.Guarded) (hb : b.Respect e)
    (hv : evaluate .asValue b e = .ok v) : evaluate .threeValued b e' = .ok v := by
  have hkeeps : KeepsUnder False .asValue .threeValued b e e' :=
    twoValued_keeps h hg hb False.elim
  exact hkeeps.ok hv

/-- `a = NOT q` for a `NULL` on both sides. -/
theorem evaluate_twoValued_of_asValue_of_nulls :
    ∃ e', twoValued (.binary .equal Sample.a (.unary .not Sample.q .boolean) .boolean) = .ok e' ∧
      evaluate .threeValued (Sample.bindings .null (.bool true) .null .null (.int 0) .null) e' =
        .ok (.bool true) := by
  obtain ⟨e', h⟩ : ∃ e', twoValued (.binary .equal Sample.a (.unary .not Sample.q .boolean)
      .boolean) = .ok e' := ⟨_, rfl⟩
  exact ⟨e', h, evaluate_twoValued_of_asValue h (by decide) (by decide) rfl⟩

theorem evaluate_form_reading {positive : Bool} {left right l r : Expr} {type : DataType}
    (hl : evaluate .threeValued b l = evaluate .asValue b l)
    (hr : evaluate .threeValued b r = evaluate .asValue b r)
    (hln : ∀ reading, NullOnlyIf reading b left.bare l)
    (hrn : ∀ reading, NullOnlyIf reading b right.bare r) :
    evaluate .threeValued b (TwoValued.form positive type ⟨l, left.isNegation, left.nullable⟩
        ⟨r, right.isNegation, right.nullable⟩) =
      evaluate .asValue b (TwoValued.form positive type ⟨l, left.isNegation, left.nullable⟩
        ⟨r, right.isNegation, right.nullable⟩) := by
  have hleft := fun reading => nullable_of_evaluate_eq_null (hln reading)
  have hright := fun reading => nullable_of_evaluate_eq_null (hrn reading)
  rw [TwoValued.evaluate_form (hleft _) (hright _), TwoValued.evaluate_form (hleft _) (hright _)]
  rw [hl, hr]

/-- The two-valued form has the same outcome, value or error, under both readings. -/
theorem evaluate_twoValued_reading {e e' : Expr} {b : Bindings} (h : twoValued e = .ok e')
    (hg : e.Guarded) (hb : b.Respect e) :
    evaluate .threeValued b e' = evaluate .asValue b e' := by
  revert hg hb
  refine twoValued_induction
    (motive := fun e e' => e.Guarded → b.Respect e →
      evaluate .threeValued b e' = evaluate .asValue b e') ?_ ?_ h
  · intro positive left right type l r _ hl hr ihl ihr hg hb
    refine evaluate_form_reading ?_ ?_ ?_ ?_
    · exact ihl hg.left.bare hb.left.bare
    · exact ihr hg.right.bare hb.right.bare
    · exact fun reading => evaluate_ne_null_of_twoValued hl hb.left.bare
    · exact fun reading => evaluate_ne_null_of_twoValued hr hb.right.bare
  · intro e e' he halike hg hb
    have hnull : e.Alike (NullOnlyIf .threeValued b) e' :=
      halike.imp fun c hc c' hc' => evaluate_ne_null_of_twoValued hc'.1 (hb.child hc)
    have hkeeps : KeepsUnder True .threeValued .asValue b e' e' := by
      refine evaluate_keeps (Expr.alike_self fun c' hc' => ?_)
        (.inr (nullFree_of_alike hnull he hg.self))
      obtain ⟨c, hc, -, ih⟩ := Expr.exists_mem_left_of_forall₂ halike.children hc'
      exact keeps_of_eq (ih (hg.child hc) (hb.child hc))
    exact hkeeps.eq trivial

/-- `NOT (x = p)` for a `NULL` in `x` only. -/
theorem evaluate_twoValued_reading_of_null :
    ∃ e', twoValued (.unary .not (.binary .equal Sample.x Sample.p .boolean) .boolean) = .ok e' ∧
      evaluate .threeValued (Sample.bindings .null (.bool true) .null .null (.int 0) (.int 1)) e' =
        evaluate .asValue (Sample.bindings .null (.bool true) .null .null (.int 0) (.int 1))
          e' := by
  obtain ⟨e', h⟩ : ∃ e', twoValued (.unary .not (.binary .equal Sample.x Sample.p .boolean)
      .boolean) = .ok e' := ⟨_, rfl⟩
  exact ⟨e', h, evaluate_twoValued_reading h (by decide) (by decide)⟩

end NullLogic
