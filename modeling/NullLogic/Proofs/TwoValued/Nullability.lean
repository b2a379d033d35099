import NullLogic.Guarded
import NullLogic.Proofs.TwoValued.Guard
import NullLogic.Sample

/-!
# Nullability of two-valued forms

What `Expr.nullable` says of an expression is true of its two-valued form: if it is
`false`, the form never evaluates to `NULL`, whatever the reading. The step from the
children to a node is `evaluate_ne_null_of_alike` for the nodes that are kept, and
`evaluate_form` for equalities, whose guards leave no unknown outcome.
-/

namespace NullLogic

variable {reading : NullReading} {b : Bindings}

/-! ### Operators on values other than `NULL` -/

theorem UnaryOp.apply_ne_null (op : UnaryOp) {v : Value} (hv : v ≠ .null) :
    op.apply v ≠ .ok .null := by
  intro h
  unfold UnaryOp.apply at h
  split at h
  · simp at h
  · exact hv rfl
  · simp at h
  · rename_i n
    cases hn : bounded (-n.toInt) <;> simp [hn, intResult] at h
  · simp at h
  · simp at h

theorem Comparison.apply_ne_null (kind : Comparison) {v w : Value} (hv : v ≠ .null)
    (hw : w ≠ .null) : kind.apply reading v w ≠ .ok .null := by
  rw [← Value.isNull_eq_false_iff] at hv hw
  unfold Comparison.apply
  simp only [hv, hw, Bool.or_self, Bool.false_eq_true, if_false]
  cases v.compare? w <;> simp

theorem Connective.evaluate_ne_null (kind : Connective) {v w : Value} (hv : v ≠ .null)
    (hw : w ≠ .null) : kind.evaluate v w ≠ .ok .null := by
  refine bind_ne_ok fun s hs => bind_ne_ok fun t ht => ?_
  cases v <;> simp [Connective.truth] at hv hs
  cases w <;> simp [Connective.truth] at hw ht
  subst hs ht
  simp only [Connective.apply, pure, Except.pure]
  split <;> simp [Value.ofTruth]

theorem Arithmetic.apply_ne_null (kind : Arithmetic) {v w : Value} (hv : v ≠ .null)
    (hw : w ≠ .null) : kind.apply v w ≠ .ok .null := by
  rw [← Value.isNull_eq_false_iff] at hv hw
  intro h
  unfold Arithmetic.apply at h
  simp only [hv, hw, Bool.or_self, Bool.false_eq_true, if_false] at h
  split at h
  · rename_i m n
    split at h
    · simp at h
    · cases hn : kind.onInts m.toInt n.toInt <;> simp [hn, intResult] at h
  · split at h <;> simp at h

theorem Like.apply_ne_null {subject pattern : Value} {escape : Option Value}
    (hs : subject ≠ .null) (hp : pattern ≠ .null) (he : escape ≠ some .null) :
    Like.apply subject pattern escape ≠ .ok .null := by
  have hany : (subject :: pattern :: escape.toList).any Value.isNull = false := by
    rw [← Value.isNull_eq_false_iff] at hs hp
    cases escape with
    | none => simp [hs, hp]
    | some e =>
        have he' : e.isNull = false := (Value.isNull_eq_false_iff e).2 fun h => he (h ▸ rfl)
        simp [hs, hp, he']
  unfold Like.apply
  simp only [hany]
  cases Like.outcome? subject pattern escape <;> simp

/-! ### The step from the children to a node -/

/-- Unless the one expression might be `NULL`, the other does not evaluate to `NULL`. -/
abbrev NullOnlyIf (reading : NullReading) (b : Bindings) (e e' : Expr) : Prop :=
  e.nullable = false → evaluate reading b e' ≠ .ok .null

/-- An operand of a comparison that is `NULL` is judged nullable. -/
theorem nullable_of_evaluate_eq_null {e x : Expr} (h : NullOnlyIf reading b e.bare x)
    (hx : evaluate reading b x = .ok .null) : e.nullable = true := by
  by_contra hn
  rw [Bool.not_eq_true, ← Expr.nullable_bare] at hn
  exact h hn hx

theorem evaluateOption_ne_null {u v : Option Expr} (h : Option.Rel (NullOnlyIf reading b) u v)
    (hn : Expr.nullableOption u = false) : evaluateOption reading b v ≠ .ok (some .null) := by
  cases h with
  | none => simp [evaluateOption]
  | some h =>
      refine bind_ne_ok fun w hw => ?_
      have hne : w ≠ .null := ne_null_of_evaluate (h hn) hw
      simpa [pure, Except.pure] using hne

theorem evaluateClauses_ne_null {operand : Option Value} {ks ls : List (Clause Expr)}
    (h : List.Forall₂ (Clause.Alike (NullOnlyIf reading b)) ks ls)
    (hn : Expr.nullableResults ks = false) :
    evaluateClauses reading b operand ls ≠ .ok (some .null) := by
  induction h with
  | nil => simp [evaluateClauses]
  | @cons k l ks ls hk _ ih =>
      rw [Expr.nullableResults, Bool.or_eq_false_iff] at hn
      refine bind_ne_ok fun t _ => bind_ne_ok fun taken _ => ?_
      cases taken with
      | false => exact ih hn.2
      | true =>
          refine bind_ne_ok fun v hv => ?_
          have hne : v ≠ .null := ne_null_of_evaluate (hk.result hn.1) hv
          simpa [pure, Except.pure] using hne

theorem evaluate_ne_null_of_alike {e e' : Expr} (h : e.Alike (NullOnlyIf reading b) e')
    (he : e.isEquality = false) (hb : b.RespectNode e) : NullOnlyIf reading b e e' := by
  intro hn
  cases h with
  | constant value type =>
      rw [Expr.nullable, Value.isNull_eq_false_iff] at hn
      simpa [evaluate] using hn
  | column source name type nullable =>
      obtain rfl : nullable = false := hn
      have hne : b.column source name ≠ some .null := hb
      cases hv : b.column source name with
      | none => simp [evaluate, hv]
      | some v =>
          rw [hv] at hne
          simpa [evaluate, hv] using hne
  | parameter name type => simp [Expr.nullable] at hn
  | call name type hu hxs => simp [evaluate]
  | table name label => simp [evaluate]
  | join kind hx hx' => simp [evaluate]
  | unary op type hx =>
      cases op with
      | test kind => exact bind_ne_ok fun v _ => by simp [UnaryOp.apply]
      | _ =>
          refine bind_ne_ok fun v hv => UnaryOp.apply_ne_null _ ?_
          exact ne_null_of_evaluate (hx hn) hv
  | @binary op type x x' y y' hx hx' =>
      refine bind_ne_ok fun v hv => bind_ne_ok fun w hw => ?_
      have hleft : x.nullable = false → v ≠ .null := fun hn => ne_null_of_evaluate (hx hn) hv
      have hright : x'.nullable = false → w ≠ .null := fun hn => ne_null_of_evaluate (hx' hn) hw
      cases op with
      | coalesce =>
          rw [Expr.nullable, Bool.and_eq_false_iff] at hn
          simp only [BinaryOp.apply_coalesce, ne_eq, Except.ok.injEq]
          split
          · rename_i hnull
            rw [Value.isNull_eq_true_iff] at hnull
            exact hright (hn.resolve_left fun h => hleft h hnull)
          · rename_i hnull
            rwa [Value.isNull_eq_true_iff] at hnull
      | comparison kind =>
          have hor : (x.nullable || x'.nullable) = false := by
            cases kind <;> simp [Expr.isEquality] at he <;> exact hn
          rw [Bool.or_eq_false_iff] at hor
          rw [BinaryOp.apply_comparison]
          exact kind.apply_ne_null (hleft hor.1) (hright hor.2)
      | connective kind =>
          rw [Expr.nullable, Bool.or_eq_false_iff] at hn
          · exact kind.evaluate_ne_null (hleft hn.1) (hright hn.2)
          all_goals simp
      | arithmetic kind =>
          rw [Expr.nullable, Bool.or_eq_false_iff] at hn
          · rw [BinaryOp.apply_arithmetic]
            exact kind.apply_ne_null (hleft hn.1) (hright hn.2)
          all_goals simp
  | like hx hx' hu =>
      rw [Expr.nullable, Bool.or_eq_false_iff, Bool.or_eq_false_iff] at hn
      refine bind_ne_ok fun s hs => bind_ne_ok fun p hp => bind_ne_ok fun c hc => ?_
      have hs' : s ≠ .null := ne_null_of_evaluate (hx hn.1.1) hs
      have hp' : p ≠ .null := ne_null_of_evaluate (hx' hn.1.2) hp
      refine Like.apply_ne_null hs' hp' fun hnull => ?_
      rw [hnull] at hc
      exact evaluateOption_ne_null hu hn.2 hc
  | caseWhen type hu hxs hu' =>
      rw [Expr.nullable, Bool.or_eq_false_iff, Bool.or_eq_false_iff] at hn
      refine bind_ne_ok fun o _ => bind_ne_ok fun r hr => ?_
      cases r with
      | some v =>
          intro hnull
          obtain rfl : v = .null := Except.ok.inj hnull
          exact evaluateClauses_ne_null hxs hn.1.1 hr
      | none =>
          refine bind_ne_ok fun d hd => ?_
          cases hu' with
          | none => simp at hn
          | @some y y' h =>
              obtain ⟨v, hv, rfl⟩ : ∃ v, evaluate reading b y' = .ok v ∧ some v = d := by
                simpa [evaluateOption, bind_eq_ok_iff, pure, Except.pure] using hd
              have hne : v ≠ .null := ne_null_of_evaluate (h hn.2) hv
              simpa [pure, Except.pure] using hne

/-! ### All nodes -/

theorem evaluate_ne_null_of_twoValued {e e' : Expr} (h : twoValued e = .ok e')
    (hb : b.Respect e) : NullOnlyIf reading b e e' := by
  revert hb
  refine twoValued_induction (motive := fun e e' => b.Respect e → NullOnlyIf reading b e e')
    ?_ ?_ h
  · intro positive left right type l r _ _ _ hl hr hb _
    rw [TwoValued.evaluate_form]
    · exact bind_ne_ok fun v _ => bind_ne_ok fun w _ => TwoValued.outcome_ne_null positive _ v w
    · exact nullable_of_evaluate_eq_null (hl hb.left.bare)
    · exact nullable_of_evaluate_eq_null (hr hb.right.bare)
  · intro e e' he halike hb
    exact evaluate_ne_null_of_alike (halike.imp fun c hc c' hc' => hc'.2 (hb.child hc)) he hb.self

/-- An expression that is judged not nullable has a two-valued form that is never
`NULL`. This covers the forms of all equalities, wherever they stand. -/
theorem twoValued_never_null {e e' : Expr} {b : Bindings} (h : twoValued e = .ok e')
    (hb : b.Respect e) :
    (e.nullable = false → evaluate .threeValued b e' ≠ .ok .null) ∧
      ∀ n ∈ e.nodes, n.isEquality = true →
        ∃ n', twoValued n = .ok n' ∧ n' ∈ e'.nodes ∧
          evaluate .threeValued b n' ≠ .ok .null := by
  refine ⟨evaluate_ne_null_of_twoValued h hb, ?_⟩
  intro n hn heq
  obtain ⟨n', hn', hmem⟩ := exists_form_mem_nodes h hn heq
  refine ⟨n', hn', hmem, ?_⟩
  exact evaluate_ne_null_of_twoValued hn' (Expr.Everywhere.of_mem_nodes hb hn)
    (Expr.nullable_of_isEquality heq)

/-- `(a = NOT q) = b` for a `NULL` in `a`. -/
theorem twoValued_never_null_of_null :
    ∃ e', twoValued (.binary .equal (.binary .equal Sample.a (.unary .not Sample.q .boolean)
        .boolean) Sample.b .boolean) = .ok e' ∧
      evaluate .threeValued (Sample.bindings .null (.bool true) (.bool true) .null (.int 0) .null)
        e' ≠ .ok .null := by
  obtain ⟨e', h⟩ : ∃ e', twoValued (.binary .equal (.binary .equal Sample.a (.unary .not Sample.q
      .boolean) .boolean) Sample.b .boolean) = .ok e' := ⟨_, rfl⟩
  exact ⟨e', h, (twoValued_never_null h (by decide)).1 rfl⟩

end NullLogic
