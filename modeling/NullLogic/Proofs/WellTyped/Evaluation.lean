import NullLogic.Evaluate
import NullLogic.Proofs.Dispatch
import NullLogic.Proofs.WellTyped.Operators
import NullLogic.Proofs.WellTyped.Rules
import NullLogic.Sample

/-!
# Well-typed expressions evaluate without type errors

The value of a well-typed expression fits its type, if the values that it reads fit theirs,
and it fails only for reasons that types do not exclude (`RemainingError`). By induction
over the tree: the rule for the node on top says what the types of its children allow, and
the operators keep to it.
-/

namespace NullLogic

open EvalError (Untyped)

variable {reading : NullReading} {b : Bindings}

/-- A `LIKE` of texts on top, whose escape is not one character. -/
def EscapeMisfit (reading : NullReading) (b : Bindings) : Expr → Prop
  | .like subject pattern (some escape) => ∃ s p c, evaluate reading b subject = .ok (.string s) ∧
      evaluate reading b pattern = .ok (.string p) ∧
        evaluate reading b escape = .ok (.string c) ∧ c.toList.length ≠ 1
  | _ => False

/-- The errors that evaluating a well-typed expression may still have. -/
def RemainingError (reading : NullReading) (b : Bindings) (e : Expr) (err : EvalError) : Prop :=
  Untyped err ∨ err = Like.escapeError ∧ ∃ n ∈ e.nodes, EscapeMisfit reading b n

theorem RemainingError.of_child {e c : Expr} {err : EvalError}
    (h : RemainingError reading b c err) (hc : c ∈ e.children) :
    RemainingError reading b e err := by
  refine h.imp_right fun h => ?_
  obtain ⟨herr, n, hn, hmisfit⟩ := h
  exact ⟨herr, n, (Expr.mem_nodes_iff n e).2 (.inr ⟨c, hc, hn⟩), hmisfit⟩

/-- The value of the expression fits its type, and errors are those that remain in `e`. -/
abbrev EvaluatesTyped (reading : NullReading) (b : Bindings) (e c : Expr) : Prop :=
  Meets (·.Fits c.dataType) (RemainingError reading b e) (evaluate reading b c)

/-! ### Optional children and branches -/

theorem evaluateOption_meets {e : Expr} {o : Option Expr}
    (h : ∀ c ∈ o.toList, EvaluatesTyped reading b e c) :
    Meets (fun r => ∀ v, r = some v → ∃ c, o = some c ∧ v.Fits c.dataType)
      (RemainingError reading b e) (evaluateOption reading b o) := by
  cases o with
  | none => exact nofun
  | some c =>
      refine (h c List.mem_cons_self).bind fun v _ hv => ?_
      intro v' hv'
      obtain rfl := Option.some.inj hv'
      exact ⟨c, rfl, hv⟩

theorem isTaken_meets {operand : Option Value} {test : Value} {s t : DataType}
    (hs : ∀ v, operand = some v → v.Fits s) (ht : test.Fits t)
    (h : (s.commonType? t).isSome = true) :
    Meets (fun _ => True) Untyped (isTaken reading operand test) := by
  cases operand with
  | none => trivial
  | some v =>
      obtain ⟨u, hu⟩ := Option.isSome_iff_exists.1 h
      have hequal : Meets (·.Fits .boolean) Untyped (Comparison.equal.apply reading v test) :=
        Comparison.apply_meets hu (hs v rfl) ht
      rw [isTaken_some]
      exact hequal.map fun _ _ => trivial

theorem evaluateClauses_meets {e : Expr} {operand : Option Value} {ks : List (Clause Expr)}
    {s t : DataType} (hs : ∀ v, operand = some v → v.Fits s)
    (htests : ∀ k ∈ ks, (s.commonType? k.test.dataType).isSome = true)
    (hresults : ∀ k ∈ ks, ∀ v : Value, v.Fits k.result.dataType → v.Fits t)
    (h : ∀ k ∈ ks, EvaluatesTyped reading b e k.test ∧ EvaluatesTyped reading b e k.result) :
    Meets (fun r => ∀ v, r = some v → v.Fits t) (RemainingError reading b e)
      (evaluateClauses reading b operand ks) := by
  induction ks with
  | nil => exact nofun
  | cons k ks ih =>
      have hk : k ∈ k :: ks := List.mem_cons_self
      have hrest : Meets (fun r => ∀ v, r = some v → v.Fits t) (RemainingError reading b e)
          (evaluateClauses reading b operand ks) := by
        refine ih ?_ ?_ ?_
        · exact fun k' hk' => htests k' (List.mem_cons_of_mem k hk')
        · exact fun k' hk' => hresults k' (List.mem_cons_of_mem k hk')
        · exact fun k' hk' => h k' (List.mem_cons_of_mem k hk')
      refine (h k hk).1.bind fun test _ ht => ?_
      have htaken : Meets (fun _ => True) Untyped (isTaken reading operand test) :=
        isTaken_meets hs ht (htests k hk)
      refine (htaken.imp (fun _ h => h) fun _ => .inl).bind fun taken _ _ => ?_
      cases taken with
      | false => exact hrest
      | true =>
          refine (h k hk).2.bind fun v _ hv => ?_
          intro v' hv'
          obtain rfl := Option.some.inj hv'
          exact hresults k hk v hv

/-! ### All nodes -/

theorem caseWhen_meets {e : Expr} {operand otherwise : Option Expr} {ks : List (Clause Expr)}
    {t type : DataType} (hfits : Checked.CaseFits operand ks otherwise t)
    (htype : type.SimplifiesTo t)
    (h : ∀ c ∈ (Expr.caseWhen operand ks otherwise type).children,
      EvaluatesTyped reading b e c) :
    EvaluatesTyped reading b e (.caseWhen operand ks otherwise type) := by
  simp only [Expr.children, List.mem_append] at h
  have hresult : ∀ s ∈ Checked.resultTypes ks otherwise, ∀ v : Value, v.Fits s →
      v.Fits type :=
    fun s hs v hv => (hv.of_commonTypeOfAll? hs hfits.results).of_simplifiesTo htype
  refine (evaluateOption_meets fun c hc => h c (.inl hc)).bind fun o _ ho => ?_
  have hclauses : Meets (fun r => ∀ v, r = some v → v.Fits type) (RemainingError reading b e)
      (evaluateClauses reading b o ks) := by
    refine evaluateClauses_meets ?_ hfits.tests ?_ ?_
    · intro v hv
      obtain ⟨c, rfl, hc⟩ := ho v hv
      exact hc
    · exact fun k hk => hresult _ (List.mem_append_left _ (List.mem_map_of_mem hk))
    · intro k hk
      have hmem : ∀ c ∈ [k.test, k.result], c ∈ Expr.clauseChildren ks :=
        fun c hc => List.mem_flatMap.2 ⟨k, hk, hc⟩
      exact ⟨h _ (.inr (.inl (hmem _ (by simp)))), h _ (.inr (.inl (hmem _ (by simp))))⟩
  refine hclauses.bind fun r _ hr => ?_
  cases r with
  | some v => exact hr v rfl
  | none =>
      refine (evaluateOption_meets fun c hc => h c (.inr (.inr hc))).bind fun d _ hd => ?_
      cases d with
      | none => trivial
      | some v =>
          obtain ⟨c, rfl, hc⟩ := hd v rfl
          exact hresult _ (List.mem_append_right _ List.mem_cons_self) v hc

theorem like_meets {subject pattern : Expr} {escape : Option Expr}
    (hstrings : ∀ x ∈ subject :: pattern :: escape.toList, x.dataType.isString = true)
    (h : ∀ c ∈ (Expr.like subject pattern escape).children,
      EvaluatesTyped reading b (.like subject pattern escape) c) :
    EvaluatesTyped reading b (.like subject pattern escape) (.like subject pattern escape) := by
  simp only [Expr.children, List.mem_cons] at h
  simp only [List.mem_cons] at hstrings
  refine (h subject (.inl rfl)).bind fun v hv hvt => ?_
  refine (h pattern (.inr (.inl rfl))).bind fun w hw hwt => ?_
  refine (evaluateOption_meets fun c hc => h c (.inr (.inr hc))).bind fun o ho hot => ?_
  refine (Like.apply_meets ?_ ?_ ?_).imp (fun _ h => h) fun err herr => ?_
  · exact hvt.eq_null_or_string (hstrings subject (.inl rfl))
  · exact hwt.eq_null_or_string (hstrings pattern (.inr (.inl rfl)))
  · intro u hu
    obtain ⟨c, rfl, hc⟩ := hot u hu
    exact hc.eq_null_or_string (hstrings c (.inr (.inr List.mem_cons_self)))
  · obtain ⟨rfl, s, p, z, rfl, rfl, rfl, hlength⟩ := herr
    refine .inr ⟨rfl, _, Expr.self_mem_nodes _, ?_⟩
    cases escape with
    | none => simp [evaluateOption] at ho
    | some c =>
        have hc : evaluate reading b c = .ok (.string z) := by
          simpa [evaluateOption, bind_eq_ok_iff, pure, Except.pure] using ho
        exact ⟨s, p, z, hv, hw, hc, hlength⟩

theorem evaluate_meets {e : Expr} (he : e.Everywhere Expr.NodeTyped) (hb : b.Fit e) :
    EvaluatesTyped reading b e e := by
  induction e using Expr.induction with
  | step e ih =>
      have hchildren : ∀ c ∈ e.children, EvaluatesTyped reading b e c := by
        intro c hc
        exact (ih c hc (he.child hc) (hb.child hc)).imp (fun _ h => h) fun _ h => h.of_child hc
      have hnode : b.FitNode e := hb.self
      cases he.self with
      | constant h => exact Value.fits_of_isValidFor h
      | column source name type nullable =>
          rw [EvaluatesTyped, evaluate]
          cases hv : b.column source name with
          | none => exact .inl (.unboundColumn source name)
          | some v => exact hnode v hv
      | parameter name type =>
          rw [EvaluatesTyped, evaluate]
          cases hv : b.parameter name with
          | none => exact .inl (.unboundParameter name)
          | some v => exact hnode v hv
      | @unary op x t type h htype =>
          refine (hchildren x List.mem_cons_self).bind fun v _ hv => ?_
          exact (UnaryOp.apply_meets h hv).imp (fun _ hw => hw.of_simplifiesTo htype) fun _ => .inl
      | @binary op l r t type h htype =>
          refine (hchildren l List.mem_cons_self).bind fun v _ hv => ?_
          refine (hchildren r (List.mem_cons_of_mem l List.mem_cons_self)).bind fun w _ hw => ?_
          exact (BinaryOp.apply_meets h hv hw).imp (fun _ hu => hu.of_simplifiesTo htype)
            fun _ => .inl
      | like h => exact like_meets h hchildren
      | call name receiver args type => exact .inl .call
      | caseWhen h htype => exact caseWhen_meets h htype hchildren
      | table name label => exact .inl .relation
      | join kind predicate h => exact .inl .relation

/-- A well-typed expression has a value of its type, or an error of which types say nothing:
a value is not bound, a call or a relation has none, arithmetic has no result, or an
escape is not one character. It never has an internal error. -/
theorem evaluate_wellTyped {e : Expr} {b : Bindings} (he : e.WellTyped) (hb : b.Fit e)
    (reading : NullReading) :
    (∀ v, evaluate reading b e = .ok v → v.Fits e.dataType) ∧
      (∀ err, evaluate reading b e = .error err → Untyped err ∨
        err = .operandTypes .like [.utf8, .utf8, .utf8] ∧
          ∃ n ∈ e.nodes, EscapeMisfit reading b n) ∧
      ∀ reason, evaluate reading b e ≠ .error (.internal reason) := by
  have hmeets : EvaluatesTyped reading b e e := evaluate_meets he.nodeTyped hb
  refine ⟨fun v hv => hmeets.ok hv, fun err herr => hmeets.error herr, ?_⟩
  exact evaluate_ne_internal reading b e

/-- `CASE x WHEN p THEN COALESCE(x, NULL) ELSE y % p END`, of type `Float64` for the type of
its `NULL`, has the value of the integer `x` where `p` is the same. -/
theorem evaluate_wellTyped_of_case :
    ∃ v, evaluate .asValue
        (Sample.bindings .null (.bool true) .null (.int 1) (.int 1) (.int 1))
        (.caseWhen (some Sample.x)
          [⟨Sample.p, .binary .coalesce Sample.x (.constant .null .float64) .float64⟩]
          (some (.binary (.arithmetic .modulo) Sample.y Sample.p .int64)) .float64) = .ok v ∧
      v.Fits .float64 := by
  obtain ⟨v, h⟩ : ∃ v, evaluate .asValue
      (Sample.bindings .null (.bool true) .null (.int 1) (.int 1) (.int 1))
      (.caseWhen (some Sample.x)
        [⟨Sample.p, .binary .coalesce Sample.x (.constant .null .float64) .float64⟩]
        (some (.binary (.arithmetic .modulo) Sample.y Sample.p .int64)) .float64) = .ok v :=
    ⟨.int 1, rfl⟩
  have hfits := (evaluate_wellTyped (by decide) (by decide) .asValue).1 v h
  exact ⟨v, h, hfits⟩

end NullLogic
