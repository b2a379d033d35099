import NullLogic.Checked
import NullLogic.Proofs.Outcome

/-!
# Nodes that pass their checks

What the functions of the namespace `Checked` make where they make anything. Once a
check is known to have passed, the node is the plain one. A node whose children come
out of a traversal of the old ones is never refused.
-/

namespace NullLogic

namespace Checked

theorem not_eq_ok_iff {x e : Expr} :
    Checked.not x = .ok e ↔ x.dataType.isBoolean = true ∧ e = .unary .not x .boolean := by
  unfold Checked.not Checked.unary UnaryOp.resultType?
  cases x.dataType.isBoolean <;> simp [eq_comm]

theorem connective_eq_ok_iff {kind : Connective} {l r e : Expr} :
    Checked.binary (.connective kind) l r = .ok e ↔
      l.dataType.isBoolean = true ∧ r.dataType.isBoolean = true ∧
        e = .binary (.connective kind) l r .boolean := by
  unfold Checked.binary BinaryOp.resultType?
  cases l.dataType.isBoolean <;> cases r.dataType.isBoolean <;> simp [eq_comm]

theorem comparison_eq_ok_iff {kind : Comparison} {l r e : Expr} :
    Checked.binary (.comparison kind) l r = .ok e ↔
      (∃ t, l.dataType.commonType? r.dataType = some t) ∧
        e = .binary (.comparison kind) l r .boolean := by
  unfold Checked.binary BinaryOp.resultType?
  cases l.dataType.commonType? r.dataType <;> simp [eq_comm]

theorem connective_eq_ok {kind : Connective} {l r e : Expr}
    (h : Checked.binary (.connective kind) l r = .ok e) :
    e = .binary (.connective kind) l r .boolean :=
  (connective_eq_ok_iff.1 h).2.2

theorem test_eq_ok {kind : NullTest} {x e : Expr}
    (h : Checked.unary (.test kind) x = .ok e) : e = .unary (.test kind) x .boolean :=
  (Except.ok.inj h).symm

theorem binaryAs_eq_ok {op : BinaryOp} {l r e : Expr} {type : DataType}
    (h : Checked.binaryAs op l r type = .ok e) : e = .binary op l r type := by
  unfold Checked.binaryAs at h
  split at h
  · exact (Except.ok.inj h).symm
  · simp at h

theorem binaryAs_comparison {kind : Comparison} {l r : Expr} {t : DataType}
    (h : l.dataType.commonType? r.dataType = some t) (type : DataType) :
    Checked.binaryAs (.comparison kind) l r type = .ok (.binary (.comparison kind) l r type) := by
  simp only [Checked.binaryAs, BinaryOp.resultType?, h, Option.map_some]

/-! ### `CASE` -/

/-- What is checked of a `CASE` of type `type`. -/
structure CaseFits (operand : Option Expr) (clauses : List (Clause Expr))
    (otherwise : Option Expr) (type : DataType) : Prop where
  clauses_ne_nil : clauses ≠ []
  tests : ∀ k ∈ clauses, ((testType operand).commonType? k.test.dataType).isSome = true
  results : DataType.commonTypeOfAll? (resultTypes clauses otherwise) = some type

variable {operand otherwise : Option Expr} {clauses : List (Clause Expr)}

theorem caseWhen_cases (operand : Option Expr) (clauses : List (Clause Expr))
    (otherwise : Option Expr) :
    (∃ type, CaseFits operand clauses otherwise type ∧
      Checked.caseWhen operand clauses otherwise =
        .ok (.caseWhen operand clauses otherwise type)) ∨
    (∀ type, ¬ CaseFits operand clauses otherwise type) ∧ ∃ types,
      Checked.caseWhen operand clauses otherwise = .error (.operandTypes .caseWhen types) := by
  cases clauses with
  | nil => exact .inr ⟨fun type h => h.clauses_ne_nil rfl, [], rfl⟩
  | cons k ks =>
      cases hmisfit : (k :: ks).find? fun clause =>
          ((testType operand).commonType? clause.test.dataType).isNone with
      | some misfit =>
          refine .inr ⟨fun type h => ?_, [testType operand, misfit.test.dataType], ?_⟩
          · have hnone := List.find?_some hmisfit
            have hsome := h.tests misfit (List.mem_of_find?_eq_some hmisfit)
            simp_all
          · simp only [Checked.caseWhen, hmisfit]
            rfl
      | none =>
          have htests : ∀ clause ∈ k :: ks,
              ((testType operand).commonType? clause.test.dataType).isSome = true := by
            simpa [← Option.isSome_iff_ne_none] using List.find?_eq_none.1 hmisfit
          cases hresults : DataType.commonTypeOfAll? (resultTypes (k :: ks) otherwise) with
          | some type =>
              refine .inl ⟨type, ⟨List.cons_ne_nil k ks, htests, hresults⟩, ?_⟩
              simp only [Checked.caseWhen, hmisfit, hresults]
              rfl
          | none =>
              refine .inr ⟨fun type h => ?_, resultTypes (k :: ks) otherwise, ?_⟩
              · simp [h.results] at hresults
              · simp only [Checked.caseWhen, hmisfit, hresults]
                rfl

theorem CaseFits.unique {type type' : DataType} (h : CaseFits operand clauses otherwise type)
    (h' : CaseFits operand clauses otherwise type') : type = type' :=
  Option.some.inj (h.results.symm.trans h'.results)

theorem caseWhen_eq_ok_iff {e : Expr} :
    caseWhen operand clauses otherwise = .ok e ↔
      ∃ type, CaseFits operand clauses otherwise type ∧
        e = .caseWhen operand clauses otherwise type := by
  obtain ⟨type, hfits, hmade⟩ | ⟨hnot, types, hrefused⟩ :=
    caseWhen_cases operand clauses otherwise
  · rw [hmade, Except.ok.injEq]
    constructor
    · intro he
      exact ⟨type, hfits, he.symm⟩
    · rintro ⟨type', hfits', rfl⟩
      rw [hfits.unique hfits']
  · rw [hrefused]
    exact iff_of_false (by simp) fun ⟨type, hfits, _⟩ => hnot type hfits

end Checked

/-- One new child for each old one is as many as a node asks for. -/
theorem Expr.withChildren_of_mapM {ε : Type} {f : Expr → Except ε Expr} {e : Expr}
    {news : List Expr} (h : e.children.mapM f = .ok news) :
    e.withChildren news = .ok (e.refill news) :=
  if_pos (mapM_eq_ok_iff.1 h).length_eq

end NullLogic
