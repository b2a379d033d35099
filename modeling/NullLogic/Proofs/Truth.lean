import NullLogic.Evaluate
import NullLogic.Proofs.Outcome

/-!
# Truth values

`Value.ofTruth` embeds the three truth values into all values. `NOT` and the connectives
have results for truth values only, and there they follow the tables of three-valued
logic, whose laws are stated here as well.
-/

namespace NullLogic

theorem Value.ofTruth_injective : Function.Injective Value.ofTruth := by
  intro s t h
  cases s <;> cases t <;> simp_all [Value.ofTruth]

/-! ### Connectives -/

namespace Connective

/-- De Morgan's law. -/
theorem map_not_apply (kind : Connective) (s t : Option Bool) :
    (kind.apply s t).map (!·) = kind.dual.apply (s.map (!·)) (t.map (!·)) := by
  rcases s with _ | _ | _ <;> rcases t with _ | _ | _ <;> cases kind <;> rfl

theorem apply_comm (kind : Connective) (s t : Option Bool) : kind.apply s t = kind.apply t s := by
  rcases s with _ | _ | _ <;> rcases t with _ | _ | _ <;> cases kind <;> rfl

/-- A known operand decides, or else leaves the other one. -/
theorem apply_some (kind : Connective) (c : Bool) (t : Option Bool) :
    kind.apply (some c) t = if c = kind.absorbing then some c else t := by
  rcases t with _ | _ | _ <;> cases c <;> cases kind <;> rfl

@[simp] theorem truth_ofTruth (kind : Connective) (t : Option Bool) :
    kind.truth (Value.ofTruth t) = .ok t := by
  cases t <;> rfl

@[simp] theorem evaluate_ofTruth (kind : Connective) (s t : Option Bool) :
    kind.evaluate (Value.ofTruth s) (Value.ofTruth t) = .ok (Value.ofTruth (kind.apply s t)) := by
  rw [Connective.evaluate, truth_ofTruth, truth_ofTruth]
  rfl

theorem truth_eq_ok_iff {kind : Connective} {v : Value} {t : Option Bool} :
    kind.truth v = .ok t ↔ v = Value.ofTruth t := by
  constructor
  · intro h
    cases v <;> simp [truth] at h <;> rw [← h] <;> rfl
  · intro h
    rw [h, truth_ofTruth]

theorem evaluate_eq_ok_iff {kind : Connective} {v w u : Value} :
    kind.evaluate v w = .ok u ↔
      ∃ s t, v = Value.ofTruth s ∧ w = Value.ofTruth t ∧ u = Value.ofTruth (kind.apply s t) := by
  constructor
  · intro h
    rcases bind_eq_ok_iff.1 h with ⟨s, hs, h⟩
    rcases bind_eq_ok_iff.1 h with ⟨t, ht, h⟩
    exact ⟨s, t, truth_eq_ok_iff.1 hs, truth_eq_ok_iff.1 ht, (Except.ok.inj h).symm⟩
  · intro h
    rcases h with ⟨s, t, rfl, rfl, rfl⟩
    exact evaluate_ofTruth kind s t

end Connective

/-! ### Negation -/

namespace UnaryOp

@[simp] theorem not_ofTruth (t : Option Bool) :
    not.apply (Value.ofTruth t) = .ok (Value.ofTruth (t.map (!·))) := by
  cases t <;> rfl

theorem not_eq_ok_iff {v w : Value} :
    not.apply v = .ok w ↔ ∃ t, v = Value.ofTruth t ∧ w = Value.ofTruth (t.map (!·)) := by
  constructor
  · intro h
    cases v with
    | null => exact ⟨none, rfl, (Except.ok.inj h).symm⟩
    | bool c => exact ⟨some c, rfl, (Except.ok.inj h).symm⟩
    | _ => simp [apply] at h
  · intro h
    rcases h with ⟨t, rfl, rfl⟩
    exact not_ofTruth t

end UnaryOp

/-! ### Comparisons -/

namespace Comparison

variable {reading : NullReading}

theorem exists_ofTruth_of_apply_eq_ok {kind : Comparison} {v w c : Value}
    (h : kind.apply reading v w = .ok c) : ∃ t, c = Value.ofTruth t := by
  unfold Comparison.apply at h
  split at h
  · cases reading with
    | threeValued => exact ⟨none, (Except.ok.inj h).symm⟩
    | asValue => exact ⟨some _, (Except.ok.inj h).symm⟩
  · split at h
    · exact ⟨some _, (Except.ok.inj h).symm⟩
    · simp at h

/-- If comparisons with `NULL` are unknown, the complement is the negation. -/
theorem apply_complement {kind : Comparison} {v w : Value} {t : Option Bool}
    (h : kind.apply .threeValued v w = .ok (Value.ofTruth t)) :
    kind.complement.apply .threeValued v w = .ok (Value.ofTruth (t.map (!·))) := by
  unfold Comparison.apply at h ⊢
  cases hnull : v.isNull || w.isNull with
  | true => cases t <;> simp_all [Value.ofTruth]
  | false => cases ho : v.compare? w <;> cases t <;> simp_all [Value.ofTruth, holds_complement]

end Comparison

/-- An operator that has a complement is negated by it. -/
theorem BinaryOp.apply_complement? {op op' : BinaryOp} {v w : Value} {t : Option Bool}
    (hop : op.complement? = some op')
    (h : op.apply .threeValued v w = .ok (Value.ofTruth t)) :
    op'.apply .threeValued v w = .ok (Value.ofTruth (t.map (!·))) := by
  obtain ⟨kind, rfl, rfl⟩ := complement?_eq_some_iff.1 hop
  rw [apply_comparison] at h ⊢
  exact Comparison.apply_complement h

/-! ### Expressions -/

variable {reading : NullReading} {b : Bindings}

theorem evaluate_not_eq_ok_iff {x : Expr} {type : DataType} {v : Value} :
    evaluate reading b (.unary .not x type) = .ok v ↔
      ∃ t, evaluate reading b x = .ok (Value.ofTruth t) ∧ v = Value.ofTruth (t.map (!·)) := by
  rw [evaluate, bind_eq_ok_iff]
  simp only [UnaryOp.not_eq_ok_iff]
  constructor
  · intro h
    rcases h with ⟨_, hx, t, rfl, rfl⟩
    exact ⟨t, hx, rfl⟩
  · intro h
    rcases h with ⟨t, hx, rfl⟩
    exact ⟨_, hx, t, rfl, rfl⟩

theorem evaluate_connective_eq_ok_iff {kind : Connective} {l r : Expr} {type : DataType}
    {v : Value} :
    evaluate reading b (.binary (.connective kind) l r type) = .ok v ↔
      ∃ s t, evaluate reading b l = .ok (Value.ofTruth s) ∧
        evaluate reading b r = .ok (Value.ofTruth t) ∧ v = Value.ofTruth (kind.apply s t) := by
  rw [evaluate]
  simp only [bind_eq_ok_iff, BinaryOp.apply_connective, Connective.evaluate_eq_ok_iff]
  constructor
  · intro h
    rcases h with ⟨_, hl, _, hr, s, t, rfl, rfl, rfl⟩
    exact ⟨s, t, hl, hr, rfl⟩
  · intro h
    rcases h with ⟨s, t, hl, hr, rfl⟩
    exact ⟨_, hl, _, hr, s, t, rfl, rfl, rfl⟩

end NullLogic
