import NullLogic.Proofs.Truth
import NullLogic.Proofs.Typing

/-!
# Operators on values of the right types

Applied to values that fit the types of its operands, an operator that is defined on these
types has a value that fits the type of its result, or fails for a reason of its own
(`EvalError.Untyped`). Only `LIKE` may still complain about its operands, namely about an
escape that is not one character.
-/

namespace NullLogic

@[simp] theorem Value.fits_ofTruth (t : Option Bool) : (Value.ofTruth t).Fits .boolean := by
  cases t <;> trivial

/-- The errors that no type excludes. -/
inductive EvalError.Untyped : EvalError → Prop where
  | unboundColumn (source name : String) : Untyped (.unboundColumn source name)
  | unboundParameter (name : String) : Untyped (.unboundParameter name)
  | call : Untyped .call
  | relation : Untyped .relation
  | overflow (operation : Operation) : Untyped (.overflow operation)
  | divisionByZero : Untyped .divisionByZero

open EvalError (Untyped)

theorem intResult_meets (operation : Operation) (n : Option Int) {t : DataType}
    (ht : t.isNumeric = true) : Meets (·.Fits t) Untyped (intResult operation n) := by
  cases n with
  | none => exact .overflow operation
  | some n => exact ht

theorem UnaryOp.apply_meets {op : UnaryOp} {v : Value} {s t : DataType}
    (h : op.resultType? s = some t) (hv : v.Fits s) :
    Meets (·.Fits t) Untyped (op.apply v) := by
  cases op with
  | test kind => exact (Option.some.inj h).symm
  | not =>
      obtain ⟨hs, rfl⟩ : s.isBoolean = true ∧ .boolean = t := by simpa [resultType?] using h
      obtain ⟨p, rfl⟩ := hv.eq_ofTruth hs
      rw [not_ofTruth]
      exact Value.fits_ofTruth _
  | negate =>
      obtain ⟨hs, rfl⟩ : (s.isNumeric = true ∨ s = .null) ∧ s = t := by
        simpa [resultType?] using h
      obtain rfl | ⟨hnum, ⟨n, rfl⟩ | ⟨x, rfl⟩⟩ := hv.eq_null_or_number (by simpa using hs)
      · trivial
      · exact intResult_meets _ _ hnum
      · exact hnum

theorem Comparison.apply_meets {kind : Comparison} {reading : NullReading} {v w : Value}
    {s t u : DataType} (h : s.commonType? t = some u) (hv : v.Fits s) (hw : w.Fits t) :
    Meets (·.Fits .boolean) Untyped (kind.apply reading v w) := by
  unfold Comparison.apply
  split
  · cases reading with
    | threeValued => trivial
    | asValue => rfl
  · rename_i hnull
    rw [Bool.not_eq_true, Bool.or_eq_false_iff, Value.isNull_eq_false_iff,
      Value.isNull_eq_false_iff] at hnull
    obtain ⟨o, ho⟩ := Value.exists_compare?_of_commonType? h hv hw hnull.1 hnull.2
    rw [ho]
    rfl

theorem Connective.evaluate_meets {kind : Connective} {v w : Value} {s t : DataType}
    (hs : s.isBoolean = true) (ht : t.isBoolean = true) (hv : v.Fits s) (hw : w.Fits t) :
    Meets (·.Fits .boolean) Untyped (kind.evaluate v w) := by
  obtain ⟨p, rfl⟩ := hv.eq_ofTruth hs
  obtain ⟨q, rfl⟩ := hw.eq_ofTruth ht
  rw [evaluate_ofTruth]
  exact Value.fits_ofTruth _

theorem Arithmetic.apply_meets {kind : Arithmetic} {v w : Value} {t : DataType}
    (ht : (t.isNumeric || t = .null) = true) (hv : v.Fits t) (hw : w.Fits t) :
    Meets (·.Fits t) Untyped (kind.apply v w) := by
  obtain rfl | ⟨hnum, hv⟩ := hv.eq_null_or_number ht
  · trivial
  obtain rfl | ⟨-, hw⟩ := hw.eq_null_or_number ht
  · obtain ⟨n, rfl⟩ | ⟨x, rfl⟩ := hv <;> trivial
  obtain ⟨m, rfl⟩ | ⟨x, rfl⟩ := hv <;> obtain ⟨n, rfl⟩ | ⟨y, rfl⟩ := hw
  · change Meets _ _ (if kind.divides && n = 0 then _ else _)
    split
    · exact .divisionByZero
    · exact intResult_meets _ _ hnum
  all_goals exact hnum

theorem BinaryOp.apply_meets {op : BinaryOp} {reading : NullReading} {v w : Value}
    {s t u : DataType} (h : op.resultType? s t = some u) (hv : v.Fits s) (hw : w.Fits t) :
    Meets (·.Fits u) Untyped (op.apply reading v w) := by
  cases op with
  | comparison kind =>
      obtain ⟨m, hm, rfl⟩ := Option.map_eq_some_iff.1 h
      rw [apply_comparison]
      exact Comparison.apply_meets hm hv hw
  | connective kind =>
      obtain ⟨⟨hs, ht⟩, rfl⟩ : (s.isBoolean = true ∧ t.isBoolean = true) ∧ .boolean = u := by
        simpa [resultType?] using h
      exact Connective.evaluate_meets hs ht hv hw
  | coalesce =>
      change Value.Fits (if v.isNull then w else v) u
      split
      · exact hw.of_commonType?_right h
      · exact hv.of_commonType? h
  | arithmetic kind =>
      obtain ⟨hm, hu⟩ := Option.filter_eq_some_iff.1 h
      rw [apply_arithmetic]
      exact Arithmetic.apply_meets hu (hv.of_commonType? hm) (hw.of_commonType?_right hm)

/-! ### Patterns -/

/-- What `LIKE` complains about when all its operands are texts. -/
def Like.escapeError : EvalError :=
  .operandTypes .like [.utf8, .utf8, .utf8]

theorem Like.length_ne_one_of_escapeOf? {c : String} (h : escapeOf? (.string c) = none) :
    c.toList.length ≠ 1 := by
  intro hlength
  obtain ⟨d, hd⟩ := List.length_eq_one_iff.1 hlength
  simp [escapeOf?, hd] at h

theorem Like.apply_meets {subject pattern : Value} {escape : Option Value}
    (hs : subject = .null ∨ ∃ s, subject = .string s)
    (hp : pattern = .null ∨ ∃ p, pattern = .string p)
    (he : ∀ c, escape = some c → c = .null ∨ ∃ t, c = .string t) :
    Meets (·.Fits .boolean)
      (fun err => err = escapeError ∧ ∃ s p c, subject = .string s ∧ pattern = .string p ∧
        escape = some (.string c) ∧ c.toList.length ≠ 1)
      (Like.apply subject pattern escape) := by
  obtain rfl | ⟨s, rfl⟩ := hs
  · trivial
  obtain rfl | ⟨p, rfl⟩ := hp
  · trivial
  cases escape with
  | none => rfl
  | some c =>
      obtain rfl | ⟨c, rfl⟩ := he c rfl
      · trivial
      · cases hc : escapeOf? (.string c) with
        | some d =>
            have happly : Like.apply (.string s) (.string p) (some (.string c)) =
                .ok (.bool (holds s p (some d))) := by
              simp [Like.apply, outcome?, hc, Value.isNull]
            rw [happly]
            rfl
        | none =>
            have happly : Like.apply (.string s) (.string p) (some (.string c)) =
                .error escapeError := by
              simp [Like.apply, outcome?, hc, Value.isNull, escapeError, Value.dataType]
            rw [happly]
            exact ⟨rfl, s, p, c, rfl, rfl, rfl, length_ne_one_of_escapeOf? hc⟩

end NullLogic
