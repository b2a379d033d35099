import Mathlib.Tactic.ByContra
import NullLogic.MethodCall

/-!
# Trying several readings

`firstOf` gives the answer of the first reading that does not pass on the call, whether this is
an expression or an error. So a list joined to another one is tried only on calls that the other
one passes on.

If all readings that do not pass on a call give the same answer, it is the answer of the list
(`firstOf_eq_of_mem`), and neither the order of the readings nor how often each is listed
matters. Of `equals` and `stringMatch` at least one passes on every call, because no method that
matches strings is named `Equals`.
-/

namespace NullLogic

namespace MethodCall

variable {c : MethodCall} {reading : Reading} {readings readings' others : List Reading}

/-! ### One reading after another -/

theorem firstOf_cons_of_passes (h : reading c = .ok none) :
    firstOf (reading :: others) c = firstOf others c := by
  rw [firstOf, h]
  rfl

theorem firstOf_cons_of_answers (h : reading c ≠ .ok none) :
    firstOf (reading :: others) c = reading c := by
  rw [firstOf]
  cases hanswer : reading c with
  | error cause => rfl
  | ok answer =>
      cases answer with
      | none => exact absurd hanswer h
      | some e => rfl

theorem firstOf_append_of_passes (h : firstOf readings c = .ok none) :
    firstOf (readings ++ others) c = firstOf others c := by
  induction readings with
  | nil => rfl
  | cons reading readings ih =>
      have hpasses : reading c = .ok none := by
        by_contra hanswers
        rw [firstOf_cons_of_answers hanswers] at h
        exact hanswers h
      rw [firstOf_cons_of_passes hpasses] at h
      rw [List.cons_append, firstOf_cons_of_passes hpasses, ih h]

theorem firstOf_append_of_answers (h : firstOf readings c ≠ .ok none) :
    firstOf (readings ++ others) c = firstOf readings c := by
  induction readings with
  | nil => exact absurd (firstOf_nil c) h
  | cons reading readings ih =>
      rw [List.cons_append]
      by_cases hpasses : reading c = .ok none
      · rw [firstOf_cons_of_passes hpasses] at h
        rw [firstOf_cons_of_passes hpasses, firstOf_cons_of_passes hpasses, ih h]
      · rw [firstOf_cons_of_answers hpasses, firstOf_cons_of_answers hpasses]

theorem firstOf_of_all_pass (h : ∀ reading ∈ readings, reading c = .ok none) :
    firstOf readings c = .ok none := by
  induction readings with
  | nil => rfl
  | cons reading readings ih =>
      rw [firstOf_cons_of_passes (h reading List.mem_cons_self)]
      exact ih fun other hother => h other (List.mem_cons_of_mem reading hother)

/-! ### Readings that agree -/

/-- The answer that all readings agree on that do not pass. -/
theorem firstOf_eq_of_mem (hmem : reading ∈ readings) (hanswers : reading c ≠ .ok none)
    (hagree : ∀ other ∈ readings, other c ≠ .ok none → other c = reading c) :
    firstOf readings c = reading c := by
  induction readings with
  | nil => simp at hmem
  | cons first others ih =>
      by_cases hpasses : first c = .ok none
      · rw [firstOf_cons_of_passes hpasses]
        have hrest : reading ∈ others := by
          rcases List.mem_cons.1 hmem with rfl | hrest
          · exact absurd hpasses hanswers
          · exact hrest
        exact ih hrest fun other hother => hagree other (List.mem_cons_of_mem first hother)
      · rw [firstOf_cons_of_answers hpasses]
        exact hagree first List.mem_cons_self hpasses

/-- Readings that agree may be tried in any order and more than once. -/
theorem firstOf_congr
    (hagree : ∀ r ∈ readings, ∀ s ∈ readings, r c ≠ .ok none → s c ≠ .ok none → r c = s c)
    (hsame : ∀ r, r ∈ readings ↔ r ∈ readings') : firstOf readings c = firstOf readings' c := by
  by_cases h : ∃ r ∈ readings, r c ≠ .ok none
  · obtain ⟨r, hr, hanswers⟩ := h
    have hall : ∀ s ∈ readings, s c ≠ .ok none → s c = r c := fun s hs hsc =>
      hagree s hs r hr hsc hanswers
    rw [firstOf_eq_of_mem hr hanswers hall,
      firstOf_eq_of_mem ((hsame r).1 hr) hanswers fun s hs => hall s ((hsame s).2 hs)]
  · have hpass : ∀ r ∈ readings, r c = .ok none := by
      intro r hr
      by_contra hanswers
      exact h ⟨r, hr, hanswers⟩
    rw [firstOf_of_all_pass hpass, firstOf_of_all_pass fun r hr => hpass r ((hsame r).2 hr)]

/-! ### Equality and matching of strings -/

theorem name_of_equals_answers (h : equals c ≠ .ok none) : c.name = "Equals" := by
  by_contra hname
  exact h (by simp [equals, hname])

/-- A call that is read as an equality, or refused as one, is no call of a method of strings. -/
theorem stringMatch_of_equals_answers (h : equals c ≠ .ok none) : stringMatch c = .ok none := by
  have hpattern : ∀ escaped, pattern? c.name escaped = none := by
    intro escaped
    rw [name_of_equals_answers h]
    rfl
  unfold stringMatch
  split
  · rfl
  · split
    · rw [hpattern]
    · rfl

/-- Lists of `equals` and `stringMatch` with the same members give the same answers. Of any two
lists joined together, the second one is asked about the calls that the first one passes on. -/
theorem firstOf_order (c : MethodCall) :
    (∀ readings readings' : List Reading,
      (∀ reading ∈ readings, reading = equals ∨ reading = stringMatch) →
      (∀ reading, reading ∈ readings ↔ reading ∈ readings') →
      firstOf readings c = firstOf readings' c) ∧
    ∀ readings others : List Reading,
      (firstOf readings c ≠ .ok none →
        firstOf (readings ++ others) c = firstOf readings c) ∧
      (firstOf readings c = .ok none →
        firstOf (readings ++ others) c = firstOf others c) := by
  refine ⟨fun readings readings' hreadings hsame => firstOf_congr ?_ hsame, fun readings others =>
    ⟨firstOf_append_of_answers, firstOf_append_of_passes⟩⟩
  intro r hr s hs hrc hsc
  rcases hreadings r hr with rfl | rfl <;> rcases hreadings s hs with rfl | rfl
  · rfl
  · exact absurd (stringMatch_of_equals_answers hrc) hsc
  · exact absurd (stringMatch_of_equals_answers hsc) hrc
  · rfl

/-- A text compared with a number: `stringMatch` passes on the call and `equals` refuses it. -/
theorem firstOf_order_of_refused :
    firstOf [stringMatch, equals, stringMatch]
        ⟨some (.column "c" "name" .utf8 true), "String", "Equals", [.parameter "p" .int64]⟩ =
      .error (.operandTypes (.binary .equal) [.utf8, .int64]) ∧
    firstOf ([stringMatch] ++ [equals])
        ⟨some (.column "c" "name" .utf8 true), "String", "Equals", [.parameter "p" .int64]⟩ =
      .error (.operandTypes (.binary .equal) [.utf8, .int64]) := by
  obtain ⟨hsame, hjoined⟩ := firstOf_order
    ⟨some (.column "c" "name" .utf8 true), "String", "Equals", [.parameter "p" .int64]⟩
  constructor
  · rw [hsame [stringMatch, equals, stringMatch] [equals, stringMatch] (by simp)
      (by simp [or_comm])]
    rfl
  · rw [(hjoined [stringMatch] [equals]).2 rfl]
    rfl

end MethodCall

end NullLogic
