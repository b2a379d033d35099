import NullLogic.Proofs.Checked
import NullLogic.Proofs.Typing.Order

/-!
# The type of a `CASE`

A `CASE` is made if every test goes with what it is compared with and every two of the results
have a common type. Its type is then the least upper bound of the types of all results. Both
depend only on which tests and which types of results there are (`caseType?_congr`), so the
clauses may be written in any order, and the result of `ELSE` may be exchanged with that of a
clause.
-/

namespace NullLogic

namespace Checked

variable {operand otherwise otherwise' : Option Expr} {clauses clauses' : List (Clause Expr)}
  {type : DataType}

/-! ### What fits -/

theorem exists_caseFits_iff :
    (∃ type, CaseFits operand clauses otherwise type) ↔
      clauses ≠ [] ∧
      (∀ k ∈ clauses, ∃ u, (testType operand).commonType? k.test.dataType = some u) ∧
      ∀ s ∈ resultTypes clauses otherwise, ∀ t ∈ resultTypes clauses otherwise,
        ∃ u, s.commonType? t = some u := by
  rw [← DataType.exists_commonTypeOfAll?_iff]
  constructor
  · rintro ⟨type, hfits⟩
    exact ⟨hfits.clauses_ne_nil, fun k hk => Option.isSome_iff_exists.1 (hfits.tests k hk),
      type, hfits.results⟩
  · rintro ⟨hne, htests, type, hresults⟩
    exact ⟨type, hne, fun k hk => Option.isSome_iff_exists.2 (htests k hk), hresults⟩

theorem CaseFits.congr (hfits : CaseFits operand clauses otherwise type)
    (htests : ∀ x, x ∈ clauses.map Clause.test ↔ x ∈ clauses'.map Clause.test)
    (hresults : ∀ t, t ∈ resultTypes clauses otherwise ↔ t ∈ resultTypes clauses' otherwise') :
    CaseFits operand clauses' otherwise' type where
  clauses_ne_nil := by
    rintro rfl
    obtain ⟨k, hk⟩ := List.exists_mem_of_ne_nil clauses hfits.clauses_ne_nil
    simpa using (htests k.test).1 (List.mem_map_of_mem hk)
  tests k' hk' := by
    obtain ⟨k, hk, htest⟩ := List.mem_map.1 ((htests k'.test).2 (List.mem_map_of_mem hk'))
    rw [← htest]
    exact hfits.tests k hk
  results := (DataType.commonTypeOfAll?_congr hresults).symm.trans hfits.results

/-! ### The type -/

/-- The type of the `CASE` with these parts, if it is made. -/
def caseType? (operand : Option Expr) (clauses : List (Clause Expr)) (otherwise : Option Expr) :
    Option DataType :=
  (caseWhen operand clauses otherwise).toOption.map Expr.dataType

theorem caseType?_eq_some_iff :
    caseType? operand clauses otherwise = some type ↔
      CaseFits operand clauses otherwise type := by
  unfold caseType?
  cases h : caseWhen operand clauses otherwise with
  | ok e =>
      obtain ⟨type', hfits, rfl⟩ := caseWhen_eq_ok_iff.1 h
      constructor
      · intro htype
        obtain rfl := Option.some.inj htype
        exact hfits
      · intro hfits'
        exact congrArg some (hfits.unique hfits')
  | error cause =>
      refine iff_of_false (by simp [Except.toOption]) fun hfits => ?_
      have hmade := caseWhen_eq_ok_iff.2 ⟨type, hfits, rfl⟩
      simp [h] at hmade

/-- Which tests and which types of results there are decides on the type. -/
theorem caseType?_congr
    (htests : ∀ x, x ∈ clauses.map Clause.test ↔ x ∈ clauses'.map Clause.test)
    (hresults : ∀ t, t ∈ resultTypes clauses otherwise ↔ t ∈ resultTypes clauses' otherwise') :
    caseType? operand clauses otherwise = caseType? operand clauses' otherwise' := by
  refine Option.ext fun type => ?_
  rw [caseType?_eq_some_iff, caseType?_eq_some_iff]
  constructor
  · intro hfits
    exact hfits.congr htests hresults
  · intro hfits
    exact hfits.congr (fun x => (htests x).symm) fun t => (hresults t).symm

theorem caseType?_perm (h : clauses.Perm clauses') :
    caseType? operand clauses otherwise = caseType? operand clauses' otherwise := by
  refine caseType?_congr (fun x => (h.map Clause.test).mem_iff) fun t => ?_
  exact ((h.map fun k => k.result.dataType).append_right _).mem_iff

theorem caseType?_exchange (before after : List (Clause Expr)) (test result other : Expr) :
    caseType? operand (before ++ ⟨test, result⟩ :: after) (some other) =
      caseType? operand (before ++ ⟨test, other⟩ :: after) (some result) := by
  refine caseType?_congr (fun x => ?_) fun t => ?_
  · simp
  · simp [resultTypes, or_comm, or_left_comm]

/-- The `CASE` is made if the tests go with what they are compared with and the results with each
other. Its type is the same for any order of the clauses, and when the result of `ELSE` changes
places with that of a clause. It is the least of the types that all results may be taken as. -/
theorem caseWhen_typing (operand : Option Expr) (clauses : List (Clause Expr))
    (otherwise : Option Expr) :
    ((∃ e, caseWhen operand clauses otherwise = .ok e) ↔
      clauses ≠ [] ∧
      (∀ k ∈ clauses, ∃ u, (testType operand).commonType? k.test.dataType = some u) ∧
      ∀ s ∈ resultTypes clauses otherwise, ∀ t ∈ resultTypes clauses otherwise,
        ∃ u, s.commonType? t = some u) ∧
    (∀ clauses' : List (Clause Expr), clauses'.Perm clauses →
      caseType? operand clauses' otherwise = caseType? operand clauses otherwise) ∧
    (∀ (before after : List (Clause Expr)) (test result other : Expr),
      clauses = before ++ ⟨test, result⟩ :: after → otherwise = some other →
      caseType? operand (before ++ ⟨test, other⟩ :: after) (some result) =
        caseType? operand clauses otherwise) ∧
    ∀ e, caseWhen operand clauses otherwise = .ok e →
      (∀ t ∈ resultTypes clauses otherwise, t.commonType? e.dataType = some e.dataType) ∧
      ∀ u, (∀ t ∈ resultTypes clauses otherwise, t.commonType? u = some u) →
        e.dataType.commonType? u = some u := by
  refine ⟨?_, fun clauses' h => caseType?_perm h, ?_, ?_⟩
  · rw [← exists_caseFits_iff]
    simp only [caseWhen_eq_ok_iff]
    constructor
    · rintro ⟨e, type, hfits, -⟩
      exact ⟨type, hfits⟩
    · rintro ⟨type, hfits⟩
      exact ⟨_, type, hfits, rfl⟩
  · rintro before after test result other rfl rfl
    exact caseType?_exchange before after test other result
  · intro e he
    obtain ⟨type, hfits, rfl⟩ := caseWhen_eq_ok_iff.1 he
    have hleast := DataType.commonTypeOfAll?_eq_some_iff.1 hfits.results
    simp only [← DataType.le_iff_commonType?]
    exact ⟨fun t ht => hleast.1 ht, fun u hu => hleast.2 hu⟩

/-- An integer, a number of single precision and an untyped `NULL`, each in the place of `ELSE` or
of a clause. -/
theorem caseWhen_typing_of_mixed :
    caseType? none
        [⟨.parameter "p" .boolean, .parameter "n" (.integer .int8)⟩,
          ⟨.constant .null .null, .parameter "x" (.floating .float32)⟩]
        (some (.constant .null .null)) = some .float64 ∧
    caseType? none
        [⟨.constant .null .null, .parameter "x" (.floating .float32)⟩,
          ⟨.parameter "p" .boolean, .parameter "n" (.integer .int8)⟩]
        (some (.constant .null .null)) = some .float64 ∧
    caseType? none
        [⟨.parameter "p" .boolean, .constant .null .null⟩,
          ⟨.constant .null .null, .parameter "x" (.floating .float32)⟩]
        (some (.parameter "n" (.integer .int8))) = some .float64 := by
  have hmade : caseType? none
      [⟨.parameter "p" .boolean, .parameter "n" (.integer .int8)⟩,
        ⟨.constant .null .null, .parameter "x" (.floating .float32)⟩]
      (some (.constant .null .null)) = some .float64 := by decide
  obtain ⟨-, hperm, hexchange, -⟩ := caseWhen_typing none
    [⟨.parameter "p" .boolean, .parameter "n" (.integer .int8)⟩,
      ⟨.constant .null .null, .parameter "x" (.floating .float32)⟩]
    (some (.constant .null .null))
  exact ⟨hmade, (hperm _ (.swap _ _ [])).trans hmade,
    (hexchange [] _ _ _ _ rfl rfl).trans hmade⟩

end Checked

end NullLogic
