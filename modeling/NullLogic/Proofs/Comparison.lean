import NullLogic.Semantics

/-!
# The order of comparisons

The six comparisons of two values are six questions about one `Ordering`, that of
`Value.compare?`. Which values are in an order at all depends on their kinds alone, and not on
the side they stand on: those of one kind are, and so are numbers of different kinds
(`compare?_isSome_iff`). Exchanging the sides reverses the order (`compare?_swap`).

From this follows what comparisons have to do with each other, `comparisons_coherent`. It is the
reason that a negated comparison may become its complement.
-/

namespace NullLogic

/-! ### Six questions about an order -/

namespace Comparison

/-- The comparison that asks the same with the sides exchanged. -/
def mirror : Comparison → Comparison
  | equal => equal
  | notEqual => notEqual
  | less => greater
  | lessEqual => greaterEqual
  | greater => less
  | greaterEqual => lessEqual

theorem holds_mirror (k : Comparison) (o : Ordering) : k.mirror.holds o.swap = k.holds o := by
  cases k <;> cases o <;> rfl

/-- Of less, equal and greater exactly one holds, and the other comparisons are made of these. -/
structure Coherent (holds : Comparison → Bool) : Prop where
  exactly_one : [less, equal, greater].countP holds = 1
  lessEqual_iff : holds lessEqual = true ↔ holds less = true ∨ holds equal = true
  greaterEqual_iff : holds greaterEqual = true ↔ holds greater = true ∨ holds equal = true
  complement : ∀ k : Comparison, holds k.complement = !holds k

theorem coherent_holds (o : Ordering) : Coherent fun k => k.holds o where
  exactly_one := by cases o <;> rfl
  lessEqual_iff := by cases o <;> decide
  greaterEqual_iff := by cases o <;> decide
  complement k := k.holds_complement o

end Comparison

/-! ### The order of two values -/

namespace Value

def isNumber : Value → Bool
  | int _ | float _ => true
  | _ => false

/-- The values are of one kind, or numbers. -/
def Comparable (v w : Value) : Prop :=
  v.kindRank = w.kindRank ∨ (v.isNumber = true ∧ w.isNumber = true)

theorem compare?_swap (v w : Value) : w.compare? v = (v.compare? w).map Ordering.swap := by
  cases v <;> cases w <;> simp [compare?, ← Std.OrientedOrd.eq_swap]

/-- Values of one kind are compared as they are ordered. -/
theorem compare?_of_kindRank {v w : Value} (hv : v ≠ null) (h : v.kindRank = w.kindRank) :
    v.compare? w = some (v.order w) := by
  cases v <;> cases w <;> simp_all [kindRank, compare?, order]

theorem compare?_isSome_iff {v w : Value} (hv : v ≠ null) :
    (v.compare? w).isSome = true ↔ Comparable v w := by
  cases v <;> cases w <;> simp_all [compare?, Comparable, kindRank, isNumber]

end Value

/-! ### Comparisons of values -/

section Apply

variable (k : Comparison) (reading : NullReading) {v w : Value}

theorem Comparison.apply_of_compare?_eq_some {o : Ordering} (h : v.compare? w = some o) :
    k.apply reading v w = .ok (.bool (k.holds o)) := by
  have hv : v.isNull = false := by
    rw [Value.isNull_eq_false_iff]
    rintro rfl
    simp at h
  have hw : w.isNull = false := by
    rw [Value.isNull_eq_false_iff]
    rintro rfl
    simp at h
  simp [Comparison.apply, hv, hw, h]

theorem Comparison.apply_of_compare?_eq_none (hv : v ≠ .null) (hw : w ≠ .null)
    (h : v.compare? w = none) :
    k.apply reading v w =
      .error (.operandTypes (.binary (.comparison k)) [v.dataType, w.dataType]) := by
  rw [← Value.isNull_eq_false_iff] at hv hw
  simp [Comparison.apply, hv, hw, h]

end Apply

/-- Two values that are not `NULL` are comparable or not, whichever comparison it is and however
`NULL` is read. If they are not, all comparisons are refused, on both sides. If they are, the
outcomes are coherent, the mirrored comparison has the same outcome with the sides exchanged, and
for values of one kind the outcome is that of their order. -/
theorem comparisons_coherent {v w : Value} (hv : v ≠ .null) (hw : w ≠ .null) :
    (¬ v.Comparable w ∧ ∀ (reading : NullReading) (k : Comparison),
      (BinaryOp.comparison k).apply reading v w =
        .error (.operandTypes (.binary (.comparison k)) [v.dataType, w.dataType]) ∧
      (BinaryOp.comparison k).apply reading w v =
        .error (.operandTypes (.binary (.comparison k)) [w.dataType, v.dataType])) ∨
    (v.Comparable w ∧ ∃ holds : Comparison → Bool, Comparison.Coherent holds ∧
      (∀ (reading : NullReading) (k : Comparison),
        (BinaryOp.comparison k).apply reading v w = .ok (.bool (holds k)) ∧
        (BinaryOp.comparison k.mirror).apply reading w v = .ok (.bool (holds k))) ∧
      (v.kindRank = w.kindRank →
        (holds .less = true ↔ v.order w = .lt) ∧ (holds .equal = true ↔ v.order w = .eq) ∧
          (holds .greater = true ↔ v.order w = .gt))) := by
  simp only [BinaryOp.apply_comparison]
  have hswap := Value.compare?_swap v w
  cases hcompare : v.compare? w with
  | none =>
      rw [hcompare, Option.map_none] at hswap
      refine .inl ⟨?_, fun reading k => ⟨?_, ?_⟩⟩
      · rw [← Value.compare?_isSome_iff hv, hcompare]
        simp
      · exact k.apply_of_compare?_eq_none reading hv hw hcompare
      · exact k.apply_of_compare?_eq_none reading hw hv hswap
  | some o =>
      rw [hcompare, Option.map_some] at hswap
      refine .inr ⟨?_, (·.holds o), Comparison.coherent_holds o, fun reading k => ⟨?_, ?_⟩, ?_⟩
      · rw [← Value.compare?_isSome_iff hv, hcompare]
        rfl
      · exact k.apply_of_compare?_eq_some reading hcompare
      · rw [k.mirror.apply_of_compare?_eq_some reading hswap, k.holds_mirror]
      · intro hkind
        obtain rfl : o = v.order w := by
          simpa [hcompare] using Value.compare?_of_kindRank hv hkind
        simp [Comparison.holds]

/-- A number of each kind, and a text that neither of them can be compared with. -/
theorem comparisons_coherent_of_mixed :
    (∃ holds : Comparison → Bool, Comparison.Coherent holds ∧ ∀ reading (k : Comparison),
      (BinaryOp.comparison k).apply reading (.int 1) (.float 0.5) = .ok (.bool (holds k)) ∧
      (BinaryOp.comparison k.mirror).apply reading (.float 0.5) (.int 1) =
        .ok (.bool (holds k))) ∧
    BinaryOp.less.apply .asValue (.string "1") (.int 1) =
      .error (.operandTypes (.binary (.comparison .less)) [.utf8, .int64]) := by
  constructor
  · obtain ⟨hnot, -⟩ | ⟨-, holds, hholds, happly, -⟩ :=
      comparisons_coherent (v := .int 1) (w := .float 0.5) nofun nofun
    · exact absurd (.inr ⟨rfl, rfl⟩) hnot
    · exact ⟨holds, hholds, happly⟩
  · obtain ⟨-, hrefused⟩ | ⟨hcomparable, -⟩ :=
      comparisons_coherent (v := .string "1") (w := .int 1) nofun nofun
    · exact (hrefused .asValue .less).1
    · exact absurd hcomparable (by simp [Value.Comparable, Value.kindRank, Value.isNumber])

end NullLogic
