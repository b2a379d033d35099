import NullLogic.Optimize
import NullLogic.Proofs.Nullability
import NullLogic.Proofs.Simplify.Meaning
import NullLogic.Proofs.TwoValued.Meaning

/-!
# The meaning of optimized expressions

An optimized expression has the value that the expression has when `NULL` is read as a
value, and has it under either reading. Under three-valued comparisons the two passes
compose. Where `NULL` is a value, the complement of an ordering is its negation only for
operands other than `NULL`; the two-valued form is `Guarded`, simplifying keeps it so,
and what is judged not nullable is not `NULL` under this reading (`complements_of_guarded`).

Under relational nulls nothing is made two-valued, so an expression need not be `Guarded`.
It is only simplified, and no rule of that looks at how comparisons read `NULL`.
-/

namespace NullLogic

variable {b : Bindings}

theorem Comparison.apply_asValue_ne_null (kind : Comparison) (v w : Value) :
    kind.apply .asValue v w ≠ .ok .null := by
  unfold Comparison.apply
  split
  · simp
  · cases v.compare? w <;> simp

/-- Where comparisons with `NULL` are true or false, no form is needed for what is judged
not nullable to be a value. -/
theorem evaluate_asValue_ne_null {e : Expr} (hb : b.Respect e) : NullOnlyIf .asValue b e e := by
  induction e using Expr.induction with
  | step e ih =>
      cases he : e.isEquality with
      | true =>
          obtain ⟨positive, left, right, type, rfl⟩ := Expr.exists_equality_of_isEquality he
          intro _
          rw [evaluate_comparison]
          refine bind_ne_ok fun v _ => bind_ne_ok fun w _ => ?_
          exact Comparison.apply_asValue_ne_null _ v w
      | false =>
          have halike : e.Alike (NullOnlyIf .asValue b) e :=
            Expr.alike_self fun c hc => ih c hc (hb.child hc)
          exact evaluate_ne_null_of_alike halike he hb.self

theorem Comparison.apply_asValue_of_isNull (kind : Comparison) {v w : Value}
    (h : (v.isNull || w.isNull) = true) :
    kind.apply .asValue v w =
      .ok (Value.ofTruth (some (kind.holdsOfNull (v.isNull && w.isNull)))) := by
  rw [Comparison.apply, h]
  rfl

/-- Where `NULL` is a value, the complement is the negation for equalities, and for
orderings of values other than `NULL`. -/
theorem Comparison.apply_complement_asValue {kind : Comparison} {v w : Value} {t : Option Bool}
    (hkind : (∃ positive, kind = .equality positive) ∨ v ≠ .null ∧ w ≠ .null)
    (h : kind.apply .asValue v w = .ok (Value.ofTruth t)) :
    kind.complement.apply .asValue v w = .ok (Value.ofTruth (t.map (!·))) := by
  cases hnull : v.isNull || w.isNull with
  | true =>
      rw [kind.apply_asValue_of_isNull hnull] at h
      rw [kind.complement.apply_asValue_of_isNull hnull,
        ← Value.ofTruth_injective (Except.ok.inj h)]
      rcases hkind with ⟨positive, rfl⟩ | hne
      · cases positive <;> simp [equality, complement, holdsOfNull]
      · simp [hne] at hnull
  | false =>
      rw [Bool.or_eq_false_iff, Value.isNull_eq_false_iff, Value.isNull_eq_false_iff] at hnull
      have hread : ∀ k : Comparison, k.apply .asValue v w = k.apply .threeValued v w :=
        fun k => k.apply_of_ne_null hnull.1 hnull.2
      rw [hread] at h ⊢
      exact apply_complement h

namespace Simplify

theorem complements_of_guarded {e : Expr} (hg : e.GuardedNode)
    (hc : ∀ c ∈ e.children, NullOnlyIf .asValue b c c) : Complements .asValue b e := by
  unfold Complements
  split
  · rename_i kind l r type
    intro v w t hv hw
    refine Comparison.apply_complement_asValue ?_
    have hne : l.nullable = false ∧ r.nullable = false → v ≠ .null ∧ w ≠ .null := by
      intro hn
      have hl : NullOnlyIf .asValue b l l := hc l List.mem_cons_self
      have hr : NullOnlyIf .asValue b r r := hc r (List.mem_cons_of_mem l List.mem_cons_self)
      exact ⟨ne_null_of_evaluate (hl hn.1) hv, ne_null_of_evaluate (hr hn.2) hw⟩
    cases kind with
    | equal => exact .inl ⟨true, rfl⟩
    | notEqual => exact .inl ⟨false, rfl⟩
    | _ => exact .inr (hne hg)
  · trivial

theorem everywhere_complements {e : Expr} (hg : e.Guarded) (hb : b.Respect e) :
    e.Everywhere (Complements .asValue b) := by
  intro n hn
  refine complements_of_guarded (hg n hn) fun c hc => ?_
  exact evaluate_asValue_ne_null ((Expr.Everywhere.of_mem_nodes hb hn).child hc)

theorem tree_keeps_of_guarded {flip : Bool} {e s : Expr} (h : tree flip e = .ok s)
    (hg : e.Guarded) (hb : b.Respect e) : KeepsUnder False .asValue .asValue b e s := by
  revert hg hb
  refine tree_induction
    (motive := fun e s => e.Guarded → b.Respect e → KeepsUnder False .asValue .asValue b e s)
    ?_ h
  intro e m s halike hnode hg hb
  have hchildren : KeepsUnder False .asValue .asValue b e m :=
    evaluate_keeps (halike.imp fun c hc c' hc' => hc'.2 (hg.child hc) (hb.child hc)) (.inl rfl)
  refine hchildren.trans (node_keeps hnode fun _ => everywhere_complements ?_ ?_)
  · refine halike.everywhere ?_ fun c hc c' hc' => guarded_of_tree hc'.1 (hg.child hc)
    exact Expr.guardedNode_of_alike (halike.imp fun c _ c' hc' => nullable_of_tree hc'.1) hg.self
  · refine halike.everywhere ?_ fun c hc c' hc' => respect_of_tree hc'.1 (hb.child hc)
    exact Bindings.respectNode_of_alike halike hb.self

end Simplify

/-! ### Both passes -/

/-- The optimized expression can be read either way: it has the value that the expression
has when `NULL` is a value equal to itself only. -/
theorem evaluate_optimize_of_asValue {e o : Expr} {b : Bindings} {v : Value}
    (h : optimize {} e = .ok o) (hg : e.Guarded) (hb : b.Respect e)
    (hv : evaluate .asValue b e = .ok v) :
    evaluate .threeValued b o = .ok v ∧ evaluate .asValue b o = .ok v := by
  rw [optimize_default] at h
  rcases bind_eq_ok_iff.1 h with ⟨r, hr, ho⟩
  have htree := Simplify.tree_of_simplify_eq_ok ho
  have hkeeps : ∀ reading, KeepsUnder False .asValue reading b e r :=
    fun reading => twoValued_keeps hr hg hb False.elim
  constructor
  · exact (Simplify.tree_keeps (fun _ => rfl) htree).ok ((hkeeps .threeValued).ok hv)
  · have hgr : r.Guarded := guarded_of_twoValued hr hg
    have hbr : b.Respect r := respect_of_twoValued hr hb
    exact (Simplify.tree_keeps_of_guarded htree hgr hbr).ok ((hkeeps .asValue).ok hv)

/-- `NOT (x = p OR y < 1)` for a `NULL` in `x` only. -/
theorem evaluate_optimize_of_asValue_of_null :
    ∃ o, optimize {} (.unary .not (.binary .or (.binary .equal Sample.x Sample.p .boolean)
        (.binary (.comparison .less) Sample.y (.constant (.int 1) .int64) .boolean) .boolean)
        .boolean) = .ok o ∧
      evaluate .threeValued (Sample.bindings .null (.bool true) .null .null (.int 1) (.int 0)) o =
        .ok (.bool true) ∧
      evaluate .asValue (Sample.bindings .null (.bool true) .null .null (.int 1) (.int 0)) o =
        .ok (.bool true) := by
  obtain ⟨o, h⟩ : ∃ o, optimize {} (.unary .not (.binary .or (.binary .equal Sample.x Sample.p
      .boolean) (.binary (.comparison .less) Sample.y (.constant (.int 1) .int64) .boolean)
      .boolean) .boolean) = .ok o := ⟨_, rfl⟩
  exact ⟨o, h, evaluate_optimize_of_asValue h (by decide) (by decide) rfl⟩

/-! ### Relational nulls -/

theorem optimize_relational_keeps {reading : NullReading} {e o : Expr} {skip : Bool}
    (h : optimize ⟨true, skip⟩ e = .ok o) : KeepsUnder False reading reading b e o := by
  rw [optimize_relational] at h
  cases skip with
  | true =>
      obtain rfl := Except.ok.inj h
      exact Keeps.refl _
  | false =>
      have htree : Simplify.tree false e = .ok o := Simplify.tree_of_simplify_eq_ok h
      have hflip : false = true → reading = .threeValued := nofun
      exact Simplify.tree_keeps hflip htree

/-- Under relational nulls an optimized expression has the value of the expression under
either reading, whatever it compares. -/
theorem evaluate_optimize_relational {options : Options} {e o : Expr} {b : Bindings} {v : Value}
    (h : optimize options e = .ok o) (hrelational : options.useRelationalNulls = true)
    (reading : NullReading) (hv : evaluate reading b e = .ok v) :
    evaluate reading b o = .ok v := by
  obtain ⟨relational, skip⟩ := options
  obtain rfl : relational = true := hrelational
  exact (optimize_relational_keeps h).ok hv

/-- `NOT (x < p AND NOT (NOT a))` for a `NULL` in `x`, where the readings differ. -/
theorem evaluate_optimize_relational_of_less :
    ∃ o, optimize ⟨true, false⟩ (.unary .not (.binary .and (.binary (.comparison .less) Sample.x
        Sample.p .boolean) (.unary .not (.unary .not Sample.a .boolean) .boolean) .boolean)
        .boolean) = .ok o ∧
      evaluate .threeValued (Sample.bindings (.bool true) (.bool true) .null .null (.int 0)
        (.int 1)) o = .ok .null ∧
      evaluate .asValue (Sample.bindings (.bool true) (.bool true) .null .null (.int 0)
        (.int 1)) o = .ok (.bool true) := by
  obtain ⟨o, h⟩ : ∃ o, optimize ⟨true, false⟩ (.unary .not (.binary .and (.binary (.comparison
      .less) Sample.x Sample.p .boolean) (.unary .not (.unary .not Sample.a .boolean) .boolean)
      .boolean) .boolean) = .ok o := ⟨_, rfl⟩
  exact ⟨o, h, evaluate_optimize_relational h rfl .threeValued rfl,
    evaluate_optimize_relational h rfl .asValue rfl⟩

end NullLogic
