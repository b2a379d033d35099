import NullLogic.Proofs.Checked
import NullLogic.Proofs.Expr.Alike
import NullLogic.Proofs.Outcome
import NullLogic.Simplify.Normal

/-!
# What the rules of simplification do

Inversion of the rules, for runs that succeed: `absorb?_cases` and `absorb?_induction` for
constants in connectives, and `nullTest_induction`, `negate_induction` and `tree_induction`
as principles of proof, the first two along the rules that take a `NOT` out of a test or
push it inwards, the third from the leaves up. Where no rule applies, there is no redex.
-/

namespace NullLogic

namespace Simplify

/-- A constant on the left decides or goes, and then one on the right does. -/
theorem absorb?_cases (kind : Connective) (l r whole : Expr) :
    (∃ c t, l = .constant (.bool c) t ∧
      (absorb? kind l r).getD whole = if c = kind.absorbing then l else r) ∨
    (∃ c t, r = .constant (.bool c) t ∧
      (absorb? kind l r).getD whole = if c = kind.absorbing then r else l) ∨
    (l.bool? = none ∧ r.bool? = none ∧ (absorb? kind l r).getD whole = whole) := by
  cases hl : l.bool? with
  | some c =>
      rcases (Expr.bool?_eq_some_iff l c).1 hl with ⟨t, rfl⟩
      exact .inl ⟨c, t, rfl, by simp [absorb?, Value.toBool?]⟩
  | none =>
      cases hr : r.bool? with
      | some c =>
          rcases (Expr.bool?_eq_some_iff r c).1 hr with ⟨t, rfl⟩
          exact .inr (.inl ⟨c, t, rfl, by simp [absorb?, hl, Value.toBool?]⟩)
      | none => exact .inr (.inr ⟨rfl, rfl, by simp [absorb?, hl, hr]⟩)

/-- What is left of a connective is an operand, or the connective itself. -/
theorem absorb?_induction (flip : Bool) {kind : Connective} {l r : Expr} {t : DataType}
    {motive : Expr → Prop} (left : motive l) (right : motive r)
    (kept : ¬ Redex flip (.binary (.connective kind) l r t) →
      motive (.binary (.connective kind) l r t)) :
    motive ((absorb? kind l r).getD (.binary (.connective kind) l r t)) := by
  obtain ⟨c, u, -, heq⟩ | ⟨c, u, -, heq⟩ | ⟨hl, hr, heq⟩ :=
    absorb?_cases kind l r (.binary (.connective kind) l r t)
  · rw [heq]
    split
    · exact left
    · exact right
  · rw [heq]
    split
    · exact right
    · exact left
  · rw [heq]
    refine kept fun hredex => ?_
    cases hredex with
    | constantLeft _ c => simp [Value.toBool?] at hl
    | constantRight _ _ c => simp [Value.toBool?] at hr

theorem connect_eq_ok_iff {kind : Connective} {l r s : Expr} :
    connect kind l r = .ok s ↔ l.dataType.isBoolean = true ∧ r.dataType.isBoolean = true ∧
      s = (absorb? kind l r).getD (.binary (.connective kind) l r .boolean) := by
  simp only [connect, bind_eq_ok_iff, Checked.connective_eq_ok_iff, pure, Except.pure,
    Except.ok.injEq]
  constructor
  · rintro ⟨_, ⟨hl, hr, rfl⟩, rfl⟩
    exact ⟨hl, hr, rfl⟩
  · rintro ⟨hl, hr, rfl⟩
    exact ⟨_, ⟨hl, hr, rfl⟩, rfl⟩

/-- The cases of a null test. Those of `motive x t s` say what becomes of the test of `x`. -/
theorem nullTest_induction (flip : Bool) {kind : NullTest} {motive : Expr → DataType → Expr → Prop}
    (null : ∀ u t,
      motive (.constant .null u) t (.constant (.bool (kind.holds true)) .boolean))
    (negation : ∀ x u t s, motive x .boolean s → motive (.unary .not x u) t s)
    (kept : ∀ x t, ¬ Redex flip (.unary (.test kind) x t) →
      motive x t (.unary (.test kind) x t))
    (x : Expr) (t : DataType) : motive x t (nullTest kind x t) := by
  fun_induction nullTest kind x t with
  | case1 t u => exact null u t
  | case2 t x u ih => exact negation x u t _ ih
  | case3 t x hnull hnot =>
      refine kept x t fun hredex => ?_
      cases hredex with
      | testNot _ x u => exact hnot x u rfl
      | testNull _ u => exact hnull u rfl

variable {flip : Bool}

/-- The cases of a negation that succeeds. Those of `motive x t s` say what becomes of
the negation of `x`. -/
theorem negate_induction {motive : Expr → DataType → Expr → Prop}
    (constant : ∀ c u t,
      motive (.constant (.bool c) u) t (.constant (.bool !c) .boolean))
    (negation : ∀ x u t, motive (.unary .not x u) t x)
    (test : ∀ kind x u t,
      motive (.unary (.test kind) x u) t (nullTest kind.complement x .boolean))
    (connective : ∀ kind l r u t l' r', l.dataType.isBoolean = true → r.dataType.isBoolean = true →
      l'.dataType.isBoolean = true → r'.dataType.isBoolean = true →
      motive l .boolean l' → motive r .boolean r' →
      motive (.binary (.connective kind) l r u) t
        ((absorb? kind.dual l' r').getD (.binary (.connective kind.dual) l' r' .boolean)))
    (comparison : ∀ kind l r u t, flip = true →
      motive (.binary (.comparison kind) l r u) t
        (.binary (.comparison kind.complement) l r u))
    (kept : ∀ x t, ¬ Redex flip (.unary .not x t) → motive x t (.unary .not x t))
    {x s : Expr} {t : DataType} (h : negate flip x t = .ok s) : motive x t s := by
  fun_induction negate flip x t generalizing s with
  | case1 t c u =>
      obtain rfl := Except.ok.inj h
      exact constant c u t
  | case2 t x u =>
      obtain rfl := Except.ok.inj h
      exact negation x u t
  | case3 t kind x u =>
      obtain rfl := Except.ok.inj h
      exact test kind x u t
  | case4 t kind l r u ihl ihr =>
      rcases bind_eq_ok_iff.1 h with ⟨_, hnl, h⟩
      rcases bind_eq_ok_iff.1 h with ⟨l', hl, h⟩
      rcases bind_eq_ok_iff.1 h with ⟨_, hnr, h⟩
      rcases bind_eq_ok_iff.1 h with ⟨r', hr, h⟩
      obtain ⟨hl', hr', rfl⟩ := connect_eq_ok_iff.1 h
      exact connective kind l r u t l' r' (Checked.not_eq_ok_iff.1 hnl).1
        (Checked.not_eq_ok_iff.1 hnr).1 hl' hr' (ihl hl) (ihr hr)
  | case5 t kind l r u hflip =>
      obtain rfl := Checked.binaryAs_eq_ok h
      exact comparison kind l r u t hflip
  | case6 t kind l r u hflip =>
      obtain rfl := Except.ok.inj h
      refine kept _ t fun hredex => ?_
      cases hredex with
      | notComparison _ _ _ _ _ h => exact hflip h
  | case7 t x hconstant hnot htest hconnective hcomparison =>
      obtain rfl := Except.ok.inj h
      refine kept x t fun hredex => ?_
      cases hredex with
      | notConstant c u => exact hconstant c u rfl
      | notNot x u => exact hnot x u rfl
      | notTest kind x u => exact htest kind x u rfl
      | notConnective kind l r u => exact hconnective kind l r u rfl
      | notComparison kind l r u => exact hcomparison kind l r u rfl

/-- The rules at a node. -/
theorem node_cases {e s : Expr} (h : node flip e = .ok s) :
    (∃ x t, e = .unary .not x t ∧ negate flip x t = .ok s) ∨
    (∃ kind x t, e = .unary (.test kind) x t ∧ s = nullTest kind x t) ∨
    (∃ kind l r t, e = .binary (.connective kind) l r t ∧ s = (absorb? kind l r).getD e) ∨
    (¬ Redex flip e ∧ s = e) := by
  unfold node at h
  split at h
  · exact .inl ⟨_, _, rfl, h⟩
  · exact .inr (.inl ⟨_, _, _, rfl, (Except.ok.inj h).symm⟩)
  · exact .inr (.inr (.inl ⟨_, _, _, _, rfl, (Except.ok.inj h).symm⟩))
  · rename_i hnot htest hconnective
    refine .inr (.inr (.inr ⟨fun hredex => ?_, (Except.ok.inj h).symm⟩))
    cases hredex with
    | testNot kind x u t => exact htest kind _ t rfl
    | testNull kind u t => exact htest kind _ t rfl
    | constantLeft kind c r u t => exact hconnective kind _ r t rfl
    | constantRight kind l c u t => exact hconnective kind l _ t rfl
    | _ => exact hnot _ _ rfl

/-- Putting simple children in the place of the old ones is never refused. -/
theorem tree_eq_withChildren (flip : Bool) (e : Expr) :
    tree flip e = (do
      let news ← e.children.mapM (tree flip)
      let e' ← e.withChildren news
      node flip e') := by
  rw [tree_eq]
  cases hnews : e.children.mapM (tree flip) with
  | error cause => rfl
  | ok news => rw [ok_bind, ok_bind, Expr.withChildren_of_mapM hnews, ok_bind]

/-- The rules come to a node when its children are simple already. -/
theorem tree_cases {e s : Expr} (h : tree flip e = .ok s) :
    ∃ m, e.Alike (fun c c' => tree flip c = .ok c') m ∧ node flip m = .ok s := by
  rw [tree_eq] at h
  rcases bind_eq_ok_iff.1 h with ⟨news, hnews, h⟩
  exact ⟨e.refill news, Expr.alike_refill (mapM_eq_ok_iff.1 hnews), h⟩

theorem tree_induction {motive : Expr → Expr → Prop}
    (step : ∀ e m s, e.Alike (fun c c' => tree flip c = .ok c' ∧ motive c c') m →
      node flip m = .ok s → motive e s)
    {e s : Expr} (h : tree flip e = .ok s) : motive e s := by
  induction e using Expr.induction generalizing s with
  | step e ih =>
      obtain ⟨m, halike, hnode⟩ := tree_cases h
      exact step e m s (halike.imp fun c hc c' hc' => ⟨hc', ih c hc hc'⟩) hnode

theorem tree_of_simplify_eq_ok {e s : Expr} (h : simplify flip e = .ok s) :
    tree flip e = .ok s := by
  unfold simplify at h
  cases ht : tree flip e with
  | error cause => simp [ht, Except.mapError] at h
  | ok s' =>
      rw [ht] at h
      exact congrArg Except.ok (Except.ok.inj h)

theorem simplify_of_tree {e s : Expr} (h : tree flip e = .ok s) : simplify flip e = .ok s := by
  rw [simplify, h]
  rfl

end Simplify

end NullLogic
