import NullLogic.Proofs.Simplify.Nodes
import NullLogic.Proofs.WellTyped.Rules

/-!
# Types of simplified expressions

Simplifying keeps the type of an expression, or puts an untyped `NULL` in the place of a
truth value, as in `NOT (NOT NULL)`. Weak as this is, it is what every rule needs of the
operands that it finds: nodes stay typed through all rules, and all checks on the way pass
(`exists_tree`).
-/

namespace NullLogic

namespace Simplify

variable {flip : Bool}

/-! ### The type on top -/

theorem dataType_nullTest (kind : NullTest) (x : Expr) :
    (nullTest kind x .boolean).dataType = .boolean := by
  refine nullTest_induction true
    (motive := fun _ t s => t = .boolean → s.dataType = .boolean) ?_ ?_ ?_ x .boolean rfl
  · intro u t _
    rfl
  · intro x u t s ih _
    exact ih rfl
  · intro x t _ ht
    exact ht

theorem isBoolean_absorb? {kind : Connective} {l r : Expr}
    (hl : l.dataType.isBoolean = true) (hr : r.dataType.isBoolean = true) :
    ((absorb? kind l r).getD (.binary (.connective kind) l r .boolean)).dataType.isBoolean =
      true :=
  absorb?_induction true (motive := (·.dataType.isBoolean = true)) hl hr fun _ => rfl

theorem isBoolean_of_negate {x s : Expr} (h : negate flip x .boolean = .ok s)
    (hx : x.NodeTyped) (hboolean : x.dataType.isBoolean = true) :
    s.dataType.isBoolean = true := by
  refine negate_induction
    (motive := fun x t s => t = .boolean → x.NodeTyped → x.dataType.isBoolean = true →
      s.dataType.isBoolean = true) ?_ ?_ ?_ ?_ ?_ ?_ h rfl hx hboolean
  · intro c u t _ _ _
    rfl
  · intro x u t _ hx _
    -- `x` may be an untyped `NULL`, where the double negation is Boolean
    exact hx.not.1
  · intro kind x u t _ _ _
    rw [dataType_nullTest]
    rfl
  · intro kind l r u t l' r' _ _ hl' hr' _ _ _ _ _
    exact isBoolean_absorb? hl' hr'
  · intro kind l r u t _ _ _ hboolean
    exact hboolean
  · rintro x t _ rfl _ _
    rfl

theorem replaceableBy_of_isBoolean {e s : Expr} (he : e.dataType = .boolean)
    (htable : e.isTable = false) (hs : s.dataType.isBoolean = true) : e.ReplaceableBy s := by
  refine ⟨?_, fun h => by simp [htable] at h⟩
  rw [he]
  exact DataType.boolean_simplifiesTo_iff.2 hs

theorem replaceableBy_of_node {e s : Expr} (h : node flip e = .ok s)
    (he : e.Everywhere Expr.NodeTyped) : e.ReplaceableBy s := by
  obtain ⟨x, t, rfl, hs⟩ | ⟨kind, x, t, rfl, rfl⟩ | ⟨kind, l, r, t, rfl, rfl⟩ | ⟨-, rfl⟩ :=
    node_cases h
  · obtain ⟨hx, rfl⟩ := he.self.not
    refine replaceableBy_of_isBoolean rfl rfl (isBoolean_of_negate hs ?_ hx)
    exact (he.child List.mem_cons_self).self
  · obtain rfl := he.self.test
    refine replaceableBy_of_isBoolean rfl rfl ?_
    rw [dataType_nullTest]
    rfl
  · obtain ⟨hl, hr, rfl⟩ := he.self.connective
    exact replaceableBy_of_isBoolean rfl rfl (isBoolean_absorb? hl hr)
  · exact ⟨.refl _, id⟩

/-! ### All nodes -/

theorem Made.nodeTyped {n : Expr} (h : Made n) : n.NodeTyped := by
  cases h with
  | constant c => exact .constant rfl
  | not hx => exact .unary (if_pos hx) (.refl .boolean)
  | test kind x => exact .unary rfl (.refl .boolean)
  | connective kind hl hr =>
      exact .binary (if_pos (by rw [hl, hr]; rfl)) (.refl .boolean)

theorem nodeTyped_complement {kind : Comparison} {l r : Expr} {t : DataType}
    (h : (Expr.binary (.comparison kind) l r t).NodeTyped) :
    (Expr.binary (.comparison kind.complement) l r t).NodeTyped := by
  cases h with
  | binary ht htype => exact .binary ht htype

theorem nodeTyped_of_node {e s : Expr} (h : node flip e = .ok s)
    (he : e.Everywhere Expr.NodeTyped) : s.Everywhere Expr.NodeTyped := by
  refine node_everywhere ?_ ?_ h (fun c hc => he.child hc) fun _ => he.self
  · exact fun n hn _ => hn.nodeTyped
  · exact fun kind l r t => nodeTyped_complement

/-- The node that the rules come to is typed if what its children were simplified from is. -/
theorem nodeTyped_of_children {e m : Expr} (he : e.Everywhere Expr.NodeTyped)
    (h : e.Alike (fun c c' => c.ReplaceableBy c' ∧ c'.Everywhere Expr.NodeTyped) m) :
    m.Everywhere Expr.NodeTyped := by
  refine h.everywhere ?_ fun _ _ _ hc' => hc'.2
  exact he.self.of_alike (h.imp fun _ _ _ hc' => hc'.1)

theorem nodeTyped_of_tree {e s : Expr} (h : tree flip e = .ok s)
    (he : e.Everywhere Expr.NodeTyped) :
    e.ReplaceableBy s ∧ s.Everywhere Expr.NodeTyped := by
  revert he
  refine tree_induction (motive := fun e s => e.Everywhere Expr.NodeTyped →
    e.ReplaceableBy s ∧ s.Everywhere Expr.NodeTyped) ?_ h
  intro e m s halike hnode he
  have hm : m.Everywhere Expr.NodeTyped :=
    nodeTyped_of_children he (halike.imp fun c hc c' hc' => hc'.2 (he.child hc))
  exact ⟨halike.replaceableBy.trans (replaceableBy_of_node hnode hm),
    nodeTyped_of_node hnode hm⟩

/-! ### The checks on the way -/

theorem exists_negate {x : Expr} (hx : x.Everywhere Expr.NodeTyped)
    (hboolean : x.dataType.isBoolean = true) (t : DataType) :
    ∃ s, negate flip x t = .ok s := by
  fun_induction negate flip x t with
  | case4 t kind l r u ihl ihr =>
      obtain ⟨hl, hr, -⟩ := hx.self.connective
      obtain ⟨l', hl'⟩ := ihl hx.left hl
      obtain ⟨r', hr'⟩ := ihr hx.right hr
      rw [Checked.not_eq_ok_iff.2 ⟨hl, rfl⟩, Checked.not_eq_ok_iff.2 ⟨hr, rfl⟩, hl', hr']
      refine ⟨_, connect_eq_ok_iff.2 ⟨?_, ?_, rfl⟩⟩
      · exact isBoolean_of_negate hl' hx.left.self hl
      · exact isBoolean_of_negate hr' hx.right.self hr
  | case5 t kind l r u =>
      obtain ⟨v, hv⟩ := hx.self.comparison.2
      exact ⟨_, Checked.binaryAs_comparison hv u⟩
  | _ => exact ⟨_, rfl⟩

theorem exists_node {e : Expr} (he : e.Everywhere Expr.NodeTyped) :
    ∃ s, node flip e = .ok s := by
  unfold node
  split
  · exact exists_negate (he.child List.mem_cons_self) he.self.not.1 _
  · exact ⟨_, rfl⟩
  · exact ⟨_, rfl⟩
  · exact ⟨_, rfl⟩

theorem exists_tree {e : Expr} (he : e.Everywhere Expr.NodeTyped) :
    ∃ s, tree flip e = .ok s := by
  induction e using Expr.induction with
  | step e ih =>
      obtain ⟨news, hnews⟩ := exists_mapM_eq_ok fun c hc => ih c hc (he.child hc)
      have halike := Expr.alike_refill (mapM_eq_ok_iff.1 hnews)
      obtain ⟨s, hs⟩ : ∃ s, node flip (e.refill news) = .ok s :=
        exists_node (nodeTyped_of_children he
          (halike.imp fun c hc c' hc' => nodeTyped_of_tree hc' (he.child hc)))
      exact ⟨s, by rw [tree_eq, hnews]; exact hs⟩

end Simplify

end NullLogic
