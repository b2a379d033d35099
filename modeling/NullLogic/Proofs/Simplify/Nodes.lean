import NullLogic.Proofs.Expr.Bare
import NullLogic.Proofs.Simplify.Rules

/-!
# The nodes of simplified expressions

A node of a simplified expression has been there before, or a rule has made it. What
rules make are the nodes listed by `Made` and complements of comparisons, and a rule
only leaves behind what is no redex itself.

The main statements are `node_everywhere` and `tree_everywhere`: a property that new
nodes have, and that passes from comparisons to their complements, holds of all nodes
of the result as soon as it holds of those it started from.
-/

namespace NullLogic

namespace Simplify

/-- The nodes that rules make, complements left out. Their operands have been checked. -/
inductive Made : Expr → Prop where
  | constant (c : Bool) : Made (.constant (.bool c) .boolean)
  | not {x : Expr} (hx : x.dataType.isBoolean = true) : Made (.unary .not x .boolean)
  | test (kind : NullTest) (x : Expr) : Made (.unary (.test kind) x .boolean)
  | connective (kind : Connective) {l r : Expr} (hl : l.dataType.isBoolean = true)
      (hr : r.dataType.isBoolean = true) : Made (.binary (.connective kind) l r .boolean)

variable {flip : Bool} {p : Expr → Prop}

/-! ### One rule -/

theorem nullTest_everywhere (made : ∀ n, Made n → ¬ Redex flip n → p n) {kind : NullTest}
    {x : Expr} {t : DataType} (hx : x.Everywhere p)
    (kept : ¬ Redex flip (.unary (.test kind) x t) → p (.unary (.test kind) x t)) :
    (nullTest kind x t).Everywhere p := by
  revert hx kept
  refine nullTest_induction flip
    (motive := fun x t s => x.Everywhere p →
      (¬ Redex flip (.unary (.test kind) x t) → p (.unary (.test kind) x t)) →
      s.Everywhere p) ?_ ?_ ?_ x t
  · intro u t _ _
    exact Expr.everywhere_constant (made _ (.constant _) nofun)
  · intro x u t s ih hx _
    exact ih (hx.child List.mem_cons_self) (made _ (.test kind x))
  · intro x t hredex hx kept
    exact Expr.everywhere_unary (kept hredex) hx

theorem absorb?_everywhere {kind : Connective} {l r : Expr} {t : DataType}
    (hl : l.Everywhere p) (hr : r.Everywhere p)
    (kept : ¬ Redex flip (.binary (.connective kind) l r t) →
      p (.binary (.connective kind) l r t)) :
    ((absorb? kind l r).getD (.binary (.connective kind) l r t)).Everywhere p :=
  absorb?_induction flip (motive := (·.Everywhere p)) hl hr
    fun hredex => Expr.everywhere_binary (kept hredex) hl hr

/-! ### All rules -/

variable (made : ∀ n, Made n → ¬ Redex flip n → p n)
  (complement : ∀ kind l r t, p (.binary (.comparison kind) l r t) →
    p (.binary (.comparison kind.complement) l r t))

include made complement

theorem negate_everywhere {x s : Expr} {t : DataType} (h : negate flip x t = .ok s)
    (hx : x.Everywhere p) (kept : ¬ Redex flip (.unary .not x t) → p (.unary .not x t)) :
    s.Everywhere p := by
  revert hx kept
  refine negate_induction
    (motive := fun x t s => x.Everywhere p →
      (¬ Redex flip (.unary .not x t) → p (.unary .not x t)) → s.Everywhere p)
    ?_ ?_ ?_ ?_ ?_ ?_ h
  · intro c u t _ _
    exact Expr.everywhere_constant (made _ (.constant _) nofun)
  · intro x u t hx _
    exact hx.child List.mem_cons_self
  · intro kind x u t hx _
    exact nullTest_everywhere made (hx.child List.mem_cons_self) (made _ (.test _ x))
  · intro kind l r u t l' r' hl hr hl' hr' ihl ihr hx _
    refine absorb?_everywhere ?_ ?_ (made _ (.connective _ hl' hr'))
    · exact ihl hx.left (made _ (.not hl))
    · exact ihr hx.right (made _ (.not hr))
  · intro kind l r u t _ hx _
    exact Expr.everywhere_binary (complement kind l r u hx.self) hx.left hx.right
  · intro x t hredex hx kept
    exact Expr.everywhere_unary (kept hredex) hx

theorem node_everywhere {e s : Expr} (h : node flip e = .ok s)
    (hc : ∀ c ∈ e.children, c.Everywhere p) (kept : ¬ Redex flip e → p e) :
    s.Everywhere p := by
  obtain ⟨x, t, rfl, hs⟩ | ⟨kind, x, t, rfl, rfl⟩ | ⟨kind, l, r, t, rfl, rfl⟩ | ⟨hredex, rfl⟩ :=
    node_cases h
  · exact negate_everywhere made complement hs (hc x List.mem_cons_self) kept
  · exact nullTest_everywhere made (hc x List.mem_cons_self) kept
  · refine absorb?_everywhere (hc l List.mem_cons_self) ?_ kept
    exact hc r (List.mem_cons_of_mem l List.mem_cons_self)
  · exact (Expr.everywhere_iff p _).2 ⟨kept hredex, hc⟩

/-- The properties meant here are those of a node that survive simplifying its children. -/
theorem tree_everywhere
    (alike : ∀ e m, e.Alike (fun c c' => tree flip c = .ok c') m → p e → p m) {e s : Expr}
    (h : tree flip e = .ok s) (he : e.Everywhere p) : s.Everywhere p := by
  revert he
  refine tree_induction (motive := fun e s => e.Everywhere p → s.Everywhere p) ?_ h
  intro e m s halike hnode he
  refine node_everywhere made complement hnode ?_ fun _ => ?_
  · exact halike.forall_children fun c hc c' hc' => hc'.2 (he.child hc)
  · exact alike e m (halike.imp fun c _ c' hc' => hc'.1) he.self

end Simplify

end NullLogic
