import NullLogic.Expr.Nodes
import NullLogic.Nullability

/-!
# Leading `NOT`s and equalities

A comparison may take a `NOT` off its operands, so what is shown of all children of a
node is also needed of the children without a leading `NOT`. `induction_bare` is the
principle of proof for this.
-/

namespace NullLogic

namespace Expr

/-- The expression below a leading `NOT`. -/
def bare : Expr → Expr
  | unary .not operand _ => operand
  | e => e

def isEquality : Expr → Bool
  | binary (.comparison .equal) _ _ _ => true
  | binary (.comparison .notEqual) _ _ _ => true
  | _ => false

theorem bare_of_isNegation_eq_false {e : Expr} (h : e.isNegation = false) : e.bare = e := by
  unfold bare
  split
  · simp [isNegation] at h
  · rfl

theorem exists_eq_not_of_isNegation {e : Expr} (h : e.isNegation = true) :
    ∃ type, e = unary .not e.bare type := by
  unfold isNegation at h
  split at h
  · exact ⟨_, rfl⟩
  · simp at h

@[simp] theorem nullable_bare (e : Expr) : e.bare.nullable = e.nullable := by
  unfold bare
  split <;> simp [nullable]

theorem mem_nodes_trans {m n e : Expr} (hm : m ∈ n.nodes) (hn : n ∈ e.nodes) : m ∈ e.nodes := by
  induction e using Expr.induction with
  | step e ih =>
      rcases (mem_nodes_iff n e).1 hn with rfl | ⟨c, hc, hn⟩
      · exact hm
      · exact (mem_nodes_iff m e).2 (.inr ⟨c, hc, ih c hc hn⟩)

theorem bare_mem_nodes (e : Expr) : e.bare ∈ e.nodes := by
  cases hn : e.isNegation with
  | false => simp [bare_of_isNegation_eq_false hn]
  | true =>
      obtain ⟨type, hnot⟩ := exists_eq_not_of_isNegation hn
      refine (mem_nodes_iff e.bare e).2 (.inr ⟨e.bare, ?_, self_mem_nodes e.bare⟩)
      rw [hnot]
      exact List.mem_cons_self

theorem Everywhere.of_mem_nodes {p : Expr → Prop} {e n : Expr} (h : Everywhere p e)
    (hn : n ∈ e.nodes) : Everywhere p n :=
  fun m hm => h m (mem_nodes_trans hm hn)

theorem Everywhere.bare {p : Expr → Prop} {e : Expr} (h : Everywhere p e) :
    Everywhere p e.bare :=
  h.of_mem_nodes (bare_mem_nodes e)

theorem Everywhere.left {p : Expr → Prop} {op : BinaryOp} {x y : Expr} {type : DataType}
    (h : Everywhere p (binary op x y type)) : Everywhere p x :=
  h.child List.mem_cons_self

theorem Everywhere.right {p : Expr → Prop} {op : BinaryOp} {x y : Expr} {type : DataType}
    (h : Everywhere p (binary op x y type)) : Everywhere p y :=
  h.child (List.mem_cons_of_mem x List.mem_cons_self)

theorem everywhere_constant {p : Expr → Prop} {value : Value} {type : DataType}
    (h : p (constant value type)) : Everywhere p (constant value type) := by
  rw [everywhere_iff]
  exact ⟨h, fun c hc => by simp [children] at hc⟩

theorem everywhere_unary {p : Expr → Prop} {op : UnaryOp} {x : Expr} {type : DataType}
    (h : p (unary op x type)) (hx : Everywhere p x) : Everywhere p (unary op x type) := by
  rw [everywhere_iff]
  refine ⟨h, fun c hc => ?_⟩
  rwa [List.mem_singleton.1 hc]

theorem everywhere_binary {p : Expr → Prop} {op : BinaryOp} {l r : Expr} {type : DataType}
    (h : p (binary op l r type)) (hl : Everywhere p l) (hr : Everywhere p r) :
    Everywhere p (binary op l r type) := by
  rw [everywhere_iff]
  refine ⟨h, fun c hc => ?_⟩
  rcases List.mem_cons.1 hc with rfl | hc
  · exact hl
  · rwa [List.mem_singleton.1 hc]

/-- Equalities are found below a leading `NOT` if at all. -/
theorem mem_nodes_bare_of_isEquality {n e : Expr} (hn : n ∈ e.nodes)
    (heq : n.isEquality = true) : n ∈ e.bare.nodes := by
  cases hneg : e.isNegation with
  | false => rwa [bare_of_isNegation_eq_false hneg]
  | true =>
      obtain ⟨type, hnot⟩ := exists_eq_not_of_isNegation hneg
      rw [hnot, mem_nodes_iff] at hn
      rcases hn with rfl | ⟨c, hc, hn⟩
      · simp [isEquality] at heq
      · rwa [List.mem_singleton.1 hc] at hn

/-- What holds of an expression whenever it holds of its children, with and without
a leading `NOT`, holds of all expressions. -/
theorem induction_bare {motive : Expr → Prop}
    (step : ∀ e, (∀ c ∈ e.children, motive c ∧ motive c.bare) → motive e) (e : Expr) :
    motive e := by
  have both : ∀ e, motive e ∧ motive e.bare := by
    intro e
    induction e using Expr.induction with
    | step e ih =>
        have he : motive e := step e ih
        refine ⟨he, ?_⟩
        cases hn : e.isNegation with
        | false => rwa [bare_of_isNegation_eq_false hn]
        | true =>
            obtain ⟨type, hnot⟩ := exists_eq_not_of_isNegation hn
            have hmem : e.bare ∈ e.children := by
              rw [hnot]
              exact List.mem_cons_self
            exact (ih e.bare hmem).1
  exact (both e).1

theorem exists_equality_of_isEquality {e : Expr} (h : e.isEquality = true) :
    ∃ positive left right type,
      e = binary (.comparison (.equality positive)) left right type := by
  unfold isEquality at h
  split at h
  · exact ⟨true, _, _, _, rfl⟩
  · exact ⟨false, _, _, _, rfl⟩
  · simp at h

theorem nullable_of_isEquality {e : Expr} (h : e.isEquality = true) : e.nullable = false := by
  obtain ⟨positive, left, right, type, rfl⟩ := exists_equality_of_isEquality h
  cases positive <;> rfl

end Expr

end NullLogic
