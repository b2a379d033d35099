import NullLogic.Expr.Children

/-!
# All nodes of an expression

`nodes e` lists `e` and everything below it, a node before its children and the
children in order. A property that every node has by itself is stated by
`Everywhere`, which splits into the node on top and its children by
`everywhere_iff`.

On the list of nodes rest the sizes by which expressions are compared: `weight`
counts the nodes other than `NOT`, `references` are the columns and parameters
from left to right, and `depth` is the number of nodes on a longest path down.
-/

namespace NullLogic

namespace Expr

def nodes (e : Expr) : List Expr :=
  e.fold fun e below => e :: below.flatten

theorem nodes_eq (e : Expr) : e.nodes = e :: e.children.flatMap nodes := by
  rw [nodes, fold_eq, List.flatMap_def]
  rfl

@[simp] theorem self_mem_nodes (e : Expr) : e ∈ e.nodes := by
  rw [nodes_eq]
  exact List.mem_cons_self

theorem mem_nodes_iff (n e : Expr) : n ∈ e.nodes ↔ n = e ∨ ∃ c ∈ e.children, n ∈ c.nodes := by
  rw [nodes_eq, List.mem_cons, List.mem_flatMap]

/-- Every node of the expression has the property. -/
def Everywhere (p : Expr → Prop) (e : Expr) : Prop :=
  ∀ n ∈ e.nodes, p n

instance (p : Expr → Prop) [DecidablePred p] (e : Expr) : Decidable (Everywhere p e) :=
  inferInstanceAs (Decidable (∀ n ∈ e.nodes, p n))

theorem everywhere_iff (p : Expr → Prop) (e : Expr) :
    Everywhere p e ↔ p e ∧ ∀ c ∈ e.children, Everywhere p c := by
  constructor
  · intro h
    refine ⟨h e (self_mem_nodes e), ?_⟩
    intro c hc n hn
    exact h n ((mem_nodes_iff n e).2 (Or.inr ⟨c, hc, hn⟩))
  · rintro ⟨he, hc⟩ n hn
    rcases (mem_nodes_iff n e).1 hn with rfl | ⟨c, hmem, hn⟩
    · exact he
    · exact hc c hmem n hn

theorem Everywhere.self {p : Expr → Prop} {e : Expr} (h : Everywhere p e) : p e :=
  ((everywhere_iff p e).1 h).1

theorem Everywhere.child {p : Expr → Prop} {e c : Expr} (h : Everywhere p e)
    (hc : c ∈ e.children) : Everywhere p c :=
  ((everywhere_iff p e).1 h).2 c hc

theorem Everywhere.mono {p q : Expr → Prop} {e : Expr} (h : Everywhere p e)
    (hpq : ∀ n, p n → q n) : Everywhere q e :=
  fun n hn => hpq n (h n hn)

/-! ### Sizes -/

def isNegation : Expr → Bool
  | unary .not _ _ => true
  | _ => false

def isReference : Expr → Bool
  | column _ _ _ _ => true
  | parameter _ _ => true
  | _ => false

def weight (e : Expr) : Nat :=
  e.nodes.countP fun n => !n.isNegation

def references (e : Expr) : List Expr :=
  e.nodes.filter isReference

def depth (e : Expr) : Nat :=
  e.fold fun _ depths => depths.foldr max 0 + 1

theorem weight_eq (e : Expr) :
    e.weight = (if e.isNegation then 0 else 1) + (e.children.map weight).foldr (· + ·) 0 := by
  have below : ∀ cs : List Expr,
      (cs.flatMap nodes).countP (fun n => !n.isNegation) =
        (cs.map weight).foldr (· + ·) 0 := by
    intro cs
    induction cs with
    | nil => rfl
    | cons c cs ih => simp [weight, ih]
  rw [weight, nodes_eq, List.countP_cons, below, Nat.add_comm]
  cases e.isNegation <;> simp

theorem references_eq (e : Expr) :
    e.references = (if e.isReference then [e] else []) ++ e.children.flatMap references := by
  have below : ∀ cs : List Expr,
      (cs.flatMap nodes).filter isReference = cs.flatMap references := by
    intro cs
    induction cs with
    | nil => rfl
    | cons c cs ih => simp [references, ih]
  rw [references, nodes_eq, List.filter_cons, below]
  cases e.isReference <;> simp

theorem depth_eq (e : Expr) : e.depth = (e.children.map depth).foldr max 0 + 1 := by
  rw [depth, fold_eq]
  rfl

end Expr

end NullLogic
