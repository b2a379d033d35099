import Mathlib.Order.MinMax
import NullLogic.Proofs.Simplify.Rules
import NullLogic.Sample

/-!
# Simplifying makes nothing larger

`NoLarger s e` compares two expressions by all of their sizes at once. It is kept when children
are replaced by smaller ones (`noLarger_of_children`) and holds between a node and its children,
and that is nearly all the rules need. The exception is a `NOT` that moves into a connective:
there are two of them afterwards, but they do not count as weight, and no path has become longer
(`noLarger_deMorgan`).

So every rule gives an expression no larger than the node it was applied to, and a whole run one
no larger than the expression it began with.
-/

namespace NullLogic

/-! ### Sizes of lists -/

section Fold

variable {op : Nat → Nat → Nat}

theorem le_foldr_of_mem (hop : ∀ m n, m ≤ op m n ∧ n ≤ op m n) {ns : List Nat} {n : Nat}
    (hn : n ∈ ns) : n ≤ ns.foldr op 0 := by
  induction ns with
  | nil => simp at hn
  | cons m ns ih =>
      rcases List.mem_cons.1 hn with rfl | hn
      · exact (hop n _).1
      · exact (ih hn).trans (hop m _).2

theorem foldr_le_foldr (hop : ∀ m m' n n', m ≤ m' → n ≤ n' → op m n ≤ op m' n')
    {ms ns : List Nat} (h : List.Forall₂ (· ≤ ·) ms ns) : ms.foldr op 0 ≤ ns.foldr op 0 := by
  induction h with
  | nil => exact le_rfl
  | cons hm _ ih => exact hop _ _ _ _ hm ih

end Fold

theorem flatMap_sublist_flatMap {α β : Type} {f : α → List β} {xs ys : List α}
    (h : List.Forall₂ (fun x y => (f x).Sublist (f y)) xs ys) :
    (xs.flatMap f).Sublist (ys.flatMap f) := by
  induction h with
  | nil => exact List.Sublist.refl []
  | cons hx _ ih => exact hx.append ih

namespace Expr

/-- No size of the first expression exceeds that of the second. Of its columns and parameters
some may be missing, but none is new and none has changed its place. -/
structure NoLarger (s e : Expr) : Prop where
  weight : s.weight ≤ e.weight
  depth : s.depth ≤ e.depth
  references : s.references.Sublist e.references

namespace NoLarger

theorem refl (e : Expr) : NoLarger e e :=
  ⟨le_rfl, le_rfl, List.Sublist.refl _⟩

theorem trans {s e f : Expr} (h : NoLarger s e) (h' : NoLarger e f) : NoLarger s f :=
  ⟨h.weight.trans h'.weight, h.depth.trans h'.depth, h.references.trans h'.references⟩

end NoLarger

theorem noLarger_of_mem_children {c e : Expr} (hc : c ∈ e.children) : NoLarger c e where
  weight := by
    have hsum : c.weight ≤ (e.children.map weight).foldr (· + ·) 0 :=
      le_foldr_of_mem (fun m n => ⟨Nat.le_add_right m n, Nat.le_add_left n m⟩)
        (List.mem_map_of_mem hc)
    rw [weight_eq e]
    exact hsum.trans (Nat.le_add_left _ _)
  depth := by
    have hmax : c.depth ≤ (e.children.map depth).foldr max 0 :=
      le_foldr_of_mem (fun m n => ⟨Nat.le_max_left m n, Nat.le_max_right m n⟩)
        (List.mem_map_of_mem hc)
    rw [depth_eq e]
    exact hmax.trans (Nat.le_succ _)
  references := by
    have hflat : c.references.Sublist (e.children.flatMap references) :=
      List.sublist_flatten_of_mem (List.mem_map_of_mem hc)
    rw [references_eq e]
    exact hflat.trans (List.sublist_append_right _ _)

/-- A node with smaller children is smaller, if it is a `NOT` where the other one is, and no
column or parameter of its own. -/
theorem noLarger_of_children {s e : Expr} (h : List.Forall₂ NoLarger s.children e.children)
    (hnegation : e.isNegation = true → s.isNegation = true)
    (hreference : s.isReference = true → s = e) : NoLarger s e where
  weight := by
    have hsum : (s.children.map weight).foldr (· + ·) 0 ≤
        (e.children.map weight).foldr (· + ·) 0 := by
      refine foldr_le_foldr (fun _ _ _ _ => Nat.add_le_add) ?_
      rw [List.forall₂_map_left_iff, List.forall₂_map_right_iff]
      exact h.imp fun _ _ hc => hc.weight
    have hown : (if s.isNegation then 0 else 1) ≤ if e.isNegation then 0 else 1 := by
      cases he : e.isNegation with
      | true => simp [hnegation he]
      | false => split <;> simp
    rw [weight_eq s, weight_eq e]
    exact Nat.add_le_add hown hsum
  depth := by
    have hmax : (s.children.map depth).foldr max 0 ≤ (e.children.map depth).foldr max 0 := by
      refine foldr_le_foldr (fun _ _ _ _ => max_le_max) ?_
      rw [List.forall₂_map_left_iff, List.forall₂_map_right_iff]
      exact h.imp fun _ _ hc => hc.depth
    rw [depth_eq s, depth_eq e]
    exact Nat.succ_le_succ hmax
  references := by
    have hflat := flatMap_sublist_flatMap (h.imp fun _ _ hc => hc.references)
    rw [references_eq s, references_eq e]
    refine List.Sublist.append ?_ hflat
    cases hs : s.isReference with
    | true =>
        obtain rfl := hreference hs
        simp [hs]
    | false => simp

theorem noLarger_of_alike {e m : Expr} (h : e.Alike (fun c c' => NoLarger c' c) m) :
    NoLarger m e := by
  refine noLarger_of_children h.flip.children ?_ ?_
  · intro he
    cases h with
    | unary op type hx => cases op <;> simp_all [isNegation]
    | _ => simp [isNegation] at he
  · intro hm
    cases h with
    | column | parameter => rfl
    | _ => simp [isReference] at hm

/-! ### Nodes of the same shape -/

theorem noLarger_constant (v w : Value) (t u : DataType) :
    NoLarger (constant v t) (constant w u) :=
  noLarger_of_children .nil nofun nofun

theorem noLarger_operand (op : UnaryOp) (x : Expr) (t : DataType) :
    NoLarger x (unary op x t) :=
  noLarger_of_mem_children List.mem_cons_self

theorem noLarger_left (op : BinaryOp) (l r : Expr) (t : DataType) :
    NoLarger l (binary op l r t) :=
  noLarger_of_mem_children List.mem_cons_self

theorem noLarger_right (op : BinaryOp) (l r : Expr) (t : DataType) :
    NoLarger r (binary op l r t) :=
  noLarger_of_mem_children (List.mem_cons_of_mem l List.mem_cons_self)

theorem noLarger_test {kind kind' : NullTest} {x y : Expr} (h : NoLarger x y) (t u : DataType) :
    NoLarger (unary (.test kind) x t) (unary (.test kind') y u) :=
  noLarger_of_children (.cons h .nil) nofun nofun

theorem noLarger_binary (op op' : BinaryOp) {l r l' r' : Expr} (hl : NoLarger l l')
    (hr : NoLarger r r') (t u : DataType) :
    NoLarger (binary op l r t) (binary op' l' r' u) :=
  noLarger_of_children (.cons hl (.cons hr .nil)) nofun nofun

/-- Two `NOT`s below a binary operator are no more than one above it. -/
theorem noLarger_deMorgan (op op' : BinaryOp) (l r : Expr) (s t u v w : DataType) :
    NoLarger (binary op (unary .not l s) (unary .not r t) u)
      (unary .not (binary op' l r v) w) where
  weight := by simp [weight_eq, children, isNegation]
  depth := by simp [depth_eq, children]
  references := by simp [references_eq, children, isReference]

end Expr

namespace Simplify

open NullLogic.Expr

variable {flip : Bool}

/-! ### The rules -/

theorem nullTest_noLarger (kind : NullTest) (x : Expr) (t : DataType) :
    NoLarger (nullTest kind x t) (.unary (.test kind) x t) := by
  refine nullTest_induction true
    (motive := fun x t s => NoLarger s (.unary (.test kind) x t)) ?_ ?_ ?_ x t
  · intro u t
    exact (noLarger_constant _ .null _ u).trans (noLarger_operand _ _ t)
  · intro x u t s ih
    exact ih.trans (noLarger_test (noLarger_operand .not x u) _ t)
  · intro x t _
    exact .refl _

theorem absorb?_noLarger {kind : Connective} {l r e : Expr} {t : DataType}
    (h : NoLarger (.binary (.connective kind) l r t) e) :
    NoLarger ((absorb? kind l r).getD (.binary (.connective kind) l r t)) e :=
  absorb?_induction true (motive := (NoLarger · e))
    ((noLarger_left _ l r t).trans h) ((noLarger_right _ l r t).trans h) fun _ => h

theorem negate_noLarger {x s : Expr} {t : DataType} (h : negate flip x t = .ok s) :
    NoLarger s (.unary .not x t) := by
  refine negate_induction (motive := fun x t s => NoLarger s (.unary .not x t))
    ?_ ?_ ?_ ?_ ?_ ?_ h
  · intro c u t
    exact (noLarger_constant _ (.bool c) _ u).trans (noLarger_operand _ _ t)
  · intro x u t
    exact (noLarger_operand .not x u).trans (noLarger_operand .not _ t)
  · intro kind x u t
    have htest := nullTest_noLarger kind.complement x .boolean
    exact (htest.trans (noLarger_test (.refl x) _ u)).trans (noLarger_operand .not _ t)
  · intro kind l r u t l' r' _ _ _ _ hl hr
    -- what becomes of the two sides is compared with the two sides below a `NOT` each
    have hnots := noLarger_binary (.connective kind.dual) (.connective kind.dual) hl hr .boolean
      .boolean
    exact absorb?_noLarger (hnots.trans (noLarger_deMorgan _ (.connective kind) l r _ _ _ u t))
  · intro kind l r u t _
    exact (noLarger_binary _ _ (.refl l) (.refl r) u u).trans (noLarger_operand .not _ t)
  · intro x t _
    exact .refl _

theorem node_noLarger {e s : Expr} (h : node flip e = .ok s) : NoLarger s e := by
  obtain ⟨x, t, rfl, hs⟩ | ⟨kind, x, t, rfl, rfl⟩ | ⟨kind, l, r, t, rfl, rfl⟩ | ⟨-, rfl⟩ :=
    node_cases h
  · exact negate_noLarger hs
  · exact nullTest_noLarger kind x t
  · exact absorb?_noLarger (.refl _)
  · exact .refl _

/-- A node whose children have become smaller is smaller, and the rules at it keep it so. -/
theorem tree_noLarger {e s : Expr} (h : tree flip e = .ok s) : NoLarger s e := by
  refine tree_induction (motive := fun e s => NoLarger s e) ?_ h
  intro e m s halike hnode
  have hm : NoLarger m e := noLarger_of_alike (halike.imp fun c _ c' hc' => hc'.2)
  exact (node_noLarger hnode).trans hm

end Simplify

/-- The simplified expression has no more nodes other than `NOT`, no longer path, and no column
or parameter that was not there before, in this order. -/
theorem simplify_no_larger {flip : Bool} {e s : Expr} (h : simplify flip e = .ok s) :
    s.weight ≤ e.weight ∧ s.depth ≤ e.depth ∧ s.references.Sublist e.references := by
  have hs : s.NoLarger e := Simplify.tree_noLarger (Simplify.tree_of_simplify_eq_ok h)
  exact ⟨hs.weight, hs.depth, hs.references⟩

/-- The negation of `(a AND b) AND (x < y OR q IS NULL)`, which ends up with more nodes. -/
def Sample.negated : Expr :=
  .unary .not
    (.binary .and (.binary .and Sample.a Sample.b .boolean)
      (.binary .or (.binary (.comparison .less) Sample.x Sample.y .boolean)
        (.unary .isNull Sample.q .boolean) .boolean) .boolean) .boolean

theorem simplify_no_larger_of_negated :
    ∃ s, simplify false Sample.negated = .ok s ∧
      Sample.negated.nodes.length < s.nodes.length ∧ s.weight ≤ Sample.negated.weight ∧
      s.depth ≤ Sample.negated.depth ∧ s.references.Sublist Sample.negated.references :=
  ⟨_, rfl, by decide, @simplify_no_larger false _ _ rfl⟩

end NullLogic
