import Mathlib.Data.List.Forall2
import NullLogic.Expr.Nodes

/-!
# Nodes that differ in their children only

`Alike rel e f` says that `f` is the node `e` over other children, each of which
stands in the relation `rel` to the child of `e` in its place. A pass that works
from the leaves up gets such a node by `refill`, as `alike_refill` says, and what
it does to one kind of node is then read off a case of `Alike`.
-/

namespace NullLogic

/-- Two branches with related tests and related results. -/
structure Clause.Alike {α : Type} (rel : α → α → Prop) (k l : Clause α) : Prop where
  test : rel k.test l.test
  result : rel k.result l.result

namespace Expr

inductive Alike (rel : Expr → Expr → Prop) : Expr → Expr → Prop where
  | constant (value : Value) (type : DataType) :
      Alike rel (constant value type) (constant value type)
  | column (source name : String) (type : DataType) (nullable : Bool) :
      Alike rel (column source name type nullable) (column source name type nullable)
  | parameter (name : String) (type : DataType) :
      Alike rel (parameter name type) (parameter name type)
  | unary (op : UnaryOp) (type : DataType) {x y : Expr} (hx : rel x y) :
      Alike rel (unary op x type) (unary op y type)
  | binary (op : BinaryOp) (type : DataType) {x x' y y' : Expr} (hx : rel x y)
      (hx' : rel x' y') : Alike rel (binary op x x' type) (binary op y y' type)
  | like {x x' y y' : Expr} {u v : Option Expr} (hx : rel x y) (hx' : rel x' y')
      (hu : Option.Rel rel u v) : Alike rel (like x x' u) (like y y' v)
  | call (name : String) (type : DataType) {u v : Option Expr} {xs ys : List Expr}
      (hu : Option.Rel rel u v) (hxs : List.Forall₂ rel xs ys) :
      Alike rel (call name u xs type) (call name v ys type)
  | caseWhen (type : DataType) {u v u' v' : Option Expr} {xs ys : List (Clause Expr)}
      (hu : Option.Rel rel u v) (hxs : List.Forall₂ (Clause.Alike rel) xs ys)
      (hu' : Option.Rel rel u' v') : Alike rel (caseWhen u xs u' type) (caseWhen v ys v' type)
  | table (name : String) (label : Option String) : Alike rel (table name label) (table name label)
  | join (kind : JoinKind) {x x' y y' : Expr} (hx : rel x y) (hx' : rel x' y') :
      Alike rel (join kind x x') (join kind y y')

variable {rel rel' : Expr → Expr → Prop}

/-! ### New children from a list -/

theorem exists_refillOption_eq (o : Option Expr) {rest news : List Expr}
    (h : List.Forall₂ rel (o.toList ++ rest) news) :
    ∃ o' others, Option.Rel rel o o' ∧ List.Forall₂ rel rest others ∧
      refillOption o news = (o', others) := by
  cases o with
  | none => exact ⟨none, news, .none, h, rfl⟩
  | some x =>
      rcases List.forall₂_cons_left_iff.1 h with ⟨y, others, hx, hrest, rfl⟩
      exact ⟨some y, others, .some hx, hrest, rfl⟩

theorem exists_refillList_eq (es : List Expr) {rest news : List Expr}
    (h : List.Forall₂ rel (es ++ rest) news) :
    ∃ es' others, List.Forall₂ rel es es' ∧ List.Forall₂ rel rest others ∧
      refillList es news = (es', others) := by
  induction es generalizing news with
  | nil => exact ⟨[], news, .nil, h, rfl⟩
  | cons x es ih =>
      rcases List.forall₂_cons_left_iff.1 h with ⟨y, news, hx, htail, rfl⟩
      obtain ⟨es', others, hes, hrest, heq⟩ := ih htail
      exact ⟨y :: es', others, .cons hx hes, hrest, by simp [refillList, heq]⟩

theorem exists_refillClauses_eq (ks : List (Clause Expr)) {rest news : List Expr}
    (h : List.Forall₂ rel (clauseChildren ks ++ rest) news) :
    ∃ ks' others, List.Forall₂ (Clause.Alike rel) ks ks' ∧ List.Forall₂ rel rest others ∧
      refillClauses ks news = (ks', others) := by
  induction ks generalizing news with
  | nil => exact ⟨[], news, .nil, h, rfl⟩
  | cons k ks ih =>
      rcases List.forall₂_cons_left_iff.1 h with ⟨t, _, ht, h', rfl⟩
      rcases List.forall₂_cons_left_iff.1 h' with ⟨r, news, hr, htail, rfl⟩
      obtain ⟨ks', others, hks, hrest, heq⟩ := ih htail
      exact ⟨⟨t, r⟩ :: ks', others, .cons ⟨ht, hr⟩ hks, hrest, by simp [refillClauses, heq]⟩

/-- A node made of replacements for its children, one by one. -/
theorem alike_refill {e : Expr} {news : List Expr} (h : List.Forall₂ rel e.children news) :
    Alike rel e (e.refill news) := by
  cases e with
  | constant value type => exact .constant value type
  | column source name type nullable => exact .column source name type nullable
  | parameter name type => exact .parameter name type
  | table name label => exact .table name label
  | unary op x type =>
      rcases h with _ | ⟨hx, _⟩
      exact .unary op type hx
  | binary op x x' type =>
      rcases h with _ | ⟨hx, _ | ⟨hx', _⟩⟩
      exact .binary op type hx hx'
  | join kind x x' =>
      rcases h with _ | ⟨hx, _ | ⟨hx', _⟩⟩
      exact .join kind hx hx'
  | like x x' u =>
      rcases h with _ | ⟨hx, _ | ⟨hx', h⟩⟩
      rw [← List.append_nil u.toList] at h
      obtain ⟨v, _, hu, _, heq⟩ := exists_refillOption_eq u h
      simp only [refill, refillOne_cons, heq]
      exact .like hx hx' hu
  | call name u xs type =>
      rw [children, ← List.append_nil xs] at h
      obtain ⟨v, _, hu, h, hv⟩ := exists_refillOption_eq u h
      obtain ⟨ys, _, hxs, _, hys⟩ := exists_refillList_eq xs h
      simp only [refill, hv, hys]
      exact .call name type hu hxs
  | caseWhen u xs u' type =>
      rw [children, ← List.append_nil u'.toList] at h
      obtain ⟨v, _, hu, h, hv⟩ := exists_refillOption_eq u h
      obtain ⟨ys, _, hxs, h, hys⟩ := exists_refillClauses_eq xs h
      obtain ⟨v', _, hu', _, hv'⟩ := exists_refillOption_eq u' h
      simp only [refill, hv, hys, hv']
      exact .caseWhen type hu hxs hu'

/-! ### Alike nodes and their children -/

theorem exists_mem_left_of_forall₂ {α β : Type} {r : α → β → Prop} {xs : List α} {ys : List β}
    (h : List.Forall₂ r xs ys) {y : β} (hy : y ∈ ys) : ∃ x ∈ xs, r x y := by
  induction h with
  | nil => simp at hy
  | @cons x y' xs ys hx _ ih =>
      rcases List.mem_cons.1 hy with rfl | hy
      · exact ⟨x, List.mem_cons_self, hx⟩
      · obtain ⟨x', hx', hrel⟩ := ih hy
        exact ⟨x', List.mem_cons_of_mem x hx', hrel⟩

theorem exists_mem_right_of_forall₂ {α β : Type} {r : α → β → Prop} {xs : List α} {ys : List β}
    (h : List.Forall₂ r xs ys) {x : α} (hx : x ∈ xs) : ∃ y ∈ ys, r x y :=
  exists_mem_left_of_forall₂ (List.Forall₂.flip h) hx

theorem forall₂_toList {o o' : Option Expr} (h : Option.Rel rel o o') :
    List.Forall₂ rel o.toList o'.toList := by
  cases h with
  | none => exact .nil
  | some hx => exact .cons hx .nil

theorem forall₂_clauseChildren {ks ls : List (Clause Expr)}
    (h : List.Forall₂ (Clause.Alike rel) ks ls) :
    List.Forall₂ rel (clauseChildren ks) (clauseChildren ls) := by
  induction h with
  | nil => exact .nil
  | cons hk _ ih => exact .cons hk.test (.cons hk.result ih)

theorem Alike.children {e f : Expr} (h : Alike rel e f) :
    List.Forall₂ rel e.children f.children := by
  cases h with
  | unary op type hx => exact .cons hx .nil
  | binary op type hx hx' => exact .cons hx (.cons hx' .nil)
  | join kind hx hx' => exact .cons hx (.cons hx' .nil)
  | like hx hx' hu => exact .cons hx (.cons hx' (forall₂_toList hu))
  | call name type hu hxs => exact List.rel_append (forall₂_toList hu) hxs
  | caseWhen type hu hxs hu' =>
      exact List.rel_append (forall₂_toList hu)
        (List.rel_append (forall₂_clauseChildren hxs) (forall₂_toList hu'))
  | _ => exact .nil

theorem Alike.forall_children {p : Expr → Prop} {e f : Expr} (h : Alike rel e f)
    (hp : ∀ c ∈ e.children, ∀ c', rel c c' → p c') : ∀ c' ∈ f.children, p c' := by
  intro c' hc'
  obtain ⟨c, hc, hrel⟩ := exists_mem_left_of_forall₂ h.children hc'
  exact hp c hc c' hrel

theorem Alike.everywhere {p : Expr → Prop} {e f : Expr} (h : Alike rel e f) (hf : p f)
    (hp : ∀ c ∈ e.children, ∀ c', rel c c' → Everywhere p c') : Everywhere p f :=
  (everywhere_iff p f).2 ⟨hf, h.forall_children hp⟩

theorem refillOption_of_rel {u v : Option Expr} (h : Option.Rel rel u v) (rest : List Expr) :
    refillOption u (v.toList ++ rest) = (v, rest) := by
  cases h with
  | none => rfl
  | some hx => rfl

theorem refillList_of_forall₂ {xs ys : List Expr} (h : List.Forall₂ rel xs ys)
    (rest : List Expr) : refillList xs (ys ++ rest) = (ys, rest) := by
  induction h with
  | nil => rfl
  | cons hx _ ih => simp [refillList, ih]

theorem refillClauses_of_forall₂ {xs ys : List (Clause Expr)}
    (h : List.Forall₂ (Clause.Alike rel) xs ys) (rest : List Expr) :
    refillClauses xs (clauseChildren ys ++ rest) = (ys, rest) := by
  induction h with
  | nil => rfl
  | cons hx _ ih => simp [refillClauses, ih]

/-- Alike nodes differ in nothing else. -/
theorem Alike.refill_children {e f : Expr} (h : Alike rel e f) : e.refill f.children = f := by
  cases h with
  | like hx hx' hu =>
      have hv := refillOption_of_rel hu []
      simp_all [refill, Expr.children]
  | call name type hu hxs =>
      have hys := refillList_of_forall₂ hxs []
      simp_all [refill, Expr.children, refillOption_of_rel hu]
  | caseWhen type hu hxs hu' =>
      have hv' := refillOption_of_rel hu' []
      simp_all [refill, Expr.children, refillOption_of_rel hu, refillClauses_of_forall₂ hxs]
  | _ => rfl

theorem Alike.imp {e f : Expr} (h : Alike rel e f)
    (himp : ∀ c ∈ e.children, ∀ c', rel c c' → rel' c c') : Alike rel' e f := by
  have hboth := (List.forall₂_and_left _ _).2 ⟨himp, h.children⟩
  have hf := alike_refill (hboth.imp fun c c' hc => hc.1 c' hc.2)
  rwa [h.refill_children] at hf

theorem Alike.eq {e f : Expr} (h : Alike (· = ·) e f) : e = f := by
  have hchildren : e.children = f.children := by
    rw [← List.forall₂_eq_eq_eq]
    exact h.children
  have hf := h.refill_children
  rwa [← hchildren, Expr.refill_children] at hf

theorem rel_flip {u v : Option Expr} (h : Option.Rel rel u v) : Option.Rel (flip rel) v u := by
  cases h with
  | none => exact .none
  | some hx => exact .some hx

theorem forall₂_clause_flip {xs ys : List (Clause Expr)}
    (h : List.Forall₂ (Clause.Alike rel) xs ys) :
    List.Forall₂ (Clause.Alike (flip rel)) ys xs :=
  List.Forall₂.flip (h.imp fun _ _ hk => ⟨hk.test, hk.result⟩)

theorem Alike.flip {e f : Expr} (h : Alike rel e f) : Alike (flip rel) f e := by
  cases h with
  | constant value type => exact .constant value type
  | column source name type nullable => exact .column source name type nullable
  | parameter name type => exact .parameter name type
  | unary op type hx => exact .unary op type hx
  | binary op type hx hx' => exact .binary op type hx hx'
  | like hx hx' hu => exact .like hx hx' (rel_flip hu)
  | call name type hu hxs => exact .call name type (rel_flip hu) hxs.flip
  | caseWhen type hu hxs hu' =>
      exact .caseWhen type (rel_flip hu) (forall₂_clause_flip hxs) (rel_flip hu')
  | table name label => exact .table name label
  | join kind hx hx' => exact .join kind hx hx'

theorem alike_self {e : Expr} (h : ∀ c ∈ e.children, rel c c) : Alike rel e e := by
  have hrefill := alike_refill (List.forall₂_same.2 h)
  rwa [refill_children] at hrefill

end Expr

end NullLogic
