import Mathlib.Data.List.Perm.Basic
import NullLogic.Proofs.TwoValued.Form
import NullLogic.Sample

/-!
# Expressions without a two-valued form

Nodes of two kinds stand in the way of a two-valued form: joins on anything but a conjunction
of equalities, and equalities whose operands have two-valued forms that cannot be compared or
guarded. `TwoValued.fault?` says what is wrong with a node by itself.

`Expr.visits` lists the nodes in the order in which they are looked at. The first fault on this
list is the error of the whole expression, and there is no other error:
`failure?_twoValued` says so for all expressions, by induction from the leaves up.
-/

namespace NullLogic

namespace Expr

def isJoin : Expr → Bool
  | join _ _ _ => true
  | _ => false

/-- All nodes, a join before what is below it and every other node after. -/
def visits (e : Expr) : List Expr :=
  e.fold fun e below => if e.isJoin then e :: below.flatten else below.flatten ++ [e]

theorem visits_eq (e : Expr) :
    e.visits = if e.isJoin then e :: e.children.flatMap visits
      else e.children.flatMap visits ++ [e] := by
  rw [visits, fold_eq, List.flatMap_def]
  rfl

theorem visits_perm_nodes (e : Expr) : e.visits.Perm e.nodes := by
  induction e using Expr.induction with
  | step e ih =>
      have hbelow : (e.children.flatMap visits).Perm (e.children.flatMap nodes) :=
        List.Perm.flatMap_left e.children ih
      rw [visits_eq, nodes_eq]
      split
      · exact hbelow.cons e
      · exact (List.perm_append_singleton e _).trans (hbelow.cons e)

end Expr

namespace TwoValued

/-- Why the guarded comparison of two operands that have two-valued forms cannot be built. -/
def refusal? (positive : Bool) (left right : Expr) (type : DataType) : Option PassError :=
  match twoValued left, twoValued right with
  | .ok left', .ok right' =>
      let l := operand left left'
      let r := operand right right'
      if isSettled left l && isSettled right r then none
      else
        (failure? (expand positive l r type)).map
          (PassError.comparison (.binary (.comparison (.equality positive)) left right type))
  | _, _ => none

/-- What is wrong with the node itself: with the predicate of a join, or with an equality. -/
def fault? : Expr → Option PassError
  | .join _ _ predicate =>
      if predicate.isEquiPredicate then none else some (.joinPredicate predicate)
  | .binary (.comparison .equal) left right type => refusal? true left right type
  | .binary (.comparison .notEqual) left right type => refusal? false left right type
  | _ => none

/-! ### One node -/

theorem fault?_eq_joinCheck {e : Expr} (h : e.isJoin = true) : fault? e = failure? (joinCheck e) := by
  unfold Expr.isJoin at h
  split at h
  · rw [fault?, joinCheck]
    split <;> rfl
  · simp at h

theorem joinCheck_of_not_isJoin {e : Expr} (h : e.isJoin = false) : joinCheck e = .ok () := by
  unfold joinCheck
  split
  · simp [Expr.isJoin] at h
  · rfl

theorem isEquality_of_isJoin {e : Expr} (h : e.isJoin = true) : e.isEquality = false := by
  unfold Expr.isJoin at h
  split at h
  · rfl
  · simp at h

theorem failure?_comparison {positive : Bool} {left right left' right' : Expr} {type : DataType}
    (hleft : twoValued left = .ok left') (hright : twoValued right = .ok right') :
    failure? (comparison positive left right type left' right') =
      refusal? positive left right type := by
  simp only [comparison, refusal?, hleft, hright]
  split
  · rfl
  · cases expand positive (operand left left') (operand right right') type <;> rfl

theorem refusal?_ne_joinPredicate (positive : Bool) (left right : Expr) (type : DataType)
    (predicate : Expr) : refusal? positive left right type ≠ some (.joinPredicate predicate) := by
  unfold refusal?
  split
  · dsimp only
    split <;> simp
  · simp

/-- A node that is no join fails by its own fault only, once its children have forms. -/
theorem failure?_node {e : Expr} {news : List Expr} (hjoin : e.isJoin = false)
    (hnews : List.Forall₂ (fun c c' => twoValued c = .ok c') e.children news) :
    failure? (node e news) = fault? e := by
  cases heq : e.isEquality with
  | true =>
      obtain ⟨positive, left, right, type, rfl⟩ := Expr.exists_equality_of_isEquality heq
      rcases hnews with _ | ⟨hleft, _ | ⟨hright, ⟨⟩⟩⟩
      cases positive <;> exact failure?_comparison hleft hright
  | false =>
      rw [node_eq_refill heq]
      unfold fault?
      split
      · simp [Expr.isJoin] at hjoin
      · simp [Expr.isEquality] at heq
      · simp [Expr.isEquality] at heq
      · rfl

theorem exists_forms_of_refusal? {positive : Bool} {left right : Expr} {type : DataType}
    {err : PassError} (h : refusal? positive left right type = some err) :
    ∃ news, [left, right].mapM twoValued = .ok news := by
  unfold refusal? at h
  split at h
  · rename_i left' right' hleft hright
    exact ⟨[left', right'], mapM_eq_ok_iff.2 (.cons hleft (.cons hright .nil))⟩
  · simp at h

theorem exists_forms_of_fault? {e : Expr} {err : PassError} (hjoin : e.isJoin = false)
    (h : fault? e = some err) : ∃ news, e.children.mapM twoValued = .ok news := by
  unfold fault? at h
  split at h
  · simp [Expr.isJoin] at hjoin
  · exact exists_forms_of_refusal? h
  · exact exists_forms_of_refusal? h
  · simp at h

/-- A node fails by its own fault, or by a failure below it; a join fails by its own fault
first. -/
theorem failure?_twoValued_node (e : Expr) :
    failure? (twoValued e) =
      if e.isJoin then (fault? e).or (failure? (e.children.mapM twoValued))
      else (failure? (e.children.mapM twoValued)).or (fault? e) := by
  rw [twoValued_eq]
  cases hjoin : e.isJoin with
  | true =>
      simp only [if_true, fault?_eq_joinCheck hjoin, node_eq_refill (isEquality_of_isJoin hjoin)]
      cases joinCheck e with
      | error err => rfl
      | ok u => cases e.children.mapM twoValued <;> rfl
  | false =>
      rw [joinCheck_of_not_isJoin hjoin, ok_bind]
      cases hnews : e.children.mapM twoValued with
      | error err => rfl
      | ok news => exact failure?_node hjoin (mapM_eq_ok_iff.1 hnews)

end TwoValued

open TwoValued

/-- A node with a fault fails with it on its own. -/
theorem twoValued_of_fault? {n : Expr} {err : PassError} (h : fault? n = some err) :
    twoValued n = .error err := by
  rw [← failure?_eq_some_iff, failure?_twoValued_node, h]
  cases hjoin : n.isJoin with
  | true => rfl
  | false =>
      obtain ⟨news, hnews⟩ := exists_forms_of_fault? hjoin h
      rw [hnews]
      rfl

/-! ### All nodes -/

theorem failure?_twoValued (e : Expr) :
    failure? (twoValued e) = e.visits.findSome? fault? := by
  induction e using Expr.induction with
  | step e ih =>
      rw [failure?_twoValued_node, Expr.visits_eq, failure?_mapM ih]
      split
      · rw [List.findSome?_cons]
        cases fault? e <;> rfl
      · rw [List.findSome?_append, List.findSome?_singleton]

/-- Only a join that is not on equalities is the reason for the error about joins. -/
theorem exists_join_of_twoValued_eq_error {e predicate : Expr}
    (h : twoValued e = .error (.joinPredicate predicate)) :
    ∃ kind source, Expr.join kind source predicate ∈ e.nodes ∧
      predicate.isEquiPredicate = false := by
  rw [← failure?_eq_some_iff, failure?_twoValued] at h
  obtain ⟨n, hn, hfault⟩ := List.exists_of_findSome?_eq_some h
  rw [(Expr.visits_perm_nodes e).mem_iff] at hn
  unfold fault? at hfault
  split at hfault
  · split at hfault
    · simp at hfault
    · rename_i kind source predicate' hequi
      obtain rfl : predicate' = predicate := by simpa using hfault
      exact ⟨kind, source, hn, by simpa using hequi⟩
  · exact absurd hfault (refusal?_ne_joinPredicate true _ _ _ predicate)
  · exact absurd hfault (refusal?_ne_joinPredicate false _ _ _ predicate)
  · simp at hfault

theorem exists_error_iff_exists_fault? (e : Expr) :
    (∃ err, twoValued e = .error err) ↔ ∃ n ∈ e.nodes, fault? n ≠ none := by
  simp only [← failure?_eq_some_iff, failure?_twoValued, ← Option.isSome_iff_exists,
    ← Option.isSome_iff_ne_none, List.findSome?_isSome_iff, (Expr.visits_perm_nodes e).mem_iff]

/-- There is no two-valued form if and only if a join is not on equalities, or an equality
whose operands have two-valued forms cannot be compared or guarded. The error is that of the
first such node, the same that it has on its own. -/
theorem twoValued_eq_error_iff (e : Expr) :
    ((∃ err, twoValued e = .error err) ↔ ∃ n ∈ e.nodes, fault? n ≠ none) ∧
      ∀ err, twoValued e = .error err ↔
        ∃ before n after, e.visits = before ++ n :: after ∧ (∀ m ∈ before, fault? m = none) ∧
          fault? n = some err ∧ twoValued n = .error err := by
  refine ⟨exists_error_iff_exists_fault? e, fun err => ?_⟩
  rw [← failure?_eq_some_iff, failure?_twoValued, List.findSome?_eq_some_iff]
  constructor
  · rintro ⟨before, n, after, hvisits, hn, hbefore⟩
    exact ⟨before, n, after, hvisits, hbefore, hn, twoValued_of_fault? hn⟩
  · rintro ⟨before, n, after, hvisits, hbefore, hn, -⟩
    exact ⟨before, n, after, hvisits, hn, hbefore⟩

/-- A join that cannot be made two-valued, behind an argument with a comparison that cannot
either. -/
example :
    twoValued (.call "f" none [.binary .equal Sample.x Sample.a .boolean,
        .join .inner (.table "t" none) Sample.b] .int64) =
      .error (.comparison (.binary .equal Sample.x Sample.a .boolean)
        (.operandTypes (.binary .equal) [.int64, .boolean])) :=
  rfl

end NullLogic
