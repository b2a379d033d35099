import NullLogic.Expr.Rebuild
import NullLogic.Proofs.Expr.Alike
import NullLogic.Proofs.Outcome

/-!
# Children taken out and put back

`Expr.children` and `Expr.withChildren` belong together like reading and writing a part of a
node. `withChildren_lawful` lists what makes them so: what has been put in is what comes out, to
put in what has come out changes nothing, and of two replacements the second one counts.

That nothing else about the node changes is said by `SameNode`. That no place for a child remains
empty is not assumed: `rebuilt_eq` follows the children one by one, and `filled_run` shows that
they suffice.
-/

namespace NullLogic

namespace Expr

/-! ### Filling the places for children -/

section Filling

theorem nextChild_run (new : Expr) (rest : List Expr) :
    nextChild.run (new :: rest) = .ok (new, rest) := rfl

theorem nextClause_run (test result : Expr) (rest : List Expr) :
    nextClause.run (test :: result :: rest) = .ok (⟨test, result⟩, rest) := rfl

theorem mapM_option_run {o : Option Expr} {news : List Expr} (h : o.toList.length ≤ news.length) :
    (o.mapM fun _ => nextChild).run news = .ok (refillOption o news) := by
  cases o with
  | none => rfl
  | some old =>
      match news, h with
      | new :: rest, _ => rfl

theorem mapM_list_run {olds news : List Expr} (h : olds.length ≤ news.length) :
    (olds.mapM fun _ => nextChild).run news = .ok (refillList olds news) := by
  induction olds generalizing news with
  | nil => rfl
  | cons old olds ih =>
      match news, h with
      | new :: rest, h =>
          have hrest := @ih rest (by simpa using h)
          simp only [List.mapM_cons, StateT.run_bind, nextChild_run, ok_bind, hrest]
          rfl

theorem mapM_clauses_run {olds : List (Clause Expr)} {news : List Expr}
    (h : (clauseChildren olds).length ≤ news.length) :
    (olds.mapM fun _ => nextClause).run news = .ok (refillClauses olds news) := by
  induction olds generalizing news with
  | nil => rfl
  | cons old olds ih =>
      match news, h with
      | test :: result :: rest, h =>
          have hrest := @ih rest (by simpa using h)
          simp only [List.mapM_cons, StateT.run_bind, nextClause_run, ok_bind, hrest]
          rfl

end Filling

/-- With as many new children as there are places, and at least one, no fault is met. -/
theorem filled_run {e : Expr} {news : List Expr} (h : e.children.length = news.length)
    (hne : news ≠ []) : ∃ rest, e.filled.run news = .ok (e.refill news, rest) := by
  -- the steps before a place have taken no more than the places before it, so enough is left
  cases e with
  | unary op operand type =>
      match news, h with
      | [_], _ => exact ⟨_, rfl⟩
  | binary op left right type =>
      match news, h with
      | [_, _], _ => exact ⟨_, rfl⟩
  | join kind source predicate =>
      match news, h with
      | [_, _], _ => exact ⟨_, rfl⟩
  | like subject pattern escape =>
      match news, h with
      | s :: p :: rest, h =>
          have hescape := @mapM_option_run escape rest (by simp_all [children])
          simp only [filled, StateT.run_bind, nextChild_run, ok_bind, hescape]
          exact ⟨_, rfl⟩
  | call name receiver args type =>
      have hlength : receiver.toList.length + args.length = news.length := by
        simpa [children] using h
      have hreceiver := @mapM_option_run receiver news (by omega)
      have hleft := (refillOption_spec receiver news (by omega)).2
      have hargs : args.length ≤ (refillOption receiver news).2.length := by
        rw [hleft, List.length_drop]
        omega
      simp only [filled, StateT.run_bind, hreceiver, ok_bind, mapM_list_run hargs]
      exact ⟨_, rfl⟩
  | caseWhen operand clauses otherwise type =>
      have hlength : operand.toList.length +
          ((clauseChildren clauses).length + otherwise.toList.length) = news.length := by
        simpa [children] using h
      have hoperand := @mapM_option_run operand news (by omega)
      have hleft := (refillOption_spec operand news (by omega)).2
      have hclauses : (clauseChildren clauses).length ≤ (refillOption operand news).2.length := by
        rw [hleft, List.length_drop]
        omega
      have hleft' := (refillClauses_spec clauses (refillOption operand news).2 hclauses).2
      have hotherwise : otherwise.toList.length ≤
          (refillClauses clauses (refillOption operand news).2).2.length := by
        rw [hleft', hleft, List.length_drop, List.length_drop]
        omega
      simp only [filled, StateT.run_bind, hoperand, ok_bind, mapM_clauses_run hclauses,
        mapM_option_run hotherwise]
      exact ⟨_, rfl⟩
  | _ => exact absurd (List.length_eq_zero_iff.1 h.symm) hne

/-- Internal faults are never met: taking new children one by one ends as taking them at once. -/
theorem rebuilt_eq {e : Expr} {kept : Nat → Bool} {news : List Expr}
    (hkept : ∀ i < news.length, kept i = true → news[i]? = e.children[i]?) :
    e.rebuilt kept news = (e.withChildren news).mapError .refused := by
  by_cases hlength : e.children.length = news.length
  · rw [rebuilt, if_neg (not_not_intro hlength), withChildren, if_pos hlength]
    by_cases hall : (List.range news.length).all kept = true
    · have hsame : news = e.children := by
        refine List.ext_getElem? fun i => ?_
        by_cases hi : i < news.length
        · exact hkept i hi (List.all_eq_true.1 hall i (List.mem_range.2 hi))
        · rw [List.getElem?_eq_none (by omega), List.getElem?_eq_none (by omega)]
      rw [if_pos hall, hsame, refill_children]
      rfl
    · have hne : news ≠ [] := by
        rintro rfl
        exact hall rfl
      obtain ⟨rest, hrun⟩ := filled_run hlength hne
      rw [if_neg hall, hrun]
      rfl
  · rw [rebuilt, if_pos hlength, withChildren, if_neg hlength]
    rfl

/-! ### Nodes that differ in their children only -/

/-- The two nodes are the same but for what their children are: children are absent in the same
places, and there are as many arguments and clauses. -/
def SameNode (e f : Expr) : Prop :=
  e.Alike (fun _ _ => True) f

/-- Where every two elements are related, only the number of elements counts. -/
theorem forall₂_of_length_eq {α : Type} {r : α → α → Prop} {xs ys : List α} (hr : ∀ x y, r x y)
    (h : xs.length = ys.length) : List.Forall₂ r xs ys :=
  List.forall₂_iff_zip.2 ⟨h, fun _ => hr _ _⟩

theorem sameNode_refill {e : Expr} {news : List Expr} (h : e.children.length = news.length) :
    SameNode e (e.refill news) :=
  alike_refill (forall₂_of_length_eq (fun _ _ => trivial) h)

theorem rel_trans {u v w : Option Expr} (h : Option.Rel (fun _ _ => True) u v)
    (h' : Option.Rel (fun _ _ => True) v w) : Option.Rel (fun _ _ => True) u w := by
  cases h with
  | none => exact h'
  | some _ =>
      cases h' with
      | some _ => exact .some trivial

namespace SameNode

variable {e f g : Expr}

theorem length_children (h : SameNode e f) : e.children.length = f.children.length :=
  (Alike.children h).length_eq

theorem kind (h : SameNode e f) : e.kind = f.kind := by
  cases h <;> rfl

theorem symm (h : SameNode e f) : SameNode f e :=
  Alike.flip h

theorem trans (h : SameNode e f) (h' : SameNode f g) : SameNode e g := by
  cases h with
  | like _ _ hu =>
      cases h' with
      | like _ _ hv => exact .like trivial trivial (rel_trans hu hv)
  | call name type hu hxs =>
      cases h' with
      | call _ _ hv hys =>
          have hargs := hxs.length_eq.trans hys.length_eq
          exact .call name type (rel_trans hu hv) (forall₂_of_length_eq (fun _ _ => trivial) hargs)
  | caseWhen type hu hxs hu' =>
      cases h' with
      | caseWhen _ hv hys hv' =>
          have hclauses := hxs.length_eq.trans hys.length_eq
          exact .caseWhen type (rel_trans hu hv)
            (forall₂_of_length_eq (fun _ _ => ⟨trivial, trivial⟩) hclauses) (rel_trans hu' hv')
  | unary op type _ =>
      cases h' with
      | unary => exact .unary op type trivial
  | binary op type _ _ =>
      cases h' with
      | binary => exact .binary op type trivial trivial
  | join kind _ _ =>
      cases h' with
      | join => exact .join kind trivial trivial
  | _ => exact h'

/-- Children that have been replaced before leave nothing behind. -/
theorem refill_eq (h : SameNode e f) {news : List Expr}
    (hlength : e.children.length = news.length) : f.refill news = e.refill news := by
  have hf : SameNode f (e.refill news) := h.symm.trans (sameNode_refill hlength)
  have hrefill := Alike.refill_children hf
  rwa [children_refill e news hlength] at hrefill

theorem withChildren_eq (h : SameNode e f) (news : List Expr) :
    f.withChildren news = e.withChildren news := by
  rw [withChildren, withChildren, ← h.length_children, ← h.kind]
  split
  · rename_i hlength
    rw [h.refill_eq hlength]
  · rfl

end SameNode

/-- Children can be taken from a node and put back. Other children are refused only for their
number. If there are as many as before, they are the children of a node that is otherwise the same
and takes further children as the first one does. Putting in the node's own children changes
nothing, and it makes no difference whether children are put in at once or one by one, where the
internal faults are never met. -/
theorem withChildren_lawful (e : Expr) (news : List Expr) :
    (match e.withChildren news with
      | .error cause => news.length ≠ e.children.length ∧
          cause = .childCount e.kind e.children.length news.length
      | .ok e' => news.length = e.children.length ∧ e'.children = news ∧ SameNode e e' ∧
          ∀ others, e'.withChildren others = e.withChildren others) ∧
    e.withChildren e.children = .ok e ∧
    ∀ kept : Nat → Bool, (∀ i < news.length, kept i = true → news[i]? = e.children[i]?) →
      e.rebuilt kept news = (e.withChildren news).mapError .refused := by
  refine ⟨?_, withChildren_children e, fun kept hkept => rebuilt_eq hkept⟩
  by_cases hlength : e.children.length = news.length
  · have hsame : SameNode e (e.refill news) := sameNode_refill hlength
    rw [withChildren, if_pos hlength]
    exact ⟨hlength.symm, children_refill e news hlength, hsame, hsame.withChildren_eq⟩
  · rw [withChildren, if_neg hlength]
    exact ⟨Ne.symm hlength, rfl⟩

end Expr

end NullLogic
