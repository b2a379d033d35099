import NullLogic.Guarded
import NullLogic.Optimize
import NullLogic.Proofs.Simplify.Nodes
import NullLogic.Proofs.TwoValued.Nodes
import NullLogic.Sample

/-!
# Nullability along the passes

Neither pass makes an expression nullable that was not. Hence an expression that is
`Guarded` stays so, and the columns that may not be `NULL` are the same ones before and
after.

A two-valued form is judged like the expression itself. Simplifying may find that there is no
`NULL` where the operands of a connective alone do not show it.
-/

namespace NullLogic

/-- The second expression is judged nullable only if the first one is. -/
abbrev NullableOnlyIf (e e' : Expr) : Prop :=
  e.nullable = false → e'.nullable = false

namespace Expr

/-! ### One node -/

theorem nullableOption_of_rel {u v : Option Expr} (h : Option.Rel NullableOnlyIf u v)
    (hu : nullableOption u = false) : nullableOption v = false := by
  cases h with
  | none => rfl
  | some h => exact h hu

theorem nullableList_of_forall₂ {xs ys : List Expr} (h : List.Forall₂ NullableOnlyIf xs ys)
    (hxs : nullableList xs = false) : nullableList ys = false := by
  induction h with
  | nil => rfl
  | cons hx _ ih =>
      rw [nullableList, Bool.or_eq_false_iff] at hxs ⊢
      exact ⟨hx hxs.1, ih hxs.2⟩

theorem nullableResults_of_forall₂ {ks ls : List (Clause Expr)}
    (h : List.Forall₂ (Clause.Alike NullableOnlyIf) ks ls)
    (hks : nullableResults ks = false) : nullableResults ls = false := by
  induction h with
  | nil => rfl
  | cons hk _ ih =>
      rw [nullableResults, Bool.or_eq_false_iff] at hks ⊢
      exact ⟨hk.result hks.1, ih hks.2⟩

theorem isNone_of_rel {u v : Option Expr} {rel : Expr → Expr → Prop} (h : Option.Rel rel u v) :
    u.isNone = v.isNone := by
  cases h with
  | none => rfl
  | some _ => rfl

/-- An operator other than `COALESCE` and the equalities might be `NULL` if an operand
might. -/
theorem nullable_binary_of_or {op : BinaryOp} {l r : Expr} {type : DataType}
    (h : (l.nullable || r.nullable) = false) : (binary op l r type).nullable = false := by
  rcases op with kind | kind | _ | kind
  · cases kind <;> simp_all [nullable]
  all_goals simp_all [nullable]

theorem nullable_of_alike {e e' : Expr} (h : e.Alike NullableOnlyIf e') : NullableOnlyIf e e' := by
  intro he
  cases h with
  | unary op type hx =>
      cases op with
      | test kind => rfl
      | _ => exact hx he
  | @binary op type x x' y y' hx hx' =>
      have hor : (x.nullable || x'.nullable) = false →
          (binary op y y' type).nullable = false := by
        intro hor
        rw [Bool.or_eq_false_iff] at hor
        exact nullable_binary_of_or (by simp [hx hor.1, hx' hor.2])
      cases op with
      | comparison kind =>
          cases kind with
          | equal | notEqual => rfl
          | _ => exact hor he
      | coalesce =>
          rw [nullable, Bool.and_eq_false_iff] at he ⊢
          exact he.imp hx hx'
      | _ => exact hor he
  | like hx hx' hu =>
      rw [nullable, Bool.or_eq_false_iff, Bool.or_eq_false_iff] at he ⊢
      exact ⟨⟨hx he.1.1, hx' he.1.2⟩, nullableOption_of_rel hu he.2⟩
  | call name type hu hxs =>
      rw [nullable, Bool.or_eq_false_iff] at he ⊢
      exact ⟨nullableOption_of_rel hu he.1, nullableList_of_forall₂ hxs he.2⟩
  | caseWhen type hu hxs hu' =>
      rw [nullable, Bool.or_eq_false_iff, Bool.or_eq_false_iff] at he ⊢
      rw [← isNone_of_rel hu']
      exact ⟨⟨nullableResults_of_forall₂ hxs he.1.1, he.1.2⟩, nullableOption_of_rel hu' he.2⟩
  | join kind hx hx' => rfl
  | _ => exact he

/-- Of the children only the verdicts count. -/
theorem nullable_eq_of_alike {e e' : Expr}
    (h : e.Alike (fun c c' => c'.nullable = c.nullable) e') : e'.nullable = e.nullable := by
  have hforth : NullableOnlyIf e e' :=
    nullable_of_alike (h.imp fun c _ c' hc hn => hc.trans hn)
  have hback : NullableOnlyIf e' e :=
    nullable_of_alike (h.flip.imp fun c' _ c hc hn => Eq.trans (Eq.symm hc) hn)
  cases he : e.nullable with
  | false => exact hforth he
  | true =>
      cases he' : e'.nullable with
      | true => rfl
      | false => exact absurd (hback he') (by simp [he])

end Expr

/-! ### The passes -/

theorem nullable_eq_of_twoValued {e e' : Expr} (h : twoValued e = .ok e') :
    e'.nullable = e.nullable := by
  refine twoValued_induction (motive := fun e e' => e'.nullable = e.nullable) ?_ ?_ h
  · intro positive left right type l r _ _ _ _ _
    rw [TwoValued.nullable_form]
    cases positive <;> rfl
  · intro e e' _ halike
    exact Expr.nullable_eq_of_alike (halike.imp fun c _ c' hc' => hc'.2)

theorem nullable_of_twoValued {e e' : Expr} (h : twoValued e = .ok e') : NullableOnlyIf e e' :=
  fun he => (nullable_eq_of_twoValued h).trans he

namespace Simplify

variable {flip : Bool}

theorem nullable_nullTest (kind : NullTest) (x : Expr) (t : DataType) :
    (nullTest kind x t).nullable = false := by
  refine nullTest_induction true (motive := fun _ _ s => s.nullable = false) ?_ ?_ ?_ x t
  · intro u t
    rfl
  · intro x u t s ih
    exact ih
  · intro x t _
    rfl

theorem nullable_absorb? {kind : Connective} {l r : Expr} (t : DataType)
    (hl : l.nullable = false) (hr : r.nullable = false) :
    ((absorb? kind l r).getD (.binary (.connective kind) l r t)).nullable = false :=
  absorb?_induction true (motive := (·.nullable = false)) hl hr
    fun _ => Expr.nullable_binary_of_or (by simp [hl, hr])

theorem nullable_of_connective {kind : Connective} {l r : Expr} {t : DataType}
    (h : (Expr.binary (.connective kind) l r t).nullable = false) :
    l.nullable = false ∧ r.nullable = false := by
  rwa [Expr.nullable, Bool.or_eq_false_iff] at h
  all_goals simp

theorem nullable_complement {kind : Comparison} {l r : Expr} {t : DataType}
    (h : (Expr.binary (.comparison kind) l r t).nullable = false) :
    (Expr.binary (.comparison kind.complement) l r t).nullable = false := by
  cases kind <;> exact h

theorem nullable_of_negate {x s : Expr} {t : DataType} (h : negate flip x t = .ok s) :
    NullableOnlyIf x s := by
  refine negate_induction (motive := fun x _ s => NullableOnlyIf x s) ?_ ?_ ?_ ?_ ?_ ?_ h
  · intro c u t _
    rfl
  · intro x u t hx
    exact hx
  · intro kind x u t _
    exact nullable_nullTest kind.complement x .boolean
  · intro kind l r u t l' r' _ _ _ _ ihl ihr hx
    have hlr := nullable_of_connective hx
    exact nullable_absorb? .boolean (ihl hlr.1) (ihr hlr.2)
  · intro kind l r u t _ hx
    exact nullable_complement hx
  · intro x t _ hx
    exact hx

theorem nullable_of_node {e s : Expr} (h : node flip e = .ok s) : NullableOnlyIf e s := by
  intro he
  obtain ⟨x, t, rfl, hs⟩ | ⟨kind, x, t, rfl, rfl⟩ | ⟨kind, l, r, t, rfl, rfl⟩ | ⟨-, rfl⟩ :=
    node_cases h
  · exact nullable_of_negate hs he
  · exact nullable_nullTest kind x t
  · have hlr := nullable_of_connective he
    exact nullable_absorb? t hlr.1 hlr.2
  · exact he

theorem nullable_of_tree {e s : Expr} (h : tree flip e = .ok s) : NullableOnlyIf e s := by
  refine tree_induction (motive := NullableOnlyIf) ?_ h
  intro e m s halike hnode he
  have hm : NullableOnlyIf e m := Expr.nullable_of_alike (halike.imp fun c _ c' hc' => hc'.2)
  exact nullable_of_node hnode (hm he)

end Simplify

/-! ### Guards -/

theorem Expr.guardedNode_of_alike {e e' : Expr} (h : e.Alike NullableOnlyIf e')
    (he : e.GuardedNode) : e'.GuardedNode := by
  cases h with
  | binary op type hx hx' =>
      cases op with
      | comparison kind =>
          cases kind with
          | equal | notEqual => trivial
          | _ => exact ⟨hx he.1, hx' he.2⟩
      | _ => trivial
  | caseWhen type hu hxs hu' =>
      cases hu with
      | none => trivial
      | some hx =>
          refine he.imp hx fun htests l hl => ?_
          obtain ⟨k, hk, hkl⟩ := Expr.exists_mem_left_of_forall₂ hxs hl
          exact hkl.test (htests k hk)
  | _ => exact he

theorem Bindings.respectNode_of_alike {b : Bindings} {rel : Expr → Expr → Prop} {e e' : Expr}
    (h : e.Alike rel e') (he : b.RespectNode e) : b.RespectNode e' := by
  cases h with
  | column source name type nullable => exact he
  | _ => trivial

theorem guarded_of_twoValued {e e' : Expr} (h : twoValued e = .ok e') (he : e.Guarded) :
    e'.Guarded := by
  refine twoValued_everywhere ?_ ?_ ?_ ?_ h he
  · exact fun kind x t => trivial
  · exact fun kind x y t => trivial
  · exact fun positive x y t => by cases positive <;> trivial
  · exact fun e m halike =>
      Expr.guardedNode_of_alike (halike.imp fun c _ c' hc' => nullable_of_twoValued hc')

theorem respect_of_twoValued {b : Bindings} {e e' : Expr} (h : twoValued e = .ok e')
    (he : b.Respect e) : b.Respect e' := by
  refine twoValued_everywhere ?_ ?_ ?_ ?_ h he
  · exact fun kind x t => trivial
  · exact fun kind x y t => trivial
  · exact fun positive x y t => trivial
  · exact fun e m halike => Bindings.respectNode_of_alike halike

namespace Simplify

variable {flip : Bool}

theorem guardedNode_complement {kind : Comparison} {l r : Expr} {t : DataType}
    (h : (Expr.binary (.comparison kind) l r t).GuardedNode) :
    (Expr.binary (.comparison kind.complement) l r t).GuardedNode := by
  cases kind <;> exact h

theorem guarded_of_tree {e s : Expr} (h : tree flip e = .ok s) (he : e.Guarded) :
    s.Guarded := by
  refine tree_everywhere ?_ ?_ ?_ h he
  · intro n hn _
    cases hn <;> trivial
  · exact fun kind l r t => guardedNode_complement
  · exact fun e m halike =>
      Expr.guardedNode_of_alike (halike.imp fun c _ c' hc' => nullable_of_tree hc')

theorem respect_of_tree {b : Bindings} {e s : Expr} (h : tree flip e = .ok s)
    (he : b.Respect e) : b.Respect s := by
  refine tree_everywhere ?_ ?_ ?_ h he
  · intro n hn _
    cases hn <;> trivial
  · exact fun kind l r t _ => trivial
  · exact fun e m halike => Bindings.respectNode_of_alike halike

end Simplify

/-! ### The verdict along the passes -/

theorem nullable_of_optimize {options : Options} {e o : Expr} (h : optimize options e = .ok o) :
    NullableOnlyIf e o := by
  obtain ⟨relational, skip⟩ := options
  have hrest : ∀ {e' : Expr}, NullableOnlyIf e e' →
      (if skip then pure e' else simplify (!relational) e') = .ok o → NullableOnlyIf e o := by
    intro e' he' ho
    cases skip with
    | true =>
        obtain rfl := Except.ok.inj ho
        exact he'
    | false => exact Simplify.nullable_of_tree (Simplify.tree_of_simplify_eq_ok ho) ∘ he'
  cases relational with
  | true => exact hrest id h
  | false =>
      rcases bind_eq_ok_iff.1 h with ⟨e', he', ho⟩
      exact hrest (nullable_of_twoValued he') ho

/-- The two-valued form is judged nullable exactly if the expression is. A simplified or
optimized expression is judged nullable only if the expression is. -/
theorem nullable_of_passes (e : Expr) :
    (∀ r, twoValued e = .ok r → r.nullable = e.nullable) ∧
      (∀ flip s, simplify flip e = .ok s → NullableOnlyIf e s) ∧
      ∀ options o, optimize options e = .ok o → NullableOnlyIf e o := by
  refine ⟨fun r hr => nullable_eq_of_twoValued hr, ?_, fun options o => nullable_of_optimize⟩
  intro flip s hs
  exact Simplify.nullable_of_tree (Simplify.tree_of_simplify_eq_ok hs)

/-- `COALESCE(q, NOT (x = p))`, which is judged not nullable because of the equality. -/
theorem nullable_of_passes_of_coalesce :
    ∃ r s o, twoValued (.binary .coalesce Sample.q (.unary .not (.binary .equal Sample.x Sample.p
        .boolean) .boolean) .boolean) = .ok r ∧ r.nullable = false ∧
      simplify true (.binary .coalesce Sample.q (.unary .not (.binary .equal Sample.x Sample.p
        .boolean) .boolean) .boolean) = .ok s ∧ s.nullable = false ∧
      optimize {} (.binary .coalesce Sample.q (.unary .not (.binary .equal Sample.x Sample.p
        .boolean) .boolean) .boolean) = .ok o ∧ o.nullable = false := by
  obtain ⟨hr, hs, ho⟩ := nullable_of_passes (.binary .coalesce Sample.q (.unary .not (.binary
    .equal Sample.x Sample.p .boolean) .boolean) .boolean)
  exact ⟨_, _, _, rfl, hr _ rfl, rfl, hs true _ rfl rfl, rfl, ho {} _ rfl rfl⟩

end NullLogic
