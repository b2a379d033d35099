import NullLogic.Proofs.Checked
import NullLogic.Proofs.Evaluation
import NullLogic.Proofs.Expr.Bare
import NullLogic.TwoValued

/-!
# The shape of two-valued forms

`TwoValued.form` writes down the guarded comparison that `TwoValued.guarded` builds,
without the checks on the way. The guards of an inequality are those of an equality
with dual connectives and opposite null tests, so one definition covers both.

The main statement is `twoValued_cases`: a two-valued form is either the guarded
comparison of the two-valued forms of the operands, leading `NOT`s left out, or the
same node over the two-valued forms of its children.
-/

namespace NullLogic

namespace TwoValued

/-! ### The guarded comparison -/

/-- The connective by which null tests are added to an equality or inequality. -/
def guardKind (positive : Bool) : Connective :=
  if positive then .and else .or

/-- The null test that an equality or inequality of non-`NULL` operands passes. -/
def guardTest (positive : Bool) : NullTest :=
  if positive then .isNotNull else .isNull

def connected (kind : Connective) (left right : Expr) : Expr :=
  .binary (.connective kind) left right .boolean

def tested (kind : NullTest) (operand : Expr) : Expr :=
  .unary (.test kind) operand .boolean

/-- The comparison of what is left of two operands without their leading `NOT`s. -/
def values (positive : Bool) (type : DataType) (l r : Operand) : Expr :=
  .binary (.comparison (.equality (positive == (l.negated == r.negated)))) l.expr r.expr type

/-- The comparison of two operands with the null tests for those of them that might be
`NULL`. -/
def form (positive : Bool) (type : DataType) (l r : Operand) : Expr :=
  let kind := guardKind positive
  let test := guardTest positive
  let compared := values positive type l r
  match l.nullable, r.nullable with
  | false, false => compared
  | true, false => connected kind compared (tested test l.expr)
  | false, true => connected kind compared (tested test r.expr)
  | true, true =>
      connected kind.dual
        (connected kind compared (connected kind (tested test l.expr) (tested test r.expr)))
        (connected kind (tested test.complement l.expr) (tested test.complement r.expr))

theorem guarded_eq_ok {positive : Bool} {type : DataType} {g : Expr} {l r : Operand}
    (h : guarded positive (values positive type l r) l r = .ok g) :
    g = form positive type l r := by
  unfold guarded at h
  split at h
  all_goals
    rename_i hl hr
    rw [form, hl, hr]
  · exact (Except.ok.inj h).symm
  all_goals
    simp only [Checked.and, Checked.or, Checked.isNull, Checked.isNotNull, bind_eq_ok_iff] at h
  case h_4 =>
    obtain ⟨t, ht, u, hu, valid, hvalid, t', ht', u', hu', null, hnull, both, hboth, h⟩ := h
    rw [Checked.connective_eq_ok h, Checked.connective_eq_ok hboth,
      Checked.connective_eq_ok hvalid, Checked.connective_eq_ok hnull, Checked.test_eq_ok ht,
      Checked.test_eq_ok hu, Checked.test_eq_ok ht', Checked.test_eq_ok hu']
    rfl
  case h_7 =>
    obtain ⟨t, ht, u, hu, null, hnull, t', ht', u', hu', valid, hvalid, either, heither, h⟩ := h
    rw [Checked.connective_eq_ok h, Checked.connective_eq_ok heither,
      Checked.connective_eq_ok hvalid, Checked.connective_eq_ok hnull, Checked.test_eq_ok ht,
      Checked.test_eq_ok hu, Checked.test_eq_ok ht', Checked.test_eq_ok hu']
    rfl
  -- one operand is tested
  all_goals
    obtain ⟨t, ht, h⟩ := h
    rw [Checked.connective_eq_ok h, Checked.test_eq_ok ht]
    rfl

theorem expand_eq_ok {positive : Bool} {type : DataType} {g : Expr} {l r : Operand}
    (h : expand positive l r type = .ok g) : g = form positive type l r := by
  rcases bind_eq_ok_iff.1 h with ⟨compared, hcompared, h⟩
  have heq : compared = values positive type l r := Checked.binaryAs_eq_ok hcompared
  rw [heq] at h
  exact guarded_eq_ok h

theorem operand_of_isSettled {e e' : Expr} (h : isSettled e (operand e e') = true) :
    operand e e' = ⟨e, false, false⟩ := by
  simp only [isSettled, Bool.and_eq_true, Bool.not_eq_true', decide_eq_true_eq] at h
  obtain ⟨⟨hneg, hnull⟩, hexpr⟩ := h
  cases ho : operand e e'
  simp_all

/-- A comparison that stays as it is has the guarded form as well: it needs no guard. -/
theorem comparison_eq_ok {positive : Bool} {left right left' right' g : Expr} {type : DataType}
    (h : comparison positive left right type left' right' = .ok g) :
    g = form positive type (operand left left') (operand right right') := by
  unfold comparison at h
  dsimp only at h
  split at h
  · rename_i hsettled
    rw [Bool.and_eq_true] at hsettled
    rw [operand_of_isSettled hsettled.1, operand_of_isSettled hsettled.2,
      ← Except.ok.inj h]
    cases positive <;> rfl
  · cases hexp : expand positive (operand left left') (operand right right') type with
    | ok g' =>
        rw [hexp] at h
        rw [← expand_eq_ok hexp]
        exact (Except.ok.inj h).symm
    | error cause => simp [hexp, Except.mapError] at h

theorem form_ne_not (positive : Bool) (type : DataType) (l r : Operand) (x : Expr)
    (t : DataType) : form positive type l r ≠ .unary .not x t := by
  unfold form
  split <;> simp [values, connected]

theorem mem_nodes_connected {kind : Connective} {l r n : Expr} (hn : n ∈ l.nodes) :
    n ∈ (connected kind l r).nodes :=
  (Expr.mem_nodes_iff n _).2 (.inr ⟨l, List.mem_cons_self, hn⟩)

/-- The comparison of values is a part of the guarded comparison. -/
theorem mem_nodes_form {positive : Bool} {type : DataType} {l r : Operand} {n : Expr}
    (hn : n ∈ (values positive type l r).nodes) : n ∈ (form positive type l r).nodes := by
  unfold form
  split
  · exact hn
  · exact mem_nodes_connected hn
  · exact mem_nodes_connected hn
  · exact mem_nodes_connected (mem_nodes_connected hn)

theorem mem_nodes_form_of_operand {positive : Bool} {type : DataType} {l r : Operand}
    {n : Expr} (hn : n ∈ l.expr.nodes ∨ n ∈ r.expr.nodes) :
    n ∈ (form positive type l r).nodes := by
  refine mem_nodes_form ((Expr.mem_nodes_iff n _).2 (.inr ?_))
  rcases hn with hl | hr
  · exact ⟨l.expr, List.mem_cons_self, hl⟩
  · exact ⟨r.expr, List.mem_cons_of_mem _ List.mem_cons_self, hr⟩

/-! ### The two-valued form of a node -/

theorem node_eq_refill {e : Expr} (h : e.isEquality = false) (news : List Expr) :
    node e news = .ok (e.refill news) := by
  unfold node
  split
  · simp [Expr.isEquality] at h
  · simp [Expr.isEquality] at h
  · rfl

end TwoValued

open TwoValued

/-- Putting two-valued children in the place of the old ones is never refused, so it does not
matter which error of the pass (`wrap`) a refusal would be. -/
theorem twoValued_eq_withChildren {e : Expr} (he : e.isEquality = false)
    (wrap : BuildError → PassError) :
    twoValued e = (do
      joinCheck e
      let news ← e.children.mapM twoValued
      (e.withChildren news).mapError wrap) := by
  rw [twoValued_eq]
  cases joinCheck e with
  | error cause => rfl
  | ok _ =>
      rw [ok_bind, ok_bind]
      cases hnews : e.children.mapM twoValued with
      | error cause => rfl
      | ok news =>
          rw [ok_bind, ok_bind, Expr.withChildren_of_mapM hnews, node_eq_refill he]
          rfl

/-- Apart from equalities, a node is kept and only its children change. -/
theorem alike_of_twoValued_eq_ok {e e' : Expr} (h : twoValued e = .ok e')
    (he : e.isEquality = false) : e.Alike (fun c c' => twoValued c = .ok c') e' := by
  rw [twoValued_eq, bind_eq_ok_iff] at h
  obtain ⟨-, -, h⟩ := h
  rcases bind_eq_ok_iff.1 h with ⟨news, hnews, h⟩
  rw [node_eq_refill he] at h
  obtain rfl := Except.ok.inj h
  exact Expr.alike_refill (mapM_eq_ok_iff.1 hnews)

theorem twoValued_unary {x x' : Expr} (h : twoValued x = .ok x') (op : UnaryOp) (t : DataType) :
    twoValued (.unary op x t) = .ok (.unary op x' t) := by
  rw [twoValued_eq]
  simp only [Expr.children, List.mapM_cons, List.mapM_nil, h]
  rfl

theorem comparison_of_twoValued_eq_ok {positive : Bool} {left right e' : Expr} {type : DataType}
    (h : twoValued (.binary (.comparison (.equality positive)) left right type) = .ok e') :
    ∃ left' right', twoValued left = .ok left' ∧ twoValued right = .ok right' ∧
      comparison positive left right type left' right' = .ok e' := by
  rw [twoValued_eq, bind_eq_ok_iff] at h
  obtain ⟨-, -, h⟩ := h
  rcases bind_eq_ok_iff.1 h with ⟨news, hnews, h⟩
  rcases mapM_eq_ok_iff.1 hnews with _ | ⟨hleft, _ | ⟨hright, ⟨⟩⟩⟩
  refine ⟨_, _, hleft, hright, ?_⟩
  cases positive <;> exact h

/-- Taking a leading `NOT` off the two-valued form of an operand gives the two-valued
form of the operand without it. -/
theorem operand_of_twoValued_eq_ok {e e' : Expr} (h : twoValued e = .ok e') :
    ∃ x, twoValued e.bare = .ok x ∧ operand e e' = ⟨x, e.isNegation, e.nullable⟩ := by
  cases he : e.isEquality with
  | true =>
      obtain ⟨positive, left, right, type, rfl⟩ := Expr.exists_equality_of_isEquality he
      obtain ⟨left', right', -, -, hcomp⟩ := comparison_of_twoValued_eq_ok h
      refine ⟨e', h, ?_⟩
      unfold operand
      split
      · rename_i x t
        exact absurd (comparison_eq_ok hcomp).symm (form_ne_not positive type _ _ x t)
      · rfl
  | false =>
      cases alike_of_twoValued_eq_ok h he with
      | unary op type hx =>
          cases op with
          | not => exact ⟨_, hx, rfl⟩
          | _ => exact ⟨_, h, rfl⟩
      | _ => exact ⟨_, h, rfl⟩

theorem form_of_twoValued_eq_ok {positive : Bool} {left right e' : Expr} {type : DataType}
    (h : twoValued (.binary (.comparison (.equality positive)) left right type) = .ok e') :
    ∃ l r, twoValued left.bare = .ok l ∧ twoValued right.bare = .ok r ∧
      e' = form positive type ⟨l, left.isNegation, left.nullable⟩
        ⟨r, right.isNegation, right.nullable⟩ := by
  obtain ⟨left', right', hleft, hright, hcomp⟩ := comparison_of_twoValued_eq_ok h
  obtain ⟨l, hl, hlo⟩ := operand_of_twoValued_eq_ok hleft
  obtain ⟨r, hr, hro⟩ := operand_of_twoValued_eq_ok hright
  refine ⟨l, r, hl, hr, ?_⟩
  rw [comparison_eq_ok hcomp, hlo, hro]

/-- What making an expression two-valued can do to the node on top. -/
theorem twoValued_cases {e e' : Expr} (h : twoValued e = .ok e') :
    (∃ positive left right type l r,
      e = .binary (.comparison (.equality positive)) left right type ∧
        twoValued left.bare = .ok l ∧ twoValued right.bare = .ok r ∧
        e' = form positive type ⟨l, left.isNegation, left.nullable⟩
          ⟨r, right.isNegation, right.nullable⟩) ∨
      (e.isEquality = false ∧ e.Alike (fun c c' => twoValued c = .ok c') e') := by
  cases he : e.isEquality with
  | true =>
      obtain ⟨positive, left, right, type, rfl⟩ := Expr.exists_equality_of_isEquality he
      obtain ⟨l, r, hl, hr, heq⟩ := form_of_twoValued_eq_ok h
      exact .inl ⟨positive, left, right, type, l, r, rfl, hl, hr, heq⟩
  | false => exact .inr ⟨rfl, alike_of_twoValued_eq_ok h he⟩

/-- What holds of the guarded comparison of two forms whenever it holds of these, and of
a node that is kept whenever it holds of its children, holds of all two-valued forms. -/
theorem twoValued_induction {motive : Expr → Expr → Prop}
    (equality : ∀ positive left right type l r,
      twoValued (.binary (.comparison (.equality positive)) left right type) =
        .ok (form positive type ⟨l, left.isNegation, left.nullable⟩
          ⟨r, right.isNegation, right.nullable⟩) →
      twoValued left.bare = .ok l → twoValued right.bare = .ok r →
      motive left.bare l → motive right.bare r →
      motive (.binary (.comparison (.equality positive)) left right type)
        (form positive type ⟨l, left.isNegation, left.nullable⟩
          ⟨r, right.isNegation, right.nullable⟩))
    (kept : ∀ e e', e.isEquality = false →
      e.Alike (fun c c' => twoValued c = .ok c' ∧ motive c c') e' → motive e e')
    {e e' : Expr} (h : twoValued e = .ok e') : motive e e' := by
  induction e using Expr.induction_bare generalizing e' with
  | step e ih =>
      obtain ⟨positive, left, right, type, l, r, rfl, hl, hr, rfl⟩ | ⟨he, halike⟩ :=
        twoValued_cases h
      · have hleft : left ∈ [left, right] := List.mem_cons_self
        have hright : right ∈ [left, right] := List.mem_cons_of_mem left List.mem_cons_self
        exact equality positive left right type l r h hl hr ((ih left hleft).2 hl)
          ((ih right hright).2 hr)
      · exact kept e e' he (halike.imp fun c hc c' hc' => ⟨hc', (ih c hc).1 hc'⟩)

/-- The two-valued form of every equality, however deep, is a part of the whole form. -/
theorem exists_form_mem_nodes {e e' n : Expr} (h : twoValued e = .ok e') (hn : n ∈ e.nodes)
    (heq : n.isEquality = true) : ∃ n', twoValued n = .ok n' ∧ n' ∈ e'.nodes := by
  revert hn
  refine twoValued_induction
    (motive := fun e e' => n ∈ e.nodes → ∃ n', twoValued n = .ok n' ∧ n' ∈ e'.nodes) ?_ ?_ h
  · intro positive left right type l r hwhole hl hr ihl ihr hn
    rcases (Expr.mem_nodes_iff n _).1 hn with rfl | ⟨c, hc, hnc⟩
    · exact ⟨_, hwhole, Expr.self_mem_nodes _⟩
    · rcases List.mem_cons.1 hc with rfl | hc
      · obtain ⟨n', hn', hmem⟩ := ihl (Expr.mem_nodes_bare_of_isEquality hnc heq)
        exact ⟨n', hn', mem_nodes_form_of_operand (.inl hmem)⟩
      · rcases List.mem_singleton.1 hc with rfl
        obtain ⟨n', hn', hmem⟩ := ihr (Expr.mem_nodes_bare_of_isEquality hnc heq)
        exact ⟨n', hn', mem_nodes_form_of_operand (.inr hmem)⟩
  · intro e e' he halike hn
    rcases (Expr.mem_nodes_iff n e).1 hn with rfl | ⟨c, hc, hnc⟩
    · simp [heq] at he
    · obtain ⟨c', hc', -, ih⟩ := Expr.exists_mem_right_of_forall₂ halike.children hc
      obtain ⟨n', hn', hmem⟩ := ih hnc
      exact ⟨n', hn', (Expr.mem_nodes_iff n' e').2 (.inr ⟨c', hc', hmem⟩)⟩

end NullLogic
