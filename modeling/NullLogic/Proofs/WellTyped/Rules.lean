import NullLogic.Proofs.Checked
import NullLogic.Proofs.Expr.Alike
import NullLogic.Proofs.Typing
import NullLogic.WellTyped

/-!
# Typing rules

`Expr.NodeTyped` has one rule for each kind of node. Its operands have types that it takes,
and its own type is the one that follows from them, or has been before a Boolean operand
was simplified to an untyped `NULL`. Nodes that pass their check with their own type are
typed (`IsChecked.nodeTyped`), and remain so with other operands, as long as each can stand
where the old one stood (`NodeTyped.of_alike`).
-/

namespace NullLogic

namespace Expr

inductive NodeTyped : Expr → Prop where
  | constant {value : Value} {type : DataType} (h : value.isValidFor type = true) :
      NodeTyped (constant value type)
  | column (source name : String) (type : DataType) (nullable : Bool) :
      NodeTyped (column source name type nullable)
  | parameter (name : String) (type : DataType) : NodeTyped (parameter name type)
  | unary {op : UnaryOp} {x : Expr} {t type : DataType}
      (h : op.resultType? x.dataType = some t) (htype : type.SimplifiesTo t) :
      NodeTyped (unary op x type)
  | binary {op : BinaryOp} {l r : Expr} {t type : DataType}
      (h : op.resultType? l.dataType r.dataType = some t) (htype : type.SimplifiesTo t) :
      NodeTyped (binary op l r type)
  | like {subject pattern : Expr} {escape : Option Expr}
      (h : ∀ x ∈ subject :: pattern :: escape.toList, x.dataType.isString = true) :
      NodeTyped (like subject pattern escape)
  | call (name : String) (receiver : Option Expr) (args : List Expr) (type : DataType) :
      NodeTyped (call name receiver args type)
  | caseWhen {operand otherwise : Option Expr} {clauses : List (Clause Expr)}
      {t type : DataType} (h : Checked.CaseFits operand clauses otherwise t)
      (htype : type.SimplifiesTo t) : NodeTyped (caseWhen operand clauses otherwise type)
  | table (name : String) (label : Option String) : NodeTyped (table name label)
  | join (kind : JoinKind) {source : Expr} (predicate : Expr) (h : source.isTable = true) :
      NodeTyped (join kind source predicate)

theorem IsChecked.nodeTyped {e : Expr} (h : e.IsChecked) : NodeTyped e := by
  unfold IsChecked at h
  cases e with
  | constant value type =>
      refine .constant ?_
      cases hvalid : value.isValidFor type <;> simp_all [Checked.again, Checked.constant]
  | column source name type nullable => exact .column source name type nullable
  | parameter name type => exact .parameter name type
  | unary op x type =>
      refine .unary ?_ (.refl type)
      cases htype : op.resultType? x.dataType <;>
        simp_all [Checked.again, Checked.unary]
  | binary op l r type =>
      refine .binary ?_ (.refl type)
      cases htype : op.resultType? l.dataType r.dataType <;>
        simp_all [Checked.again, Checked.binary]
  | like subject pattern escape =>
      refine .like ?_
      cases hall : ((subject :: pattern :: escape.toList).map dataType).all DataType.isString with
      | true => simpa using hall
      | false =>
          simp only [Checked.again, Checked.like, hall, Bool.false_eq_true, if_false,
            reduceCtorEq] at h
  | call name receiver args type => exact .call name receiver args type
  | caseWhen operand clauses otherwise type =>
      obtain ⟨type', hfits, heq⟩ | ⟨-, types, heq⟩ :=
        Checked.caseWhen_cases operand clauses otherwise
      · rw [Checked.again, heq] at h
        obtain rfl : type' = type := by simpa using h
        exact .caseWhen hfits (.refl type')
      · simp [Checked.again, heq] at h
  | table name label => exact .table name label
  | join kind source predicate =>
      refine .join kind predicate ?_
      cases hs : source.isTable with
      | true => rfl
      | false => simp [Checked.again, Checked.join, hs] at h

theorem WellTyped.nodeTyped {e : Expr} (he : e.WellTyped) : e.Everywhere NodeTyped :=
  he.mono fun _ hn => hn.nodeTyped

theorem IsChecked.isEquiPredicate {kind : JoinKind} {source predicate : Expr}
    (h : (join kind source predicate).IsChecked) : predicate.isEquiPredicate = true := by
  unfold IsChecked at h
  cases hs : source.isTable <;> cases hp : predicate.isEquiPredicate <;>
    simp [Checked.again, Checked.join, hs, hp] at h
  rfl

theorem NodeTyped.operandsChecked {e : Expr} (h : NodeTyped e) : e.OperandsChecked := by
  intro cause hcause
  cases h with
  | constant h => simp [Checked.again, Checked.constant, h] at hcause
  | unary h => simp [Checked.again, Checked.unary, h] at hcause
  | binary h => simp [Checked.again, Checked.binary, h] at hcause
  | @like subject pattern escape h =>
      have hall : ((subject :: pattern :: escape.toList).map dataType).all
          DataType.isString = true := by simpa using h
      simp only [Checked.again, Checked.like, hall, if_true, reduceCtorEq] at hcause
  | @caseWhen operand otherwise clauses t type h =>
      obtain ⟨type', -, heq⟩ | ⟨hnot, -⟩ := Checked.caseWhen_cases operand clauses otherwise
      · simp [Checked.again, heq] at hcause
      · exact absurd h (hnot t)
  | join kind predicate h =>
      refine ⟨predicate, ?_⟩
      cases hp : predicate.isEquiPredicate <;>
        simp [Checked.again, Checked.join, h, hp] at hcause
      exact hcause.symm
  | _ => exact nomatch hcause

/-! ### Boolean nodes -/

theorem NodeTyped.truth {c : Bool} {type : DataType}
    (h : (Expr.constant (.bool c) type).NodeTyped) : type = .boolean := by
  cases h with
  | constant hvalid => exact of_decide_eq_true hvalid

theorem NodeTyped.not {x : Expr} {type : DataType}
    (h : (Expr.unary .not x type).NodeTyped) : x.dataType.isBoolean = true ∧ type = .boolean := by
  cases h with
  | unary ht htype =>
      obtain ⟨hx, heq⟩ := Option.ite_none_right_eq_some.1 ht
      obtain rfl := Option.some.inj heq
      exact ⟨hx, DataType.simplifiesTo_boolean_iff.1 htype⟩

theorem NodeTyped.test {kind : NullTest} {x : Expr} {type : DataType}
    (h : (Expr.unary (.test kind) x type).NodeTyped) : type = .boolean := by
  cases h with
  | unary ht htype =>
      obtain rfl := Option.some.inj ht
      exact DataType.simplifiesTo_boolean_iff.1 htype

theorem NodeTyped.connective {kind : Connective} {l r : Expr} {type : DataType}
    (h : (Expr.binary (.connective kind) l r type).NodeTyped) :
    l.dataType.isBoolean = true ∧ r.dataType.isBoolean = true ∧ type = .boolean := by
  cases h with
  | binary ht htype =>
      obtain ⟨hlr, heq⟩ := Option.ite_none_right_eq_some.1 ht
      obtain rfl := Option.some.inj heq
      obtain ⟨hl, hr⟩ := Bool.and_eq_true_iff.1 hlr
      exact ⟨hl, hr, DataType.simplifiesTo_boolean_iff.1 htype⟩

theorem NodeTyped.comparison {kind : Comparison} {l r : Expr} {type : DataType}
    (h : (Expr.binary (.comparison kind) l r type).NodeTyped) :
    type = .boolean ∧ ∃ t, l.dataType.commonType? r.dataType = some t := by
  cases h with
  | binary ht htype =>
      obtain ⟨t, hcommon, rfl⟩ := Option.map_eq_some_iff.1 ht
      exact ⟨DataType.simplifiesTo_boolean_iff.1 htype, t, hcommon⟩

/-! ### Other operands -/

/-- `f` can stand as an operand where `e` stands. -/
structure ReplaceableBy (e f : Expr) : Prop where
  type : e.dataType.SimplifiesTo f.dataType
  table : e.isTable = true → f.isTable = true

theorem ReplaceableBy.trans {e f g : Expr} (h : e.ReplaceableBy f) (h' : f.ReplaceableBy g) :
    e.ReplaceableBy g :=
  ⟨h.type.trans h'.type, fun he => h'.table (h.table he)⟩

variable {rel : Expr → Expr → Prop}

theorem Alike.dataType {e f : Expr} (h : e.Alike rel f) : f.dataType = e.dataType := by
  cases h <;> rfl

theorem Alike.isTable {e f : Expr} (h : e.Alike rel f) : f.isTable = e.isTable := by
  cases h <;> rfl

theorem Alike.replaceableBy {e f : Expr} (h : e.Alike rel f) : e.ReplaceableBy f :=
  ⟨h.dataType ▸ .refl _, fun he => h.isTable.trans he⟩

theorem exists_caseFits {operand operand' otherwise otherwise' : Option Expr}
    {clauses clauses' : List (Clause Expr)} {t : DataType}
    (h : Checked.CaseFits operand clauses otherwise t)
    (hoperand : Option.Rel ReplaceableBy operand operand')
    (hclauses : List.Forall₂ (Clause.Alike ReplaceableBy) clauses clauses')
    (hotherwise : Option.Rel ReplaceableBy otherwise otherwise') :
    ∃ t', Checked.CaseFits operand' clauses' otherwise' t' ∧ t.SimplifiesTo t' := by
  have htest : (Checked.testType operand).SimplifiesTo (Checked.testType operand') := by
    cases hoperand with
    | none => exact .refl .boolean
    | some hx => exact hx.type
  have hresults : List.Forall₂ DataType.SimplifiesTo (Checked.resultTypes clauses otherwise)
      (Checked.resultTypes clauses' otherwise') := by
    refine List.rel_append ?_ ?_
    · exact List.forall₂_map_left_iff.2 (List.forall₂_map_right_iff.2
        (hclauses.imp fun _ _ hk => hk.result.type))
    · cases hotherwise with
      | none => exact .nil
      | some hx => exact .cons hx.type .nil
  obtain ⟨t', ht', htt'⟩ := DataType.exists_commonTypeOfAll? hresults h.results
  refine ⟨t', ⟨?_, fun l hl => ?_, ht'⟩, htt'⟩
  · rintro rfl
    cases hclauses
    exact h.clauses_ne_nil rfl
  · obtain ⟨k, hk, hkl⟩ := exists_mem_left_of_forall₂ hclauses hl
    obtain ⟨u, hu⟩ := Option.isSome_iff_exists.1 (h.tests k hk)
    obtain ⟨u', hu', -⟩ := DataType.exists_commonType? hu htest hkl.test.type
    exact Option.isSome_iff_exists.2 ⟨u', hu'⟩

/-- A text is no truth value, so its type is not simplified. -/
theorem ReplaceableBy.isString {e f : Expr} (h : e.ReplaceableBy f)
    (he : e.dataType.isString = true) : f.dataType.isString = true := by
  have hne : e.dataType ≠ .boolean := by
    intro hboolean
    simp [hboolean, DataType.isString] at he
  rwa [h.type.eq_of_ne_boolean hne]

theorem NodeTyped.of_alike {e f : Expr} (he : NodeTyped e) (h : e.Alike ReplaceableBy f) :
    NodeTyped f := by
  cases h with
  | constant value type => exact he
  | column source name type nullable => exact .column source name type nullable
  | parameter name type => exact .parameter name type
  | unary op type hx =>
      cases he with
      | unary ht htype =>
          obtain ⟨t', ht', htt'⟩ := UnaryOp.exists_resultType? ht hx.type
          exact .unary ht' (htype.trans htt')
  | binary op type hx hx' =>
      cases he with
      | binary ht htype =>
          obtain ⟨t', ht', htt'⟩ := BinaryOp.exists_resultType? ht hx.type hx'.type
          exact .binary ht' (htype.trans htt')
  | like hx hx' hu =>
      cases he with
      | like hstrings =>
          refine .like fun y hy => ?_
          have hchildren := List.Forall₂.cons hx (.cons hx' (forall₂_toList hu))
          obtain ⟨x, hxmem, hxy⟩ := exists_mem_left_of_forall₂ hchildren hy
          exact hxy.isString (hstrings x hxmem)
  | call name type hu hxs => exact .call name _ _ type
  | caseWhen type hu hxs hu' =>
      cases he with
      | caseWhen hfits htype =>
          obtain ⟨t', ht', htt'⟩ := exists_caseFits hfits hu hxs hu'
          exact .caseWhen ht' (htype.trans htt')
  | table name label => exact .table name label
  | join kind hx hx' =>
      cases he with
      | join _ _ hs => exact .join kind _ (hx.table hs)

end Expr

end NullLogic
