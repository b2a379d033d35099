import NullLogic.Expr.Basic

/-!
# The children of a node

`children` lists the expressions directly below a node in the order in which
they are evaluated; an absent optional child is left out. `refill` puts other
expressions in their place and keeps everything else about the node. The two
undo each other: `refill_children` and `children_refill`.

`fold` computes a result at every node from the node itself and the results at
its children, as `fold_eq` says, and `induction` is the principle of proof that
goes with it.
-/

namespace NullLogic

namespace Expr

def clauseChildren (clauses : List (Clause Expr)) : List Expr :=
  clauses.flatMap fun clause => [clause.test, clause.result]

@[simp] theorem clauseChildren_nil : clauseChildren [] = [] := rfl

@[simp] theorem clauseChildren_cons (clause : Clause Expr) (clauses : List (Clause Expr)) :
    clauseChildren (clause :: clauses) =
      clause.test :: clause.result :: clauseChildren clauses := rfl

def children : Expr → List Expr
  | constant _ _ | column _ _ _ _ | parameter _ _ | table _ _ => []
  | unary _ operand _ => [operand]
  | binary _ left right _ => [left, right]
  | like subject pattern escape => subject :: pattern :: escape.toList
  | call _ receiver args _ => receiver.toList ++ args
  | caseWhen operand clauses otherwise _ =>
      operand.toList ++ (clauseChildren clauses ++ otherwise.toList)
  | join _ source predicate => [source, predicate]

/-! ### Replacing the children

Each of the following takes the replacements it needs off the front of a list
and returns the rest. Where the list is too short, the old child stays. -/

def refillOne (old : Expr) : List Expr → Expr × List Expr
  | [] => (old, [])
  | new :: rest => (new, rest)

def refillOption : Option Expr → List Expr → Option Expr × List Expr
  | none, rest => (none, rest)
  | some old, rest => ((refillOne old rest).1, (refillOne old rest).2)

def refillList : List Expr → List Expr → List Expr × List Expr
  | [], rest => ([], rest)
  | old :: olds, rest =>
      let first := refillOne old rest
      let others := refillList olds first.2
      (first.1 :: others.1, others.2)

def refillClauses : List (Clause Expr) → List Expr → List (Clause Expr) × List Expr
  | [], rest => ([], rest)
  | old :: olds, rest =>
      let test := refillOne old.test rest
      let result := refillOne old.result test.2
      let others := refillClauses olds result.2
      (⟨test.1, result.1⟩ :: others.1, others.2)

/-- The node with the given expressions as its children, in order. -/
def refill (e : Expr) (news : List Expr) : Expr :=
  match e with
  | constant _ _ | column _ _ _ _ | parameter _ _ | table _ _ => e
  | unary op operand type => unary op (refillOne operand news).1 type
  | binary op left right type =>
      let left := refillOne left news
      binary op left.1 (refillOne right left.2).1 type
  | like subject pattern escape =>
      let subject := refillOne subject news
      let pattern := refillOne pattern subject.2
      like subject.1 pattern.1 (refillOption escape pattern.2).1
  | call name receiver args type =>
      let receiver := refillOption receiver news
      call name receiver.1 (refillList args receiver.2).1 type
  | caseWhen operand clauses otherwise type =>
      let operand := refillOption operand news
      let clauses := refillClauses clauses operand.2
      caseWhen operand.1 clauses.1 (refillOption otherwise clauses.2).1 type
  | join kind source predicate =>
      let source := refillOne source news
      join kind source.1 (refillOne predicate source.2).1

@[simp] theorem refillOne_cons (old new : Expr) (rest : List Expr) :
    refillOne old (new :: rest) = (new, rest) := rfl

@[simp] theorem refillOption_self (o : Option Expr) (rest : List Expr) :
    refillOption o (o.toList ++ rest) = (o, rest) := by
  cases o <;> rfl

@[simp] theorem refillList_self (es rest : List Expr) :
    refillList es (es ++ rest) = (es, rest) := by
  induction es with
  | nil => rfl
  | cons e es ih => simp [refillList, ih]

@[simp] theorem refillClauses_self (clauses : List (Clause Expr)) (rest : List Expr) :
    refillClauses clauses (clauseChildren clauses ++ rest) = (clauses, rest) := by
  induction clauses with
  | nil => rfl
  | cons clause clauses ih => simp [refillClauses, ih]

/-- A node is made up again of its own children. -/
@[simp] theorem refill_children (e : Expr) : e.refill e.children = e := by
  cases e with
  | like subject pattern escape =>
      have h := refillOption_self escape []
      simp_all [refill, children]
  | call name receiver args type =>
      have h := refillList_self args []
      simp_all [refill, children]
  | caseWhen operand clauses otherwise type =>
      have h := refillOption_self otherwise []
      simp_all [refill, children]
  | _ => simp [refill, children]

theorem refillOption_spec (o : Option Expr) (news : List Expr)
    (h : o.toList.length ≤ news.length) :
    (refillOption o news).1.toList = news.take o.toList.length ∧
      (refillOption o news).2 = news.drop o.toList.length := by
  cases o with
  | none => simp [refillOption]
  | some old => cases news <;> simp_all [refillOption]

theorem refillList_spec (es news : List Expr) (h : es.length ≤ news.length) :
    (refillList es news).1 = news.take es.length ∧
      (refillList es news).2 = news.drop es.length := by
  induction es generalizing news with
  | nil => simp [refillList]
  | cons e es ih =>
      cases news with
      | nil => simp at h
      | cons new news =>
          have := ih news (by simpa using h)
          simp [refillList, this]

theorem refillClauses_spec (clauses : List (Clause Expr)) (news : List Expr)
    (h : (clauseChildren clauses).length ≤ news.length) :
    clauseChildren (refillClauses clauses news).1 = news.take (clauseChildren clauses).length ∧
      (refillClauses clauses news).2 = news.drop (clauseChildren clauses).length := by
  induction clauses generalizing news with
  | nil => simp [refillClauses]
  | cons clause clauses ih =>
      match news, h with
      | test :: result :: news, h =>
          have := ih news (by simpa using h)
          simp [refillClauses, this]

/-- The replacements are the new children, if there are as many as there were
children. -/
theorem children_refill (e : Expr) (news : List Expr) (h : e.children.length = news.length) :
    (e.refill news).children = news := by
  cases e with
  | like subject pattern escape =>
      match news, h with
      | s :: p :: news, h =>
          have hs := refillOption_spec escape news (by simp_all [children])
          simp_all [refill, children]
  | call name receiver args type =>
      have hl : receiver.toList.length + args.length = news.length := by
        simpa [children] using h
      have hr := refillOption_spec receiver news (by omega)
      have ha := refillList_spec args (news.drop receiver.toList.length) (by simp; omega)
      have ht : (news.drop receiver.toList.length).take args.length =
          news.drop receiver.toList.length :=
        List.take_of_length_le (by simp; omega)
      simp [refill, children, hr, ha, ht]
  | caseWhen operand clauses otherwise type =>
      have hl : operand.toList.length +
          ((clauseChildren clauses).length + otherwise.toList.length) = news.length := by
        simpa [children] using h
      have ho := refillOption_spec operand news (by omega)
      have hc := refillClauses_spec clauses (news.drop operand.toList.length) (by simp; omega)
      have hd := refillOption_spec otherwise
        ((news.drop operand.toList.length).drop (clauseChildren clauses).length)
        (by simp; omega)
      have ht : ((news.drop operand.toList.length).drop
            (clauseChildren clauses).length).take otherwise.toList.length =
          (news.drop operand.toList.length).drop (clauseChildren clauses).length :=
        List.take_of_length_le (by simp; omega)
      simp only [refill, children, ho, hc, hd, ht, List.take_append_drop]
  | unary op operand type =>
      match news, h with
      | [_], _ => rfl
  | binary op left right type =>
      match news, h with
      | [_, _], _ => rfl
  | join kind source predicate =>
      match news, h with
      | [_, _], _ => rfl
  | _ =>
      have hn : news = [] := List.length_eq_zero_iff.1 h.symm
      simp [hn, refill, children]

/-! ### Recursion and induction over children -/

universe u

variable {β : Type u}

mutual

/-- The result at a node, from the node and the results at its children. -/
def fold (f : Expr → List β → β) : Expr → β
  | constant value type => f (constant value type) []
  | column source name type nullable => f (column source name type nullable) []
  | parameter name type => f (parameter name type) []
  | unary op operand type => f (unary op operand type) [fold f operand]
  | binary op left right type => f (binary op left right type) [fold f left, fold f right]
  | like subject pattern escape =>
      f (like subject pattern escape)
        (fold f subject :: fold f pattern :: foldOption f escape)
  | call name receiver args type =>
      f (call name receiver args type) (foldOption f receiver ++ foldList f args)
  | caseWhen operand clauses otherwise type =>
      f (caseWhen operand clauses otherwise type)
        (foldOption f operand ++ (foldClauses f clauses ++ foldOption f otherwise))
  | table name label => f (table name label) []
  | join kind source predicate => f (join kind source predicate) [fold f source, fold f predicate]

def foldOption (f : Expr → List β → β) : Option Expr → List β
  | none => []
  | some e => [fold f e]

def foldList (f : Expr → List β → β) : List Expr → List β
  | [] => []
  | e :: es => fold f e :: foldList f es

def foldClauses (f : Expr → List β → β) : List (Clause Expr) → List β
  | [] => []
  | ⟨test, result⟩ :: clauses => fold f test :: fold f result :: foldClauses f clauses

end

theorem foldOption_eq (f : Expr → List β → β) (o : Option Expr) :
    foldOption f o = o.toList.map (fold f) := by
  cases o <;> rfl

theorem foldList_eq (f : Expr → List β → β) (es : List Expr) :
    foldList f es = es.map (fold f) := by
  induction es with
  | nil => rfl
  | cons e es ih => simp [foldList, ih]

theorem foldClauses_eq (f : Expr → List β → β) (clauses : List (Clause Expr)) :
    foldClauses f clauses = (clauseChildren clauses).map (fold f) := by
  induction clauses with
  | nil => rfl
  | cons clause clauses ih => simp [foldClauses, ih]

theorem fold_eq (f : Expr → List β → β) (e : Expr) :
    fold f e = f e (e.children.map (fold f)) := by
  cases e <;> simp [fold, children, foldOption_eq, foldList_eq, foldClauses_eq]

/-- What holds of a node whenever it holds of the children holds of all expressions. -/
@[elab_as_elim]
theorem induction {motive : Expr → Prop}
    (step : ∀ e, (∀ c ∈ e.children, motive c) → motive e) (e : Expr) : motive e := by
  have clause : ∀ clauses : List (Clause Expr),
      (∀ k ∈ clauses, motive k.test ∧ motive k.result) →
        ∀ c ∈ clauseChildren clauses, motive c := by
    intro clauses h c hc
    simp only [clauseChildren, List.mem_flatMap] at hc
    obtain ⟨k, hk, hc⟩ := hc
    have := h k hk
    simp only [List.mem_cons, List.not_mem_nil, or_false] at hc
    rcases hc with rfl | rfl
    · exact this.1
    · exact this.2
  refine Expr.rec (motive_1 := motive)
    (motive_2 := fun o => ∀ c ∈ o.toList, motive c)
    (motive_3 := fun es => ∀ c ∈ es, motive c)
    (motive_4 := fun clauses => ∀ k ∈ clauses, motive k.test ∧ motive k.result)
    (motive_5 := fun k => motive k.test ∧ motive k.result)
    ?_ ?_ ?_ ?_ ?_ ?_ ?_ ?_ ?_ ?_ ?_ ?_ ?_ ?_ ?_ ?_ ?_ e
  case refine_8 =>
    intro operand clauses otherwise type ho hc hd
    apply step
    simp only [children, List.mem_append]
    rintro c (h | h | h)
    · exact ho c h
    · exact clause clauses hc c h
    · exact hd c h
  case refine_7 =>
    intro name receiver args type hr ha
    apply step
    simp only [children, List.mem_append]
    rintro c (h | h)
    · exact hr c h
    · exact ha c h
  case refine_6 =>
    intro subject pattern escape hs hp he
    apply step
    simp only [children, List.mem_cons]
    rintro c (rfl | rfl | h)
    · exact hs
    · exact hp
    · exact he c h
  case refine_14 =>
    intro e es he hes c hc
    rcases List.mem_cons.1 hc with rfl | hc
    · exact he
    · exact hes c hc
  case refine_16 =>
    intro k ks hk hks c hc
    rcases List.mem_cons.1 hc with rfl | hc
    · exact hk
    · exact hks c hc
  case refine_17 => exact fun test result ht hr => ⟨ht, hr⟩
  case refine_11 => intro c hc; simp at hc
  case refine_12 => intro e he c hc; simp_all
  case refine_13 => intro c hc; simp at hc
  case refine_15 => intro k hk; simp at hk
  all_goals
    intros
    apply step
    simp_all [children]

end Expr

end NullLogic
