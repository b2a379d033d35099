import NullLogic.Expr.Basic

/-!
# Equality of expressions

`agree rel e f` compares two trees node by node, and the values of constants by
`rel`. With equality of values it decides equality of expressions, which gives
`Expr` its decidable equality. With `Value.same` it is the coarser `Expr.same`,
which does not tell the two zeros of a number apart.
-/

namespace NullLogic

namespace Expr

mutual

def agree (rel : Value → Value → Bool) : Expr → Expr → Bool
  | constant v s, constant w t => rel v w && s = t
  | column a b s m, column c d t n => a = c && b = d && s = t && m = n
  | parameter a s, parameter b t => a = b && s = t
  | unary o x s, unary p y t => o = p && agree rel x y && s = t
  | binary o x x' s, binary p y y' t => o = p && agree rel x y && agree rel x' y' && s = t
  | like x x' u, like y y' v => agree rel x y && agree rel x' y' && agreeOption rel u v
  | call a u xs s, call b v ys t =>
      a = b && agreeOption rel u v && agreeList rel xs ys && s = t
  | caseWhen u xs u' s, caseWhen v ys v' t =>
      agreeOption rel u v && agreeClauses rel xs ys && agreeOption rel u' v' && s = t
  | table a u, table b v => a = b && u = v
  | join j x x', join k y y' => j = k && agree rel x y && agree rel x' y'
  | _, _ => false
termination_by structural e => e

def agreeOption (rel : Value → Value → Bool) : Option Expr → Option Expr → Bool
  | none, none => true
  | some x, some y => agree rel x y
  | _, _ => false
termination_by structural o => o

def agreeList (rel : Value → Value → Bool) : List Expr → List Expr → Bool
  | [], [] => true
  | x :: xs, y :: ys => agree rel x y && agreeList rel xs ys
  | _, _ => false
termination_by structural es => es

def agreeClauses (rel : Value → Value → Bool) : List (Clause Expr) → List (Clause Expr) → Bool
  | [], [] => true
  | ⟨x, x'⟩ :: xs, ⟨y, y'⟩ :: ys => agree rel x y && agree rel x' y' && agreeClauses rel xs ys
  | _, _ => false
termination_by structural clauses => clauses

end

theorem agree_eq_iff (e f : Expr) : agree (fun v w => v = w) e f = true ↔ e = f := by
  refine Expr.rec
    (motive_1 := fun e => ∀ f, agree (fun v w => v = w) e f = true ↔ e = f)
    (motive_2 := fun o => ∀ p, agreeOption (fun v w => v = w) o p = true ↔ o = p)
    (motive_3 := fun xs => ∀ ys, agreeList (fun v w => v = w) xs ys = true ↔ xs = ys)
    (motive_4 := fun xs => ∀ ys, agreeClauses (fun v w => v = w) xs ys = true ↔ xs = ys)
    (motive_5 := fun k => ∀ test result,
      (agree (fun v w => v = w) k.test test = true ∧
        agree (fun v w => v = w) k.result result = true) ↔ k = ⟨test, result⟩)
    ?_ ?_ ?_ ?_ ?_ ?_ ?_ ?_ ?_ ?_ ?_ ?_ ?_ ?_ ?_ ?_ ?_ e f
  case refine_17 => intro test result ht hr t r; simp [ht, hr]
  case refine_16 =>
    rintro ⟨test, result⟩ clauses hk hc (_ | ⟨⟨t, r⟩, ys⟩)
    · simp [agreeClauses]
    · have := hk t r
      simp_all [agreeClauses]
  all_goals
    intros
    rename_i other
    cases other <;> simp_all [agree, agreeOption, agreeList, agreeClauses, and_assoc]

instance : DecidableEq Expr := fun e f =>
  decidable_of_iff _ (agree_eq_iff e f)

/-- Equality up to the sign of zeros. -/
def same (e f : Expr) : Bool :=
  agree Value.same e f

end Expr

end NullLogic
