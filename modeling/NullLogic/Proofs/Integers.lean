import NullLogic.Expr.Nodes
import NullLogic.Sample

/-!
# Integer arithmetic

On integers of any size an operation has a result unless it divides by zero. `Expr.exact` takes
these results for a whole expression, with `none` for `NULL`, and knows no bounds. What 64 bits
refuse is said of each node by itself, in `Expr.integerFault?`, from the exact values of its
operands.

`evaluate_integers` joins the two: the outcome is the fault of the first node that has one,
operands before operators and from left to right, and where there is none it is the exact
value. `Yields` states this of any outcome, so that the proof can follow the operators:
`UnaryOp.apply_yields` and `Arithmetic.apply_yields` for one of them, and `Yields.bind` for what
comes after an operand.
-/

namespace NullLogic

/-! ### Integers of 64 bits -/

def InRange (n : Int) : Prop :=
  Int64.minValue.toInt ≤ n ∧ n ≤ Int64.maxValue.toInt

instance : DecidablePred InRange := fun n =>
  inferInstanceAs (Decidable (Int64.minValue.toInt ≤ n ∧ n ≤ Int64.maxValue.toInt))

theorem inRange_iff (n : Int) :
    InRange n ↔ -9223372036854775808 ≤ n ∧ n ≤ 9223372036854775807 := Iff.rfl

theorem inRange_toInt (n : Int64) : InRange n.toInt :=
  ⟨n.minValue_le_toInt, n.toInt_le⟩

theorem toInt_ofInt_of_inRange {n : Int} (h : InRange n) : (Int64.ofInt n).toInt = n := by
  rw [inRange_iff] at h
  exact Int64.toInt_ofInt_of_le (by omega) (by omega)

theorem bounded_of_inRange {n : Int} (h : InRange n) : bounded n = some n :=
  if_pos h

theorem bounded_of_not_inRange {n : Int} (h : ¬ InRange n) : bounded n = none :=
  if_neg h

/-- Only the quotient of the least integer by `-1` is out of range. -/
theorem inRange_tdiv_iff {m n : Int} (hm : InRange m) (hn : n ≠ 0) :
    InRange (m.tdiv n) ↔ ¬ (m = Int64.minValue.toInt ∧ n = -1) := by
  have hmin : Int64.minValue.toInt = -9223372036854775808 := rfl
  rw [inRange_iff] at hm ⊢
  by_cases hneg : n = -1
  · rw [hneg, Int.tdiv_neg, Int.tdiv_one]
    omega
  · by_cases hone : n = 1
    · rw [hone, Int.tdiv_one]
      omega
    · -- any other divisor leaves at most half of the dividend
      have hhalf : (m.tdiv n).natAbs ≤ m.natAbs / 2 := by
        rw [Int.natAbs_tdiv]
        exact Nat.div_le_div_left (by omega) (by decide)
      omega

/-- A remainder lies between zero and the dividend. -/
theorem inRange_tmod {m : Int} (hm : InRange m) (n : Int) : InRange (m.tmod n) := by
  have hle : (m.tmod n).natAbs ≤ m.natAbs := by
    rw [Int.natAbs_tmod]
    exact Nat.mod_le _ _
  have hpos : 0 ≤ m → 0 ≤ m.tmod n := Int.tmod_nonneg n
  have hneg : 0 ≤ -m → 0 ≤ (-m).tmod n := Int.tmod_nonneg n
  rw [Int.neg_tmod] at hneg
  rw [inRange_iff] at hm ⊢
  omega

/-! ### Operations on integers of any size -/

/-- Why an integer has no negation. -/
def negationFault? (n : Int) : Option EvalError :=
  if InRange (-n) then none else some (.overflow (.unary .negate))

namespace Arithmetic

/-- Division truncates towards zero, and a remainder has the sign of the dividend. Results for
a zero divisor mean nothing. -/
def exact (kind : Arithmetic) (m n : Int) : Int :=
  match kind with
  | add => m + n
  | subtract => m - n
  | multiply => m * n
  | divide => m.tdiv n
  | modulo => m.tmod n

/-- Why the operation has no result on two integers. The remainder of the least integer by `-1`
is refused although it is zero. -/
def fault? (kind : Arithmetic) (m n : Int) : Option EvalError :=
  if (kind = divide ∨ kind = modulo) ∧ n = 0 then some .divisionByZero
  else if ¬ InRange (kind.exact m n) ∨
      (kind = modulo ∧ m = Int64.minValue.toInt ∧ n = -1) then
    some (.overflow (.binary (.arithmetic kind)))
  else none

/-- Where no divisor is zero, the result in 64 bits is the exact one if there is no fault. -/
theorem onInts_eq {kind : Arithmetic} {m n : Int} (hm : InRange m)
    (hn : kind.divides = true → n ≠ 0) :
    kind.onInts m n = if kind.fault? m n = none then some (kind.exact m n) else none := by
  have hbounded : ∀ r, bounded r = if InRange r then some r else none := fun _ => rfl
  cases kind with
  | divide => simp [onInts, fault?, exact, hbounded, hn rfl]
  | modulo =>
      have hrem : InRange (m.tmod n) := inRange_tmod hm n
      simp only [onInts, fault?, exact, hbounded, inRange_tdiv_iff hm (hn rfl)]
      by_cases hleast : m = Int64.minValue.toInt ∧ n = -1 <;> simp [hleast, hn rfl, hrem]
  | _ => simp [onInts, fault?, exact, hbounded]

end Arithmetic

/-! ### Outcomes of operators -/

namespace Value

/-- An integer or `NULL`. -/
def IsInteger : Value → Prop
  | null | int _ => True
  | _ => False

instance : DecidablePred IsInteger
  | null | int _ => isTrue trivial
  | bool _ | float _ | string _ => isFalse id

def integer? : Value → Option Int
  | int n => some n.toInt
  | _ => none

theorem IsInteger.eq_null_or_int {v : Value} (h : v.IsInteger) : v = null ∨ ∃ n, v = int n := by
  cases v with
  | null => exact .inl rfl
  | int n => exact .inr ⟨n, rfl⟩
  | _ => exact h.elim

end Value

/-- The outcome is the fault, if there is one, and otherwise the exact value. -/
def Yields (fault : Option EvalError) (exact : Option Int) (x : Except EvalError Value) : Prop :=
  match fault with
  | some error => x = .error error
  | none => ∃ v, x = .ok v ∧ v.IsInteger ∧ v.integer? = exact

theorem yields_null : Yields none none (.ok .null) :=
  ⟨.null, rfl, trivial, rfl⟩

theorem yields_intResult {operation : Operation} {n : Int} (h : InRange n) :
    Yields none (some n) (intResult operation (some n)) :=
  ⟨.int (Int64.ofInt n), rfl, trivial, congrArg some (toInt_ofInt_of_inRange h)⟩

/-- A fault of the operand comes before those of what is done with its value. -/
theorem Yields.bind {fault fault' : Option EvalError} {exact exact' : Option Int}
    {x : Except EvalError Value} {f : Value → Except EvalError Value}
    (h : Yields fault exact x)
    (hf : ∀ v, v.IsInteger → v.integer? = exact → Yields fault' exact' (f v)) :
    Yields (fault.or fault') exact' (x >>= f) := by
  cases fault with
  | some error =>
      have hx : x = .error error := h
      rw [hx]
      rfl
  | none =>
      obtain ⟨v, rfl, hv, hexact⟩ := h
      exact hf v hv hexact

theorem UnaryOp.apply_yields {v : Value} (hv : v.IsInteger) :
    Yields (v.integer?.bind negationFault?) (v.integer?.map (- ·)) (UnaryOp.negate.apply v) := by
  obtain rfl | ⟨n, rfl⟩ := hv.eq_null_or_int
  · exact yields_null
  · change Yields (negationFault? n.toInt) (some (-n.toInt))
      (intResult (.unary .negate) (bounded (-n.toInt)))
    by_cases hrange : InRange (-n.toInt)
    · rw [negationFault?, if_pos hrange, bounded_of_inRange hrange]
      exact yields_intResult hrange
    · rw [negationFault?, if_neg hrange, bounded_of_not_inRange hrange]
      rfl

namespace Arithmetic

theorem inRange_of_fault? {kind : Arithmetic} {m n : Int} (h : kind.fault? m n = none) :
    InRange (kind.exact m n) := by
  unfold fault? at h
  split at h
  · simp at h
  · split at h
    · simp at h
    · rename_i hfault
      exact Decidable.not_not.1 fun hrange => hfault (.inl hrange)

theorem fault?_of_divides {kind : Arithmetic} {n : Int} (h : kind.divides = true) (m : Int)
    (hn : n = 0) : kind.fault? m n = some .divisionByZero := by
  cases kind <;> simp_all [divides, fault?]

theorem fault?_eq_overflow {kind : Arithmetic} {m n : Int} {error : EvalError}
    (hn : kind.divides = true → n ≠ 0) (h : kind.fault? m n = some error) :
    error = .overflow (.binary (.arithmetic kind)) := by
  unfold fault? at h
  split at h
  · rename_i hzero
    rcases hzero with ⟨rfl | rfl, rfl⟩ <;> exact absurd rfl (hn rfl)
  · split at h
    · exact (Option.some.inj h).symm
    · simp at h

theorem apply_yields (kind : Arithmetic) {v w : Value} (hv : v.IsInteger) (hw : w.IsInteger) :
    Yields (v.integer?.bind fun m => w.integer?.bind (kind.fault? m))
      (v.integer?.bind fun m => w.integer?.map (kind.exact m)) (kind.apply v w) := by
  obtain rfl | ⟨m, rfl⟩ := hv.eq_null_or_int
  · exact yields_null
  obtain rfl | ⟨n, rfl⟩ := hw.eq_null_or_int
  · exact yields_null
  change Yields (kind.fault? m.toInt n.toInt) (some (kind.exact m.toInt n.toInt))
    (if kind.divides && n = 0 then .error .divisionByZero
      else intResult (.binary (.arithmetic kind)) (kind.onInts m.toInt n.toInt))
  by_cases hzero : (kind.divides && decide (n = 0)) = true
  · rw [if_pos hzero]
    obtain ⟨hdivides, hn⟩ : kind.divides = true ∧ n = 0 := by simpa using hzero
    rw [fault?_of_divides hdivides m.toInt (congrArg Int64.toInt hn)]
    rfl
  · have hn : kind.divides = true → n.toInt ≠ 0 := by
      intro hdivides hn
      have : n = 0 := Int64.toInt_inj.1 hn
      simp_all
    rw [if_neg hzero, onInts_eq (inRange_toInt m) hn]
    cases hfault : kind.fault? m.toInt n.toInt with
    | some error =>
        rw [fault?_eq_overflow hn hfault]
        rfl
    | none => exact yields_intResult (inRange_of_fault? hfault)

end Arithmetic

/-! ### Expressions -/

namespace Expr

/-- All nodes, each after everything below it, and what is on the left before what is on the
right. -/
def operandsFirst (e : Expr) : List Expr :=
  e.fold fun e below => below.flatten ++ [e]

theorem operandsFirst_eq (e : Expr) :
    e.operandsFirst = e.children.flatMap operandsFirst ++ [e] := by
  rw [operandsFirst, fold_eq, List.flatMap_def]
  rfl

variable (b : Bindings)

/-- The node is an integer, `NULL`, a name bound to one of these, or an operation on them. -/
def IntegerNode : Expr → Prop
  | constant value _ => value.IsInteger
  | column source name _ _ => ∃ v ∈ b.column source name, v.IsInteger
  | parameter name _ => ∃ v ∈ b.parameter name, v.IsInteger
  | unary .negate _ _ => True
  | binary (.arithmetic _) _ _ _ => True
  | _ => False

instance : DecidablePred (IntegerNode b)
  | constant value _ => inferInstanceAs (Decidable value.IsInteger)
  | column source name _ _ => inferInstanceAs (Decidable (∃ v ∈ b.column source name, v.IsInteger))
  | parameter name _ => inferInstanceAs (Decidable (∃ v ∈ b.parameter name, v.IsInteger))
  | unary .negate _ _ | binary (.arithmetic _) _ _ _ => isTrue trivial
  | unary .not _ _ | unary (.test _) _ _ => isFalse id
  | binary (.comparison _) _ _ _ | binary (.connective _) _ _ _ | binary .coalesce _ _ _ =>
      isFalse id
  | like _ _ _ | call _ _ _ _ | caseWhen _ _ _ _ | table _ _ | join _ _ _ => isFalse id

/-- The value over integers of any size. -/
def exact : Expr → Option Int
  | constant value _ => value.integer?
  | column source name _ _ => (b.column source name).bind Value.integer?
  | parameter name _ => (b.parameter name).bind Value.integer?
  | unary .negate operand _ => (exact operand).map (- ·)
  | binary (.arithmetic kind) left right _ =>
      (exact left).bind fun m => (exact right).map (kind.exact m)
  | _ => none

/-- Why the operator on top has no result, given the exact values of its operands. With `NULL`
for an operand there is no reason. -/
def integerFault? : Expr → Option EvalError
  | unary .negate operand _ => (operand.exact b).bind negationFault?
  | binary (.arithmetic kind) left right _ =>
      (left.exact b).bind fun m => (right.exact b).bind (kind.fault? m)
  | _ => none

end Expr

variable {b : Bindings}

theorem yields_of_isInteger {v : Value} (hv : v.IsInteger) : Yields none v.integer? (.ok v) :=
  ⟨v, rfl, hv, rfl⟩

theorem evaluate_yields (reading : NullReading) {e : Expr} (h : e.Everywhere (Expr.IntegerNode b)) :
    Yields (e.operandsFirst.findSome? (Expr.integerFault? b)) (e.exact b)
      (evaluate reading b e) := by
  induction e using Expr.induction with
  | step e ih =>
      have hchild : ∀ c ∈ e.children, Yields (c.operandsFirst.findSome? (Expr.integerFault? b))
          (c.exact b) (evaluate reading b c) := fun c hc => ih c hc (h.child hc)
      rw [Expr.operandsFirst_eq, List.findSome?_append]
      cases e with
      | constant value type => exact yields_of_isInteger h.self
      | column source name type nullable =>
          obtain ⟨v, hbound, hv⟩ := h.self
          simp only [evaluate, Expr.exact, Option.mem_def.1 hbound]
          exact yields_of_isInteger hv
      | parameter name type =>
          obtain ⟨v, hbound, hv⟩ := h.self
          simp only [evaluate, Expr.exact, Option.mem_def.1 hbound]
          exact yields_of_isInteger hv
      | unary op operand type =>
          cases op with
          | negate =>
              have hoperand := hchild operand List.mem_cons_self
              simp only [Expr.children, List.flatMap_singleton, List.findSome?_singleton]
              refine hoperand.bind fun v hv hexact => ?_
              rw [Expr.integerFault?, Expr.exact, ← hexact]
              exact UnaryOp.apply_yields hv
          | _ => exact h.self.elim
      | binary op left right type =>
          cases op with
          | arithmetic kind =>
              have hleft := hchild left List.mem_cons_self
              have hright := hchild right (List.mem_cons_of_mem left List.mem_cons_self)
              simp only [Expr.children, List.flatMap_cons, List.flatMap_nil, List.append_nil,
                List.findSome?_append, List.findSome?_singleton, Option.or_assoc]
              refine hleft.bind fun v hv hv' => hright.bind fun w hw hw' => ?_
              rw [Expr.integerFault?, Expr.exact, ← hv', ← hw', BinaryOp.apply_arithmetic]
              exact kind.apply_yields hv hw
          | _ => exact h.self.elim
      | _ => exact h.self.elim

/-- Integer arithmetic is exact or refused. For an expression made of integers, `NULL`, names
bound to these, and arithmetic, the outcome is the fault of the first node that has one, operands
before operators and from left to right; if there is none, it is the value over integers of any
size, which then has 64 bits. -/
theorem evaluate_integers (reading : NullReading) {e : Expr}
    (h : e.Everywhere (Expr.IntegerNode b)) :
    match e.operandsFirst.findSome? (Expr.integerFault? b) with
    | some error => evaluate reading b e = .error error
    | none => ∃ v, evaluate reading b e = .ok v ∧ v.IsInteger ∧ v.integer? = e.exact b :=
  evaluate_yields reading h

/-- The least integer in the parameter, and `NULL` in the columns. -/
def Sample.least : Bindings :=
  Sample.bindings .null .null .null .null .null (.int Int64.minValue)

/-- `x + p % -1` and `x / 0`. -/
def Sample.sum : Expr :=
  .binary (.arithmetic .add) Sample.x
    (.binary (.arithmetic .modulo) Sample.p (.constant (.int (-1)) .int64) .int64) .int64

def Sample.quotient : Expr :=
  .binary (.arithmetic .divide) Sample.x (.constant (.int 0) .int64) .int64

theorem evaluate_integers_of_least :
    Sample.sum.Everywhere (Expr.IntegerNode Sample.least) ∧
    evaluate .threeValued Sample.least Sample.sum =
      .error (.overflow (.binary (.arithmetic .modulo))) ∧
    Sample.quotient.Everywhere (Expr.IntegerNode Sample.least) ∧
    ∃ v, evaluate .asValue Sample.least Sample.quotient = .ok v ∧ v.IsInteger ∧
      v.integer? = none :=
  ⟨by decide, evaluate_integers .threeValued (b := Sample.least) (e := Sample.sum) (by decide),
    by decide, evaluate_integers .asValue (b := Sample.least) (e := Sample.quotient) (by decide)⟩

end NullLogic
