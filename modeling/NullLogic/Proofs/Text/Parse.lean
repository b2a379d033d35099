import Mathlib.Order.Filter.AtTopBot.Basic
import NullLogic.Expr.Parse
import NullLogic.Proofs.Text.Scan

/-!
# Reading one token after the other

What a function of `Expr.Parse` gives is stated for all large numbers of nested calls, as
`Gives`, so the numbers themselves never matter. It depends on the first tokens how a function
goes on, and there is one rule for each way. Where it stops is decided by what stands behind
its part of the text: `Stops` is for operands, `Follows` allows the call of a method too, and
after an expression without delimiters there is no blank either, by `Closes`.
-/

namespace NullLogic

namespace Expr

namespace Parse

open Token Filter

/-! ### Enough calls -/

/-- The result is given whenever enough calls may be nested. -/
def Gives {α : Type} (p : Nat → Option α) (a : α) : Prop :=
  ∀ᶠ n in atTop, p n = some a

theorem Gives.unique {α : Type} {p : Nat → Option α} {a b : α} (ha : Gives p a)
    (hb : Gives p b) : a = b := by
  obtain ⟨n, ha, hb⟩ := (ha.and hb).exists
  exact Option.some.inj (ha.symm.trans hb)

theorem gives_succ {α : Type} {p : Nat → Option α} {a : α} (h : Gives (fun n => p (n + 1)) a) :
    Gives p a := by
  rw [Gives, ← map_add_atTop_eq_nat 1]
  exact h

theorem gives_of_eq {α : Type} {p : Nat → Option α} {a : α} (h : ∀ n, p (n + 1) = some a) :
    Gives p a :=
  gives_succ (Eventually.of_forall h)

/-! ### Where a part begins and ends -/

/-- The tokens with which an operand begins. -/
inductive Opens : List Token → Prop where
  | mark {c : Char} (hc : c = '(' ∨ c = '@') (ts : List Token) : Opens (mark c :: ts)
  | quoted (s : String) (ts : List Token) : Opens (quoted s :: ts)
  | word {w : String} (hw : w ∉ ["NOT", "WHEN", "ELSE", "END"]) (ts : List Token) :
      Opens (word w :: ts)

/-- What may stand behind an operand that is no receiver. -/
inductive Stops : List Char → Prop where
  | nil : Stops []
  | mark {c : Char} (h : IsMark c) (hc : c ≠ '.' ∧ c ≠ '(') (cs : List Char) : Stops (c :: cs)

/-- What may stand behind an operand. -/
inductive Follows : List Char → Prop where
  | stops {rest : List Char} (h : Stops rest) : Follows rest
  | method {name : String} (h : IsName name) (cs : List Char) :
      Follows ('.' :: (name.toList ++ '(' :: cs))

/-- What may stand behind an expression that is no operand. -/
inductive Closes : List Char → Prop where
  | nil : Closes []
  | mark {c : Char} (h : IsMark c) (hc : c ≠ '.' ∧ c ≠ '(' ∧ c ≠ ' ') (cs : List Char) :
      Closes (c :: cs)

theorem Closes.stops {rest : List Char} (h : Closes rest) : Stops rest := by
  cases h with
  | nil => exact .nil
  | mark h hc cs => exact .mark h ⟨hc.1, hc.2.1⟩ cs

theorem Stops.delimited {rest : List Char} (h : Stops rest) : Delimited rest := by
  cases h with
  | nil => exact nofun
  | mark h hc cs => exact delimited_cons h cs

theorem Follows.delimited {rest : List Char} (h : Follows rest) : Delimited rest := by
  cases h with
  | stops h => exact h.delimited
  | method h cs => exact delimited_cons (by decide) _

theorem stops_blank (cs : List Char) : Stops (' ' :: cs) :=
  .mark (by decide) (by decide) cs

theorem scan_name {name : String} (h : IsName name) {rest : List Char} (hrest : Delimited rest) :
    scan (name.toList ++ rest) = word name :: scan rest :=
  scan_word (isWord_of_isIdentifier h.1) hrest

theorem scan_method {name : String} (h : IsName name) (cs : List Char) :
    scan ('.' :: (name.toList ++ '(' :: cs)) =
      mark '.' :: word name :: mark '(' :: scan cs := by
  rw [scan_mark (by decide), scan_name h (delimited_cons (by decide) cs), scan_mark (by decide)]

/-- The text goes on with a blank and one of the words. -/
inductive Continues (words : List String) : List Char → Prop where
  | intro {w : String} (hmem : w ∈ words) (hw : IsWord w) {cs : List Char} (hcs : Delimited cs) :
      Continues words (' ' :: (w.toList ++ cs))

theorem Continues.stops {words : List String} {rest : List Char} (h : Continues words rest) :
    Stops rest := by
  cases h with
  | intro hmem hw hcs => exact stops_blank _

theorem Continues.scan {words : List String} {rest : List Char} (h : Continues words rest) :
    ∃ w ∈ words, ∃ ts, scan rest = mark ' ' :: word w :: ts := by
  cases h with
  | @intro w hmem hw cs hcs =>
      exact ⟨w, hmem, Token.scan cs, by rw [scan_mark (by decide), scan_word hw hcs]⟩

theorem Continues.mono {words words' : List String} {rest : List Char}
    (h : Continues words rest) (hwords : ∀ w ∈ words, w ∈ words') : Continues words' rest := by
  cases h with
  | intro hmem hw hcs => exact .intro (hwords _ hmem) hw hcs

/-! ### The parts of a text, one by one -/

section Rules

variable {ts ts' ts'' : List Token} {x y : Expr} {r : Expr × List Token}

theorem calls_method {name : String} {args : List Expr}
    (hargs : Gives (arguments · ts) (args, ts'))
    (hcalls : Gives (calls · (call name (some x) args .null) ts') r) :
    Gives (calls · x (mark '.' :: word name :: mark '(' :: ts)) r := by
  refine gives_succ ?_
  filter_upwards [hargs, hcalls] with n hargs hcalls
  simp [calls, hargs, hcalls]

theorem calls_of_stops (x : Expr) {rest : List Char} (h : Stops rest) :
    Gives (calls · x (scan rest)) (x, scan rest) := by
  refine gives_of_eq fun n => ?_
  cases h with
  | nil => rfl
  | mark h hc cs =>
      rw [scan_mark h]
      simp [calls, hc]

theorem continued_of_closes (x : Expr) {rest : List Char} (h : Closes rest) :
    Gives (continued · x (scan rest)) (x, scan rest) := by
  refine gives_of_eq fun n => ?_
  cases h with
  | nil => rfl
  | mark h hc cs =>
      rw [scan_mark h]
      simp [continued, hc]

theorem operand_paren (hx : Gives (expr · ts) (x, mark ')' :: ts'))
    (hcalls : Gives (calls · x ts') r) : Gives (operand · (mark '(' :: ts)) r := by
  refine gives_succ ?_
  filter_upwards [hx, hcalls] with n hx hcalls
  simp [operand, hx, hcalls, skip]

theorem operand_parameter {name : String} (hcalls : Gives (calls · (parameter name .null) ts) r) :
    Gives (operand · (mark '@' :: word name :: ts)) r :=
  gives_succ hcalls

theorem operand_quoted {s : String} (hcalls : Gives (calls · (constant (.string s) .null) ts) r) :
    Gives (operand · (quoted s :: ts)) r :=
  gives_succ hcalls

theorem operand_case {o o' : Option Expr} {clauses : List (Clause Expr)}
    {us us' us'' : List Token} (hsubject : Gives (subject · ts) (o, us))
    (hbranches : Gives (branches · us) (clauses, us'))
    (hotherwise : Gives (optional · "ELSE" us') (o', mark ' ' :: word "END" :: us''))
    (hcalls : Gives (calls · (caseWhen o clauses o' .null) us'') r) :
    Gives (operand · (word "CASE" :: ts)) r := by
  refine gives_succ ?_
  filter_upwards [hsubject, hbranches, hotherwise, hcalls] with n hsubject hbranches hotherwise
    hcalls
  simp [operand, hsubject, hbranches, hotherwise, hcalls, skip]

theorem operand_word {w : String} (hw : w ≠ "CASE") (hnamed : Gives (named · w ts) r) :
    Gives (operand · (word w :: ts)) r := by
  refine gives_succ ?_
  filter_upwards [hnamed] with n hnamed
  simp [operand, hw, hnamed]

theorem named_paren {w : String} {args : List Expr}
    (hargs : Gives (arguments · ts) (args, ts'))
    (hcalls : Gives (calls · (application w args) ts') r) :
    Gives (named · w (mark '(' :: ts)) r := by
  refine gives_succ ?_
  filter_upwards [hargs, hcalls] with n hargs hcalls
  simp [named, hargs, hcalls]

theorem named_of_follows {w : String} {rest : List Char} (h : Follows rest)
    (hcalls : Gives (calls · (atom w) (scan rest)) r) : Gives (named · w (scan rest)) r := by
  refine gives_succ ?_
  cases h with
  | stops h =>
      cases h with
      | nil => exact hcalls
      | mark h hc cs =>
          rw [scan_mark h] at hcalls ⊢
          simpa [named, hc] using hcalls
  | method h cs =>
      rw [scan_method h] at hcalls ⊢
      exact hcalls

theorem named_column {w name : String} {rest : List Char} (h : Follows rest)
    (hcalls : Gives (calls · (column w name .null false) (scan rest)) r) :
    Gives (named · w (mark '.' :: word name :: scan rest)) r := by
  refine gives_succ ?_
  cases h with
  | stops h =>
      cases h with
      | nil => exact hcalls
      | mark h hc cs =>
          rw [scan_mark h] at hcalls ⊢
          simpa [named, hc] using hcalls
  | method h cs =>
      rw [scan_method h] at hcalls ⊢
      simpa [named] using hcalls

theorem endsSubject_of_opens (h : Opens ts) : endsSubject ts = false := by
  cases h with
  | mark hc ts => rfl
  | quoted s ts => rfl
  | word hw ts => simp_all [endsSubject]

theorem expr_of_opens (h : Opens ts) (hx : Gives (operand · ts) (x, ts'))
    (hr : Gives (continued · x ts') r) : Gives (expr · ts) r := by
  refine gives_succ ?_
  filter_upwards [hx, hr] with n hx hr
  cases h with
  | mark hc ts => rcases hc with rfl | rfl <;> simp [expr, hx, hr]
  | quoted s ts => simp [expr, hx, hr]
  | word hw ts => simp_all [expr]

theorem expr_minus (hx : Gives (operand · ts) (x, ts')) :
    Gives (expr · (mark '-' :: ts)) (unary .negate x .null, ts') := by
  refine gives_succ ?_
  filter_upwards [hx] with n hx
  simp [expr, hx]

theorem expr_not (hx : Gives (operand · ts) (x, ts')) :
    Gives (expr · (word "NOT" :: mark ' ' :: ts)) (unary .not x .null, ts') := by
  refine gives_succ ?_
  filter_upwards [hx] with n hx
  simp [expr, hx]

theorem continued_isNull (x : Expr) (ts : List Token) :
    Gives (continued · x (mark ' ' :: word "IS" :: mark ' ' :: word "NULL" :: ts))
      (unary .isNull x .null, ts) :=
  gives_of_eq fun n => by simp [continued]

theorem continued_isNotNull (x : Expr) (ts : List Token) :
    Gives (continued · x
        (mark ' ' :: word "IS" :: mark ' ' :: word "NOT" :: mark ' ' :: word "NULL" :: ts))
      (unary .isNotNull x .null, ts) :=
  gives_of_eq fun n => by simp [continued]

theorem continued_like {o : Option Expr} (hy : Gives (operand · ts) (y, ts'))
    (ho : Gives (optional · "ESCAPE" ts') (o, ts'')) :
    Gives (continued · x (mark ' ' :: word "LIKE" :: mark ' ' :: ts)) (like x y o, ts'') := by
  refine gives_succ ?_
  filter_upwards [hy, ho] with n hy ho
  simp [continued, hy, ho]

theorem operator?_symbol {op : BinaryOp} (hop : op ≠ .coalesce) (ts : List Token) :
    operator? (scan (op.symbol.toList ++ [' ']) ++ ts) = some (op, ts) := by
  cases op with
  | comparison op => cases op <;> rfl
  | connective op => cases op <;> rfl
  | arithmetic op => cases op <;> rfl
  | coalesce => exact absurd rfl hop

theorem scan_symbol {op : BinaryOp} (hop : op ≠ .coalesce) :
    ∃ t ts, scan (op.symbol.toList ++ [' ']) = t :: ts ∧ t ≠ word "IS" ∧ t ≠ word "LIKE" := by
  cases op with
  | comparison op => cases op <;> exact ⟨_, _, rfl, by decide, by decide⟩
  | connective op => cases op <;> exact ⟨_, _, rfl, by decide, by decide⟩
  | arithmetic op => cases op <;> exact ⟨_, _, rfl, by decide, by decide⟩
  | coalesce => exact absurd rfl hop

theorem continued_operator {op : BinaryOp} (hop : op ≠ .coalesce)
    (hy : Gives (operand · ts) (y, ts')) :
    Gives (continued · x (mark ' ' :: (scan (op.symbol.toList ++ [' ']) ++ ts)))
      (binary op x y .null, ts') := by
  obtain ⟨t, us, hscan, his, hlike⟩ := scan_symbol hop
  have hoperator := operator?_symbol hop ts
  rw [hscan, List.cons_append] at hoperator ⊢
  refine gives_succ ?_
  filter_upwards [hy] with n hy
  -- the tests and `LIKE` are tried before and begin with other words
  simp [continued, his, hlike, hoperator, hy]

theorem subject_of_endsSubject (h : endsSubject ts = true) :
    Gives (subject · (mark ' ' :: ts)) (none, mark ' ' :: ts) :=
  gives_of_eq fun n => by simp [subject, skip, h]

theorem subject_of_opens (h : Opens ts) (hx : Gives (operand · ts) (x, ts')) :
    Gives (subject · (mark ' ' :: ts)) (some x, ts') := by
  refine gives_succ ?_
  filter_upwards [hx] with n hx
  simp [subject, skip, endsSubject_of_opens h, hx]

theorem branches_when {clauses : List (Clause Expr)} {us : List Token}
    (hx : Gives (operand · ts) (x, mark ' ' :: word "THEN" :: mark ' ' :: ts'))
    (hy : Gives (operand · ts') (y, ts'')) (hbranches : Gives (branches · ts'') (clauses, us)) :
    Gives (branches · (mark ' ' :: word "WHEN" :: mark ' ' :: ts)) (⟨x, y⟩ :: clauses, us) := by
  refine gives_succ ?_
  filter_upwards [hx, hy, hbranches] with n hx hy hbranches
  simp [branches, skip, hx, hy, hbranches]

theorem branches_word {w : String} (hw : w ≠ "WHEN") (ts : List Token) :
    Gives (branches · (mark ' ' :: word w :: ts)) ([], mark ' ' :: word w :: ts) :=
  gives_of_eq fun n => by simp [branches, hw]

theorem optional_keyword (w : String) (hx : Gives (operand · ts) (x, ts')) :
    Gives (optional · w (mark ' ' :: word w :: mark ' ' :: ts)) (some x, ts') := by
  refine gives_succ ?_
  filter_upwards [hx] with n hx
  simp [optional, skip, hx]

theorem skip_eq_none {w : String} (h : ∀ us, ts ≠ mark ' ' :: word w :: us) :
    skip [mark ' ', word w, mark ' '] ts = none := by
  match ts with
  | [] => rfl
  | [t] => simp [skip]
  | t :: u :: ts =>
      have htu : t = mark ' ' → u ≠ word w := by
        rintro rfl rfl
        exact h ts rfl
      simp only [skip]
      split
      · rename_i ht
        rw [if_neg fun hu => htu ht.symm hu.symm]
      · rfl

theorem optional_none {w : String} (h : ∀ us, ts ≠ mark ' ' :: word w :: us) :
    Gives (optional · w ts) (none, ts) :=
  gives_of_eq fun n => by simp [optional, skip_eq_none h]

theorem arguments_nil (ts : List Token) : Gives (arguments · (mark ')' :: ts)) ([], ts) :=
  gives_of_eq fun n => by simp [arguments]

theorem expr_closing (n : Nat) (ts : List Token) : expr n (mark ')' :: ts) = none := by
  cases n with
  | zero => rfl
  | succ n => cases n <;> simp [expr, operand]

theorem arguments_last (hx : Gives (expr · ts) (x, mark ')' :: ts')) :
    Gives (arguments · ts) ([x], ts') := by
  refine gives_succ ?_
  filter_upwards [hx] with n hx
  rw [arguments, hx]
  · rfl
  · rintro us rfl
    rw [expr_closing] at hx
    cases hx

theorem arguments_more {xs : List Expr} (hx : Gives (expr · ts) (x, mark ',' :: mark ' ' :: ts'))
    (hxs : Gives (arguments · ts') (xs, ts'')) : Gives (arguments · ts) (x :: xs, ts'') := by
  refine gives_succ ?_
  filter_upwards [hx, hxs] with n hx hxs
  rw [arguments, hx]
  · simp [skip, hxs]
  · rintro us rfl
    rw [expr_closing] at hx
    cases hx

end Rules

end Parse

end Expr

end NullLogic
