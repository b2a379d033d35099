import NullLogic.Expr.Erase
import NullLogic.Proofs.Expr.Alike
import NullLogic.Proofs.Text.Parse

/-!
# Texts of different expressions

Two plain expressions with the same text differ in their types only, since each of them can be
read back from it. That a node can be read back follows from the same for its children: its
text alone is read up to where it ends, and as an operand it is read together with the calls
of its methods, if any follow. An operator gets the second from the first by the parentheses
around it (`Reads.of_open`), and everything else the first from the second
(`Reads.of_closed`).
-/

namespace NullLogic

namespace Expr

/-! ### Expressions without types -/

theorem erase_of_alike {e f : Expr} (h : Alike (fun c d => c.erase = d) e f) :
    e.erase = f.eraseNode := by
  have hchildren : e.children.map erase = f.children :=
    List.forall₂_eq_eq_eq ▸ List.forall₂_map_left_iff.2 h.children
  rw [erase_eq, hchildren, h.refill_children]

theorem rel_map_erase (o : Option Expr) :
    Option.Rel (fun c d => c.erase = d) o (o.map erase) := by
  cases o with
  | none => exact .none
  | some x => exact .some rfl

theorem erase_like (subject pattern : Expr) (escape : Option Expr) :
    (like subject pattern escape).erase =
      like subject.erase pattern.erase (escape.map erase) :=
  erase_of_alike (.like rfl rfl (rel_map_erase escape))

theorem erase_call (name : String) (receiver : Option Expr) (args : List Expr)
    (type : DataType) :
    (call name receiver args type).erase =
      call name (receiver.map erase) (args.map erase) .null :=
  erase_of_alike (.call name type (rel_map_erase receiver)
    (List.forall₂_map_right_iff.2 (List.forall₂_same.2 fun _ _ => rfl)))

def eraseClause (clause : Clause Expr) : Clause Expr :=
  ⟨clause.test.erase, clause.result.erase⟩

theorem erase_caseWhen (operand : Option Expr) (clauses : List (Clause Expr))
    (otherwise : Option Expr) (type : DataType) :
    (caseWhen operand clauses otherwise type).erase =
      caseWhen (operand.map erase) (clauses.map eraseClause) (otherwise.map erase) .null :=
  erase_of_alike (.caseWhen type (rel_map_erase operand)
    (List.forall₂_map_right_iff.2 (List.forall₂_same.2 fun _ _ => ⟨rfl, rfl⟩))
    (rel_map_erase otherwise))

namespace Parse

open Token

/-! ### What a word stands for -/

/-- The word is read as the atom `x` wherever an operand may begin. -/
structure IsAtom (w : String) (x : Expr) : Prop where
  isWord : IsWord w
  ne_case : w ≠ "CASE"
  notMem : w ∉ ["NOT", "WHEN", "ELSE", "END"]
  atom : atom w = x

theorem isDigit_eq_false {c : Char} (h : c.isAlpha = true ∨ c = '_') : c.isDigit = false := by
  rcases h with h | rfl
  · have hletter : 'A'.val ≤ c.val := by
      rcases Bool.or_eq_true_iff.1 h with h | h
      · exact (of_decide_eq_true h).1
      · exact UInt32.le_trans (by decide) (of_decide_eq_true (Bool.and_eq_true_iff.1 h).1)
    rw [Bool.eq_false_iff, ne_eq, Char.isDigit_iff_toNat]
    rintro ⟨-, hnine⟩
    exact absurd (Nat.le_trans (UInt32.le_iff_toNat_le.1 hletter) hnine) (by decide)
  · rfl

theorem isAtom_name {name : String} (h : IsName name) :
    IsAtom name (column "" name .null false) := by
  have hne : ∀ w ∈ keywords, name ≠ w := by
    rintro w hw rfl
    exact h.2 hw
  have hdigit : name.toList.head?.any Char.isDigit = false := by
    obtain ⟨c, hc, hstart⟩ := (Option.any_eq_true _ _).1 h.1.1
    rw [hc]
    exact isDigit_eq_false (by simpa using hstart)
  refine ⟨isWord_of_isIdentifier h.1, hne _ (by decide), ?_, ?_⟩
  · intro hw
    exact h.2 ((by decide : ∀ w ∈ ["NOT", "WHEN", "ELSE", "END"], w ∈ keywords) name hw)
  · rw [Parse.atom, if_neg (hne _ (by decide)), if_neg (hne _ (by decide)),
      if_neg (hne _ (by decide)), if_neg (by simp [hdigit])]

theorem isAtom_nat (n : Nat) : IsAtom n.repr (constant (.int (Int64.ofNat n)) .null) := by
  have hchars : n.repr.toList = Nat.toDigits 10 n := Nat.toList_repr
  have hdigits : ∀ c ∈ n.repr.toList, c.isDigit = true := by
    intro c hc
    exact Nat.isDigit_of_mem_toDigits (by decide) (by decide) (hchars ▸ hc)
  have hnil : n.repr.toList ≠ [] := by
    rw [hchars]
    exact Nat.toDigits_ne_nil
  have hhead : n.repr.toList.head?.any Char.isDigit = true := by
    rw [List.head?_eq_some_head hnil]
    exact hdigits _ (List.head_mem hnil)
  have hne : ∀ w : String, w.toList.head?.any Char.isDigit = false → n.repr ≠ w := by
    rintro w hw rfl
    rw [hw] at hhead
    cases hhead
  refine ⟨⟨hnil, List.all_eq_true.2 fun c hc => ?_⟩, hne _ (by decide), ?_, ?_⟩
  · simp [isWordChar, Char.isAlphanum, hdigits c hc]
  · intro hw
    exact hne n.repr ((by decide : ∀ w ∈ ["NOT", "WHEN", "ELSE", "END"],
      w.toList.head?.any Char.isDigit = false) n.repr hw) rfl
  · rw [Parse.atom, if_neg (hne _ (by decide)), if_neg (hne _ (by decide)),
      if_neg (hne _ (by decide)), if_pos hhead, hchars, Nat.ofDigitChars_toDigits]
    all_goals decide

theorem isAtom_value {v : Value} (h : v.Plain) (hv : ∀ s, v ≠ .string s) :
    IsAtom v.text (constant v .null) := by
  cases v with
  | null => exact ⟨by decide, by decide, by decide, rfl⟩
  | bool b => cases b <;> exact ⟨by decide, by decide, by decide, rfl⟩
  | int n =>
      obtain ⟨m, hm⟩ := Int.eq_ofNat_of_zero_le h
      have hn : n = Int64.ofNat m := by
        rw [← Int64.ofInt_toInt n, hm, Int64.ofInt_eq_ofNat]
      have htext : (Value.int n).text = m.repr := by
        rw [Value.text, hm]
        rfl
      rw [htext, hn]
      exact isAtom_nat m
  | float x => exact absurd h id
  | string s => exact absurd rfl (hv s)

/-! ### Reading back -/

/-- The expression is read back from its text, alone and as an operand. An operand may be a
receiver: then the calls behind it are read with it, so its result is what they give. -/
structure Reads (e : Expr) : Prop where
  opens : ∀ {rest : List Char}, Follows rest →
    Opens (scan ((operandText e e.text).toList ++ rest))
  operand : ∀ {rest : List Char} {r : Expr × List Token}, Follows rest →
    Gives (calls · e.erase (scan rest)) r →
      Gives (operand · (scan ((operandText e e.text).toList ++ rest))) r
  expr : ∀ {rest : List Char}, Closes rest →
    Gives (expr · (scan (e.text.toList ++ rest))) (e.erase, scan rest)

theorem Reads.of_closed {e : Expr} (hopen : e.isOpen = false)
    (hopens : ∀ {rest : List Char}, Follows rest → Opens (scan (e.text.toList ++ rest)))
    (hoperand : ∀ {rest : List Char} {r : Expr × List Token}, Follows rest →
      Gives (calls · e.erase (scan rest)) r →
        Gives (Parse.operand · (scan (e.text.toList ++ rest))) r) : Reads e := by
  have htext : operandText e e.text = e.text := by simp [operandText, hopen]
  refine ⟨by rwa [htext], by rwa [htext], fun hrest => ?_⟩
  have hfollows := Follows.stops hrest.stops
  exact expr_of_opens (hopens hfollows) (hoperand hfollows (calls_of_stops _ hrest.stops))
    (continued_of_closes _ hrest)

theorem Reads.of_open {e : Expr} (hopen : e.isOpen = true)
    (hexpr : ∀ {rest : List Char}, Closes rest →
      Gives (Parse.expr · (scan (e.text.toList ++ rest))) (e.erase, scan rest)) : Reads e := by
  have hscan : ∀ rest, scan ((operandText e e.text).toList ++ rest) =
      mark '(' :: scan (e.text.toList ++ ')' :: rest) := by
    intro rest
    rw [← scan_mark (by decide)]
    simp [operandText, hopen]
  refine ⟨fun _ => ?_, fun {rest r} _ hcalls => ?_, hexpr⟩
  · rw [hscan]
    exact .mark (.inl rfl) _
  · have hx := hexpr (.mark (c := ')') (by decide) (by decide) rest)
    rw [scan_mark (c := ')') (by decide)] at hx
    rw [hscan]
    exact operand_paren hx hcalls

theorem Reads.of_atom {e : Expr} (hopen : e.isOpen = false) (h : IsAtom e.text e.erase) :
    Reads e := by
  obtain ⟨hword, hcase, hmem, hatom⟩ := h
  refine .of_closed hopen (fun hrest => ?_) (fun hrest hcalls => ?_)
  · rw [scan_word hword hrest.delimited]
    exact .word hmem _
  · rw [scan_word hword hrest.delimited]
    rw [← hatom] at hcalls
    exact operand_word hcase (named_of_follows hrest hcalls)

theorem Reads.operand_of_stops {x : Expr} (hx : Reads x) {rest : List Char} (hrest : Stops rest) :
    Gives (Parse.operand · (scan ((operandText x x.text).toList ++ rest))) (x.erase, scan rest) :=
  hx.operand (.stops hrest) (calls_of_stops _ hrest)

theorem Reads.expr_of_blank {x : Expr} (hx : Reads x) {cs : List Char} {r : Expr × List Token}
    (hr : Gives (continued · x.erase (mark ' ' :: scan cs)) r) :
    Gives (Parse.expr · (scan ((operandText x x.text).toList ++ ' ' :: cs))) r := by
  have hrest := stops_blank cs
  rw [← scan_mark (by decide)] at hr
  exact expr_of_opens (hx.opens (.stops hrest)) (hx.operand_of_stops hrest) hr

/-! ### Constants and names -/

theorem reads_string (s : String) (type : DataType) : Reads (constant (.string s) type) := by
  refine .of_closed rfl (fun hrest => ?_) (fun hrest hcalls => ?_)
  · rw [text, scan_string s hrest.delimited]
    exact .quoted s _
  · rw [text, scan_string s hrest.delimited]
    exact operand_quoted hcalls

theorem reads_constant {v : Value} (h : v.Plain) (type : DataType) :
    Reads (constant v type) := by
  by_cases hv : ∃ s, v = .string s
  · obtain ⟨s, rfl⟩ := hv
    exact reads_string s type
  · exact .of_atom rfl (isAtom_value h fun s hs => hv ⟨s, hs⟩)

theorem reads_column {source name : String} (hsource : source = "" ∨ IsName source)
    (hname : IsName name) (type : DataType) (nullable : Bool) :
    Reads (column source name type nullable) := by
  rcases hsource with rfl | hsource
  · exact .of_atom rfl (isAtom_name hname)
  · have hscan : ∀ {rest}, Follows rest →
        scan ((column source name type nullable).text.toList ++ rest) =
          word source :: mark '.' :: word name :: scan rest := by
      intro rest hrest
      have hne : source ≠ "" := fun hnil => by simp [hnil, IsName, IsIdentifier] at hsource
      rw [← scan_name hname hrest.delimited, ← scan_mark (by decide),
        ← scan_name hsource (delimited_cons (by decide) _)]
      simp [text, columnText, hne]
    have hatom := isAtom_name hsource
    refine .of_closed rfl (fun hrest => ?_) (fun hrest hcalls => ?_)
    · rw [hscan hrest]
      exact .word hatom.notMem _
    · rw [hscan hrest]
      exact operand_word hatom.ne_case (named_column hrest hcalls)

theorem reads_parameter {name : String} (h : IsName name) (type : DataType) :
    Reads (parameter name type) := by
  have hscan : ∀ {rest}, Follows rest →
      scan ((parameter name type).text.toList ++ rest) = mark '@' :: word name :: scan rest := by
    intro rest hrest
    rw [← scan_name h hrest.delimited, ← scan_mark (by decide)]
    simp [text, parameterText]
  refine .of_closed rfl (fun hrest => ?_) (fun hrest hcalls => ?_)
  · rw [hscan hrest]
    exact .mark (.inr rfl) _
  · rw [hscan hrest]
    exact operand_parameter hcalls

/-! ### Operators -/

theorem reads_unary (op : UnaryOp) {x : Expr} (hx : Reads x) (type : DataType) :
    Reads (unary op x type) := by
  refine .of_open rfl fun {rest} hrest => ?_
  cases op with
  | not =>
      have hscan : scan ((unary .not x type).text.toList ++ rest) =
          word "NOT" :: mark ' ' :: scan ((operandText x x.text).toList ++ rest) := by
        rw [text, unaryText, String.toList_append, List.append_assoc, scan_separator (by decide)]
        rfl
      rw [hscan]
      exact expr_not (hx.operand_of_stops hrest.stops)
  | negate =>
      have hscan : scan ((unary .negate x type).text.toList ++ rest) =
          mark '-' :: scan ((operandText x x.text).toList ++ rest) := by
        rw [text, unaryText, String.toList_append, List.append_assoc, scan_separator (by decide)]
        rfl
      rw [hscan]
      exact expr_minus (hx.operand_of_stops hrest.stops)
  | test kind =>
      cases kind with
      | isNull =>
          have hchars : (unary .isNull x type).text.toList ++ rest =
              (operandText x x.text).toList ++ ' ' :: ("IS NULL".toList ++ rest) := by
            simp [text, unaryText]
          rw [hchars]
          refine hx.expr_of_blank ?_
          rw [scan_append (by decide) hrest.stops.delimited]
          exact continued_isNull x.erase (scan rest)
      | isNotNull =>
          have hchars : (unary .isNotNull x type).text.toList ++ rest =
              (operandText x x.text).toList ++ ' ' :: ("IS NOT NULL".toList ++ rest) := by
            simp [text, unaryText]
          rw [hchars]
          refine hx.expr_of_blank ?_
          rw [scan_append (by decide) hrest.stops.delimited]
          exact continued_isNotNull x.erase (scan rest)

theorem quote_notMem_symbol (op : BinaryOp) : '\'' ∉ op.symbol.toList := by
  cases op with
  | comparison op => cases op <;> decide
  | connective op => cases op <;> decide
  | arithmetic op => cases op <;> decide
  | coalesce => decide

theorem reads_binary {op : BinaryOp} (hop : op ≠ .coalesce) {x y : Expr} (hx : Reads x)
    (hy : Reads y) (type : DataType) : Reads (binary op x y type) := by
  have hopen : (binary op x y type).isOpen = true := by
    cases op <;> first | rfl | exact absurd rfl hop
  have htext : (binary op x y type).text =
      operandText x x.text ++ " " ++ op.symbol ++ " " ++ operandText y y.text := by
    cases op <;> first | rfl | exact absurd rfl hop
  refine .of_open hopen fun {rest} hrest => ?_
  have hchars : (binary op x y type).text.toList ++ rest =
      (operandText x x.text).toList ++
        ' ' :: (op.symbol.toList ++ ' ' :: ((operandText y y.text).toList ++ rest)) := by
    simp [htext]
  rw [hchars]
  refine hx.expr_of_blank ?_
  rw [scan_append_mark (quote_notMem_symbol op) (by decide)]
  exact continued_operator hop (hy.operand_of_stops hrest.stops)

theorem toList_optionText_some (w : String) (x : Expr) (rest : List Char) :
    (optionText (" " ++ w ++ " ") "" (some x)).toList ++ rest =
      ' ' :: (w.toList ++ ' ' :: ((operandText x x.text).toList ++ rest)) := by
  simp [optionText]

theorem optional_of_reads {w : String} (hw : IsWord w) {o : Option Expr}
    (ho : ∀ x ∈ o, Reads x) {rest : List Char} (hrest : Stops rest)
    (hne : ∀ ts, scan rest ≠ mark ' ' :: word w :: ts) :
    Gives (optional · w (scan ((optionText (" " ++ w ++ " ") "" o).toList ++ rest)))
      (o.map erase, scan rest) := by
  cases o with
  | none => exact optional_none hne
  | some x =>
      rw [toList_optionText_some, scan_mark (by decide),
        scan_word hw (delimited_cons (by decide) _), scan_mark (by decide)]
      exact optional_keyword w ((ho x rfl).operand_of_stops hrest)

theorem reads_like {x y : Expr} (hx : Reads x) (hy : Reads y) {o : Option Expr}
    (ho : ∀ z ∈ o, Reads z) : Reads (like x y o) := by
  refine .of_open rfl fun {rest} hrest => ?_
  have hchars : (like x y o).text.toList ++ rest = (operandText x x.text).toList ++
      ' ' :: ("LIKE ".toList ++ ((operandText y y.text).toList ++
        ((optionText (" " ++ "ESCAPE" ++ " ") "" o).toList ++ rest))) := by
    simp [text]
  have hne : ∀ ts, scan rest ≠ mark ' ' :: word "ESCAPE" :: ts := by
    cases hrest with
    | nil => simp [scan]
    | mark h hc cs => simp [scan_mark h, hc]
  have hpattern : Stops ((optionText (" " ++ "ESCAPE" ++ " ") "" o).toList ++ rest) := by
    cases o with
    | none => exact hrest.stops
    | some z =>
        rw [toList_optionText_some]
        exact stops_blank _
  rw [hchars, erase_like]
  refine hx.expr_of_blank ?_
  rw [scan_separator (by decide)]
  exact continued_like (hy.operand_of_stops hpattern)
    (optional_of_reads (by decide) ho hrest.stops hne)

/-! ### Calls -/

theorem arguments_of_reads {xs : List Expr} (hxs : ∀ x ∈ xs, Reads x) (rest : List Char) :
    Gives (arguments · (scan ((", ".intercalate (listText xs)).toList ++ ')' :: rest)))
      (xs.map erase, scan rest) := by
  induction xs with
  | nil =>
      have hnil : scan ((", ".intercalate (listText [])).toList ++ ')' :: rest) =
          mark ')' :: scan rest := scan_mark (by decide) rest
      rw [hnil]
      exact arguments_nil (scan rest)
  | cons x xs ih =>
      have hx := hxs x List.mem_cons_self
      have ih := ih fun y hy => hxs y (List.mem_cons_of_mem x hy)
      match xs with
      | [] =>
          have hexpr := hx.expr (.mark (c := ')') (by decide) (by decide) rest)
          rw [scan_mark (c := ')') (by decide)] at hexpr
          simpa [listText] using arguments_last hexpr
      | y :: ys =>
          have hchars : (", ".intercalate (listText (x :: y :: ys))).toList ++ ')' :: rest =
              x.text.toList ++ ',' :: ' ' ::
                ((", ".intercalate (listText (y :: ys))).toList ++ ')' :: rest) := by
            simp [listText]
          have hexpr := hx.expr (.mark (c := ',') (by decide) (by decide)
            (' ' :: ((", ".intercalate (listText (y :: ys))).toList ++ ')' :: rest)))
          rw [scan_mark (c := ',') (by decide), scan_mark (c := ' ') (by decide)] at hexpr
          rw [hchars]
          exact arguments_more hexpr ih

theorem reads_coalesce {x y : Expr} (hx : Reads x) (hy : Reads y) (type : DataType) :
    Reads (binary .coalesce x y type) := by
  have hscan : ∀ rest, scan ((binary .coalesce x y type).text.toList ++ rest) =
      word "COALESCE" :: mark '(' ::
        scan ((", ".intercalate (listText [x, y])).toList ++ ')' :: rest) := by
    intro rest
    have hchars : (binary .coalesce x y type).text.toList ++ rest = "COALESCE(".toList ++
        ((", ".intercalate (listText [x, y])).toList ++ ')' :: rest) := by
      simp [text, listText]
    rw [hchars, scan_separator (by decide)]
    rfl
  refine .of_closed rfl (fun {rest} _ => ?_) (fun {rest r} _ hcalls => ?_)
  · rw [hscan]
    exact .word (by decide) _
  · rw [hscan]
    exact operand_word (by decide) (named_paren (arguments_of_reads (by simp [hx, hy]) rest) hcalls)

theorem application_of_ne {name : String} (h : name ≠ "COALESCE") (args : List Expr) :
    application name args = call name none args .null := by
  unfold application
  split
  · exact if_neg h
  · rfl

theorem reads_call {name : String} (hname : IsName name) {receiver : Option Expr}
    (hreceiver : ∀ x ∈ receiver, Reads x) {args : List Expr} (hargs : ∀ x ∈ args, Reads x)
    (type : DataType) : Reads (call name receiver args type) := by
  cases receiver with
  | none =>
      have hscan : ∀ rest, scan ((call name none args type).text.toList ++ rest) =
          word name :: mark '(' ::
            scan ((", ".intercalate (listText args)).toList ++ ')' :: rest) := by
        intro rest
        rw [← scan_mark (by decide), ← scan_name hname (delimited_cons (by decide) _)]
        simp [text, optionText]
      have hatom := isAtom_name hname
      have hne : name ≠ "COALESCE" := by
        rintro rfl
        exact hname.2 (by decide)
      refine .of_closed rfl (fun {rest} _ => ?_) (fun {rest r} _ hcalls => ?_)
      · rw [hscan]
        exact .word hatom.notMem _
      · rw [erase_call, Option.map_none, ← application_of_ne hne] at hcalls
        rw [hscan]
        exact operand_word hatom.ne_case (named_paren (arguments_of_reads hargs rest) hcalls)
  | some x =>
      have hx := hreceiver x rfl
      have hchars : ∀ rest, (call name (some x) args type).text.toList ++ rest =
          (operandText x x.text).toList ++ '.' :: (name.toList ++ '(' ::
            ((", ".intercalate (listText args)).toList ++ ')' :: rest)) := by
        intro rest
        simp [text, optionText]
      refine .of_closed rfl (fun {rest} _ => ?_) (fun {rest r} _ hcalls => ?_)
      · rw [hchars]
        exact hx.opens (.method hname _)
      · rw [erase_call] at hcalls
        rw [hchars]
        -- the receiver is read with the calls behind it, of which this is the first
        refine hx.operand (.method hname _) ?_
        rw [scan_method hname]
        exact calls_method (arguments_of_reads hargs rest) hcalls

/-! ### `CASE` -/

theorem subject_of_reads {o : Option Expr} (ho : ∀ x ∈ o, Reads x) {rest : List Char}
    (hrest : Continues ["WHEN", "ELSE", "END"] rest) :
    Stops ((optionText " " "" o).toList ++ rest) ∧
      Gives (subject · (scan ((optionText " " "" o).toList ++ rest))) (o.map erase, scan rest) := by
  cases o with
  | none =>
      obtain ⟨w, hmem, ts, hscan⟩ := hrest.scan
      have hends : endsSubject (word w :: ts) = true := decide_eq_true hmem
      exact ⟨hrest.stops, hscan ▸ subject_of_endsSubject hends⟩
  | some x =>
      have hx := ho x rfl
      have hchars : (optionText " " "" (some x)).toList ++ rest =
          ' ' :: ((operandText x x.text).toList ++ rest) := by
        simp [optionText]
      rw [hchars, scan_mark (by decide)]
      exact ⟨stops_blank _, subject_of_opens (hx.opens (.stops hrest.stops))
        (hx.operand_of_stops hrest.stops)⟩

theorem branches_of_reads {clauses : List (Clause Expr)}
    (hclauses : ∀ x ∈ clauseChildren clauses, Reads x) {rest : List Char}
    (hrest : Continues ["ELSE", "END"] rest) :
    Continues ["WHEN", "ELSE", "END"] ((clausesText clauses).toList ++ rest) ∧
      Gives (branches · (scan ((clausesText clauses).toList ++ rest)))
        (clauses.map eraseClause, scan rest) := by
  induction clauses with
  | nil =>
      obtain ⟨w, hmem, ts, hscan⟩ := hrest.scan
      have hw : w ≠ "WHEN" := by
        rintro rfl
        simp at hmem
      exact ⟨hrest.mono (by simp), hscan ▸ branches_word hw ts⟩
  | cons clause clauses ih =>
      obtain ⟨test, result⟩ := clause
      have htest := hclauses test (by simp)
      have hresult := hclauses result (by simp)
      obtain ⟨hcontinues, hbranches⟩ := ih fun x hx => hclauses x (by simp [hx])
      have hchars : (clausesText (⟨test, result⟩ :: clauses)).toList ++ rest =
          ' ' :: ("WHEN".toList ++ ' ' :: ((operandText test test.text).toList ++
            ' ' :: ("THEN ".toList ++ ((operandText result result.text).toList ++
              ((clausesText clauses).toList ++ rest))))) := by
        simp [clausesText]
      have hx := htest.operand_of_stops (stops_blank ("THEN ".toList ++
        ((operandText result result.text).toList ++ ((clausesText clauses).toList ++ rest))))
      rw [scan_mark (by decide), scan_separator (s := "THEN ") (by decide)] at hx
      rw [hchars]
      refine ⟨.intro (by simp) (by decide) (delimited_cons (by decide) _), ?_⟩
      rw [scan_mark (by decide), scan_word (by decide) (delimited_cons (by decide) _),
        scan_mark (by decide)]
      exact branches_when hx (hresult.operand_of_stops hcontinues.stops) hbranches

theorem otherwise_of_reads {o : Option Expr} (ho : ∀ x ∈ o, Reads x) {rest : List Char}
    (hrest : Delimited rest) :
    Continues ["ELSE", "END"]
        ((optionText (" " ++ "ELSE" ++ " ") "" o).toList ++ ' ' :: ("END".toList ++ rest)) ∧
      Gives (optional · "ELSE" (scan ((optionText (" " ++ "ELSE" ++ " ") "" o).toList ++
          ' ' :: ("END".toList ++ rest))))
        (o.map erase, mark ' ' :: word "END" :: scan rest) := by
  have hend : scan (' ' :: ("END".toList ++ rest)) = mark ' ' :: word "END" :: scan rest := by
    rw [scan_mark (by decide), scan_word (by decide) hrest]
  constructor
  · cases o with
    | none => exact .intro (by simp) (by decide) hrest
    | some x =>
        rw [toList_optionText_some]
        exact .intro (by simp) (by decide) (delimited_cons (by decide) _)
  · have hne : ∀ ts, scan (' ' :: ("END".toList ++ rest)) ≠ mark ' ' :: word "ELSE" :: ts := by
      rw [hend]
      simp
    rw [← hend]
    exact optional_of_reads (by decide) ho (stops_blank _) hne

theorem reads_caseWhen {o o' : Option Expr} {clauses : List (Clause Expr)}
    (ho : ∀ x ∈ o, Reads x) (hclauses : ∀ x ∈ clauseChildren clauses, Reads x)
    (ho' : ∀ x ∈ o', Reads x) (type : DataType) : Reads (caseWhen o clauses o' type) := by
  have hoperand : ∀ {rest}, Follows rest → ∃ ts,
      scan ((caseWhen o clauses o' type).text.toList ++ rest) = word "CASE" :: ts ∧
        ∀ {r}, Gives (calls · (caseWhen o clauses o' type).erase (scan rest)) r →
          Gives (Parse.operand · (word "CASE" :: ts)) r := by
    intro rest hrest
    have hchars : (caseWhen o clauses o' type).text.toList ++ rest =
        "CASE".toList ++ ((optionText " " "" o).toList ++ ((clausesText clauses).toList ++
          ((optionText (" " ++ "ELSE" ++ " ") "" o').toList ++
            ' ' :: ("END".toList ++ rest)))) := by
      simp [text]
    -- from the end on, since where a part ends depends on the next one
    obtain ⟨hcontinues, hotherwise⟩ := otherwise_of_reads ho' hrest.delimited
    obtain ⟨hcontinues, hbranches⟩ := branches_of_reads hclauses hcontinues
    obtain ⟨hstops, hsubject⟩ := subject_of_reads ho hcontinues
    refine ⟨_, by rw [hchars, scan_word (by decide) hstops.delimited], ?_⟩
    intro r hcalls
    rw [erase_caseWhen] at hcalls
    exact operand_case hsubject hbranches hotherwise hcalls
  refine .of_closed rfl (fun {rest} hrest => ?_) (fun {rest r} hrest hcalls => ?_)
  · obtain ⟨ts, hscan, _⟩ := hoperand hrest
    exact hscan ▸ .word (by decide) ts
  · obtain ⟨ts, hscan, hts⟩ := hoperand hrest
    exact hscan ▸ hts hcalls

/-! ### All expressions -/

theorem reads_of_plain (e : Expr) (h : e.Plain) : Reads e := by
  induction e using Expr.induction with
  | step e ih =>
      have hreads : ∀ x ∈ e.children, Reads x := fun x hx => ih x hx (h.child hx)
      cases e with
      | constant value type => exact reads_constant h.self type
      | column source name type nullable => exact reads_column h.self.1 h.self.2 type nullable
      | parameter name type => exact reads_parameter h.self type
      | unary op x type => exact reads_unary op (hreads x (by simp [children])) type
      | binary op x y type =>
          have hx := hreads x (by simp [children])
          have hy := hreads y (by simp [children])
          by_cases hop : op = .coalesce
          · exact hop ▸ reads_coalesce hx hy type
          · exact reads_binary hop hx hy type
      | like x y o =>
          exact reads_like (hreads x (by simp [children])) (hreads y (by simp [children]))
            fun z hz => hreads z (by simp_all [children])
      | call name receiver args type =>
          exact reads_call h.self (fun x hx => hreads x (by simp_all [children]))
            (fun x hx => hreads x (by simp_all [children])) type
      | caseWhen o clauses o' type =>
          exact reads_caseWhen (fun x hx => hreads x (by simp_all [children]))
            (fun x hx => hreads x (by simp_all [children]))
            (fun x hx => hreads x (by simp_all [children])) type
      | table name label => exact h.self.elim
      | join kind x y => exact h.self.elim

end Parse

/-- A plain expression is read back from its text. -/
theorem gives_erase {e : Expr} (h : e.Plain) :
    Parse.Gives (Parse.expr · (Token.scan e.text.toList)) (e.erase, []) := by
  have hread := (Parse.reads_of_plain e h).expr .nil
  rwa [List.append_nil] at hread

/-- Plain expressions with the same text are the same, but for the types of their nodes and
whether columns may be `NULL`. -/
theorem erase_eq_of_text_eq {e f : Expr} (he : e.Plain) (hf : f.Plain) (h : e.text = f.text) :
    e.erase = f.erase := by
  have hread := gives_erase he
  rw [h] at hread
  exact congrArg Prod.fst (hread.unique (gives_erase hf))

theorem erase_eq_of_text_eq_of_types :
    (like (column "t" "x" .utf8 true) (constant (.string "it's") .utf8) none).text =
        (like (column "t" "x" .null false) (constant (.string "it's") .null) none).text ∧
      (like (column "t" "x" .utf8 true) (constant (.string "it's") .utf8) none).erase =
        (like (column "t" "x" .null false) (constant (.string "it's") .null) none).erase :=
  ⟨rfl, erase_eq_of_text_eq (by decide) (by decide) rfl⟩

end Expr

end NullLogic
