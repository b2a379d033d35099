import NullLogic.Evaluate
import NullLogic.MethodCall
import NullLogic.Proofs.Like

/-!
# Methods that match strings

`StringMethod.Holds` says when a method of strings is true of two texts: of a needle at the
beginning, at the end or anywhere in the other one. The pattern that the method is read as
has one token for each character of the needle, whatever the needle is
(`tokens_escape_append`), and runs of any characters where the method leaves them open.

Whether the escape is declared is decided by the number of bytes. That is right because
escaping adds one for each character that needs it (`utf8ByteSize_escape`): without the
escape there is nothing in the pattern for it to apply to.
-/

namespace NullLogic

/-! ### The methods -/

inductive StringMethod where
  | startsWith | endsWith | contains
deriving DecidableEq

namespace StringMethod

def name : StringMethod → String
  | startsWith => "StartsWith"
  | endsWith => "EndsWith"
  | contains => "Contains"

def Holds : StringMethod → List Char → List Char → Prop
  | startsWith, needle, text => needle <+: text
  | endsWith, needle, text => needle <:+ text
  | contains, needle, text => needle <:+: text

instance (m : StringMethod) (needle text : List Char) : Decidable (m.Holds needle text) :=
  match m with
  | startsWith => inferInstanceAs (Decidable (needle <+: text))
  | endsWith => inferInstanceAs (Decidable (needle <:+ text))
  | contains => List.instDecidableIsInfixOfDecidableEq needle text

/-- The pattern of the method, given the tokens of the needle. -/
def frame : StringMethod → List Like.Token → List Like.Token
  | startsWith, ts => ts ++ [.anyRun]
  | endsWith, ts => .anyRun :: ts
  | contains, ts => .anyRun :: (ts ++ [.anyRun])

end StringMethod

namespace Like

variable {needle text : List Char}

theorem matches_map_char_iff : Matches (needle.map .char) text ↔ text = needle := by
  induction needle generalizing text with
  | nil => exact matches_nil_iff
  | cons c needle ih =>
      simp only [List.map_cons, matches_cons_iff, ih, Token.Covers]
      constructor
      · rintro ⟨_, _, rfl, rfl, rfl⟩
        rfl
      · rintro rfl
        exact ⟨[c], needle, rfl, rfl, rfl⟩

theorem matches_frame_iff (m : StringMethod) :
    Matches (m.frame (needle.map .char)) text ↔ m.Holds needle text := by
  cases m with
  | startsWith =>
      simp only [StringMethod.frame, matches_concat_iff, matches_map_char_iff, Token.Covers]
      constructor
      · rintro ⟨_, rest, rfl, rfl, -⟩
        exact ⟨rest, rfl⟩
      · rintro ⟨rest, rfl⟩
        exact ⟨needle, rest, rfl, rfl, trivial⟩
  | endsWith =>
      simp only [StringMethod.frame, matches_cons_iff, matches_map_char_iff, Token.Covers]
      constructor
      · rintro ⟨run, _, rfl, -, rfl⟩
        exact ⟨run, rfl⟩
      · rintro ⟨run, rfl⟩
        exact ⟨run, needle, rfl, trivial, rfl⟩
  | contains =>
      simp only [StringMethod.frame, matches_cons_iff, matches_concat_iff, matches_map_char_iff,
        Token.Covers]
      constructor
      · rintro ⟨run, _, rfl, -, _, rest, rfl, rfl, -⟩
        exact ⟨run, rest, List.append_assoc run _ rest⟩
      · rintro ⟨run, rest, rfl⟩
        exact ⟨run, needle ++ rest, (List.append_assoc run needle rest).symm, trivial, needle,
          rest, rfl, rfl, trivial⟩

end Like

namespace MethodCall

/-! ### Escaping -/

theorem escape_cons (c : Char) (text : List Char) :
    escape (c :: text) = (if isSpecial c then [escapeMark, c] else [c]) ++ escape text := rfl

theorem escape_of_not_special {text : List Char} (h : ∀ c ∈ text, isSpecial c = false) :
    escape text = text := by
  induction text with
  | nil => rfl
  | cons c text ih =>
      rw [escape_cons, h c List.mem_cons_self, ih fun d hd => h d (List.mem_cons_of_mem c hd)]
      rfl

theorem utf8ByteSize_ofList_append (text rest : List Char) :
    (String.ofList (text ++ rest)).utf8ByteSize =
      (String.ofList text).utf8ByteSize + (String.ofList rest).utf8ByteSize := by
  rw [String.ofList_append, String.utf8ByteSize_append]

/-- Escaping adds a mark of one byte to each special character. -/
theorem utf8ByteSize_escape (text : List Char) :
    (String.ofList (escape text)).utf8ByteSize =
      (String.ofList text).utf8ByteSize + text.countP isSpecial := by
  induction text with
  | nil => rfl
  | cons c text ih =>
      have hmark : (String.ofList [escapeMark]).utf8ByteSize = 1 := rfl
      have htext := utf8ByteSize_ofList_append [c] text
      rw [escape_cons, utf8ByteSize_ofList_append, ih, List.countP_cons]
      rw [List.singleton_append] at htext
      split
      · have hpair := utf8ByteSize_ofList_append [escapeMark] [c]
        rw [List.singleton_append] at hpair
        omega
      · omega

/-- The escape with which the pattern of a text is read. -/
def mark? (text : List Char) : Option Char :=
  if text.any isSpecial then some escapeMark else none

theorem mark?_ne_some {text : List Char} {c : Char} (h : c ≠ escapeMark) :
    mark? text ≠ some c := by
  unfold mark?
  split
  · simpa using h.symm
  · simp

theorem mark?_eq (needle : String) :
    mark? needle.toList =
      if (String.ofList (escape needle.toList)).utf8ByteSize != needle.utf8ByteSize then
        some escapeMark
      else none := by
  have hsize := utf8ByteSize_escape needle.toList
  rw [String.ofList_toList] at hsize
  have hany : needle.toList.any isSpecial =
      ((String.ofList (escape needle.toList)).utf8ByteSize != needle.utf8ByteSize) := by
    rw [Bool.eq_iff_iff, hsize, List.any_eq_true, bne_iff_ne, ne_eq, Nat.add_eq_left,
      ← ne_eq, ← Nat.pos_iff_ne_zero, List.countP_pos_iff]
  rw [mark?, hany]

/-! ### Reading the pattern -/

theorem tokens_some_escape_append (text rest : List Char) :
    Like.tokens (some escapeMark) (escape text ++ rest) =
      text.map .char ++ Like.tokens (some escapeMark) rest := by
  induction text with
  | nil => rfl
  | cons c text ih =>
      rw [escape_cons, List.map_cons, List.cons_append, ← ih]
      cases hc : isSpecial c with
      | true => exact Like.tokens_escaped escapeMark c (escape text ++ rest)
      | false =>
          simp only [isSpecial, Bool.or_eq_false_iff, decide_eq_false_iff_not] at hc
          obtain ⟨⟨hrun, hone⟩, hmark⟩ := hc
          have hne : some escapeMark ≠ some c := by simpa using Ne.symm hmark
          rw [← Like.plainToken_of_ne hrun hone]
          exact Like.tokens_cons_of_ne hne (escape text ++ rest)

theorem tokens_none_append {text : List Char} (h : ∀ c ∈ text, isSpecial c = false)
    (rest : List Char) :
    Like.tokens none (text ++ rest) = text.map .char ++ Like.tokens none rest := by
  induction text with
  | nil => rfl
  | cons c text ih =>
      have hne : (none : Option Char) ≠ some c := nofun
      have hc := h c List.mem_cons_self
      simp only [isSpecial, Bool.or_eq_false_iff, decide_eq_false_iff_not] at hc
      rw [List.map_cons, List.cons_append, List.cons_append,
        ← ih fun d hd => h d (List.mem_cons_of_mem c hd), ← Like.plainToken_of_ne hc.1.1 hc.1.2]
      exact Like.tokens_cons_of_ne hne (text ++ rest)

/-- Each character of an escaped text stands for itself. -/
theorem tokens_escape_append (text rest : List Char) :
    Like.tokens (mark? text) (escape text ++ rest) =
      text.map .char ++ Like.tokens (mark? text) rest := by
  unfold mark?
  split
  · exact tokens_some_escape_append text rest
  · rename_i hany
    have hplain : ∀ c ∈ text, isSpecial c = false := by simpa using hany
    rw [escape_of_not_special hplain]
    exact tokens_none_append hplain rest

theorem tokens_anyRun_cons (text rest : List Char) :
    Like.tokens (mark? text) ('%' :: rest) = .anyRun :: Like.tokens (mark? text) rest :=
  Like.tokens_cons_of_ne (mark?_ne_some (by decide)) rest

theorem exists_pattern?_eq_some (m : StringMethod) (text : List Char) :
    ∃ pattern, pattern? m.name (escape text) = some pattern ∧
      Like.tokens (mark? text) pattern = m.frame (text.map .char) := by
  have hend : Like.tokens (mark? text) ['%'] = [.anyRun] := tokens_anyRun_cons text []
  have htext := tokens_escape_append text []
  rw [List.append_nil] at htext
  cases m with
  | startsWith =>
      refine ⟨_, rfl, ?_⟩
      rw [tokens_escape_append, hend]
      rfl
  | endsWith =>
      refine ⟨_, rfl, ?_⟩
      rw [tokens_anyRun_cons, htext, Like.tokens, List.append_nil]
      rfl
  | contains =>
      refine ⟨_, rfl, ?_⟩
      rw [tokens_anyRun_cons, tokens_escape_append, hend]
      rfl

/-- The pattern of a method, read with the escape that is declared for it. -/
theorem holds_pattern_iff {m : StringMethod} {needle : String} {pattern : List Char}
    (h : Like.tokens (mark? needle.toList) pattern = m.frame (needle.toList.map .char))
    (text : String) :
    Like.holds text (String.ofList pattern) (mark? needle.toList) = true ↔
      m.Holds needle.toList text.toList := by
  rw [Like.holds, String.toList_ofList, h, Like.accepts_iff, Like.matches_frame_iff]

/-! ### The expression -/

/-- A `LIKE` with a constant pattern, and the escape as a constant if there is one. -/
def likeConstant (subject : Expr) (pattern : List Char) (mark : Option Char) : Expr :=
  .like subject (.constant (.string (String.ofList pattern)) .utf8)
    (mark.map fun c => .constant (.string (String.ofList [c])) .utf8)

theorem like_eq_ok {subject : Expr} (h : subject.dataType.isString = true)
    (pattern : List Char) (mark : Option Char) :
    Checked.like subject (.constant (.string (String.ofList pattern)) .utf8)
        (mark.map fun c => .constant (.string (String.ofList [c])) .utf8) =
      .ok (likeConstant subject pattern mark) := by
  have htext : ∀ v, (Expr.constant v .utf8).dataType.isString = true := fun _ => rfl
  cases mark <;> simp [Checked.like, likeConstant, h, htext]

theorem matching_eq_ok {subject : Expr} (h : subject.dataType.isString = true)
    (needle : String) (pattern : List Char) :
    matching subject needle pattern =
      .ok (likeConstant subject pattern (mark? needle.toList)) := by
  rw [mark?_eq, ← like_eq_ok h, matching]
  split <;> rfl

theorem stringMatch_eq_ok {subject : Expr} {m : StringMethod} {needle : String} {t : DataType}
    (h : subject.dataType.isString = true) {pattern : List Char}
    (hpattern : pattern? m.name (escape needle.toList) = some pattern) :
    stringMatch ⟨some subject, "String", m.name, [.constant (.string needle) t]⟩ =
      .ok (some (likeConstant subject pattern (mark? needle.toList))) := by
  simp only [stringMatch, constantText?, hpattern, matching_eq_ok h]
  rfl

variable {reading : NullReading} {b : Bindings}

theorem evaluate_likeConstant {subject : Expr} {pattern : List Char} {mark : Option Char}
    {v : Value} (hv : evaluate reading b subject = .ok v) :
    evaluate reading b (likeConstant subject pattern mark) =
      Like.apply v (.string (String.ofList pattern))
        (mark.map fun c => .string (String.ofList [c])) := by
  rw [likeConstant, evaluate, hv]
  cases mark <;> rfl

theorem evaluate_likeConstant_string {subject : Expr} {pattern : List Char} {mark : Option Char}
    {s : String} (hs : evaluate reading b subject = .ok (.string s)) :
    evaluate reading b (likeConstant subject pattern mark) =
      .ok (.bool (Like.holds s (String.ofList pattern) mark)) := by
  rw [evaluate_likeConstant hs]
  cases mark with
  | none => rfl
  | some c => simp [Like.apply, Like.outcome?, Like.escapeOf?, Value.isNull]

/-- The method of a text and a constant is read as an expression that is `NULL` with the
text and else tells whether the method holds, for any constant and under either reading. -/
theorem evaluate_stringMatch {subject : Expr} (h : subject.dataType.isString = true)
    (m : StringMethod) (needle : String) (t : DataType) :
    ∃ e, stringMatch ⟨some subject, "String", m.name, [.constant (.string needle) t]⟩ =
        .ok (some e) ∧
      ∀ reading b,
        (evaluate reading b subject = .ok .null → evaluate reading b e = .ok .null) ∧
        ∀ s, evaluate reading b subject = .ok (.string s) →
          evaluate reading b e = .ok (.bool (m.Holds needle.toList s.toList)) := by
  obtain ⟨pattern, hpattern, htokens⟩ := exists_pattern?_eq_some m needle.toList
  refine ⟨_, stringMatch_eq_ok h hpattern, fun reading b => ⟨fun hnull => ?_, fun s hs => ?_⟩⟩
  · rw [evaluate_likeConstant hnull]
    rfl
  · have hholds := holds_pattern_iff htokens s
    rw [evaluate_likeConstant_string hs]
    simp [← hholds]

/-- `%\` is looked for as it stands, next to the runs around it. -/
theorem evaluate_stringMatch_of_wildcard :
    ∃ e, stringMatch ⟨some (.column "t" "s" .utf8 true), "String", "Contains",
        [.constant (.string "%\\") .utf8]⟩ = .ok (some e) ∧
      evaluate .asValue (Bindings.empty.setColumn "t" "s" .null) e = .ok .null ∧
      evaluate .asValue (Bindings.empty.setColumn "t" "s" (.string "9%\\")) e =
        .ok (.bool true) ∧
      evaluate .asValue (Bindings.empty.setColumn "t" "s" (.string "9\\")) e =
        .ok (.bool false) := by
  have h : (Expr.column "t" "s" .utf8 true).dataType.isString = true := rfl
  obtain ⟨e, he, heval⟩ := evaluate_stringMatch h .contains "%\\" .utf8
  exact ⟨e, he, (heval _ _).1 rfl, (heval _ _).2 "9%\\" rfl, (heval _ _).2 "9\\" rfl⟩

end MethodCall

end NullLogic
