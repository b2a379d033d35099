import Mathlib.Data.List.Forall2
import NullLogic.Like

/-!
# What it means to match a pattern

`Reads` says which tokens a pattern stands for, and `Matches` that a text falls into
consecutive pieces, one for each token. Nothing is said there of how a match is found.

The rows by which `Like.accepts` finds one are right about every prefix of the pattern:
this is so before anything is read (`tells_start`), each character keeps it so
(`Row.Tells.step`), and hence it is so when the text has been read. The main statement is
`holds_iff_exists_pieces`.
-/

namespace NullLogic

namespace Like

/-! ### Reading a pattern -/

/-- The tokens of a pattern, read from left to right. The escape comes first, so a wildcard
that is declared as the escape is no wildcard. -/
inductive Reads (escape : Option Char) : List Char → List Token → Prop where
  | nil : Reads escape [] []
  | escaped {c : Char} (d : Char) {cs : List Char} {ts : List Token} (h : escape = some c)
      (hcs : Reads escape cs ts) : Reads escape (c :: d :: cs) (.char d :: ts)
  | trailing {c : Char} (h : escape = some c) : Reads escape [c] [.char c]
  | anyRun {cs : List Char} {ts : List Token} (h : escape ≠ some '%')
      (hcs : Reads escape cs ts) : Reads escape ('%' :: cs) (.anyRun :: ts)
  | anyOne {cs : List Char} {ts : List Token} (h : escape ≠ some '_')
      (hcs : Reads escape cs ts) : Reads escape ('_' :: cs) (.anyOne :: ts)
  | char {c : Char} {cs : List Char} {ts : List Token} (h : escape ≠ some c) (hrun : c ≠ '%')
      (hone : c ≠ '_') (hcs : Reads escape cs ts) : Reads escape (c :: cs) (.char c :: ts)

variable {escape : Option Char}

theorem tokens_escaped (c d : Char) (cs : List Char) :
    tokens (some c) (c :: d :: cs) = .char d :: tokens (some c) cs := by
  simp [tokens]

theorem tokens_cons_of_ne {c : Char} (h : escape ≠ some c) (cs : List Char) :
    tokens escape (c :: cs) = plainToken c :: tokens escape cs := by
  cases cs with
  | nil => simp [tokens, h]
  | cons d cs => simp [tokens, h]

theorem plainToken_of_ne {c : Char} (hrun : c ≠ '%') (hone : c ≠ '_') :
    plainToken c = .char c := by
  simp [plainToken, hrun, hone]

theorem Reads.plain {c : Char} {cs : List Char} {ts : List Token} (h : escape ≠ some c)
    (hcs : Reads escape cs ts) : Reads escape (c :: cs) (plainToken c :: ts) := by
  by_cases hrun : c = '%'
  · subst hrun
    exact .anyRun h hcs
  · by_cases hone : c = '_'
    · subst hone
      exact .anyOne h hcs
    · rw [plainToken_of_ne hrun hone]
      exact .char h hrun hone hcs

/-- Every pattern can be read, and in one way only. -/
theorem reads_iff {cs : List Char} {ts : List Token} :
    Reads escape cs ts ↔ ts = tokens escape cs := by
  constructor
  · intro h
    induction h with
    | nil => rfl
    | escaped d h hcs ih => rw [h, tokens_escaped, ih, h]
    | trailing h => simp [tokens, h]
    | anyRun h hcs ih => rw [tokens_cons_of_ne h, ih]; rfl
    | anyOne h hcs ih => rw [tokens_cons_of_ne h, ih]; rfl
    | char h hrun hone hcs ih => rw [tokens_cons_of_ne h, plainToken_of_ne hrun hone, ih]
  · rintro rfl
    fun_induction tokens escape cs with
    | case1 => exact .nil
    | case2 c =>
        split
        · exact .trailing ‹_›
        · exact .plain ‹_› .nil
    | case3 c d cs h ih => exact .escaped d h ih
    | case4 c d cs h ih => exact .plain h ih

/-! ### Matching tokens -/

/-- The pieces of a text that a token stands for. -/
def Token.Covers : Token → List Char → Prop
  | anyRun, _ => True
  | anyOne, piece => piece.length = 1
  | char c, piece => piece = [c]

def Matches (ts : List Token) (text : List Char) : Prop :=
  ∃ pieces, List.Forall₂ Token.Covers ts pieces ∧ pieces.flatten = text

theorem Token.covers_nil_iff (t : Token) : t.Covers [] ↔ t = .anyRun := by
  cases t <;> simp [Token.Covers]

@[simp] theorem matches_nil_iff {text : List Char} : Matches [] text ↔ text = [] := by
  simp [Matches, eq_comm]

theorem matches_cons_iff {t : Token} {ts : List Token} {text : List Char} :
    Matches (t :: ts) text ↔
      ∃ piece rest, piece ++ rest = text ∧ t.Covers piece ∧ Matches ts rest := by
  constructor
  · rintro ⟨_, _ | ⟨ht, hts⟩, rfl⟩
    exact ⟨_, _, rfl, ht, _, hts, rfl⟩
  · rintro ⟨piece, _, rfl, ht, pieces, hts, rfl⟩
    exact ⟨piece :: pieces, .cons ht hts, rfl⟩

theorem matches_append_iff {ts us : List Token} {text : List Char} :
    Matches (ts ++ us) text ↔ ∃ s s', s ++ s' = text ∧ Matches ts s ∧ Matches us s' := by
  induction ts generalizing text with
  | nil => simp
  | cons t ts ih =>
      simp only [List.cons_append, matches_cons_iff, ih]
      constructor
      · rintro ⟨piece, _, rfl, ht, s, s', rfl, hts, hus⟩
        exact ⟨piece ++ s, s', List.append_assoc piece s s', ⟨piece, s, rfl, ht, hts⟩, hus⟩
      · rintro ⟨_, s', rfl, ⟨piece, s, rfl, ht, hts⟩, hus⟩
        exact ⟨piece, s ++ s', (List.append_assoc piece s s').symm, ht, s, s', rfl, hts, hus⟩

@[simp] theorem matches_singleton_iff {t : Token} {text : List Char} :
    Matches [t] text ↔ t.Covers text := by
  simp [matches_cons_iff]

/-! ### One more token, one more character

The rows compare prefixes of the pattern with prefixes of the text, so tokens and characters
are added at the end here. -/

variable {ts : List Token} {text : List Char}

theorem matches_concat_iff {t : Token} :
    Matches (ts ++ [t]) text ↔ ∃ s piece, s ++ piece = text ∧ Matches ts s ∧ t.Covers piece := by
  rw [matches_append_iff]
  simp only [matches_singleton_iff]

theorem matches_concat_nil_iff {t : Token} :
    Matches (ts ++ [t]) [] ↔ Matches ts [] ∧ t = .anyRun := by
  rw [matches_concat_iff, ← t.covers_nil_iff]
  constructor
  · rintro ⟨s, piece, hnil, hts, ht⟩
    obtain ⟨rfl, rfl⟩ := List.append_eq_nil_iff.1 hnil
    exact ⟨hts, ht⟩
  · rintro ⟨hts, ht⟩
    exact ⟨[], [], rfl, hts, ht⟩

/-- The new character is outside the run or the last one of it. -/
theorem matches_anyRun_concat_iff {c : Char} :
    Matches (ts ++ [.anyRun]) (text ++ [c]) ↔
      Matches ts (text ++ [c]) ∨ Matches (ts ++ [.anyRun]) text := by
  simp only [matches_concat_iff, Token.Covers, and_true]
  constructor
  · rintro ⟨s, piece, heq, hts⟩
    rcases List.eq_nil_or_concat piece with rfl | ⟨run, d, rfl⟩
    · rw [List.append_nil] at heq
      exact .inl (heq ▸ hts)
    · rw [List.concat_eq_append, ← List.append_assoc] at heq
      exact .inr ⟨s, run, (List.append_inj' heq rfl).1, hts⟩
  · rintro (hts | ⟨s, run, rfl, hts⟩)
    · exact ⟨text ++ [c], [], List.append_nil _, hts⟩
    · exact ⟨s, run ++ [c], (List.append_assoc s run [c]).symm, hts⟩

theorem matches_anyOne_concat_iff {c : Char} :
    Matches (ts ++ [.anyOne]) (text ++ [c]) ↔ Matches ts text := by
  rw [matches_concat_iff]
  constructor
  · rintro ⟨s, piece, heq, hts, hone⟩
    obtain ⟨d, rfl⟩ := List.length_eq_one_iff.1 hone
    rwa [← (List.append_inj' heq rfl).1]
  · intro hts
    exact ⟨text, [c], rfl, hts, rfl⟩

theorem matches_char_concat_iff {c d : Char} :
    Matches (ts ++ [.char d]) (text ++ [c]) ↔ Matches ts text ∧ d = c := by
  rw [matches_concat_iff]
  constructor
  · rintro ⟨s, piece, heq, hts, rfl⟩
    obtain ⟨rfl, hd⟩ := List.append_inj' heq rfl
    exact ⟨hts, (List.cons.inj hd).1⟩
  · rintro ⟨hts, rfl⟩
    exact ⟨text, [d], rfl, hts, rfl⟩

/-! ### The cells of a row -/

namespace Row

/-- Each cell tells whether the text matches the prefix that ends with its token, where
`before` is what precedes the cells. -/
def CellsTell (text : List Char) : List Token → List (Token × Bool) → Prop
  | _, [] => True
  | before, (t, matched) :: cells =>
      (matched = true ↔ Matches (before ++ [t]) text) ∧ CellsTell text (before ++ [t]) cells

theorem cellsTell_start {before : List Token} {matched : Bool}
    (h : matched = true ↔ Matches before []) (ts : List Token) :
    CellsTell [] before (startCells matched ts) := by
  induction ts generalizing before matched with
  | nil => trivial
  | cons t ts ih =>
      have hcell : (matched && t = .anyRun) = true ↔ Matches (before ++ [t]) [] := by
        rw [matches_concat_nil_iff, ← h, Bool.and_eq_true, decide_eq_true_eq]
      exact ⟨hcell, ih hcell⟩

theorem CellsTell.step {before : List Token} {c : Char} {matched matched' : Bool}
    {cells : List (Token × Bool)} (h : CellsTell text before cells)
    (hold : matched = true ↔ Matches before text)
    (hnew : matched' = true ↔ Matches before (text ++ [c])) :
    CellsTell (text ++ [c]) before (stepCells c matched matched' cells) := by
  induction cells generalizing before matched matched' with
  | nil => trivial
  | cons cell cells ih =>
      obtain ⟨t, here⟩ := cell
      obtain ⟨hhere, hcells⟩ := h
      refine ⟨?_, ih hcells hhere ?_⟩
      all_goals
        cases t with
        | anyRun => rw [matches_anyRun_concat_iff, ← hnew, ← hhere, Bool.or_eq_true]
        | anyOne => rw [matches_anyOne_concat_iff, ← hold]
        | char d =>
            rw [matches_char_concat_iff, ← hold, Bool.and_eq_true, decide_eq_true_eq]

theorem CellsTell.last {before : List Token} {matched : Bool} {cells : List (Token × Bool)}
    (h : CellsTell text before cells) (hbefore : matched = true ↔ Matches before text) :
    last matched cells = true ↔ Matches (before ++ cells.map Prod.fst) text := by
  induction cells generalizing before matched with
  | nil => simpa [Row.last] using hbefore
  | cons cell cells ih =>
      have htail := ih h.2 h.1
      rwa [List.append_assoc] at htail

theorem map_fst_startCells (matched : Bool) (ts : List Token) :
    (startCells matched ts).map Prod.fst = ts := by
  induction ts generalizing matched with
  | nil => rfl
  | cons t ts ih => simp [startCells, ih]

theorem map_fst_stepCells (c : Char) (matched matched' : Bool) (cells : List (Token × Bool)) :
    (stepCells c matched matched' cells).map Prod.fst = cells.map Prod.fst := by
  induction cells generalizing matched matched' with
  | nil => rfl
  | cons cell cells ih => simp [stepCells, ih]

/-! ### Rows -/

/-- The row is about the prefixes of the pattern and right about each of them. -/
structure Tells (row : Row) (pattern : List Token) (text : List Char) : Prop where
  tokens : row.cells.map Prod.fst = pattern
  empty : row.empty = true ↔ text = []
  cells : CellsTell text [] row.cells

theorem tells_start (pattern : List Token) : (start pattern).Tells pattern [] where
  tokens := map_fst_startCells true pattern
  empty := ⟨fun _ => rfl, fun _ => rfl⟩
  cells := cellsTell_start (by simp) pattern

variable {row : Row} {pattern : List Token}

theorem Tells.step (h : row.Tells pattern text) (c : Char) :
    (row.step c).Tells pattern (text ++ [c]) where
  tokens := (map_fst_stepCells c _ _ _).trans h.tokens
  empty := by simp [Row.step]
  cells := h.cells.step (by simpa using h.empty) (by simp)

theorem Tells.foldl (h : row.Tells pattern text) (rest : List Char) :
    (rest.foldl Row.step row).Tells pattern (text ++ rest) := by
  induction rest generalizing row text with
  | nil => simpa using h
  | cons c rest ih =>
      have hrest := ih (h.step c)
      rwa [List.append_assoc] at hrest

theorem Tells.matched_iff (h : row.Tells pattern text) :
    row.matched = true ↔ Matches pattern text := by
  have hlast := h.cells.last (by simpa using h.empty)
  rwa [List.nil_append, h.tokens] at hlast

end Row

theorem accepts_iff (pattern : List Token) (text : List Char) :
    accepts pattern text = true ↔ Matches pattern text :=
  ((Row.tells_start pattern).foldl text).matched_iff

/-- A text matches a pattern exactly if it falls into pieces, one for each token that the
pattern is read as. -/
theorem holds_iff_exists_pieces (text pattern : String) (escape : Option Char) :
    holds text pattern escape = true ↔
      ∃ ts, Reads escape pattern.toList ts ∧
        ∃ pieces, List.Forall₂ Token.Covers ts pieces ∧ pieces.flatten = text.toList := by
  simp only [reads_iff, exists_eq_left]
  exact accepts_iff _ _

/-- A wildcard that is the escape, and an escape that nothing follows. -/
example : holds "a%" "a%%" (some '%') = true ∧ holds "ab" "a%" (some '%') = false := by
  decide

end Like

end NullLogic
