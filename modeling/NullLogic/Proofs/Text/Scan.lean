import NullLogic.Expr.Plain
import NullLogic.Expr.Text

/-!
# The tokens of words and quotations

Scanning finds a word or a quotation at the front of a text if what follows is `Delimited`,
so that it belongs to neither.
-/

namespace NullLogic

namespace Token

def IsMark (c : Char) : Prop :=
  c ≠ '\'' ∧ isWordChar c = false

instance : DecidablePred IsMark := fun c =>
  inferInstanceAs (Decidable (c ≠ '\'' ∧ isWordChar c = false))

/-- No word and no quotation continues. -/
def Delimited (rest : List Char) : Prop :=
  ∀ c ∈ rest.head?, IsMark c

theorem delimited_cons {c : Char} (h : IsMark c) (cs : List Char) : Delimited (c :: cs) := by
  intro d hd
  rwa [← Option.some.inj hd]

theorem scan_mark {c : Char} (h : IsMark c) (cs : List Char) :
    scan (c :: cs) = mark c :: scan cs := by
  simp [scan, h.1, h.2]

/-! ### Words -/

/-- One or more word characters. -/
def IsWord (w : String) : Prop :=
  w.toList ≠ [] ∧ w.toList.all isWordChar = true

instance (w : String) : Decidable (IsWord w) :=
  inferInstanceAs (Decidable (_ ∧ _))

theorem ne_quote_of_isWordChar {c : Char} (h : isWordChar c = true) : c ≠ '\'' := by
  rintro rfl
  simp [isWordChar] at h

theorem consWord_scan {rest : List Char} (hrest : Delimited rest) (c : Char) :
    consWord c (scan rest) = word (String.ofList [c]) :: scan rest := by
  cases rest with
  | nil => rfl
  | cons d rest =>
      rw [scan_mark (hrest d rfl)]
      rfl

theorem consWord_append (c : Char) {ts : List Token} (hts : ts ≠ []) (us : List Token) :
    consWord c (ts ++ us) = consWord c ts ++ us := by
  match ts with
  | word w :: ts => rfl
  | quoted s :: ts => rfl
  | mark d :: ts => rfl

theorem scan_ne_nil {cs : List Char} (hne : cs ≠ []) (hcs : '\'' ∉ cs) : scan cs ≠ [] := by
  match cs with
  | c :: cs =>
      have hc : c ≠ '\'' := fun h => hcs (h ▸ List.mem_cons_self)
      rw [scan, if_neg hc]
      split
      · rw [consWord.eq_def]
        split <;> exact List.cons_ne_nil _ _
      · exact List.cons_ne_nil _ _

/-- A text without quotes is scanned by itself if a delimiter follows. -/
theorem scan_append {cs : List Char} (hcs : '\'' ∉ cs) {rest : List Char}
    (hrest : Delimited rest) : scan (cs ++ rest) = scan cs ++ scan rest := by
  induction cs with
  | nil => rfl
  | cons c cs ih =>
      have hc : c ≠ '\'' := fun h => hcs (h ▸ List.mem_cons_self)
      have hcs' : '\'' ∉ cs := fun h => hcs (List.mem_cons_of_mem c h)
      rw [List.cons_append, scan, scan, if_neg hc, if_neg hc, ih hcs']
      split
      · rcases Decidable.em (cs = []) with rfl | hne
        · exact consWord_scan hrest c
        · exact consWord_append c (scan_ne_nil hne hcs') (scan rest)
      · rfl

theorem scan_append_mark {cs : List Char} (hcs : '\'' ∉ cs) {c : Char} (hc : IsMark c)
    (rest : List Char) : scan (cs ++ c :: rest) = scan (cs ++ [c]) ++ scan rest := by
  rw [scan_append hcs (delimited_cons hc rest), scan_append hcs (delimited_cons hc []),
    scan_mark hc, scan_mark hc, List.append_assoc]
  rfl

/-- A text without quotes that ends in a mark. -/
def Separates (s : String) : Prop :=
  '\'' ∉ s.toList ∧ s.toList.getLast?.any (fun c => IsMark c) = true

instance (s : String) : Decidable (Separates s) :=
  inferInstanceAs (Decidable (_ ∧ _))

theorem scan_separator {s : String} (hs : Separates s) (rest : List Char) :
    scan (s.toList ++ rest) = scan s.toList ++ scan rest := by
  obtain ⟨hquote, hlast⟩ := hs
  obtain ⟨c, hc, hmark⟩ := (Option.any_eq_true _ _).1 hlast
  obtain ⟨cs, hcs⟩ := List.getLast?_eq_some_iff.1 hc
  rw [hcs, List.append_assoc]
  exact scan_append_mark (by simp_all) (of_decide_eq_true hmark) rest

theorem scan_of_forall {cs : List Char} (hne : cs ≠ []) (hcs : ∀ c ∈ cs, isWordChar c = true) :
    scan cs = [word (String.ofList cs)] := by
  induction cs with
  | nil => exact absurd rfl hne
  | cons c cs ih =>
      have hc : isWordChar c = true := hcs c List.mem_cons_self
      rw [scan, if_neg (ne_quote_of_isWordChar hc), if_pos hc]
      rcases Decidable.em (cs = []) with rfl | hne
      · rfl
      · rw [ih hne fun d hd => hcs d (List.mem_cons_of_mem c hd)]
        simp [consWord]

theorem scan_word {w : String} (hw : IsWord w) {rest : List Char} (hrest : Delimited rest) :
    scan (w.toList ++ rest) = word w :: scan rest := by
  have hchars : ∀ c ∈ w.toList, isWordChar c = true := List.all_eq_true.1 hw.2
  have hquote : '\'' ∉ w.toList := fun h => ne_quote_of_isWordChar (hchars _ h) rfl
  rw [scan_append hquote hrest, scan_of_forall hw.1 hchars, String.ofList_toList]
  rfl

theorem isWord_of_isIdentifier {s : String} (h : IsIdentifier s) : IsWord s := by
  refine ⟨fun hnil => ?_, h.2⟩
  simp [IsIdentifier, hnil] at h

/-! ### Quotations -/

theorem scanQuoted_doubleQuotes (s : List Char) {rest : List Char} (hrest : Delimited rest) :
    scanQuoted (Value.doubleQuotes s ++ '\'' :: rest) = quoted (String.ofList s) :: scan rest := by
  induction s with
  | nil =>
      cases rest with
      | nil => rfl
      | cons d rest =>
          have hd : d ≠ '\'' := (hrest d rfl).1
          simp [Value.doubleQuotes, scanQuoted, hd]
  | cons c s ih =>
      by_cases hc : c = '\''
      · subst hc
        simp [Value.doubleQuotes, scanQuoted, ih, consQuoted]
      · simp [Value.doubleQuotes, scanQuoted, hc, ih, consQuoted]

theorem scan_string (s : String) {rest : List Char} (hrest : Delimited rest) :
    scan ((Value.string s).text.toList ++ rest) = quoted s :: scan rest := by
  have htext : (Value.string s).text.toList ++ rest =
      '\'' :: (Value.doubleQuotes s.toList ++ '\'' :: rest) := by
    simp [Value.text]
  rw [htext, scan, if_pos rfl, scanQuoted_doubleQuotes s.toList hrest, String.ofList_toList]

end Token

end NullLogic
