import Mathlib.Data.List.Forall2
import Mathlib.Tactic.SplitIfs
import NullLogic.Semantics
import NullLogic.WellTyped

/-!
# Types and the values that fit them

`DataType.commonType?_cases` lists the ways in which two types can have a common one. A
value that fits one of the two fits the common type (`Value.Fits.of_commonType?`), and two
values that fit one type can be compared.

Simplifying may put an untyped `NULL` in the place of a truth value, so an operand that had
the type `s` has one with `s.SimplifiesTo t` afterwards. Whatever operators take, they still
take then, and the types of their results are related in the same way.
-/

namespace NullLogic

namespace DataType

@[simp] theorem isNumeric_null : null.isNumeric = false := rfl

@[simp] theorem isNumeric_boolean : boolean.isNumeric = false := rfl

@[simp] theorem isText_null : null.isText = false := rfl

@[simp] theorem isText_boolean : boolean.isText = false := rfl

theorem isNumeric_of_isInteger {t : DataType} (h : t.isInteger = true) : t.isNumeric = true := by
  rw [isNumeric, h, Bool.true_or]

theorem isText_of_isNumeric {t : DataType} (h : t.isNumeric = true) : t.isText = false := by
  cases t <;> simp [isNumeric, isInteger, isFloating, isText] at h ⊢

theorem isString_iff {t : DataType} : t.isString = true ↔ t.isText = true ∨ t = null := by
  cases t <;> simp [isString, isText]

/-- How two types can have a common one. -/
theorem commonType?_cases {s t u : DataType} (h : s.commonType? t = some u) :
    (s = t ∧ u = s) ∨ (s = null ∧ u = t) ∨ (t = null ∧ u = s) ∨
      (s.isNumeric = true ∧ t.isNumeric = true ∧ u.isNumeric = true) ∨
      (s.isText = true ∧ t.isText = true ∧ u.isText = true) := by
  unfold commonType? at h
  split_ifs at h with hst hs ht hint hnum htext
  · exact .inl ⟨hst, (Option.some.inj h).symm⟩
  · exact .inr (.inl ⟨hs, (Option.some.inj h).symm⟩)
  · exact .inr (.inr (.inl ⟨ht, (Option.some.inj h).symm⟩))
  · rw [Bool.and_eq_true] at hint
    obtain rfl := Option.some.inj h
    exact .inr (.inr (.inr (.inl
      ⟨isNumeric_of_isInteger hint.1, isNumeric_of_isInteger hint.2, rfl⟩)))
  · rw [Bool.and_eq_true] at hnum
    obtain rfl := Option.some.inj h
    exact .inr (.inr (.inr (.inl ⟨hnum.1, hnum.2, rfl⟩)))
  · rw [Bool.and_eq_true] at htext
    obtain rfl := Option.some.inj h
    exact .inr (.inr (.inr (.inr ⟨htext.1, htext.2, rfl⟩)))

/-- A truth value has a type in common with truth values and untyped `NULL`s only. -/
theorem commonType?_boolean_left_iff {t u : DataType} :
    boolean.commonType? t = some u ↔ (t = boolean ∨ t = null) ∧ u = boolean := by
  constructor
  · intro h
    obtain ⟨rfl, rfl⟩ | ⟨hs, -⟩ | ⟨rfl, rfl⟩ | ⟨hs, -⟩ | ⟨hs, -⟩ := commonType?_cases h
    · exact ⟨.inl rfl, rfl⟩
    · simp at hs
    · exact ⟨.inr rfl, rfl⟩
    · simp at hs
    · simp at hs
  · intro h
    obtain ⟨rfl | rfl, rfl⟩ := h <;> simp

/-! ### Types of what simplifying leaves -/

def SimplifiesTo (s t : DataType) : Prop :=
  t = s ∨ s = boolean ∧ t = null

namespace SimplifiesTo

variable {s s' t t' u : DataType}

@[refl] theorem refl (s : DataType) : s.SimplifiesTo s := .inl rfl

theorem trans (h : s.SimplifiesTo t) (h' : t.SimplifiesTo u) : s.SimplifiesTo u := by
  obtain rfl | ⟨rfl, rfl⟩ := h
  · exact h'
  · obtain rfl | ⟨hnull, -⟩ := h'
    · exact .inr ⟨rfl, rfl⟩
    · simp at hnull

theorem eq_of_ne_boolean (h : s.SimplifiesTo t) (hs : s ≠ boolean) : t = s :=
  h.resolve_right fun hboolean => hs hboolean.1

theorem isBoolean (h : s.SimplifiesTo t) (hs : s.isBoolean = true) : t.isBoolean = true := by
  obtain rfl | ⟨-, rfl⟩ := h
  · exact hs
  · rfl

end SimplifiesTo

theorem isBoolean_iff {t : DataType} : t.isBoolean = true ↔ t = boolean ∨ t = null := by
  cases t <;> simp [isBoolean]

theorem boolean_simplifiesTo_iff {t : DataType} :
    boolean.SimplifiesTo t ↔ t.isBoolean = true := by
  simp [SimplifiesTo, isBoolean_iff]

theorem simplifiesTo_boolean_iff {s : DataType} : s.SimplifiesTo boolean ↔ s = boolean := by
  simp [SimplifiesTo, eq_comm]

variable {s s' t t' u : DataType}

theorem exists_commonType?_left (h : s.commonType? t = some u) (hs : s.SimplifiesTo s') :
    ∃ u', s'.commonType? t = some u' ∧ u.SimplifiesTo u' := by
  obtain rfl | ⟨rfl, rfl⟩ := hs
  · exact ⟨u, h, .refl u⟩
  · obtain ⟨ht, rfl⟩ := commonType?_boolean_left_iff.1 h
    exact ⟨t, commonType?_null_left t, boolean_simplifiesTo_iff.2 (isBoolean_iff.2 ht)⟩

/-- What has a common type has one afterwards. -/
theorem exists_commonType? (h : s.commonType? t = some u) (hs : s.SimplifiesTo s')
    (ht : t.SimplifiesTo t') : ∃ u', s'.commonType? t' = some u' ∧ u.SimplifiesTo u' := by
  obtain ⟨m, hm, hum⟩ := exists_commonType?_left h hs
  rw [commonType?_comm] at hm
  obtain ⟨u', hu', hmu'⟩ := exists_commonType?_left hm ht
  exact ⟨u', (commonType?_comm s' t').trans hu', hum.trans hmu'⟩

theorem exists_foldlM_commonType? {types types' : List DataType}
    (htypes : List.Forall₂ SimplifiesTo types types') (h : types.foldlM commonType? s = some u)
    (hs : s.SimplifiesTo s') : ∃ u', types'.foldlM commonType? s' = some u' ∧
      u.SimplifiesTo u' := by
  induction htypes generalizing s s' with
  | nil =>
      obtain rfl := Option.some.inj h
      exact ⟨s', rfl, hs⟩
  | cons ht _ ih =>
      rw [List.foldlM_cons] at h
      obtain ⟨m, hm, hrest⟩ := Option.bind_eq_some_iff.1 h
      obtain ⟨m', hm', hmm'⟩ := exists_commonType? hm hs ht
      obtain ⟨u', hu', huu'⟩ := ih hrest hmm'
      exact ⟨u', by rw [List.foldlM_cons, hm']; exact hu', huu'⟩

theorem exists_commonTypeOfAll? {types types' : List DataType}
    (htypes : List.Forall₂ SimplifiesTo types types') (h : commonTypeOfAll? types = some u) :
    ∃ u', commonTypeOfAll? types' = some u' ∧ u.SimplifiesTo u' :=
  exists_foldlM_commonType? htypes h (.refl null)

end DataType

/-! ### Operators on simplified operands -/

variable {s s' t t' u : DataType}

theorem UnaryOp.exists_resultType? {op : UnaryOp} (h : op.resultType? s = some u)
    (hs : s.SimplifiesTo s') : ∃ u', op.resultType? s' = some u' ∧ u.SimplifiesTo u' := by
  cases op with
  | not =>
      obtain ⟨hboolean, hu⟩ := Option.ite_none_right_eq_some.1 h
      obtain rfl := Option.some.inj hu
      exact ⟨.boolean, by simp [resultType?, hs.isBoolean hboolean], .refl _⟩
  | test kind => exact ⟨u, h, .refl u⟩
  | negate =>
      have hs' : s' = s := by
        refine hs.eq_of_ne_boolean ?_
        rintro rfl
        simp [resultType?] at h
      exact ⟨u, hs' ▸ h, .refl u⟩

theorem BinaryOp.exists_resultType? {op : BinaryOp} (h : op.resultType? s t = some u)
    (hs : s.SimplifiesTo s') (ht : t.SimplifiesTo t') :
    ∃ u', op.resultType? s' t' = some u' ∧ u.SimplifiesTo u' := by
  cases op with
  | comparison kind =>
      obtain ⟨m, hm, rfl⟩ := Option.map_eq_some_iff.1 h
      obtain ⟨m', hm', -⟩ := DataType.exists_commonType? hm hs ht
      exact ⟨.boolean, by simp [resultType?, hm'], .refl _⟩
  | connective kind =>
      obtain ⟨hboth, hu⟩ := Option.ite_none_right_eq_some.1 h
      obtain rfl := Option.some.inj hu
      obtain ⟨hsb, htb⟩ := Bool.and_eq_true_iff.1 hboth
      exact ⟨.boolean, by simp [resultType?, hs.isBoolean hsb, ht.isBoolean htb], .refl _⟩
  | coalesce => exact DataType.exists_commonType? h hs ht
  | arithmetic kind =>
      obtain ⟨hm, hu⟩ := Option.filter_eq_some_iff.1 h
      obtain ⟨u', hu', hsimp⟩ := DataType.exists_commonType? hm hs ht
      obtain rfl : u' = u := by
        refine hsimp.eq_of_ne_boolean ?_
        rintro rfl
        simp at hu
      exact ⟨u', by simp only [resultType?, hu', Option.filter_some, hu, if_true], .refl u'⟩

/-! ### Values -/

namespace Value

@[simp] theorem fits_null_type_iff {v : Value} : v.Fits .null ↔ v = null := by
  cases v <;> simp [Fits]

/-! The values of operands, by the class of types that an operator asks for. -/

theorem Fits.eq_ofTruth {v : Value} {t : DataType} (h : v.Fits t) (ht : t.isBoolean = true) :
    ∃ p, v = ofTruth p := by
  cases v with
  | null => exact ⟨none, rfl⟩
  | bool c => exact ⟨some c, rfl⟩
  | _ => cases t <;> simp [DataType.isBoolean] at ht <;> simp [Fits] at h

theorem Fits.eq_null_or_string {v : Value} {t : DataType} (h : v.Fits t)
    (ht : t.isString = true) : v = null ∨ ∃ s, v = string s := by
  cases v with
  | null => exact .inl rfl
  | string s => exact .inr ⟨s, rfl⟩
  | bool c =>
      obtain rfl : t = .boolean := h
      simp [DataType.isString] at ht
  | int n | float x =>
      have hnum : t.isNumeric = true := h
      rcases DataType.isString_iff.1 ht with htext | rfl
      · simp [DataType.isText_of_isNumeric hnum] at htext
      · simp at hnum

theorem Fits.eq_null_or_number {v : Value} {t : DataType} (h : v.Fits t)
    (ht : (t.isNumeric || t = .null) = true) :
    v = null ∨ t.isNumeric = true ∧ ((∃ n, v = int n) ∨ ∃ x, v = float x) := by
  cases v with
  | null => exact .inl rfl
  | int n => exact .inr ⟨h, .inl ⟨n, rfl⟩⟩
  | float x => exact .inr ⟨h, .inr ⟨x, rfl⟩⟩
  | bool c =>
      obtain rfl : t = .boolean := h
      simp at ht
  | string s =>
      have htext : t.isText = true := h
      rcases Bool.or_eq_true_iff.1 ht with hnum | hnull
      · simp [DataType.isText_of_isNumeric hnum] at htext
      · simp [of_decide_eq_true hnull] at htext

/-! ### Common types -/

/-- A value of a numeric type is a number, and so fits all numeric types. -/
theorem Fits.of_isNumeric {v : Value} {s t : DataType} (h : v.Fits s) (hs : s.isNumeric = true)
    (ht : t.isNumeric = true) : v.Fits t := by
  cases v with
  | null => trivial
  | bool b =>
      obtain rfl : s = .boolean := h
      simp at hs
  | int n => exact ht
  | float x => exact ht
  | string z =>
      have htext : s.isText = true := h
      simp [DataType.isText_of_isNumeric hs] at htext

theorem Fits.of_isText {v : Value} {s t : DataType} (h : v.Fits s) (hs : s.isText = true)
    (ht : t.isText = true) : v.Fits t := by
  cases v with
  | null => trivial
  | bool b =>
      obtain rfl : s = .boolean := h
      simp at hs
  | int n | float x =>
      have hnum : s.isNumeric = true := h
      simp [DataType.isText_of_isNumeric hnum] at hs
  | string z => exact ht

theorem Fits.of_commonType? {v : Value} {s t u : DataType} (hv : v.Fits s)
    (h : s.commonType? t = some u) : v.Fits u := by
  obtain ⟨-, rfl⟩ | ⟨rfl, -⟩ | ⟨-, rfl⟩ | ⟨hs, -, hu⟩ | ⟨hs, -, hu⟩ := DataType.commonType?_cases h
  · exact hv
  · rw [fits_null_type_iff.1 hv]
    trivial
  · exact hv
  · exact hv.of_isNumeric hs hu
  · exact hv.of_isText hs hu

theorem Fits.of_simplifiesTo {v : Value} {s t : DataType} (hv : v.Fits t)
    (h : s.SimplifiesTo t) : v.Fits s := by
  obtain rfl | ⟨-, rfl⟩ := h
  · exact hv
  · rw [fits_null_type_iff.1 hv]
    trivial

theorem Fits.of_commonType?_right {v : Value} {s t u : DataType} (hv : v.Fits t)
    (h : s.commonType? t = some u) : v.Fits u :=
  hv.of_commonType? ((DataType.commonType?_comm t s).trans h)

theorem Fits.of_foldlM {v : Value} {s u : DataType} {types : List DataType}
    (h : types.foldlM DataType.commonType? s = some u)
    (hv : v.Fits s ∨ ∃ t ∈ types, v.Fits t) : v.Fits u := by
  induction types generalizing s with
  | nil =>
      obtain rfl := Option.some.inj h
      simpa using hv
  | cons t types ih =>
      rw [List.foldlM_cons] at h
      obtain ⟨m, hm, hrest⟩ := Option.bind_eq_some_iff.1 h
      rcases hv with hv | ⟨t', ht', hv⟩
      · exact ih hrest (.inl (hv.of_commonType? hm))
      · rcases List.mem_cons.1 ht' with rfl | ht'
        · exact ih hrest (.inl (hv.of_commonType?_right hm))
        · exact ih hrest (.inr ⟨t', ht', hv⟩)

theorem Fits.of_commonTypeOfAll? {v : Value} {t u : DataType} {types : List DataType}
    (hv : v.Fits t) (ht : t ∈ types) (h : DataType.commonTypeOfAll? types = some u) :
    v.Fits u :=
  Fits.of_foldlM h (.inr ⟨t, ht, hv⟩)

/-- Two values other than `NULL` can be compared if they fit one type. -/
theorem exists_compare?_eq_some {v w : Value} {t : DataType} (hv : v.Fits t) (hw : w.Fits t)
    (hvn : v ≠ null) (hwn : w ≠ null) : ∃ o, v.compare? w = some o := by
  have hdisjoint := @DataType.isText_of_isNumeric t
  cases v <;> cases w <;> simp_all [Fits, compare?]

/-- Where two types have a common one, the values that fit them can be compared. -/
theorem exists_compare?_of_commonType? {v w : Value} {s t u : DataType}
    (h : s.commonType? t = some u) (hv : v.Fits s) (hw : w.Fits t) (hvn : v ≠ null)
    (hwn : w ≠ null) : ∃ o, v.compare? w = some o :=
  exists_compare?_eq_some (hv.of_commonType? h) (hw.of_commonType?_right h) hvn hwn

end Value
end NullLogic
