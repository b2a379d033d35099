import Mathlib.Order.Bounds.Basic
import NullLogic.Proofs.Typing

/-!
# The order of types

Types are ordered by `DataType.Below`: `null` is below all of them, an integer type below
`int64`, a numeric type below `float64`, and a text type below `largeUtf8`. The common type of
two types is their least upper bound in this order (`commonType?_eq_some_iff`), and it exists
as soon as they have any upper bound.

A list of types is met from the left. What comes out is the least upper bound of all the types
on the list (`commonTypeOfAll?_eq_some_iff`), so neither their order nor how often each of them
occurs matters. It exists if every two of the types have a common type
(`exists_commonTypeOfAll?_iff`), because a type that goes with each of two types also goes with
what these have in common (`exists_commonType?_of_both`).
-/

namespace NullLogic

namespace DataType

/-! ### The order -/

/-- What has the first type may be taken as being of the second. -/
inductive Below : DataType → DataType → Prop where
  | refl (t : DataType) : Below t t
  | null (t : DataType) : Below null t
  | integer {t : DataType} (h : t.isInteger = true) : Below t int64
  | number {t : DataType} (h : t.isNumeric = true) : Below t float64
  | text {t : DataType} (h : t.isText = true) : Below t largeUtf8

theorem Below.trans {s t u : DataType} (hst : Below s t) (htu : Below t u) : Below s u := by
  cases hst with
  | refl => exact htu
  | null => exact .null u
  | integer hs =>
      cases htu with
      | refl => exact .integer hs
      | integer => exact .integer hs
      | number => exact .number (isNumeric_of_isInteger hs)
      | text h => simp [isText] at h
  | number hs =>
      cases htu with
      | refl => exact .number hs
      | integer h => simp [isInteger] at h
      | number => exact .number hs
      | text h => simp [isText] at h
  | text hs =>
      cases htu with
      | refl => exact .text hs
      | integer h => simp [isInteger] at h
      | number h => simp [isNumeric, isInteger, isFloating] at h
      | text => exact .text hs

theorem Below.antisymm {s t : DataType} (hst : Below s t) (hts : Below t s) : s = t := by
  cases hst with
  | refl => rfl
  | null =>
      cases hts with
      | refl => rfl
      | null => rfl
  | integer hs =>
      cases hts with
      | refl => rfl
      | integer => rfl
      | number => simp [isInteger] at hs
      | text => simp [isInteger] at hs
  | number hs =>
      cases hts with
      | refl => rfl
      | integer h => simp [isInteger] at h
      | number => rfl
      | text h => simp [isText] at h
  | text hs =>
      cases hts with
      | refl => rfl
      | integer => simp [isText] at hs
      | number h => simp [isNumeric, isInteger, isFloating] at h
      | text => rfl

instance : PartialOrder DataType where
  le := Below
  le_refl := Below.refl
  le_trans _ _ _ := Below.trans
  le_antisymm _ _ := Below.antisymm

theorem null_le (t : DataType) : null ≤ t := Below.null t

variable {s t u : DataType} {types types' : List DataType}

/-! ### The common type of two types -/

/-- Which types have a common one. -/
theorem exists_commonType?_iff :
    (∃ u, s.commonType? t = some u) ↔
      s = t ∨ s = null ∨ t = null ∨ (s.isNumeric = true ∧ t.isNumeric = true) ∨
        (s.isText = true ∧ t.isText = true) := by
  constructor
  · rintro ⟨u, h⟩
    obtain ⟨hst, -⟩ | ⟨hs, -⟩ | ⟨ht, -⟩ | ⟨hs, ht, -⟩ | ⟨hs, ht, -⟩ := commonType?_cases h
    · exact .inl hst
    · exact .inr (.inl hs)
    · exact .inr (.inr (.inl ht))
    · exact .inr (.inr (.inr (.inl ⟨hs, ht⟩)))
    · exact .inr (.inr (.inr (.inr ⟨hs, ht⟩)))
  · rintro (rfl | rfl | rfl | ⟨hs, ht⟩ | ⟨hs, ht⟩)
    · exact ⟨s, commonType?_self s⟩
    · exact ⟨t, commonType?_null_left t⟩
    · exact ⟨s, commonType?_null_right s⟩
    · unfold commonType?
      split_ifs <;> simp_all
    · unfold commonType?
      split_ifs <;> simp_all

theorem exists_commonType?_iff_of_isNumeric (hs : s.isNumeric = true) :
    (∃ u, s.commonType? t = some u) ↔ t = null ∨ t.isNumeric = true := by
  rw [exists_commonType?_iff]
  constructor
  · rintro (rfl | rfl | ht | ⟨-, ht⟩ | ⟨htext, -⟩)
    · exact .inr hs
    · simp at hs
    · exact .inl ht
    · exact .inr ht
    · simp [isText_of_isNumeric hs] at htext
  · rintro (ht | ht)
    · exact .inr (.inr (.inl ht))
    · exact .inr (.inr (.inr (.inl ⟨hs, ht⟩)))

theorem exists_commonType?_iff_of_isText (hs : s.isText = true) :
    (∃ u, s.commonType? t = some u) ↔ t = null ∨ t.isText = true := by
  rw [exists_commonType?_iff]
  constructor
  · rintro (rfl | rfl | ht | ⟨hnum, -⟩ | ⟨-, ht⟩)
    · exact .inr hs
    · simp at hs
    · exact .inl ht
    · simp [isText_of_isNumeric hnum] at hs
    · exact .inr ht
  · rintro (ht | ht)
    · exact .inr (.inr (.inl ht))
    · exact .inr (.inr (.inr (.inr ⟨hs, ht⟩)))

/-- What goes with two types goes with what they have in common. -/
theorem exists_commonType?_of_both {m : DataType} (h : s.commonType? t = some m)
    (hs : ∃ v, s.commonType? u = some v) (ht : ∃ v, t.commonType? u = some v) :
    ∃ v, m.commonType? u = some v := by
  obtain ⟨-, rfl⟩ | ⟨-, rfl⟩ | ⟨-, rfl⟩ | ⟨hnum, -, hm⟩ | ⟨htext, -, hm⟩ := commonType?_cases h
  · exact hs
  · exact ht
  · exact hs
  · rw [exists_commonType?_iff_of_isNumeric hnum] at hs
    exact (exists_commonType?_iff_of_isNumeric hm).2 hs
  · rw [exists_commonType?_iff_of_isText htext] at hs
    exact (exists_commonType?_iff_of_isText hm).2 hs

theorem exists_commonType?_of_le (hs : s ≤ u) (ht : t ≤ u) : ∃ m, s.commonType? t = some m := by
  cases hs <;> cases ht <;>
    simp_all [exists_commonType?_iff, isNumeric, isInteger, isFloating, isText]

/-! ### The least upper bound

Two different types have an upper bound only if one of them lies strictly below it. Strictly
above a type there are few others, and the common type of the two is below all of these. -/

theorem lt_or_lt_of_ne (hst : s ≠ t) (hs : s ≤ u) (ht : t ≤ u) : s < u ∨ t < u := by
  by_cases hsu : s = u
  · exact .inr (lt_of_le_of_ne ht fun htu => hst (hsu.trans htu.symm))
  · exact .inl (lt_of_le_of_ne hs hsu)

theorem int64_le_of_lt (hs : s.isInteger = true) (h : s < u) : int64 ≤ u := by
  cases h.le with
  | refl => exact absurd h (lt_irrefl s)
  | null => simp [isInteger] at hs
  | integer => exact le_rfl
  | number => exact Below.number rfl
  | text htext => simp [isText_of_isNumeric (isNumeric_of_isInteger hs)] at htext

theorem float64_le_of_lt (hs : s.isNumeric = true) (hu : u.isInteger = false) (h : s < u) :
    float64 ≤ u := by
  cases h.le with
  | refl => exact absurd h (lt_irrefl s)
  | null => simp at hs
  | integer => simp [isInteger] at hu
  | number => exact le_rfl
  | text htext => simp [isText_of_isNumeric hs] at htext

theorem largeUtf8_le_of_lt (hs : s.isText = true) (h : s < u) : largeUtf8 ≤ u := by
  cases h.le with
  | refl => exact absurd h (lt_irrefl s)
  | null => simp at hs
  | integer hint => simp [isText_of_isNumeric (isNumeric_of_isInteger hint)] at hs
  | number hnum => simp [isText_of_isNumeric hnum] at hs
  | text => exact le_rfl

theorem isInteger_of_le (hs : s.isNumeric = true) (hu : u.isInteger = true) (h : s ≤ u) :
    s.isInteger = true := by
  cases h with
  | refl => exact hu
  | null => simp at hs
  | integer hint => exact hint
  | number => simp [isInteger] at hu
  | text => simp [isInteger] at hu

theorem commonType?_le {m : DataType} (h : s.commonType? t = some m) (hs : s ≤ u) (ht : t ≤ u) :
    m ≤ u := by
  unfold commonType? at h
  split_ifs at h with hst hnull hnull hint hnum htext <;> obtain rfl := Option.some.inj h
  · exact hs
  · exact ht
  · exact hs
  · rw [Bool.and_eq_true] at hint
    rcases lt_or_lt_of_ne hst hs ht with hlt | hlt
    · exact int64_le_of_lt hint.1 hlt
    · exact int64_le_of_lt hint.2 hlt
  · rw [Bool.and_eq_true] at hint hnum
    -- Under an integer type there would be integers only, and one of the two is none.
    have hu : u.isInteger = false := by
      rw [← Bool.not_eq_true]
      intro hu
      exact hint ⟨isInteger_of_le hnum.1 hu hs, isInteger_of_le hnum.2 hu ht⟩
    rcases lt_or_lt_of_ne hst hs ht with hlt | hlt
    · exact float64_le_of_lt hnum.1 hu hlt
    · exact float64_le_of_lt hnum.2 hu hlt
  · rw [Bool.and_eq_true] at htext
    rcases lt_or_lt_of_ne hst hs ht with hlt | hlt
    · exact largeUtf8_le_of_lt htext.1 hlt
    · exact largeUtf8_le_of_lt htext.2 hlt

theorem le_commonType? (h : s.commonType? t = some u) : s ≤ u := by
  unfold commonType? at h
  split_ifs at h with hst hnull hnull hint hnum htext <;> obtain rfl := Option.some.inj h
  · exact le_rfl
  · exact hnull ▸ null_le t
  · exact le_rfl
  · rw [Bool.and_eq_true] at hint
    exact Below.integer hint.1
  · rw [Bool.and_eq_true] at hnum
    exact Below.number hnum.1
  · rw [Bool.and_eq_true] at htext
    exact Below.text htext.1

theorem isLUB_of_commonType? (h : s.commonType? t = some u) : IsLUB {s, t} u := by
  constructor
  · rintro v (rfl | rfl)
    · exact le_commonType? h
    · exact le_commonType? ((commonType?_comm v s).trans h)
  · intro v hv
    exact commonType?_le h (hv (Set.mem_insert s {t})) (hv (Set.mem_insert_of_mem s rfl))

/-- The common type of two types is their least upper bound, and exists only with one. -/
theorem commonType?_eq_some_iff : s.commonType? t = some u ↔ IsLUB {s, t} u := by
  constructor
  · exact isLUB_of_commonType?
  · intro h
    obtain ⟨m, hm⟩ := exists_commonType?_of_le (h.1 (Set.mem_insert s {t}))
      (h.1 (Set.mem_insert_of_mem s rfl))
    rw [hm, (isLUB_of_commonType? hm).unique h]

/-- A type is below another if what they have in common is the other one. -/
theorem le_iff_commonType? : s ≤ t ↔ s.commonType? t = some t := by
  constructor
  · intro h
    rw [commonType?_eq_some_iff]
    have hgreatest : IsGreatest {s, t} t :=
      ⟨Set.mem_insert_of_mem s rfl, Set.forall_insert_of_forall (by simp) h⟩
    exact hgreatest.isLUB
  · exact le_commonType?

/-! ### The common type of a list of types -/

/-- Meeting a type with the types of a list gives the least upper bound of them all. -/
theorem foldlM_commonType?_eq_some_iff :
    types.foldlM commonType? s = some u ↔ IsLUB (insert s {t | t ∈ types}) u := by
  induction types generalizing s with
  | nil =>
      have hset : insert s {t | t ∈ ([] : List DataType)} = {s} := by simp
      rw [List.foldlM_nil, hset]
      constructor
      · intro h
        obtain rfl := Option.some.inj h
        exact isLUB_singleton
      · intro h
        exact congrArg some (isLUB_singleton.unique h)
  | cons t types ih =>
      have hset : {x | x ∈ t :: types} = insert t {x | x ∈ types} := Set.ext fun _ => List.mem_cons
      rw [List.foldlM_cons, hset]
      cases hst : s.commonType? t with
      | none =>
          -- Without a common type the two have no upper bound, and so the list has none.
          refine iff_of_false (by simp) fun h => ?_
          obtain ⟨m, hm⟩ := exists_commonType?_of_le (h.1 (Set.mem_insert s _))
            (h.1 (Set.mem_insert_of_mem s (Set.mem_insert t _)))
          simp [hst] at hm
      | some m =>
          -- The bounds of the common type are those of the two types it replaces.
          rw [Option.bind_eq_bind, Option.bind_some, ih]
          refine isLUB_congr ?_
          rw [upperBounds_insert, upperBounds_insert, upperBounds_insert,
            ← (isLUB_of_commonType? hst).upperBounds_eq, upperBounds_insert,
            upperBounds_singleton, Set.inter_assoc]

theorem commonTypeOfAll?_eq_some_iff :
    commonTypeOfAll? types = some u ↔ IsLUB {t | t ∈ types} u := by
  rw [commonTypeOfAll?, foldlM_commonType?_eq_some_iff]
  refine isLUB_congr ?_
  rw [upperBounds_insert]
  exact Set.inter_eq_right.2 fun v _ => null_le v

/-- It matters only which types are on the list. -/
theorem commonTypeOfAll?_congr (h : ∀ t, t ∈ types ↔ t ∈ types') :
    commonTypeOfAll? types = commonTypeOfAll? types' := by
  have hset : {t | t ∈ types} = {t | t ∈ types'} := Set.ext h
  refine Option.ext fun u => ?_
  rw [commonTypeOfAll?_eq_some_iff, commonTypeOfAll?_eq_some_iff, hset]

/-- Meeting goes on if the type met so far has a common type with all types still to come. -/
theorem exists_foldlM_commonType?_of_pairs (hs : ∀ t ∈ types, ∃ u, s.commonType? t = some u)
    (hpairs : ∀ t ∈ types, ∀ t' ∈ types, ∃ u, t.commonType? t' = some u) :
    ∃ u, types.foldlM commonType? s = some u := by
  induction types generalizing s with
  | nil => exact ⟨s, rfl⟩
  | cons t types ih =>
      obtain ⟨m, hm⟩ := hs t List.mem_cons_self
      have hrest : ∀ t' ∈ types, ∃ u, m.commonType? t' = some u := by
        intro t' ht'
        have hmem := List.mem_cons_of_mem t ht'
        exact exists_commonType?_of_both hm (hs t' hmem) (hpairs t List.mem_cons_self t' hmem)
      rw [List.foldlM_cons, hm]
      refine ih hrest fun t' ht' t'' ht'' => ?_
      exact hpairs t' (List.mem_cons_of_mem t ht') t'' (List.mem_cons_of_mem t ht'')

theorem exists_commonTypeOfAll?_iff :
    (∃ u, commonTypeOfAll? types = some u) ↔
      ∀ s ∈ types, ∀ t ∈ types, ∃ u, s.commonType? t = some u := by
  constructor
  · rintro ⟨u, hu⟩ s hs t ht
    rw [commonTypeOfAll?_eq_some_iff] at hu
    exact exists_commonType?_of_le (hu.1 hs) (hu.1 ht)
  · intro h
    exact exists_foldlM_commonType?_of_pairs (fun t _ => ⟨t, commonType?_null_left t⟩) h

end DataType

end NullLogic
