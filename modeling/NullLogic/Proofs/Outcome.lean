import Mathlib.Data.List.Forall2

/-!
# Outcomes

An outcome is a value or an error. `Keeps faults x y` says that `y` is a value
whenever `x` is, and then the same; if `faults` holds, the errors of `x` are errors
of `y` too, so that the two outcomes are one. Both strengths pass through `bind`, so
they are proved together.

`Meets p q x` says of a single outcome what its value or its error satisfies, and
`Related r x y` how two outcomes are related if both are values. `failure? x` is the error
alone, and `failure?_mapM` finds that of several outcomes in a row.
-/

namespace NullLogic

variable {faults : Prop} {ε α β : Type}

theorem bind_eq_ok_iff {x : Except ε α} {f : α → Except ε β} {c : β} :
    x >>= f = .ok c ↔ ∃ a, x = .ok a ∧ f a = .ok c := by
  cases x with
  | error e => simp [bind, Except.bind]
  | ok a => simp [bind, Except.bind]

@[simp] theorem ok_bind (a : α) (f : α → Except ε β) : (Except.ok a >>= f) = f a := rfl

@[simp] theorem error_bind (e : ε) (f : α → Except ε β) :
    (Except.error e >>= f) = .error e := rfl

theorem mapM_eq_ok_iff {f : α → Except ε β} {as : List α} {cs : List β} :
    as.mapM f = .ok cs ↔ List.Forall₂ (fun a c => f a = .ok c) as cs := by
  induction as generalizing cs with
  | nil => cases cs <;> simp [pure, Except.pure]
  | cons a as ih =>
      rw [List.mapM_cons, bind_eq_ok_iff]
      simp only [bind_eq_ok_iff, ih, pure, Except.pure, Except.ok.injEq]
      constructor
      · intro h
        rcases h with ⟨c, hc, cs, hcs, rfl⟩
        exact .cons hc hcs
      · intro h
        rcases h with _ | ⟨hc, hcs⟩
        exact ⟨_, hc, _, hcs, rfl⟩

theorem exists_mapM_eq_ok {f : α → Except ε β} {as : List α}
    (h : ∀ a ∈ as, ∃ c, f a = .ok c) : ∃ cs, as.mapM f = .ok cs := by
  induction as with
  | nil => exact ⟨[], rfl⟩
  | cons a as ih =>
      obtain ⟨c, hc⟩ := h a List.mem_cons_self
      obtain ⟨cs, hcs⟩ := ih fun a' ha' => h a' (List.mem_cons_of_mem a ha')
      exact ⟨c :: cs, by rw [List.mapM_cons, hc, hcs]; rfl⟩

theorem bind_ne_ok {x : Except ε α} {f : α → Except ε β} {c : β}
    (h : ∀ a, x = .ok a → f a ≠ .ok c) : x >>= f ≠ .ok c := by
  intro hc
  rcases bind_eq_ok_iff.1 hc with ⟨a, hx, hf⟩
  exact h a hx hf

/-! ### Errors -/

def failure? : Except ε α → Option ε
  | .ok _ => none
  | .error e => some e

@[simp] theorem failure?_ok (a : α) : failure? (.ok a : Except ε α) = none := rfl

@[simp] theorem failure?_error (e : ε) : failure? (.error e : Except ε α) = some e := rfl

theorem failure?_eq_some_iff {x : Except ε α} {e : ε} : failure? x = some e ↔ x = .error e := by
  cases x <;> simp

/-- If the failures of each run can be found on a list, those of all runs in a row can be
found on the lists joined together. -/
theorem failure?_mapM {γ : Type} {f : α → Except ε β} {g : α → List γ} {p : γ → Option ε}
    {as : List α} (h : ∀ a ∈ as, failure? (f a) = (g a).findSome? p) :
    failure? (as.mapM f) = (as.flatMap g).findSome? p := by
  induction as with
  | nil => rfl
  | cons a as ih =>
      rw [List.mapM_cons, List.flatMap_cons, List.findSome?_append, ← h a List.mem_cons_self,
        ← ih fun a' ha' => h a' (List.mem_cons_of_mem a ha')]
      cases f a with
      | error e => rfl
      | ok c => cases as.mapM f <;> rfl

/-! ### Kept outcomes -/

def Keeps (faults : Prop) (x y : Except ε α) : Prop :=
  match x with
  | .ok a => y = .ok a
  | .error e => faults → y = .error e

theorem Keeps.refl (x : Except ε α) : Keeps faults x x := by
  cases x with
  | ok a => rfl
  | error e => exact fun _ => rfl

theorem keeps_of_eq {x y : Except ε α} (h : x = y) : Keeps faults x y :=
  h ▸ Keeps.refl x

theorem Keeps.ok {x y : Except ε α} (h : Keeps faults x y) {a : α} (hx : x = .ok a) :
    y = .ok a := by
  subst hx
  exact h

theorem Keeps.eq {x y : Except ε α} (h : Keeps faults x y) (hf : faults) : x = y := by
  cases x with
  | ok a => exact h.symm
  | error e => exact (h hf).symm

theorem keeps_false_iff {x y : Except ε α} :
    Keeps False x y ↔ ∀ a, x = .ok a → y = .ok a := by
  cases x with
  | ok a => simp [Keeps]
  | error e => simp [Keeps]

theorem Keeps.trans {x y z : Except ε α} (h : Keeps faults x y)
    (h' : Keeps faults y z) : Keeps faults x z := by
  cases x with
  | ok a => exact h'.ok h
  | error e =>
      intro hf
      rw [← h'.eq hf]
      exact h hf

theorem Keeps.bind {x y : Except ε α} {f g : α → Except ε β}
    (h : Keeps faults x y) (hfg : ∀ a, x = .ok a → Keeps faults (f a) (g a)) :
    Keeps faults (x >>= f) (y >>= g) := by
  cases x with
  | ok a =>
      have hy : y = .ok a := h
      rw [hy]
      exact hfg a rfl
  | error e =>
      intro hf
      rw [h hf]
      rfl

/-! ### Postconditions -/

/-- The value of the outcome satisfies `p`, or its error satisfies `q`. -/
def Meets (p : α → Prop) (q : ε → Prop) : Except ε α → Prop
  | .ok a => p a
  | .error e => q e

variable {p p' : α → Prop} {q q' : ε → Prop} {x : Except ε α}

theorem Meets.ok {a : α} (h : Meets p q x) (hx : x = .ok a) : p a := by
  subst hx
  exact h

theorem Meets.error {e : ε} (h : Meets p q x) (hx : x = .error e) : q e := by
  subst hx
  exact h

theorem Meets.imp (h : Meets p q x) (hp : ∀ a, p a → p' a) (hq : ∀ e, q e → q' e) :
    Meets p' q' x := by
  cases x with
  | ok a => exact hp a h
  | error e => exact hq e h

theorem Meets.bind {r : β → Prop} {f : α → Except ε β} (h : Meets p q x)
    (hf : ∀ a, x = .ok a → p a → Meets r q (f a)) : Meets r q (x >>= f) := by
  cases x with
  | ok a => exact hf a rfl h
  | error e => exact h

theorem Meets.map {r : β → Prop} {f : α → β} (h : Meets p q x) (hf : ∀ a, p a → r (f a)) :
    Meets r q (x.map f) := by
  cases x with
  | ok a => exact hf a h
  | error e => exact h

/-! ### Two values -/

/-- The values of the two outcomes, if both have one, are related by `r`. -/
def Related {γ : Type} (r : α → γ → Prop) (x : Except ε α) (y : Except ε γ) : Prop :=
  ∀ a c, x = .ok a → y = .ok c → r a c

theorem related_ok {γ : Type} {r : α → γ → Prop} {a : α} {c : γ} (h : r a c) :
    Related r (.ok a : Except ε α) (.ok c) := by
  intro a' c' ha hc
  rwa [← Except.ok.inj ha, ← Except.ok.inj hc]

theorem Related.bind {β' γ : Type} {r : α → γ → Prop} {s : β → β' → Prop} {x : Except ε α}
    {y : Except ε γ} {f : α → Except ε β} {g : γ → Except ε β'} (h : Related r x y)
    (hfg : ∀ a c, r a c → Related s (f a) (g c)) : Related s (x >>= f) (y >>= g) := by
  intro a' c' ha' hc'
  rcases bind_eq_ok_iff.1 ha' with ⟨a, hx, hf⟩
  rcases bind_eq_ok_iff.1 hc' with ⟨c, hy, hg⟩
  exact hfg a c (h a c hx hy) a' c' hf hg

end NullLogic
