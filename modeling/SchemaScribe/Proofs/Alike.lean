import SchemaScribe.Proofs.Outcome

/-!
# Two outcomes side by side

Laws about two runs compare their outcomes: `Alike R` says that both fail with the same fault, or
that both end well with values that `R` relates.  It goes along sequences of steps (`Alike.bind`)
and along lists that are worked off item by item (`Alike.mapM`), where the values of the two runs
belong to the items that they were made from (`Forall₃`).
-/

namespace SchemaScribe

variable {ε α α' β β' γ : Type}

/-- **Two outcomes are alike**: the same fault, or values that are related. -/
inductive Alike (R : α → β → Prop) : Except ε α → Except ε β → Prop
  | ok {a : α} {b : β} (h : R a b) : Alike R (.ok a) (.ok b)
  | error (e : ε) : Alike R (.error e) (.error e)

theorem Alike.imp {R S : α → β → Prop} {x : Except ε α} {y : Except ε β} (hx : Alike R x y)
    (h : ∀ a b, R a b → S a b) : Alike S x y := by
  cases hx with
  | ok hab => exact .ok (h _ _ hab)
  | error e => exact .error e

theorem Alike.eq {x y : Except ε α} (h : Alike Eq x y) : x = y := by
  cases h with
  | ok hab => rw [hab]
  | error e => rfl

/-- Outcomes that are alike fail with the same faults. -/
theorem Alike.eq_error_iff {R : α → β → Prop} {x : Except ε α} {y : Except ε β} (h : Alike R x y)
    (e : ε) : x = .error e ↔ y = .error e := by
  cases h with
  | ok hab => constructor <;> (intro he; cases he)
  | error e' => rw [Except.error.injEq, Except.error.injEq]

theorem Alike.of_ok {R : α → β → Prop} {a : α} {b : β} (h : Alike R (.ok a : Except ε α) (.ok b)) :
    R a b := by
  cases h with
  | ok hab => exact hab

/-- Sequences are alike when their first steps are and their second steps are on related values. -/
theorem Alike.bind {R : α → β → Prop} {S : α' → β' → Prop} {x : Except ε α} {y : Except ε β}
    {f : α → Except ε α'} {g : β → Except ε β'} (hx : Alike R x y)
    (hf : ∀ a b, R a b → Alike S (f a) (g b)) : Alike S (x >>= f) (y >>= g) := by
  cases hx with
  | ok hab => exact hf _ _ hab
  | error e => exact .error e

theorem Alike.bind_self {S : α' → β' → Prop} {x : Except ε α} {f : α → Except ε α'}
    {g : α → Except ε β'} (hf : ∀ a, x = .ok a → Alike S (f a) (g a)) :
    Alike S (x >>= f) (x >>= g) := by
  cases x with
  | ok a => exact hf a rfl
  | error e => exact .error e

theorem Alike.map {R : α → β → Prop} {S : α' → β' → Prop} {x : Except ε α} {y : Except ε β}
    {f : α → α'} {g : β → β'} (hx : Alike R x y) (h : ∀ a b, R a b → S (f a) (g b)) :
    Alike S (x.map f) (y.map g) := by
  cases hx with
  | ok hab => exact .ok (h _ _ hab)
  | error e => exact .error e

theorem alike_pure {R : α → β → Prop} {a : α} {b : β} (h : R a b) :
    Alike R (pure a : Except ε α) (pure b) := .ok h

/-! ### Lists side by side -/

/-- Related lists are searched side by side. -/
theorem forall₂_find? {R : α → β → Prop} {as : List α} {bs : List β} (h : List.Forall₂ R as bs)
    {p : α → Bool} {q : β → Bool} (hpq : ∀ a b, R a b → p a = q b) :
    Option.Rel R (as.find? p) (bs.find? q) := by
  induction h with
  | nil => exact .none
  | @cons a b as bs hab _ ih =>
    rw [List.find?_cons, List.find?_cons, hpq a b hab]
    split
    · exact .some hab
    · exact ih

/-! ### Lists in threes -/

/-- **Three lists of the same length** whose items are related in threes. -/
inductive Forall₃ (R : α → β → γ → Prop) : List α → List β → List γ → Prop
  | nil : Forall₃ R [] [] []
  | cons {a : α} {b : β} {c : γ} {as : List α} {bs : List β} {cs : List γ} (h : R a b c)
    (hrest : Forall₃ R as bs cs) : Forall₃ R (a :: as) (b :: bs) (c :: cs)

/-- What the second and the third item have in common whenever they are related to a first one. -/
theorem Forall₃.map_eq {R : α → β → γ → Prop} {as : List α} {bs : List β} {cs : List γ}
    {f : β → α'} {g : γ → α'} (h : Forall₃ R as bs cs) (hfg : ∀ a b c, R a b c → f b = g c) :
    bs.map f = cs.map g := by
  induction h with
  | nil => rfl
  | cons h _ ih => rw [List.map_cons, List.map_cons, hfg _ _ _ h, ih]

/-- Two runs over one list are alike when they are on each item. -/
theorem Alike.mapM {R : α → β → γ → Prop} {f : α → Except ε β} {g : α → Except ε γ} {as : List α}
    (h : ∀ a ∈ as, Alike (R a) (f a) (g a)) : Alike (Forall₃ R as) (as.mapM f) (as.mapM g) := by
  induction as with
  | nil => exact .ok .nil
  | cons a rest ih =>
    rw [List.forall_mem_cons] at h
    rw [List.mapM_cons, List.mapM_cons]
    exact h.1.bind fun b c hbc => (ih h.2).bind fun bs cs hrest => alike_pure (.cons hbc hrest)

end SchemaScribe
