import Mathlib.Data.List.Forall2

/-!
# Outcomes of sequenced steps

A sequence of steps ends well exactly when each of its steps does (`bind_eq_ok_iff`), and it fails
with the fault of the first step that fails (`bind_eq_error_iff`).  With these two a proof takes a
sequence apart step by step, and no definition that is written as one has to be unfolded further.
`Succeeds` is the first of them without the values: what a decoder accepts, and not what it makes of
it.
-/

namespace SchemaScribe

variable {ε ε' α β γ : Type}

theorem ok_bind (a : α) (f : α → Except ε β) : Except.ok a >>= f = f a := rfl

theorem error_bind (e : ε) (f : α → Except ε β) : Except.error e >>= f = .error e := rfl

/-- A sequence ends well when the first step does and the second does after it. -/
theorem bind_eq_ok_iff {x : Except ε α} {f : α → Except ε β} {b : β} :
    x >>= f = .ok b ↔ ∃ a, x = .ok a ∧ f a = .ok b := by
  cases x with
  | error e =>
    constructor
    · intro h; cases h
    · rintro ⟨a, ha, _⟩; cases ha
  | ok a =>
    constructor
    · intro h; exact ⟨a, rfl, h⟩
    · rintro ⟨a', ha, h⟩
      obtain rfl := Except.ok.inj ha
      exact h

/-- A sequence fails at its first step, or at the second after the first ended well. -/
theorem bind_eq_error_iff {x : Except ε α} {f : α → Except ε β} {e : ε} :
    x >>= f = .error e ↔ x = .error e ∨ ∃ a, x = .ok a ∧ f a = .error e := by
  cases x with
  | error e' =>
    constructor
    · intro h; exact Or.inl (congrArg _ (Except.error.inj h))
    · rintro (h | ⟨a, ha, _⟩)
      · exact congrArg _ (Except.error.inj h)
      · cases ha
  | ok a =>
    constructor
    · intro h; exact Or.inr ⟨a, rfl, h⟩
    · rintro (h | ⟨a', ha, h⟩)
      · cases h
      · obtain rfl := Except.ok.inj ha
        exact h

/-- A step with its faults renamed ends well when the step does. -/
theorem mapError_eq_ok_iff {g : ε → ε'} {x : Except ε α} {a : α} :
    x.mapError g = .ok a ↔ x = .ok a := by
  cases x <;> simp [Except.mapError]

/-- A step with its faults renamed fails with the new name of a fault of the step. -/
theorem mapError_eq_error_iff {g : ε → ε'} {x : Except ε α} {e : ε'} :
    x.mapError g = .error e ↔ ∃ e₀, x = .error e₀ ∧ g e₀ = e := by
  cases x <;> simp [Except.mapError]

/-- Faults can be renamed step by step. -/
theorem mapError_bind (g : ε → ε') (x : Except ε α) (f : α → Except ε β) :
    (x >>= f).mapError g = x.mapError g >>= fun a => (f a).mapError g := by
  cases x <;> rfl

/-- The trivial step ends well with its value. -/
theorem pure_eq_ok_iff {a b : α} : (pure a : Except ε α) = .ok b ↔ a = b := by
  constructor
  · intro h; exact Except.ok.inj h
  · rintro rfl; rfl

/-- Outcomes can be compared where their values and their faults can. -/
instance decidableEqExcept [DecidableEq ε] [DecidableEq α] : DecidableEq (Except ε α)
  | .ok a, .ok b => decidable_of_decidable_of_iff (p := a = b) (by simp)
  | .error e, .error e' => decidable_of_decidable_of_iff (p := e = e') (by simp)
  | .ok _, .error _ => .isFalse (by simp)
  | .error _, .ok _ => .isFalse (by simp)

/-! ### Ending well -/

/-- **The outcome is a value** and not a fault. -/
def Succeeds (x : Except ε α) : Prop := ∃ a, x = .ok a

@[simp] theorem succeeds_ok {a : α} : Succeeds (.ok a : Except ε α) := ⟨a, rfl⟩

@[simp] theorem succeeds_pure {a : α} : Succeeds (pure a : Except ε α) := ⟨a, rfl⟩

@[simp] theorem not_succeeds_error {e : ε} : ¬ Succeeds (.error e : Except ε α) := by
  rintro ⟨a, h⟩; cases h

@[simp] theorem not_succeeds_throw {e : ε} : ¬ Succeeds (throw e : Except ε α) :=
  not_succeeds_error

theorem succeeds_bind_iff {x : Except ε α} {f : α → Except ε β} :
    Succeeds (x >>= f) ↔ ∃ a, x = .ok a ∧ Succeeds (f a) := by
  unfold Succeeds
  constructor
  · rintro ⟨b, h⟩
    obtain ⟨a, ha, hb⟩ := bind_eq_ok_iff.1 h
    exact ⟨a, ha, b, hb⟩
  · rintro ⟨a, ha, b, hb⟩
    exact ⟨b, bind_eq_ok_iff.2 ⟨a, ha, hb⟩⟩

/-- Where the second step does not look at the value of the first, each has to end well. -/
theorem succeeds_bind_const_iff {x : Except ε α} {f : α → Except ε β} {p : Prop}
    (h : ∀ a, x = .ok a → (Succeeds (f a) ↔ p)) : Succeeds (x >>= f) ↔ Succeeds x ∧ p := by
  rw [succeeds_bind_iff]
  constructor
  · rintro ⟨a, ha, hf⟩; exact ⟨⟨a, ha⟩, (h a ha).1 hf⟩
  · rintro ⟨⟨a, ha⟩, hp⟩; exact ⟨a, ha, (h a ha).2 hp⟩

/-- Where the second step always ends well, the first one decides. -/
theorem succeeds_bind_iff_of_forall {x : Except ε α} {f : α → Except ε β}
    (h : ∀ a, Succeeds (f a)) : Succeeds (x >>= f) ↔ Succeeds x := by
  rw [succeeds_bind_iff]
  exact exists_congr fun a => and_iff_left (h a)

/-! ### Failing with the first of several faults -/

/-- **The outcome is the first of the given faults**, and a value if there are none. -/
def FailsFirst (faults : List ε) (x : Except ε α) : Prop :=
  ∀ e, x = .error e ↔ faults.head? = some e

theorem failsFirst_nil_iff {x : Except ε α} : FailsFirst [] x ↔ Succeeds x := by
  cases x <;> simp [FailsFirst]

theorem failsFirst_cons_iff {e : ε} {faults : List ε} {x : Except ε α} :
    FailsFirst (e :: faults) x ↔ x = .error e := by
  cases x with
  | ok a => simp [FailsFirst]
  | error e' =>
    simp only [FailsFirst, Except.error.injEq, List.head?_cons, Option.some.injEq]
    constructor
    · intro h; exact (h e).2 rfl
    · rintro rfl e; rfl

theorem FailsFirst.succeeds_iff {faults : List ε} {x : Except ε α} (h : FailsFirst faults x) :
    Succeeds x ↔ faults = [] := by
  cases faults with
  | nil => exact iff_of_true (failsFirst_nil_iff.1 h) rfl
  | cons e rest =>
    rw [failsFirst_cons_iff.1 h]
    exact iff_of_false not_succeeds_error (by simp)

/-- The faults of a sequence are those of its first step and then those of its second. -/
theorem FailsFirst.bind {faults more : List ε} {x : Except ε α} {f : α → Except ε β}
    (hx : FailsFirst faults x) (hf : ∀ a, x = .ok a → FailsFirst more (f a)) :
    FailsFirst (faults ++ more) (x >>= f) := by
  cases faults with
  | nil =>
    obtain ⟨a, ha⟩ := failsFirst_nil_iff.1 hx
    have h := hf a ha
    rw [ha]
    exact h
  | cons e rest =>
    -- the second step is never reached, whatever its faults are
    rw [List.cons_append, failsFirst_cons_iff, failsFirst_cons_iff.1 hx]
    rfl

theorem FailsFirst.bind_succeeds {faults : List ε} {x : Except ε α} {f : α → Except ε β}
    (hx : FailsFirst faults x) (hf : ∀ a, x = .ok a → Succeeds (f a)) :
    FailsFirst faults (x >>= f) := by
  rw [← List.append_nil faults]
  exact hx.bind fun a ha => failsFirst_nil_iff.2 (hf a ha)

/-! ### Lists worked off item by item -/

/-- Related lists exist exactly when each item has something that it is related to. -/
theorem exists_forall₂_iff {R : α → β → Prop} {as : List α} :
    (∃ bs, List.Forall₂ R as bs) ↔ ∀ a ∈ as, ∃ b, R a b := by
  induction as with
  | nil => exact iff_of_true ⟨[], .nil⟩ (by simp)
  | cons a rest ih =>
    rw [List.forall_mem_cons, ← ih]
    constructor
    · rintro ⟨_, ⟨⟩ | ⟨h, hrest⟩⟩
      exact ⟨⟨_, h⟩, _, hrest⟩
    · rintro ⟨⟨b, h⟩, bs, hrest⟩
      exact ⟨b :: bs, .cons h hrest⟩

/-- A list that is worked off item by item ends well with what each of its items gives. -/
theorem mapM_eq_ok_iff {f : α → Except ε β} {as : List α} {bs : List β} :
    as.mapM f = .ok bs ↔ List.Forall₂ (fun a b => f a = .ok b) as bs := by
  induction as generalizing bs with
  | nil => rw [List.mapM_nil, pure_eq_ok_iff, List.forall₂_nil_left_iff, eq_comm]
  | cons a rest ih =>
    rw [List.mapM_cons, bind_eq_ok_iff, List.forall₂_cons_left_iff]
    constructor
    · rintro ⟨b, hb, h⟩
      obtain ⟨more, hmore, h⟩ := bind_eq_ok_iff.1 h
      exact ⟨b, more, hb, ih.1 hmore, (pure_eq_ok_iff.1 h).symm⟩
    · rintro ⟨b, more, hb, hmore, rfl⟩
      exact ⟨b, hb, bind_eq_ok_iff.2 ⟨more, ih.2 hmore, rfl⟩⟩

/-- Related lists are worked off alike when their items are. -/
theorem mapM_congr_of_forall₂ {R : α → β → Prop} {f : α → Except ε γ} {g : β → Except ε γ}
    (hfg : ∀ a b, R a b → f a = g b) {as : List α} {bs : List β} (h : List.Forall₂ R as bs) :
    as.mapM f = bs.mapM g := by
  induction h with
  | nil => rfl
  | cons hab _ ih => rw [List.mapM_cons, List.mapM_cons, hfg _ _ hab, ih]

/-- What is made of each item can be made of it after all of them are worked off. -/
theorem mapM_bind_pure {f : α → Except ε β} {f' : α → Except ε γ} {g : β → γ} {as : List α}
    (h : ∀ a ∈ as, f' a = f a >>= fun b => pure (g b)) :
    as.mapM f' = as.mapM f >>= fun bs => pure (bs.map g) := by
  induction as with
  | nil => rfl
  | cons a rest ih =>
    rw [List.forall_mem_cons] at h
    rw [List.mapM_cons, List.mapM_cons, h.1, ih h.2]
    simp

/-- What goes wrong with a list goes wrong with one of its items. -/
theorem exists_item_of_mapM_eq_error {f : α → Except ε β} {as : List α} {e : ε}
    (h : as.mapM f = .error e) : ∃ a ∈ as, f a = .error e := by
  induction as with
  | nil => cases h
  | cons a rest ih =>
    rw [List.mapM_cons] at h
    rcases bind_eq_error_iff.1 h with h | ⟨b, -, h⟩
    · exact ⟨a, List.mem_cons_self, h⟩
    · rcases bind_eq_error_iff.1 h with h | ⟨more, -, h⟩
      · obtain ⟨a', ha', h⟩ := ih h
        exact ⟨a', List.mem_cons_of_mem _ ha', h⟩
      · cases h

/-- The faults of a list are renamed item by item. -/
theorem mapError_mapM {g : ε → ε'} {f : α → Except ε β} {f' : α → Except ε' β} {as : List α}
    (h : ∀ a ∈ as, (f a).mapError g = f' a) : (as.mapM f).mapError g = as.mapM f' := by
  induction as with
  | nil => rfl
  | cons a rest ih =>
    rw [List.forall_mem_cons] at h
    rw [List.mapM_cons, List.mapM_cons, mapError_bind, h.1]
    refine congrArg _ (funext fun b => ?_)
    rw [mapError_bind, ih h.2]
    rfl

/-- What comes out of a list that is decoded one by one comes from an item of it. -/
theorem exists_item_of_forall₂ {R : α → β → Prop} {as : List α} {bs : List β}
    (h : List.Forall₂ R as bs) {b : β} (hb : b ∈ bs) : ∃ a, R a b := by
  have hflip : List.Forall₂ (flip R) bs as := List.Forall₂.flip h
  exact exists_forall₂_iff.1 ⟨as, hflip⟩ b hb

end SchemaScribe
