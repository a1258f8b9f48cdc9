import Mathlib.Data.List.Forall2
import SchemaScribe.Proofs.Alike
import SchemaScribe.Proofs.Snapshot.Loaded
import SchemaScribe.Schema.Equality
import SchemaScribe.Typing.Primitive

/-!
# What equal schemas share

Equal schemas whose collections stand in the same order agree collection by collection and field by
field, in everything but the values of choices (`Schema.agrees_of_same`).  Values are only equal as
numbers, if they are not the same text: a number and its kind may differ.
-/

namespace SchemaScribe

/-! ### Choices -/

/-- Equal values are the same text or no texts at all. -/
theorem ChoiceValue.text_of_same {a b : ChoiceValue} (h : a.same b = true) (text : Text) :
    a = .text text ↔ b = .text text := by
  cases a <;> cases b <;> simp_all [ChoiceValue.same, ChoiceValue.asInt?]

theorem Choice.same_iff {a b : Choice} :
    a.same b = true ↔
      a.value.same b.value = true ∧ Choice.sameList a.children b.children = true := by
  cases a
  cases b
  rw [Choice.same, Bool.and_eq_true]

theorem Choice.sameList_iff {as bs : List Choice} :
    Choice.sameList as bs = true ↔ List.Forall₂ (fun a b => a.same b = true) as bs := by
  induction as generalizing bs with
  | nil => cases bs <;> simp [Choice.sameList]
  | cons a as ih => cases bs <;> simp [Choice.sameList, ih]

theorem forall₂_values {as bs : List Choice} (h : Choice.sameList as bs = true) :
    List.Forall₂ (fun v w => v.same w = true) (as.map (·.value)) (bs.map (·.value)) := by
  rw [List.forall₂_map_left_iff, List.forall₂_map_right_iff]
  exact (Choice.sameList_iff.1 h).imp fun a b h => (Choice.same_iff.1 h).1

mutual

/-- Equal choices have equal values, those below them included. -/
theorem forall₂_flattenChoice : ∀ {a b : Choice}, a.same b = true →
    List.Forall₂ (fun v w => v.same w = true) (Typing.flattenChoice a) (Typing.flattenChoice b)
  | ⟨value, children⟩, ⟨value', children'⟩, h => by
    rw [Choice.same, Bool.and_eq_true] at h
    rw [Typing.flattenChoice, Typing.flattenChoice]
    exact .cons h.1 (forall₂_flattenChoices h.2)

theorem forall₂_flattenChoices : ∀ {as bs : List Choice}, Choice.sameList as bs = true →
    List.Forall₂ (fun v w => v.same w = true) (Typing.flattenChoices as)
      (Typing.flattenChoices bs)
  | [], [], _ => .nil
  | [], _ :: _, h => by cases h
  | _ :: _, [], h => by cases h
  | a :: as, b :: bs, h => by
    rw [Choice.sameList, Bool.and_eq_true] at h
    rw [Typing.flattenChoices, Typing.flattenChoices]
    exact List.rel_append (forall₂_flattenChoice h.1) (forall₂_flattenChoices h.2)

end

/-! ### Fields -/

/-- **Fields that agree in everything but the values of choices.** -/
structure Field.Agrees (f g : Field) : Prop where
  eq : g = { f with choices := g.choices, subFields := g.subFields }
  choices : Choice.sameList f.choices g.choices = true
  subFields : Field.sameList f.subFields g.subFields = true

theorem Field.agrees_of_same {f g : Field} (h : f.same g = true) : f.Agrees g := by
  cases f
  cases g
  simp only [Field.same, Bool.and_eq_true, beq_iff_eq] at h
  exact ⟨by simp [h], h.1.1.1.2, h.1.2⟩

theorem Field.sameList_iff {fs gs : List Field} :
    Field.sameList fs gs = true ↔ List.Forall₂ (fun f g => f.same g = true) fs gs := by
  induction fs generalizing gs with
  | nil => cases gs <;> simp [Field.sameList]
  | cons f fs ih => cases gs <;> simp [Field.sameList, ih]

theorem Field.forall₂_agrees {fs gs : List Field} (h : Field.sameList fs gs = true) :
    List.Forall₂ Field.Agrees fs gs :=
  (Field.sameList_iff.1 h).imp fun _ _ => Field.agrees_of_same

theorem Field.Agrees.isPresentational {f g : Field} (h : f.Agrees g) :
    g.isPresentational = f.isPresentational := by
  rw [h.eq]
  rfl

/-! ### Collections -/

/-- **Collections that agree in everything but the values of choices.** -/
structure Collection.Agrees (c d : Collection) : Prop where
  name : c.name = d.name
  singleton : c.singleton = d.singleton
  fields : List.Forall₂ Field.Agrees c.fields d.fields

theorem Collection.agrees_of_same {c d : Collection} (h : c.same d = true) : c.Agrees d := by
  simp only [Collection.same, Bool.and_eq_true, beq_iff_eq] at h
  exact ⟨h.1.1, h.1.2, Field.forall₂_agrees h.2⟩

/-- The keys of collections that agree are found side by side. -/
theorem Collection.Agrees.rel_primaryKeyField? {c d : Collection} (h : c.Agrees d) :
    Option.Rel Field.Agrees c.primaryKeyField? d.primaryKeyField? := by
  have hflagged : Option.Rel Field.Agrees (c.fields.find? (·.primaryKey))
      (d.fields.find? (·.primaryKey)) := forall₂_find? h.fields fun f g hfg => by rw [hfg.eq]
  have hnamed : Option.Rel Field.Agrees (c.fields.find? (·.name == "id"))
      (d.fields.find? (·.name == "id")) := forall₂_find? h.fields fun f g hfg => by rw [hfg.eq]
  rw [Collection.primaryKeyField?, Collection.primaryKeyField?]
  generalize c.fields.find? (·.primaryKey) = first at hflagged ⊢
  generalize d.fields.find? (·.primaryKey) = second at hflagged ⊢
  cases hflagged with
  | some hfound => exact .some hfound
  | none => exact hnamed

/-! ### Schemas -/

/-- **Schemas that agree in everything but the values of choices.** -/
def Schema.Agrees (a b : Schema) : Prop :=
  List.Forall₂ Collection.Agrees a.collections b.collections

/-- **Equal schemas in the same order agree.** -/
theorem Schema.agrees_of_same {a b : Schema} (h : a.same b = true) (hnames : a.names = b.names)
    (hnodup : a.names.Nodup) : a.Agrees b := by
  rw [Schema.same, Bool.and_eq_true, List.all_eq_true] at h
  have hlength : a.collections.length = b.collections.length := beq_iff_eq.1 h.1
  rw [hnames] at hnodup
  refine List.forall₂_iff_get.2 ⟨hlength, fun i ha hb => ?_⟩
  have hname : (a.collections.get ⟨i, ha⟩).name = (b.collections.get ⟨i, hb⟩).name := by
    have hget := List.getElem_of_eq hnames (i := i) (by simpa [Schema.names] using ha)
    simpa [Schema.names] using hget
  -- the collection that is found under the name is the one at the same place
  have hfound : b.find? (a.collections.get ⟨i, ha⟩).name = some (b.collections.get ⟨i, hb⟩) := by
    rw [hname]
    exact find?_name_of_mem hnodup (List.get_mem _ _)
  have hsame := h.2 _ (List.get_mem a.collections ⟨i, ha⟩)
  rw [hfound] at hsame
  exact Collection.agrees_of_same hsame

end SchemaScribe
