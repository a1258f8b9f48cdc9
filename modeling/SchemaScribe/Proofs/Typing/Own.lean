import SchemaScribe.Proofs.Typing.Grouping
import SchemaScribe.Proofs.Typing.Lookup

/-!
# The type that a field has by itself

Before related records are joined to it, the type of a field is that of its value, of the keys that
it holds, or of what tells records of several collections apart (`IsOwnType`).  Its text is written
as alternatives (`exists_isOwnType`), so what holds of the types in `IsOwnType` holds of what is
read in the text.
-/

namespace SchemaScribe.Typing

open TypeExpr (unite)

variable {schema : Schema} {collection target text : Text} {field key : Field}

/-- **The type that a field has by itself.** -/
inductive IsOwnType (schema : Schema) (field : Field) : TypeExpr → Prop
  | value (hrelation : field.relation = none ∨ ∃ target, field.relation = some (.one target)) :
    IsOwnType schema field (storedType field 0)
  | keys {target : Text} {key : Field} (hrelation : field.relation = some (.many target))
    (hkey : schema.keyOf target = some key) :
    IsOwnType schema field (listedLast (storedType key 0))
  | word (hrelation : ∃ targets, field.relation = some (.any targets) ∨
      field.relation = some (.anyType targets)) :
    IsOwnType schema field (.named "string")
  | names {targets : List Text} (hrelation : field.relation = some (.anyType targets))
    (hne : targets ≠ []) :
    IsOwnType schema field
      (unite (choiceTypes (targets.map fun target => .text (pascalCase target))))

/-- The key that is found is that of the collection of the name. -/
theorem keyOf_of_findKey (h : findKey schema collection field target = .ok key) :
    schema.keyOf target = some key := by
  rw [findKey_eq] at h
  obtain ⟨⟨⟩, -, h⟩ := bind_eq_ok_iff.1 h
  cases hkey : schema.keyOf target with
  | none => rw [hkey] at h; cases h
  | some found => rw [hkey] at h; exact congrArg some (Except.ok.inj h)

/-- The key of a collection is a field of it. -/
theorem exists_mem_fields_of_keyOf (h : schema.keyOf target = some key) :
    ∃ c ∈ schema.collections, key ∈ c.fields := by
  obtain ⟨c, hc, hkey⟩ := Option.bind_eq_some_iff.1 h
  exact ⟨c, List.mem_of_find?_eq_some hc, mem_fields_of_primaryKeyField? hkey⟩

theorem writes_string : Writes "string" (.named "string") :=
  (single_word (by decide) rfl).writes

/-- **The text of the type that a field has by itself** writes it as its alternatives. -/
theorem exists_isOwnType (hs : schema.IsWellFormed)
    (hfinite : ∀ value ∈ choiceValues field, value.isFinite = true)
    (h : baseType schema collection field = .ok text) :
    ∃ type, Writes text type ∧ IsOwnType schema field type := by
  have hvalue := writes_primitiveType field 0 hfinite
  rw [baseType] at h
  split at h
  · next hrelation =>
    obtain rfl := Except.ok.inj h
    exact ⟨_, hvalue, .value (Or.inl hrelation)⟩
  · next target hrelation =>
    obtain ⟨⟨⟩, -, h⟩ := bind_eq_ok_iff.1 h
    obtain rfl := pure_eq_ok_iff.1 h
    exact ⟨_, hvalue, .value (Or.inr ⟨target, hrelation⟩)⟩
  · next target hrelation =>
    obtain ⟨key, hkey, h⟩ := bind_eq_ok_iff.1 h
    obtain rfl := pure_eq_ok_iff.1 h
    have hfound := keyOf_of_findKey hkey
    obtain ⟨d, hd, hkey⟩ := exists_mem_fields_of_keyOf hfound
    have hlisted := writes_listedLast (writes_primitiveType key 0 (hs.isFinite hd hkey))
    exact ⟨_, hlisted, .keys hrelation hfound⟩
  · next targets hrelation =>
    obtain rfl := Except.ok.inj h
    exact ⟨_, writes_string, .word ⟨targets, Or.inl hrelation⟩⟩
  · next targets hrelation =>
    obtain rfl := Except.ok.inj h
    rw [orElse]
    split
    · exact ⟨_, writes_string, .word ⟨targets, Or.inr hrelation⟩⟩
    · next hne =>
      -- the names of collections are written as texts here
      have hsome : targets ≠ [] := by
        rintro rfl
        exact hne rfl
      have htexts : targets.map (fun target => ChoiceValue.text (pascalCase target)) ≠ [] := by
        rwa [ne_eq, List.map_eq_nil_iff]
      have hliterals := joined_literalUnion htexts (by simp [ChoiceValue.isFinite])
      exact ⟨_, writes_unite hliterals, .names hrelation hsome⟩
  · cases h

end SchemaScribe.Typing
