import Mathlib.Data.List.Forall2
import SchemaScribe.Proofs.Typing.References
import SchemaScribe.Proofs.Typing.Vocabulary

/-!
# Null beside the types of fields

A field that may be absent has the type that it would have otherwise, or null
(`nullable_wraps_whole`).  The type is written before the null as it is where it is made of
alternatives, and in parentheses where it may be an intersection; either way null stands beside the
whole of it.
-/

namespace SchemaScribe.Typing

open TypeExpr (unite)

variable {schema : Schema} {options : Options} {collection text : Text} {field : Field}

/-! ### What the type of a field is read as -/

/-- **A text is a type that null can be put behind** under the given options: it is read as the
type, and written as its alternatives unless it may be an intersection. -/
structure TakesNull (options : Options) (field : Field) (text : Text) (type : TypeExpr) :
    Prop where
  reads : Reads union? [.char '|', .char '&'] text type
  writes : field.relation = none ∨ options.useIntersectionTypes = false → Writes text type

theorem Writes.takesNull {type : TypeExpr} (h : Writes text type) :
    TakesNull options field text type := ⟨h.reads, fun _ => h⟩

/-- A record type, or a list of records, may be joined to a type by an ampersand. -/
theorem takesNull_joined {next : Text} {type other : TypeExpr} {relation : Relation}
    (hrelation : field.relation = some relation) (h : Writes text type)
    (hnext : Single next other) :
    ∃ joined, TakesNull options field
      (text ++ (if options.useIntersectionTypes then (" & " : Text) else unionSeparator) ++ next)
      joined := by
  refine ⟨_, reads_joinedLast h hnext options.useIntersectionTypes, ?_⟩
  rintro (hnone | hoptions)
  · rw [hrelation] at hnone
    cases hnone
  · rw [hoptions]
    exact h.or hnext

/-- The records of several collections are alternatives. -/
theorem exists_joined_related {targets : List Text}
    (hnames : ∀ target ∈ targets, isPlainIdentifier (pascalCase target).toList = true) :
    ∃ types, Joined " | " Single (orElse (union (targets.map pascalCase)) "never") types := by
  rw [orElse]
  split
  · exact ⟨_, .one (single_word (by decide) rfl)⟩
  · next hne =>
    have hsome : targets.map pascalCase ≠ [] := by
      intro hnil
      apply hne
      rw [hnil]
      rfl
    have hsingle : List.Forall₂ Single (targets.map pascalCase)
        (targets.map fun target => .named (pascalCase target)) := by
      rw [List.forall₂_map_left_iff, List.forall₂_map_right_iff, List.forall₂_same]
      exact fun target htarget => single_pascalCase (hnames target htarget)
    exact ⟨_, joined_intercalate hsome hsingle⟩

/-- **The type of a field that is never null can take null behind it**, whatever the field relates
to. -/
theorem exists_takesNull (hs : schema.IsWellFormed)
    (hfinite : ∀ value ∈ choiceValues field, value.isFinite = true)
    (hnames : ∀ target ∈ targets field, isPlainIdentifier (pascalCase target).toList = true)
    (h : requiredType schema options collection field = .ok text) :
    ∃ type, TakesNull options field text type := by
  obtain ⟨own, hown, rfl⟩ := exists_baseType_of_requiredType h
  obtain ⟨type, hwrites, -⟩ := exists_isOwnType hs hfinite hown
  have hself : TakesNull options field (own ++ "") type := by
    rw [Text.append_empty]
    exact hwrites.takesNull
  cases hrelation : field.relation with
  | none => exact ⟨type, hself⟩
  | some relation =>
    rw [targets, hrelation] at hnames
    cases relation with
    | one target =>
      have hrecord : Single (pascalCase target) (.named (pascalCase target)) :=
        single_pascalCase (hnames target (by simp))
      rw [append_relatedText options own rfl]
      exact takesNull_joined hrelation hwrites hrecord
    | many target =>
      have hrecord : Single (pascalCase target) (.named (pascalCase target)) :=
        single_pascalCase (hnames target (by simp))
      rw [append_relatedText options own rfl]
      exact takesNull_joined hrelation hwrites hrecord.array
    | any alternatives =>
      -- records of several collections are alternatives under any options
      obtain ⟨types, hjoined⟩ := exists_joined_related hnames
      have hall := writes_unite (Joined.append hwrites hjoined)
      rw [append_relatedText options own rfl]
      exact ⟨_, hall.takesNull⟩
    | anyType alternatives => exact ⟨type, hself⟩
    | unknown kind =>
      rw [baseType, hrelation] at hown
      cases hown

/-! ### The null -/

theorem orNull_of_plain (hplain : field.relation = none ∨ options.useIntersectionTypes = false)
    (text : Text) : orNull options field text = text ++ " | null" := by
  rw [orNull]
  rcases hplain with hrelation | hoptions
  · rw [hrelation, Option.isSome_none, Bool.false_and, if_neg Bool.false_ne_true]
  · rw [hoptions, Bool.and_false, if_neg Bool.false_ne_true]

/-- **Null stands beside the whole type**, in parentheses or not. -/
theorem TakesNull.read?_orNull {type : TypeExpr} (h : TakesNull options field text type)
    (hoptional : isOptional options field = true) :
    TypeExpr.read? (orNull options field text) = some (unite [type, .literal .null]) := by
  by_cases hplain : field.relation = none ∨ options.useIntersectionTypes = false
  · -- alternatives take null as one more of them
    have hnull : Single "null" (.literal .null) := ⟨reads_word (by decide), rfl⟩
    have htext : text ++ " | null" = text ++ " | " ++ "null" := by
      rw [Text.append_assoc]
      rfl
    rw [orNull_of_plain hplain, htext]
    exact ((h.writes hplain).or hnull).reads.read?_eq
  · -- an ampersand may stand in the text, which is why it is put in parentheses
    rw [not_or, ← ne_eq, Option.ne_none_iff_isSome, Bool.not_eq_false] at hplain
    obtain ⟨hrelation, hoptions⟩ := hplain
    have hread := Typing.read?_orNull h.reads hrelation hoptions
    rwa [hoptional, if_pos rfl, withNull, if_pos rfl] at hread

theorem primitiveType_withNullable (field : Field) (nullable : Bool) (depth : Int) :
    primitiveType { field with nullable := nullable } depth = primitiveType field depth := by
  cases field
  rw [primitiveType, primitiveType]

/-- Whether a field is nullable has no part in the type that it has when it is not null. -/
theorem requiredType_withNullable (nullable : Bool) :
    requiredType schema options collection { field with nullable := nullable } =
      requiredType schema options collection field := by
  have hbase : baseType schema collection { field with nullable := nullable } =
      baseType schema collection field := by
    rw [baseType, baseType, primitiveType_withNullable]
    rfl
  rw [requiredType, requiredType, hbase]

/-- **Nullability wraps the whole type.**  The field may be of a loaded schema or any other one
whose choices are numbers with digits.  Its member is optional exactly when it is nullable and not
held to be required; then its type is that of the same field without null, or null, and otherwise it
is the same.  Nothing is put in parentheses without a relation or without intersection types. -/
theorem nullable_wraps_whole {source : Text} (hload : Snapshot.load source = .ok schema)
    (hfield : (∃ c ∈ schema.collections, field ∈ c.fields) ∨
      ∀ value ∈ choiceValues field, value.isFinite = true)
    (hnames : ∀ target ∈ targets field, isPlainIdentifier (pascalCase target).toList = true)
    {member : Member} (h : resolve schema options collection field = .ok (some member)) :
    ∃ required type,
      resolve schema options collection { field with nullable := false } = .ok (some required) ∧
      TypeExpr.read? required.type = some type ∧
      (member.optional = true ↔ field.nullable = true ∧
        ¬ (options.treatRequiredAsNonNull = true ∧ field.required = true)) ∧
      (member.optional = false → member.type = required.type) ∧
      (member.optional = true →
        TypeExpr.read? member.type = some (unite [type, .literal .null]) ∧
        (field.relation = none ∨ options.useIntersectionTypes = false →
          member.type = required.type ++ " | null")) := by
  have hs : schema.IsWellFormed := Snapshot.isWellFormed_of_load hload
  have hfinite : ∀ value ∈ choiceValues field, value.isFinite = true := by
    rcases hfield with ⟨c, hc, hf⟩ | hfinite
    · exact hs.isFinite hc hf
    · exact hfinite
  obtain ⟨hstored, text, htext, rfl⟩ := resolve_eq_ok_some_iff.1 h
  obtain ⟨type, htakes⟩ := exists_takesNull hs hfinite hnames htext
  -- the same field without null has the type itself
  have hrequired : resolve schema options collection { field with nullable := false } =
      .ok (some ⟨field.name, text, false⟩) :=
    resolve_eq_ok_some_iff.2 ⟨hstored, text, (requiredType_withNullable false).trans htext, rfl⟩
  refine ⟨_, type, hrequired, htakes.reads.read?_eq, ?_, ?_, ?_⟩
  · dsimp only
    rw [isOptional, Bool.and_eq_true, Bool.not_eq_true', ← Bool.not_eq_true, Bool.and_eq_true]
  · intro hoptional
    dsimp only at hoptional ⊢
    rw [hoptional, if_neg Bool.false_ne_true]
  · intro hoptional
    dsimp only at hoptional ⊢
    rw [hoptional, if_pos rfl]
    exact ⟨htakes.read?_orNull hoptional, fun hplain => orNull_of_plain hplain text⟩

/-- The parent of a tag is an intersection in parentheses, or null. -/
theorem nullable_wraps_parentTag :
    ∃ member, resolve choiceSchema { useIntersectionTypes := true } "tags" parentTag =
        .ok (some member) ∧ member.type = "(number & Tags) | null" ∧
      TypeExpr.read? member.type =
        some (unite [.intersection (.named "number") (.named "Tags") [], .literal .null]) := by
  obtain ⟨member, hresolve⟩ : ∃ member, resolve choiceSchema { useIntersectionTypes := true } "tags"
      parentTag = .ok (some member) := ⟨_, rfl⟩
  have hmem : parentTag ∈ choiceTags.fields := by simp [choiceTags]
  obtain ⟨required, type, hrequired, hread, -, -, hnull⟩ := nullable_wraps_whole load_choiceText
    (Or.inl ⟨choiceTags, by simp [choiceSchema], hmem⟩) (by decide) hresolve
  obtain rfl := Option.some.inj (Except.ok.inj hrequired)
  obtain rfl := Option.some.inj (Except.ok.inj hresolve)
  have htype : TypeExpr.read? "number & Tags" =
      some (.intersection (.named "number") (.named "Tags") []) := rfl
  obtain rfl := Option.some.inj (hread.symm.trans htype)
  exact ⟨_, hresolve, rfl, (hnull rfl).1⟩

end SchemaScribe.Typing
