import Mathlib.Data.List.Forall2
import SchemaScribe.Proofs.Snapshot.Loaded
import SchemaScribe.Proofs.Typing.Members

/-!
# References between record types

The record types that the members of type definitions refer to.  The targets of relations to one
record and to a list of records are always declared, but nothing looks up those of a relation to a
record of several collections: `references_closed_iff` says exactly when no reference is left open,
and `open_reference_of_openText` is a schema whose definitions leave one open.
-/

namespace SchemaScribe.Typing

/-! ### Targets -/

/-- The collections whose record types stand in the type of a field. -/
def targets (field : Field) : List Text :=
  match field.relation with
  | some (.one target) | some (.many target) => [target]
  | some (.any alternatives) => alternatives
  | _ => []

/-- The collections that a field relates to as alternatives. -/
def alternatives (field : Field) : List Text :=
  match field.relation with
  | some (.any alternatives) => alternatives
  | _ => []

/-- **The collections that the definitions of a schema refer to** by their record types. -/
def references (schema : Schema) : List Text :=
  schema.collections.flatMap fun c => (storedFields c).flatMap targets

/-- Those of them that are referred to as alternatives. -/
def openReferences (schema : Schema) : List Text :=
  schema.collections.flatMap fun c => (storedFields c).flatMap alternatives

theorem mem_references {schema : Schema} {target : Text} :
    target ∈ references schema ↔
      ∃ c ∈ schema.collections, ∃ f ∈ storedFields c, target ∈ targets f := by
  simp only [references, List.mem_flatMap]

theorem mem_openReferences {schema : Schema} {target : Text} :
    target ∈ openReferences schema ↔
      ∃ c ∈ schema.collections, ∃ f ∈ storedFields c, target ∈ alternatives f := by
  simp only [openReferences, List.mem_flatMap]

/-! ### Mentions -/

/-- A name stands somewhere in a type. -/
def Mentions (type name : Text) : Prop := ∃ before after, type = before ++ name ++ after

theorem mentions_self {name : Text} : Mentions name name := ⟨"", "", by simp⟩

theorem Mentions.append_right {type name : Text} (h : Mentions type name) (more : Text) :
    Mentions (type ++ more) name := by
  obtain ⟨before, after, rfl⟩ := h
  exact ⟨before, after ++ more, by simp only [Text.append_assoc]⟩

theorem Mentions.append_left {type name : Text} (h : Mentions type name) (more : Text) :
    Mentions (more ++ type) name := by
  obtain ⟨before, after, rfl⟩ := h
  exact ⟨more ++ before, after, by simp only [Text.append_assoc]⟩

/-- A union shows each of its members. -/
theorem mentions_union {types : List Text} {type : Text} (h : type ∈ types) :
    Mentions (union types) type := by
  rw [union]
  induction types with
  | nil => cases h
  | cons first rest ih =>
    cases rest with
    | nil =>
      obtain rfl := List.mem_singleton.1 h
      rw [Text.intercalate_singleton]
      exact mentions_self
    | cons second rest =>
      rw [Text.intercalate_cons_cons]
      rcases List.mem_cons.1 h with rfl | h
      · exact (mentions_self.append_right _).append_right _
      · exact (ih h).append_left _

/-- The type of related records shows the record type of each target. -/
theorem mentions_relatedType {field : Field} {relation : Relation} {related target : Text}
    (hr : field.relation = some relation) (h : relatedType relation = .ok related)
    (ht : target ∈ targets field) : Mentions related (pascalCase target) := by
  rw [targets, hr] at ht
  cases relation with
  | one t =>
    obtain rfl := List.mem_singleton.1 ht
    obtain rfl := Except.ok.inj h
    exact mentions_self
  | many t =>
    obtain rfl := List.mem_singleton.1 ht
    obtain rfl := Except.ok.inj h
    exact mentions_self.append_right _
  | any alternatives =>
    obtain rfl := Except.ok.inj h
    have hunion : Mentions (union (alternatives.map pascalCase)) (pascalCase target) :=
      mentions_union (List.mem_map_of_mem ht)
    rw [orElse]
    split
    · next hempty =>
      -- an empty union shows only empty names, which stand in every type
      obtain ⟨before, after, hunion⟩ := hunion
      rw [hempty, eq_comm, Text.append_eq_empty_iff, Text.append_eq_empty_iff] at hunion
      obtain ⟨⟨-, hname⟩, -⟩ := hunion
      rw [hname]
      exact ⟨"never", "", rfl⟩
    · exact hunion
  | _ => cases ht

/-- **A member shows the record types that its field refers to.** -/
theorem mentions_of_resolve {schema : Schema} {options : Options} {collection : Text}
    {field : Field} {member : Member}
    (h : resolve schema options collection field = .ok (some member)) :
    member.name = field.name ∧
      ∀ target ∈ targets field, Mentions member.type (pascalCase target) := by
  obtain ⟨-, type, htype, rfl⟩ := resolve_eq_ok_some_iff.1 h
  refine ⟨rfl, fun target ht => ?_⟩
  have hmentions : Mentions type (pascalCase target) := by
    obtain ⟨base, -, htype⟩ := bind_eq_ok_iff.1 htype
    cases hr : field.relation with
    | none => rw [targets, hr] at ht; cases ht
    | some relation =>
      rw [hr] at htype
      cases relation with
      | anyType ts => rw [targets, hr] at ht; cases ht
      | _ =>
        obtain ⟨related, hrelated, htype⟩ := bind_eq_ok_iff.1 htype
        obtain rfl := pure_eq_ok_iff.1 htype
        exact (mentions_relatedType hr hrelated ht).append_left _
  show Mentions (if isOptional options field then orNull options field type else type) _
  -- null is put behind the type, which is in parentheses or as it is
  split
  · rw [orNull]
    split
    · exact (hmentions.append_left _).append_right _
    · exact hmentions.append_right _
  · exact hmentions

/-! ### What is checked -/

/-- A relation is typed only when its target exists, except for one to alternatives. -/
theorem mem_names_of_baseType {schema : Schema} {collection type target : Text} {field : Field}
    (h : baseType schema collection field = .ok type) (ht : target ∈ targets field)
    (ha : target ∉ alternatives field) : target ∈ schema.names := by
  rw [baseType] at h
  rw [targets] at ht
  rw [alternatives] at ha
  have hrequire : ∀ t, requireCollection schema collection field t = .ok () → t ∈ schema.names := by
    intro t h
    rw [requireCollection] at h
    split at h
    · next hhas => exact Schema.has_iff.1 hhas
    · cases h
  cases hr : field.relation with
  | none => rw [hr] at ht; cases ht
  | some relation =>
    rw [hr] at h ht ha
    cases relation with
    | one t =>
      -- the collection is required before anything is written
      obtain rfl := List.mem_singleton.1 ht
      obtain ⟨⟨⟩, hfound, -⟩ := bind_eq_ok_iff.1 h
      exact hrequire target hfound
    | many t =>
      obtain rfl := List.mem_singleton.1 ht
      obtain ⟨key, hkey, -⟩ := bind_eq_ok_iff.1 h
      obtain ⟨⟨⟩, hfound, -⟩ := bind_eq_ok_iff.1 hkey
      exact hrequire target hfound
    | any ts => exact absurd ht ha
    | _ => cases ht

theorem mem_names_of_resolve {schema : Schema} {options : Options} {collection target : Text}
    {field : Field} {member : Member}
    (h : resolve schema options collection field = .ok (some member)) (ht : target ∈ targets field)
    (ha : target ∉ alternatives field) : target ∈ schema.names := by
  obtain ⟨-, type, htype, -⟩ := resolve_eq_ok_some_iff.1 h
  obtain ⟨base, hbase, -⟩ := bind_eq_ok_iff.1 htype
  exact mem_names_of_baseType hbase ht ha

theorem alternatives_subset (field : Field) : alternatives field ⊆ targets field := by
  intro target h
  rw [alternatives] at h
  rw [targets]
  split at h
  · next hr => rw [hr]; exact h
  · cases h

/-! ### Closure -/

/-- What holds of the names of all collections holds of all references exactly when it holds of the
alternatives. -/
theorem forall_references_iff {schema : Schema} {p : Text → Prop}
    (h : ∀ target ∈ schema.names, p target)
    (hopen : ∀ target ∈ references schema, target ∈ openReferences schema ∨ target ∈ schema.names) :
    (∀ target ∈ references schema, p target) ↔ ∀ target ∈ openReferences schema, p target := by
  constructor
  · intro hall target ht
    obtain ⟨c, hc, f, hf, ht⟩ := mem_openReferences.1 ht
    exact hall target (mem_references.2 ⟨c, hc, f, hf, alternatives_subset f ht⟩)
  · intro hall target ht
    rcases hopen target ht with ht | ht
    · exact hall target ht
    · exact h target ht

/-- **The definitions refer only to what they declare exactly when all alternatives exist.**  They
consist of a record type for each collection and the directory, and their members show the record
types that they refer to; targets that are no alternatives exist. -/
theorem references_closed_iff {schema : Schema} {options : Options} {definitions : Text}
    (hc : options.computedFields = []) (hg : generate schema options = .ok definitions) :
    (∃ members : List (List Member),
      definitions = Text.intercalate "\n"
        (List.zipWith recordText schema.collections members ++
          [directoryDeclaration schema options]) ∧
      List.Forall₂ (fun c own => List.Forall₂ (fun field member => member.name = field.name ∧
          ∀ target ∈ targets field, Mentions member.type (pascalCase target))
        (storedFields c) own) schema.collections members) ∧
      (∀ target ∈ references schema, target ∈ openReferences schema ∨ target ∈ schema.names) ∧
      ((∀ target ∈ references schema, target ∈ schema.names) ↔
        ∀ target ∈ openReferences schema, target ∈ schema.names) ∧
      ((∀ target ∈ references schema, pascalCase target ∈ schema.names.map pascalCase) ↔
        ∀ target ∈ openReferences schema, pascalCase target ∈ schema.names.map pascalCase) := by
  obtain ⟨-, members, hmembers, hdefinitions⟩ := generate_eq_ok_iff.1 hg
  have hresolved : List.Forall₂ (fun c own => List.Forall₂
      (fun field member => resolve schema options c.name field = .ok (some member))
      (storedFields c) own) schema.collections members :=
    hmembers.imp fun c own h => (recordMembers_eq_ok_iff hc).1 h
  have hopen : ∀ target ∈ references schema,
      target ∈ openReferences schema ∨ target ∈ schema.names := by
    intro target ht
    obtain ⟨c, hmem, f, hf, ht⟩ := mem_references.1 ht
    -- the members could be given, so every target that is looked up was found
    by_cases ha : target ∈ alternatives f
    · exact Or.inl (mem_openReferences.2 ⟨c, hmem, f, hf, ha⟩)
    · obtain ⟨own, hown⟩ := exists_forall₂_iff.1 ⟨members, hresolved⟩ c hmem
      obtain ⟨member, hmember⟩ := exists_forall₂_iff.1 ⟨own, hown⟩ f hf
      exact Or.inr (mem_names_of_resolve hmember ht ha)
  refine ⟨⟨members, hdefinitions, ?_⟩, hopen, ?_, ?_⟩
  · exact hresolved.imp fun c own h => h.imp fun field member h => mentions_of_resolve h
  · exact forall_references_iff (fun _ ht => ht) hopen
  · exact forall_references_iff (fun _ ht => List.mem_map_of_mem ht) hopen

/-- A schema whose records refer to themselves in each way. -/
def closedSchema : Schema :=
  ⟨[⟨"notes", false, [
    { name := "id", type := "uuid" },
    { name := "parent", type := "uuid", relation := some (.one "notes") },
    { name := "replies", type := "alias", relation := some (.many "notes") },
    { name := "subject", type := "uuid", relation := some (.any ["notes"]) }]⟩]⟩

/-- The definitions of `closedSchema`. -/
def closedDefinitions : Text :=
  "export type Notes = \x7b\n  id: string;\n  parent: string | Notes;\n" ++
    "  replies: string[] | Notes[];\n  subject: string | Notes;\n\x7d;\n\n" ++
    "export type CustomDirectusTypes = \x7b\n  notes: Notes[];\n\x7d;\n"

set_option maxRecDepth 5000 in
/-- All references of `closedSchema` are to what is declared. -/
theorem references_closedSchema :
    generate closedSchema {} = .ok closedDefinitions ∧
      ∀ target ∈ references closedSchema, target ∈ closedSchema.names := by
  have hg : generate closedSchema {} = .ok closedDefinitions := by decide +kernel
  obtain ⟨-, -, hclosed, -⟩ := references_closed_iff rfl hg
  exact ⟨hg, hclosed.2 (by decide)⟩

/-- A text with a relation to an alternative that does not exist. -/
def openText : Text :=
  "\x7b\"posts\":\x7b\"fields\":[\x7b\"field\":\"item\"," ++
    "\"relation\":\x7b\"type\":\"any\",\"collections\":[\"missing\"]\x7d\x7d]\x7d\x7d"

/-- The schema of `openText`. -/
def openSchema : Schema :=
  ⟨[⟨"posts", false, [{ name := "item", type := "string", relation := some (.any ["missing"]) }]⟩]⟩

set_option maxRecDepth 5000 in
/-- The definitions of `openText` are given, and they refer to a record type that they do not
declare. -/
theorem open_reference_of_openText :
    Snapshot.load openText = .ok openSchema ∧
      generate openSchema {} = .ok ("export type Posts = \x7b\n  item: string | Missing;\n" ++
        "\x7d;\n\nexport type CustomDirectusTypes = \x7b\n  posts: Posts[];\n\x7d;\n") ∧
      ("missing" : Text) ∈ references openSchema ∧ ("missing" : Text) ∉ openSchema.names ∧
      pascalCase ("missing" : Text) ∉ openSchema.names.map pascalCase := by
  refine ⟨by decide +kernel, by decide +kernel, by decide, by decide, by decide⟩

end SchemaScribe.Typing
