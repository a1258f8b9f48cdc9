import SchemaScribe.Proofs.Alike
import SchemaScribe.Proofs.Association
import SchemaScribe.Proofs.Typing.Document

/-!
# What computed fields add

Computed fields that belong to collections of the schema come after the members of their record type
and touch nothing else (`computed_fields_are_appended`): generation fails as it does without them,
and otherwise the record types gain the members, while the directory and all other record types are
the same.
-/

namespace SchemaScribe.Typing

variable {schema : Schema} {options : Options} {computed : Association Text (List ComputedField)}

/-! ### Computed fields of the schema's collections -/

/-- **Computed fields fit a schema** when each is for one of its collections. -/
def FitsSchema (schema : Schema) (computed : Association Text (List ComputedField)) : Prop :=
  ∀ name ∈ Association.keys computed, name ∈ schema.names

instance : Decidable (FitsSchema schema computed) :=
  inferInstanceAs (Decidable (∀ name ∈ Association.keys computed, name ∈ schema.names))

theorem checkComputed_of_fitsSchema (h : FitsSchema schema computed) :
    checkComputed schema computed = .ok () := by
  have hnone : strayComputed? schema computed = none := by
    rw [strayComputed?, List.find?_eq_none]
    intro entry hentry
    have hname : entry.1 ∈ schema.names := h entry.1 (List.mem_map_of_mem hentry)
    simp [Schema.has_iff.2 hname]
  rw [checkComputed, hnone]

theorem FitsSchema.perm {reordered : Association Text (List ComputedField)}
    (h : FitsSchema schema computed) (hperm : computed.Perm reordered) :
    FitsSchema schema reordered :=
  fun name hname => h name ((hperm.map Prod.fst).mem_iff.2 hname)

/-- The computed fields for a collection. -/
def fieldsFor (computed : Association Text (List ComputedField)) (collection : Text) :
    List ComputedField :=
  (Association.get? collection computed).getD []

theorem fieldsFor_eq_nil {name : Text} (h : name ∉ Association.keys computed) :
    fieldsFor computed name = [] := by
  rw [fieldsFor]
  cases hget : Association.get? name computed with
  | none => rfl
  | some fields => exact absurd (List.mem_map_of_mem (Association.mem_of_get?_eq_some hget)) h

/-! ### Record types -/

/-- Computed fields have no part in the members that fields become. -/
theorem fieldMembers_withComputed (collection : Text) (fields : List Field) :
    fieldMembers schema { options with computedFields := computed } collection fields =
      fieldMembers schema options collection fields := by
  induction fields with
  | nil => rfl
  | cons field rest ih =>
    have hresolve : resolve schema { options with computedFields := computed } collection field =
        resolve schema options collection field := rfl
    rw [fieldMembers, fieldMembers, ih, hresolve]

/-- The members of a record type are those of its fields with the computed ones after them. -/
theorem recordMembers_withComputed (schema : Schema) (options : Options)
    (computed : Association Text (List ComputedField)) (c : Collection) :
    recordMembers schema { options with computedFields := computed } c =
      (fieldMembers schema options c.name c.fields).map fun own =>
        own ++ (fieldsFor computed c.name).map Member.ofComputed := by
  rw [recordMembers, fieldMembers_withComputed]
  cases fieldMembers schema options c.name c.fields <;> rfl

/-- The line of a computed field: its key, a mark if it may be absent, and its type as it is
given. -/
def computedLine (field : ComputedField) : Text :=
  memberIdentifier field.name ++ (if field.optional then "?" else "") ++ ": " ++ field.type ++ ";"

/-- **A record type gains members**: they come after those that it has, and so do their lines. -/
structure Gains (fields : List ComputedField) (record more : Declaration) : Prop where
  name : more.name = record.name
  members : more.members = record.members ++ fields.map Member.ofComputed
  lines : more.members.map Member.text =
    record.members.map Member.text ++ fields.map computedLine

theorem Gains.of_members {fields : List ComputedField} {record more : Declaration}
    (hname : more.name = record.name)
    (h : more.members = record.members ++ fields.map Member.ofComputed) :
    Gains fields record more := by
  refine ⟨hname, h, ?_⟩
  rw [h, List.map_append, List.map_map]
  rfl

/-- Where nothing is gained nothing changes. -/
theorem Gains.eq {record more : Declaration} (h : Gains [] record more) : more = record := by
  obtain ⟨name, members⟩ := record
  obtain ⟨name', members'⟩ := more
  have hmembers : members' = members ++ [] := h.members
  rw [List.append_nil] at hmembers
  rw [hmembers, show name' = name from h.name]

/-- **What a record type is without computed fields and with them.** -/
structure ExtendsRecord (schema : Schema) (options : Options)
    (computed : Association Text (List ComputedField)) (c : Collection)
    (record more : Declaration) : Prop where
  name : record.name = pascalCase c.name
  own : recordMembers schema { options with computedFields := [] } c = .ok record.members
  gains : Gains (fieldsFor computed c.name) record more
  same : c.name ∉ Association.keys computed ∨ fieldsFor computed c.name = [] → more = record

theorem alike_recordType (c : Collection) :
    Alike (ExtendsRecord schema options computed c)
      (recordType schema { options with computedFields := [] } c)
      (recordType schema { options with computedFields := computed } c) := by
  have hplain := recordMembers_withComputed schema options [] c
  have hfull := recordMembers_withComputed schema options computed c
  rw [recordType, recordType]
  -- both are made from the members of the fields, and so fail alike
  cases hown : fieldMembers schema options c.name c.fields with
  | error fault =>
    rw [hown] at hplain hfull
    rw [hplain, hfull]
    exact .error fault
  | ok own =>
    have hplain' : recordMembers schema { options with computedFields := [] } c = .ok own := by
      rw [hplain, hown]
      exact congrArg Except.ok (List.append_nil own)
    rw [hplain', hfull, hown]
    have hgains : Gains (fieldsFor computed c.name) ⟨pascalCase c.name, own⟩
        ⟨pascalCase c.name, own ++ (fieldsFor computed c.name).map Member.ofComputed⟩ :=
      .of_members rfl rfl
    refine .ok ⟨rfl, hplain', hgains, fun h => ?_⟩
    have hnil : fieldsFor computed c.name = [] := h.elim fieldsFor_eq_nil id
    rw [hnil] at hgains ⊢
    exact hgains.eq

/-! ### Definitions -/

/-- **Definitions without computed fields and with them**: the record types of the collections in
order, each with what it gains, and one directory. -/
def ExtendsText (schema : Schema) (options : Options)
    (computed : Association Text (List ComputedField)) (definitions more : Text) : Prop :=
  ∃ records extended,
    Forall₃ (ExtendsRecord schema options computed) schema.collections records extended ∧
      definitions = documentText (records ++ [directory schema options]) ∧
      more = documentText (extended ++ [directory schema options])

theorem alike_generate (h : FitsSchema schema computed) :
    Alike (ExtendsText schema options computed)
      (generate schema { options with computedFields := [] })
      (generate schema { options with computedFields := computed }) := by
  have hrecords : Alike (Forall₃ (ExtendsRecord schema options computed) schema.collections)
      (schema.collections.mapM (recordType schema { options with computedFields := [] }))
      (schema.collections.mapM (recordType schema { options with computedFields := computed })) :=
    Alike.mapM fun c _ => alike_recordType c
  have hempty : checkComputed schema [] = .ok () := rfl
  rw [generate_eq_map, generate_eq_map, declarations, declarations,
    checkComputed_of_fitsSchema h, hempty, ok_bind, ok_bind]
  refine (hrecords.bind fun records extended hextends => ?_).map
    (R := fun ds ds' => ExtendsText schema options computed (documentText ds) (documentText ds'))
    fun _ _ h => h
  exact alike_pure ⟨records, extended, hextends, rfl, rfl⟩

/-- Computed fields count by what there is for each collection. -/
theorem generate_congr_fieldsFor {reordered : Association Text (List ComputedField)}
    (h : FitsSchema schema computed) (h' : FitsSchema schema reordered)
    (hsame : ∀ name, fieldsFor reordered name = fieldsFor computed name) :
    generate schema { options with computedFields := reordered } =
      generate schema { options with computedFields := computed } := by
  have hrecord : recordType schema { options with computedFields := reordered } =
      recordType schema { options with computedFields := computed } := by
    funext c
    rw [recordType, recordType, recordMembers_withComputed, recordMembers_withComputed, hsame]
  rw [generate_eq_map, generate_eq_map, declarations, declarations, checkComputed_of_fitsSchema h,
    checkComputed_of_fitsSchema h', hrecord]
  rfl

/-- **Computed fields are appended and touch nothing else.**  When each is for a collection of the
schema, generation fails with the same fault as without them, or it gives the same definitions but
for the record types of their collections, where the computed fields come in order after the members
that are there.  Entries with distinct names may stand in any order. -/
theorem computed_fields_are_appended (options : Options) (h : FitsSchema schema computed) :
    Alike (ExtendsText schema options computed)
        (generate schema { options with computedFields := [] })
        (generate schema { options with computedFields := computed }) ∧
      ∀ reordered, (Association.keys computed).Nodup → computed.Perm reordered →
        generate schema { options with computedFields := reordered } =
          generate schema { options with computedFields := computed } := by
  refine ⟨alike_generate h, fun reordered hkeys hperm => ?_⟩
  refine generate_congr_fieldsFor h (h.perm hperm) fun name => ?_
  rw [fieldsFor, fieldsFor, Association.get?_of_perm hkeys hperm]

/-- A schema with a collection that has no fields. -/
def bareSchema : Schema := ⟨[{ name := "notes" }]⟩

/-- A computed field for the collection without fields. -/
def bareComputed : Association Text (List ComputedField) := [("notes", [⟨"a-b", "URL", true⟩])]

/-- A record type without members gains its first one, and is laid out in lines from then on. -/
theorem computed_fields_of_bareSchema :
    ∃ record more, Gains [⟨"a-b", "URL", true⟩] record more ∧
      record.text = "export type Notes = \x7b\x7d;\n" ∧
      more.text = "export type Notes = \x7b\n  \"a-b\"?: URL;\n\x7d;\n" := by
  have hfits : FitsSchema bareSchema bareComputed := by decide
  have halike := (computed_fields_are_appended {} hfits).1
  cases halike with
  | ok hextends =>
    obtain ⟨records, extended, hrecords, -, -⟩ := hextends
    cases hrecords with
    | cons h _ =>
      have hmembers := (Except.ok.inj h.own).symm
      refine ⟨_, _, h.gains, ?_, ?_⟩
      · rw [Declaration.text, h.name, hmembers]
        decide +kernel
      · rw [Declaration.text, h.gains.lines, h.gains.name, h.name, hmembers]
        decide +kernel

end SchemaScribe.Typing
