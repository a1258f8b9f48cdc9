import Mathlib.Logic.Basic
import SchemaScribe.Proofs.Snapshot.Loaded
import SchemaScribe.Typing.Declaration

/-!
# When generation fails

`generate_fails_first`: the type definitions of a loaded schema fail with the first of its problems
(`problems`), and they can be given when there are none.
-/

namespace SchemaScribe.Typing

/-! ### Problems -/

/-- What does not fit together, and the collection and the field at which it shows. -/
structure Problem where
  collection : Text
  field : Text
  cause : Inconsistency
  deriving DecidableEq, Repr

/-- The fault that a problem is reported as. -/
def Problem.fault (problem : Problem) : Fault :=
  .inconsistent problem.collection problem.field problem.cause

/-- A collection whose records can be told apart by a field: one flagged as primary key, or one
named `id`. -/
def HasKey (collection : Collection) : Prop :=
  ∃ field ∈ collection.fields, field.primaryKey = true ∨ field.name = "id"

instance (collection : Collection) : Decidable (HasKey collection) :=
  inferInstanceAs (Decidable (∃ field ∈ collection.fields, _))

/-- What is wrong with the target of a relation, if anything. -/
def relationCause? (schema : Schema) : Option Relation → Option Inconsistency
  | some (.one target) => if target ∈ schema.names then none else some (.missingCollection target)
  | some (.many target) =>
    if target ∉ schema.names then some (.missingCollection target)
    else if ∃ c ∈ schema.collections, c.name = target ∧ HasKey c then none
    else some (.missingKey target)
  | _ => none

/-- The problem of a field, if it has one.  Fields that store nothing have none. -/
def fieldProblem? (schema : Schema) (collection : Text) (field : Field) : Option Problem :=
  if field.isPresentational then none
  else (relationCause? schema field.relation).map fun cause => ⟨collection, field.name, cause⟩

/-- The problems of a collection, in the order of its fields. -/
def collectionProblems (schema : Schema) (collection : Collection) : List Problem :=
  collection.fields.filterMap (fieldProblem? schema collection.name)

/-- The problem of an entry of the computed fields, if its collection does not exist.  It names the
first field of the entry. -/
def computedProblem? (schema : Schema) (entry : Text × List ComputedField) : Option Problem :=
  if entry.1 ∈ schema.names then none
  else some ⟨entry.1, (entry.2.head?.map (·.name)).getD "", .computedTarget⟩

/-- **All that is wrong**: with the computed fields, and then with the collections in their
order. -/
def problems (schema : Schema) (options : Options) : List Problem :=
  options.computedFields.filterMap (computedProblem? schema) ++
    schema.collections.flatMap (collectionProblems schema)

/-! ### When there is a problem -/

/-- What can be wrong with a relation: a target that does not exist or, of a list, one without a
key.  A record of several collections and its type are never looked up. -/
theorem relationCause?_ne_none_iff {schema : Schema} (hd : schema.names.Nodup)
    {relation : Option Relation} :
    relationCause? schema relation ≠ none ↔
      (∃ target, relation = some (.one target) ∧ target ∉ schema.names) ∨
        ∃ target, relation = some (.many target) ∧
          (target ∉ schema.names ∨ ∃ d ∈ schema.collections, d.name = target ∧ ¬ HasKey d) := by
  match relation with
  | some (.one target) => simp [relationCause?]
  | some (.many target) =>
    by_cases h : target ∈ schema.names
    · obtain ⟨found, hfound, rfl⟩ := List.mem_map.1 h
      -- the names are distinct, so the target is the only collection that is meant
      have hkey := Schema.exists_named_iff hd hfound (p := HasKey)
      have hno := Schema.exists_named_iff hd hfound (p := fun d => ¬ HasKey d)
      by_cases hk : HasKey found <;> simp [relationCause?, h, hkey, hno, hk]
    · simp [relationCause?, h]
  | none => simp [relationCause?]
  | some (.any targets) => simp [relationCause?]
  | some (.anyType targets) => simp [relationCause?]
  | some (.unknown kind) => simp [relationCause?]

/-- There are problems exactly when some computed field belongs to no collection, or some field that
stores a value relates to what does not exist or cannot be told apart. -/
theorem problems_ne_nil_iff {schema : Schema} (hd : schema.names.Nodup) (options : Options) :
    problems schema options ≠ [] ↔
      (∃ key ∈ Association.keys options.computedFields, key ∉ schema.names) ∨
        ∃ c ∈ schema.collections, ∃ f ∈ c.fields, f.isPresentational = false ∧
          ((∃ target, f.relation = some (.one target) ∧ target ∉ schema.names) ∨
            ∃ target, f.relation = some (.many target) ∧
              (target ∉ schema.names ∨
                ∃ d ∈ schema.collections, d.name = target ∧ ¬ HasKey d)) := by
  have hcomputed : options.computedFields.filterMap (computedProblem? schema) ≠ [] ↔
      ∃ key ∈ Association.keys options.computedFields, key ∉ schema.names := by
    simp [computedProblem?, Association.keys]
  have hcollections : schema.collections.flatMap (collectionProblems schema) ≠ [] ↔
      ∃ c ∈ schema.collections, ∃ f ∈ c.fields, f.isPresentational = false ∧
        relationCause? schema f.relation ≠ none := by
    simp [collectionProblems, fieldProblem?]
  simp only [relationCause?_ne_none_iff hd] at hcollections
  rw [problems, ne_eq, List.append_eq_nil_iff, not_and_or]
  exact or_congr hcomputed hcollections

/-! ### Fields -/

theorem primaryKeyField?_isSome_iff {collection : Collection} :
    collection.primaryKeyField?.isSome ↔ HasKey collection := by
  rw [Collection.primaryKeyField?, Option.isSome_or, Bool.or_eq_true, List.find?_isSome,
    List.find?_isSome]
  constructor
  · rintro (⟨field, hf, h⟩ | ⟨field, hf, h⟩)
    · exact ⟨field, hf, Or.inl h⟩
    · exact ⟨field, hf, Or.inr (by simpa using h)⟩
  · rintro ⟨field, hf, h | h⟩
    · exact Or.inl ⟨field, hf, h⟩
    · exact Or.inr ⟨field, hf, by simpa using h⟩

/-- The faults of a field, of which there is at most one. -/
def fieldFaults (collection : Text) (field : Field) (cause : Option Inconsistency) : List Fault :=
  (cause.map (.inconsistent collection field.name)).toList

theorem failsFirst_requireCollection {schema : Schema} {collection target : Text}
    {field : Field} :
    FailsFirst (fieldFaults collection field (relationCause? schema (some (.one target))))
      (requireCollection schema collection field target) := by
  by_cases h : target ∈ schema.names
  · simp [requireCollection, Schema.has_iff.2 h, relationCause?, h, fieldFaults,
      failsFirst_nil_iff]
  · have hhas : schema.has target = false := by simpa [Schema.has] using h
    simp [requireCollection, hhas, relationCause?, h, fieldFaults, failsFirst_cons_iff]

/-- The key of a collection is looked for only after the collection was found, so the lookup itself
never fails. -/
theorem failsFirst_findKey {schema : Schema} (hd : schema.names.Nodup)
    {collection target : Text} {field : Field} :
    FailsFirst (fieldFaults collection field (relationCause? schema (some (.many target))))
      (findKey schema collection field target) := by
  by_cases h : target ∈ schema.names
  · obtain ⟨found, hfound, rfl⟩ := List.mem_map.1 h
    have hrequire : requireCollection schema collection field found.name = .ok () :=
      if_pos (Schema.has_iff.2 h)
    have hget : schema.get found.name = .ok found := by
      rw [Schema.get, Schema.find?_name_of_mem hd hfound]
    have hkey := Schema.exists_named_iff hd hfound (p := HasKey)
    -- the collection is there: what is left is whether it has a key
    rw [relationCause?, if_neg (not_not_intro h)]
    cases hp : found.primaryKeyField? with
    | none =>
      have hfind : findKey schema collection field found.name =
          .error (.inconsistent collection field.name (.missingKey found.name)) := by
        simp only [findKey, hrequire, hget, Except.mapError, bind, Except.bind, hp]
        rfl
      have hnone : ¬ HasKey found := by simp [← primaryKeyField?_isSome_iff, hp]
      rw [if_neg (hkey.not.2 hnone)]
      exact failsFirst_cons_iff.2 hfind
    | some key =>
      have hfind : findKey schema collection field found.name = .ok key := by
        simp only [findKey, hrequire, hget, Except.mapError, bind, Except.bind, hp]
        rfl
      have hsome : HasKey found := by simp [← primaryKeyField?_isSome_iff, hp]
      rw [if_pos (hkey.2 hsome)]
      exact failsFirst_nil_iff.2 ⟨key, hfind⟩
  · have hrequire : requireCollection schema collection field target =
        .error (.inconsistent collection field.name (.missingCollection target)) :=
      if_neg (by rwa [Schema.has_iff])
    rw [findKey, hrequire, relationCause?, if_pos h]
    exact failsFirst_cons_iff.2 rfl

/-- The type of a field or of its key fails with what is wrong with the relation of the field. -/
theorem failsFirst_baseType {schema : Schema} (hd : schema.names.Nodup) {collection : Text}
    {field : Field} (hk : ∀ kind, field.relation ≠ some (.unknown kind)) :
    FailsFirst (fieldFaults collection field (relationCause? schema field.relation))
      (baseType schema collection field) := by
  rw [baseType]
  cases hr : field.relation with
  | none => exact failsFirst_nil_iff.2 succeeds_ok
  | some relation =>
    cases relation with
    | one target => exact failsFirst_requireCollection.bind_succeeds fun _ _ => succeeds_pure
    | many target => exact (failsFirst_findKey hd).bind_succeeds fun _ _ => succeeds_pure
    | any targets => exact failsFirst_nil_iff.2 succeeds_ok
    | anyType targets => exact failsFirst_nil_iff.2 succeeds_ok
    | unknown kind => exact absurd hr (hk kind)

/-- Related records are asked for only where a relation has some, so their type never fails. -/
theorem failsFirst_requiredType {schema : Schema} (hd : schema.names.Nodup) {options : Options}
    {collection : Text} {field : Field} (hk : ∀ kind, field.relation ≠ some (.unknown kind)) :
    FailsFirst (fieldFaults collection field (relationCause? schema field.relation))
      (requiredType schema options collection field) := by
  refine (failsFirst_baseType hd hk).bind_succeeds fun base _ => ?_
  cases hr : field.relation with
  | none => exact succeeds_pure
  | some relation =>
    cases relation with
    | unknown kind => exact absurd hr (hk kind)
    | _ => exact ⟨_, rfl⟩

/-- A field fails with its problem. -/
theorem failsFirst_resolve {schema : Schema} (hd : schema.names.Nodup) {options : Options}
    {collection : Text} {field : Field} (hk : ∀ kind, field.relation ≠ some (.unknown kind)) :
    FailsFirst ((fieldProblem? schema collection field).map Problem.fault).toList
      (resolve schema options collection field) := by
  rw [resolve, fieldProblem?]
  split
  · exact failsFirst_nil_iff.2 succeeds_ok
  · rw [Option.map_map]
    exact (failsFirst_requiredType hd hk).bind_succeeds fun _ _ => succeeds_pure

/-! ### Collections and schemas -/

theorem failsFirst_fieldMembers {schema : Schema} (hd : schema.names.Nodup) {options : Options}
    {collection : Text} {fields : List Field}
    (hk : ∀ field ∈ fields, ∀ kind, field.relation ≠ some (.unknown kind)) :
    FailsFirst ((fields.filterMap (fieldProblem? schema collection)).map Problem.fault)
      (fieldMembers schema options collection fields) := by
  induction fields with
  | nil => exact failsFirst_nil_iff.2 succeeds_ok
  | cons field rest ih =>
    rw [List.forall_mem_cons] at hk
    have hfield : FailsFirst ((fieldProblem? schema collection field).map Problem.fault).toList
        (resolve schema options collection field) := failsFirst_resolve hd hk.1
    have h : FailsFirst (((fieldProblem? schema collection field).map Problem.fault).toList ++
        (rest.filterMap (fieldProblem? schema collection)).map Problem.fault)
        (fieldMembers schema options collection (field :: rest)) :=
      hfield.bind fun _ _ => (ih hk.2).bind_succeeds fun _ _ => succeeds_pure
    -- a field without a problem adds no fault in front of those of the rest
    rw [List.filterMap_cons]
    cases hp : fieldProblem? schema collection field with
    | none => rwa [hp] at h
    | some problem => rwa [hp] at h

theorem failsFirst_recordDeclarations {schema : Schema} (hd : schema.names.Nodup)
    {options : Options} {collections : List Collection}
    (hk : ∀ c ∈ collections, ∀ f ∈ c.fields, ∀ kind, f.relation ≠ some (.unknown kind)) :
    FailsFirst ((collections.flatMap (collectionProblems schema)).map Problem.fault)
      (recordDeclarations schema options collections) := by
  induction collections with
  | nil => exact failsFirst_nil_iff.2 succeeds_ok
  | cons c rest ih =>
    rw [List.forall_mem_cons] at hk
    rw [recordDeclarations, List.flatMap_cons, List.map_append]
    have hmembers : FailsFirst ((collectionProblems schema c).map Problem.fault)
        (recordDeclaration schema options c) :=
      ((failsFirst_fieldMembers hd hk.1).bind_succeeds fun _ _ => succeeds_pure).bind_succeeds
        fun _ _ => succeeds_pure
    exact hmembers.bind fun _ _ => (ih hk.2).bind_succeeds fun _ _ => succeeds_pure

/-- The check of the computed fields fails at the first entry with a problem. -/
theorem failsFirst_checkComputed {schema : Schema}
    {computed : Association Text (List ComputedField)} :
    FailsFirst ((computed.filterMap (computedProblem? schema)).map Problem.fault)
      (checkComputed schema computed) := by
  rw [checkComputed, strayComputed?]
  induction computed with
  | nil => exact failsFirst_nil_iff.2 succeeds_ok
  | cons entry rest ih =>
    rw [List.filterMap_cons, List.find?_cons, computedProblem?]
    by_cases h : entry.1 ∈ schema.names
    · rw [if_pos h, Schema.has_iff.2 h]
      exact ih
    · have hhas : schema.has entry.1 = false := by simpa [Schema.has] using h
      rw [if_neg h, hhas]
      exact failsFirst_cons_iff.2 rfl

theorem failsFirst_generate {schema : Schema} (hs : Snapshot.IsSound schema) (options : Options) :
    FailsFirst ((problems schema options).map Problem.fault) (generate schema options) := by
  rw [problems, List.map_append]
  refine failsFirst_checkComputed.bind fun _ _ => ?_
  exact (failsFirst_recordDeclarations hs.distinct hs.known).bind_succeeds fun _ _ => succeeds_pure

/-! ### The law of failure -/

/-- **Generation from a loaded schema fails with the first problem**, in the order of the computed
fields and then of the collections and their fields.  It fails in no other way, and it succeeds when
there is no problem. -/
theorem generate_fails_first {text : Text} {schema : Schema}
    (h : Snapshot.load text = .ok schema) (options : Options) :
    ((∃ definitions, generate schema options = .ok definitions) ↔ problems schema options = []) ∧
      (∀ fault, generate schema options = .error fault ↔
        ∃ problem, (problems schema options).head? = some problem ∧
          fault = .inconsistent problem.collection problem.field problem.cause) ∧
      (problems schema options ≠ [] ↔
        (∃ key ∈ Association.keys options.computedFields, key ∉ schema.names) ∨
          ∃ c ∈ schema.collections, ∃ f ∈ c.fields, f.isPresentational = false ∧
            ((∃ target, f.relation = some (.one target) ∧ target ∉ schema.names) ∨
              ∃ target, f.relation = some (.many target) ∧
                (target ∉ schema.names ∨
                  ∃ d ∈ schema.collections, d.name = target ∧ ¬ HasKey d))) := by
  have hs : Snapshot.IsSound schema := Snapshot.isSound_of_load h
  have hfirst : FailsFirst ((problems schema options).map Problem.fault)
      (generate schema options) := failsFirst_generate hs options
  refine ⟨?_, ?_, problems_ne_nil_iff hs.distinct options⟩
  · show Succeeds (generate schema options) ↔ _
    rw [hfirst.succeeds_iff, List.map_eq_nil_iff]
  · intro fault
    rw [hfirst fault, List.head?_map, Option.map_eq_some_iff]
    refine exists_congr fun problem => and_congr_right fun _ => ?_
    rw [eq_comm, Problem.fault]

/-- A text with a field that stores nothing and whose target does not exist, and after it a list of
records that have no key. -/
def keylessText : Text :=
  "\x7b\"a\":\x7b\"fields\":[\x7b\"field\":\"x\",\"meta\":\x7b\"interface\":\"group-raw\"\x7d," ++
    "\"relation\":\x7b\"type\":\"one\",\"collection\":\"b\"\x7d\x7d," ++
    "\x7b\"field\":\"y\",\"relation\":\x7b\"type\":\"many\",\"collection\":\"a\"\x7d\x7d]\x7d\x7d"

/-- The schema of `keylessText`. -/
def keyless : Schema :=
  ⟨[⟨"a", false, [
    { name := "x", type := "string", interface := some "group-raw", relation := some (.one "b") },
    { name := "y", type := "string", relation := some (.many "a") }]⟩]⟩

theorem load_keylessText : Snapshot.load keylessText = .ok keyless :=
  by decide +kernel

/-- The list without keys is told where the computed fields are fine, and the computed field that
belongs to no collection before it. -/
theorem generate_keyless :
    Snapshot.load keylessText = .ok keyless ∧
      generate keyless {} = .error (.inconsistent "a" "y" (.missingKey "a")) ∧
      generate keyless { computedFields := [("b", [⟨"z", "string", false⟩])] } =
        .error (.inconsistent "b" "z" .computedTarget) := by
  refine ⟨load_keylessText, ?_, ?_⟩
  · obtain ⟨-, hfault, -⟩ := generate_fails_first load_keylessText {}
    exact (hfault _).2 ⟨⟨"a", "y", .missingKey "a"⟩, by decide, rfl⟩
  · obtain ⟨-, hfault, -⟩ := generate_fails_first load_keylessText
      { computedFields := [("b", [⟨"z", "string", false⟩])] }
    exact (hfault _).2 ⟨⟨"b", "z", .computedTarget⟩, by decide, rfl⟩

end SchemaScribe.Typing
