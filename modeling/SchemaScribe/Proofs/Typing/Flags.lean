import SchemaScribe.Proofs.Alike
import SchemaScribe.Proofs.Typing.Document

/-!
# What the switches of generation touch

Two runs over one schema, under options that differ in their switches only, fail with the same fault
or give declarations that stand side by side (`SideBySide`): the same names and keys, and members
that differ only where a switch is looked at.  `flags_touch_their_own_part` says for each switch
what that is.
-/

namespace SchemaScribe.Typing

variable {schema : Schema} {options options' : Options}

/-! ### Types under two sets of options -/

/-- A field whose relation joins a key to related records of one collection. -/
def JoinsKey (field : Field) : Prop :=
  ∃ target, field.relation = some (.one target) ∨ field.relation = some (.many target)

/-- A field whose relation leaves open which collection it points to. -/
def RelatesToSeveral (field : Field) : Prop :=
  ∃ targets, field.relation = some (.any targets) ∨ field.relation = some (.anyType targets)

/-- The type of a field that is never null is looked up in the same way whatever the switches are,
and only a key is joined in two ways. -/
theorem alike_requiredType (collection : Text) (field : Field) :
    Alike (fun type type' => (field.relation = none ∨ JoinsKey field ∨ RelatesToSeveral field) ∧
        (options'.useIntersectionTypes = options.useIntersectionTypes ∨ ¬ JoinsKey field →
          type' = type))
      (requiredType schema options collection field)
      (requiredType schema options' collection field) := by
  rw [requiredType, requiredType]
  refine Alike.bind_self fun base _ => ?_
  cases hr : field.relation with
  | none => exact .ok ⟨Or.inl rfl, fun _ => rfl⟩
  | some relation =>
    cases relation with
    | one target =>
      -- the key and the record are joined, in the way that the options say
      have hjoins : JoinsKey field := ⟨target, Or.inl hr⟩
      refine .ok ⟨Or.inr (Or.inl hjoins), ?_⟩
      rintro (hflag | hnot)
      · simp only [joiner, hflag]
      · exact absurd hjoins hnot
    | many target =>
      have hjoins : JoinsKey field := ⟨target, Or.inr hr⟩
      refine .ok ⟨Or.inr (Or.inl hjoins), ?_⟩
      rintro (hflag | hnot)
      · simp only [joiner, hflag]
      · exact absurd hjoins hnot
    | any targets => exact .ok ⟨Or.inr (Or.inr ⟨targets, Or.inl hr⟩), fun _ => rfl⟩
    | anyType targets => exact .ok ⟨Or.inr (Or.inr ⟨targets, Or.inr hr⟩), fun _ => rfl⟩
    | unknown kind => exact .error _

def fieldMember (options : Options) (field : Field) (type : Text) : Member :=
  ⟨field.name, if isOptional options field then orNull options field type else type,
    isOptional options field⟩

theorem resolve_eq_map {field : Field} (hp : field.isPresentational = false) (collection : Text) :
    resolve schema options collection field =
      (requiredType schema options collection field).map fun type =>
        some (fieldMember options field type) := by
  rw [resolve, hp, if_neg Bool.false_ne_true]
  cases requiredType schema options collection field <;> rfl

/-! ### Declarations side by side -/

/-- Two record types of one collection: their members are related field by field, and the computed
ones are the same. -/
def RecordsSideBySide (R : Field → Member → Member → Prop) (options : Options) (c : Collection)
    (d d' : Declaration) : Prop :=
  d.name = pascalCase c.name ∧ d'.name = pascalCase c.name ∧
    ∃ own own', Forall₃ R (storedFields c) own own' ∧
      d.members = own ++ (computedOf options c.name).map Member.ofComputed ∧
      d'.members = own' ++ (computedOf options c.name).map Member.ofComputed

/-- **The declarations of one schema under two sets of options.** -/
def SideBySide (R : Field → Member → Member → Prop) (schema : Schema) (options options' : Options)
    (ds ds' : List Declaration) : Prop :=
  ∃ records records', ds = records ++ [directory schema options] ∧
    ds' = records' ++ [directory schema options'] ∧
    Forall₃ (RecordsSideBySide R options) schema.collections records records'

/-- Members of fields are alike when the types that they are made of are. -/
theorem alike_fieldMembers {R : Field → Member → Member → Prop} {collection : Text}
    {fields : List Field}
    (h : ∀ field ∈ fields, Alike (fun type type' => R field (fieldMember options field type)
        (fieldMember options' field type'))
      (requiredType schema options collection field)
      (requiredType schema options' collection field)) :
    Alike (Forall₃ R (fields.filter fun field => !field.isPresentational))
      (fieldMembers schema options collection fields)
      (fieldMembers schema options' collection fields) := by
  induction fields with
  | nil => exact .ok .nil
  | cons field rest ih =>
    rw [List.forall_mem_cons] at h
    have hrest := ih h.2
    rw [fieldMembers, fieldMembers, List.filter_cons]
    -- what a field does not store is left out on both sides
    by_cases hp : field.isPresentational = true
    · rw [resolve_eq_ok_none_iff.2 hp, resolve_eq_ok_none_iff.2 hp, if_neg (by simp [hp])]
      exact hrest.bind fun more more' hmore => alike_pure hmore
    · have hp : field.isPresentational = false := by simpa using hp
      have hfound : Alike (fun found found' => ∃ member member', found = some member ∧
          found' = some member' ∧ R field member member')
          (resolve schema options collection field) (resolve schema options' collection field) := by
        rw [resolve_eq_map hp, resolve_eq_map hp]
        exact h.1.map fun type type' hmember => ⟨_, _, rfl, rfl, hmember⟩
      rw [if_pos (by simp [hp])]
      refine hfound.bind ?_
      rintro _ _ ⟨member, member', rfl, rfl, hmember⟩
      exact hrest.bind fun more more' hmore => alike_pure (.cons hmember hmore)

/-- **Declarations stand side by side** when the types of all fields do, and the computed fields are
the same. -/
theorem alike_declarations {R : Field → Member → Member → Prop}
    (hcomputed : options'.computedFields = options.computedFields)
    (h : ∀ collection field, Alike (fun type type' => R field (fieldMember options field type)
        (fieldMember options' field type'))
      (requiredType schema options collection field)
      (requiredType schema options' collection field)) :
    Alike (SideBySide R schema options options') (declarations schema options)
      (declarations schema options') := by
  have hrecord : ∀ c, Alike (RecordsSideBySide R options c) (recordType schema options c)
      (recordType schema options' c) := by
    intro c
    have hsame : computedOf options' c.name = computedOf options c.name := by
      rw [computedOf, computedOf, hcomputed]
    rw [recordType, recordType, recordMembers, recordMembers, hsame]
    -- the members of fields stand side by side, and the same computed ones follow
    have hown : Alike (Forall₃ R (storedFields c)) (fieldMembers schema options c.name c.fields)
        (fieldMembers schema options' c.name c.fields) :=
      alike_fieldMembers fun field _ => h c.name field
    have hmembers := hown.bind fun own own' hfields => alike_pure (R := fun members members' =>
      ∃ own own', Forall₃ R (storedFields c) own own' ∧
        members = own ++ (computedOf options c.name).map Member.ofComputed ∧
        members' = own' ++ (computedOf options c.name).map Member.ofComputed)
      ⟨own, own', hfields, rfl, rfl⟩
    exact hmembers.bind fun members members' hboth => alike_pure ⟨rfl, rfl, hboth⟩
  rw [declarations, declarations, hcomputed]
  refine Alike.bind_self fun _ _ => ?_
  refine (Alike.mapM fun c _ => hrecord c).bind fun records records' hrecords => ?_
  exact alike_pure ⟨records, records', rfl, rfl, hrecords⟩

theorem map_keys_eq {R : Field → Member → Member → Prop}
    (hR : ∀ field member member', R field member member' → member.name = member'.name)
    {c : Collection} {d d' : Declaration} (h : RecordsSideBySide R options c d d') :
    d.keys = d'.keys := by
  obtain ⟨-, -, own, own', hown, hd, hd'⟩ := h
  rw [Declaration.keys, Declaration.keys, hd, hd', List.map_append, List.map_append,
    hown.map_eq fun field member member' h => congrArg memberIdentifier (hR field member member' h)]

theorem SideBySide.names_and_keys {R : Field → Member → Member → Prop}
    (hR : ∀ field member member', R field member member' → member.name = member'.name)
    (hname : options'.directoryTypeName = options.directoryTypeName) {ds ds' : List Declaration}
    (h : SideBySide R schema options options' ds ds') :
    ds'.map (·.name) = ds.map (·.name) ∧
      ds'.map Declaration.keys = ds.map Declaration.keys := by
  obtain ⟨records, records', rfl, rfl, hrecords⟩ := h
  have hnames : records.map (·.name) = records'.map (·.name) :=
    hrecords.map_eq fun c d d' h => h.1.trans h.2.1.symm
  have hkeys : records.map Declaration.keys = records'.map Declaration.keys :=
    hrecords.map_eq fun c d d' h => map_keys_eq hR h
  have hdirectory : (directory schema options').keys = (directory schema options).keys := by
    simp only [Declaration.keys, directory, directoryMember, List.map_map, Function.comp_def]
  rw [List.map_append, List.map_append, List.map_append, List.map_append, hnames, hkeys,
    List.map_singleton, List.map_singleton, List.map_singleton, List.map_singleton, hdirectory]
  refine ⟨?_, rfl⟩
  show _ ++ [options'.directoryTypeName] = _ ++ [options.directoryTypeName]
  rw [hname]

theorem SideBySide.exists_records {ds ds' : List Declaration}
    (h : SideBySide (fun _ member member' => member = member') schema options options' ds ds') :
    ∃ records, ds = records ++ [directory schema options] ∧
      ds' = records ++ [directory schema options'] := by
  obtain ⟨records, records', rfl, rfl, hrecords⟩ := h
  have hsame : records.map id = records'.map id := by
    refine hrecords.map_eq fun c d d' h => ?_
    obtain ⟨hname, hname', own, own', hown, hd, hd'⟩ := h
    have hmembers : own.map id = own'.map id := hown.map_eq fun _ _ _ h => h
    rw [List.map_id, List.map_id] at hmembers
    obtain ⟨name, members⟩ := d
    obtain ⟨name', members'⟩ := d'
    simp_all
  rw [List.map_id, List.map_id] at hsame
  exact ⟨records, rfl, by rw [hsame]⟩

/-! ### Switches -/

theorem alike_names_and_keys (hname : options'.directoryTypeName = options.directoryTypeName)
    (hcomputed : options'.computedFields = options.computedFields) :
    Alike (fun ds ds' => ds'.map (·.name) = ds.map (·.name) ∧
        ds'.map Declaration.keys = ds.map Declaration.keys)
      (declarations schema options) (declarations schema options') := by
  have h : Alike (SideBySide (fun _ member member' => member.name = member'.name) schema options
      options') (declarations schema options) (declarations schema options') := by
    refine alike_declarations hcomputed fun collection field => ?_
    exact (alike_requiredType collection field).imp fun type type' _ => rfl
  exact h.imp fun ds ds' h => h.names_and_keys (fun _ _ _ h => h) hname

/-- The singular mode is looked at in the directory only. -/
theorem alike_singular (singular : Bool) :
    Alike (fun ds ds' => ∃ records, ds = records ++ [directory schema options] ∧
        ds' = records ++ [directory schema { options with legacySingularMode := singular }])
      (declarations schema options)
      (declarations schema { options with legacySingularMode := singular }) := by
  have h : Alike (SideBySide (fun _ member member' => member = member') schema options
      { options with legacySingularMode := singular }) (declarations schema options)
      (declarations schema { options with legacySingularMode := singular }) := by
    refine alike_declarations rfl fun collection field => ?_
    refine (alike_requiredType collection field).imp ?_
    rintro type type' ⟨-, hsame⟩
    obtain rfl := hsame (Or.inl rfl)
    rfl
  exact h.imp fun ds ds' h => h.exists_records

/-- Intersection types are looked at where a key is joined, and where null is added to the type of a
relation. -/
theorem alike_joined (joined : Bool) :
    Alike (SideBySide (fun field member member' => member = member' ∨ JoinsKey field ∨
          (RelatesToSeveral field ∧ member.optional = true))
        schema options { options with useIntersectionTypes := joined })
      (declarations schema options)
      (declarations schema { options with useIntersectionTypes := joined }) := by
  refine alike_declarations rfl fun collection field => ?_
  refine (alike_requiredType collection field).imp ?_
  rintro type type' ⟨hkind, hsame⟩
  by_cases hjoins : JoinsKey field
  · exact Or.inr (Or.inl hjoins)
  obtain rfl := hsame (Or.inr hjoins)
  -- what is left is the null, which may stand behind parentheses when there is a relation
  by_cases hoptional : isOptional options field = true
  · rcases hkind with hnone | hjoins' | hseveral
    · left
      simp only [fieldMember, isOptional, orNull, hnone, Option.isSome_none, Bool.false_and]
    · exact absurd hjoins' hjoins
    · exact Or.inr (Or.inr ⟨hseveral, hoptional⟩)
  · left
    have hoptional' : ¬ isOptional { options with useIntersectionTypes := joined } field = true :=
      hoptional
    rw [fieldMember, fieldMember, if_neg hoptional, if_neg hoptional']
    rfl

/-- **A member that may be absent, and the same one when it has to be there**: it loses the mark and
the null, with the parentheses that null was added to. -/
def LosesNull (options : Options) (field : Field) (member member' : Member) : Prop :=
  ∃ type, member' = ⟨field.name, type, false⟩ ∧
    member = ⟨field.name,
      if field.relation.isSome && options.useIntersectionTypes then "(" ++ type ++ ") | null"
      else type ++ " | null", true⟩

/-- That required fields are not null is looked at for those that are nullable otherwise. -/
theorem alike_strict :
    Alike (SideBySide (fun field member member' =>
          if field.nullable && field.required then LosesNull options field member member'
          else member = member')
        schema { options with treatRequiredAsNonNull := false }
        { options with treatRequiredAsNonNull := true })
      (declarations schema { options with treatRequiredAsNonNull := false })
      (declarations schema { options with treatRequiredAsNonNull := true }) := by
  refine alike_declarations rfl fun collection field => ?_
  refine (alike_requiredType collection field).imp ?_
  rintro type type' ⟨-, hsame⟩
  obtain rfl := hsame (Or.inl rfl)
  cases hnullable : field.nullable <;> cases hrequired : field.required
  · simp [fieldMember, isOptional, hnullable]
  · simp [fieldMember, isOptional, hnullable]
  · simp [fieldMember, isOptional, orNull, hnullable, hrequired]
  · exact ⟨type', by simp [fieldMember, isOptional, hnullable, hrequired],
      by simp [fieldMember, isOptional, orNull, hnullable, hrequired]⟩

/-- A member whose type is a list of the type that it was. -/
def Member.listed (member : Member) : Member := { member with type := member.type ++ "[]" }

theorem directoryMember_false (options : Options) (c : Collection) :
    directoryMember { options with legacySingularMode := false } c =
      if c.singleton then directoryMember { options with legacySingularMode := true } c
      else (directoryMember { options with legacySingularMode := true } c).listed := by
  cases hc : c.singleton <;> simp [directoryMember, Member.listed, hc]

/-- **Each switch touches its own part only.**  Under any switches generation fails with the same
fault, or it declares the same names with the same keys.  The singular mode leaves the record types
as they are and takes the brackets from the entries of the directory.  Intersection types change
members whose relation joins a key, and members of several collections that may be absent.  When
required fields are not null, those that were nullable lose the mark and the null, and nothing else
changes. -/
theorem flags_touch_their_own_part (schema : Schema) (options : Options) :
    (∀ options, generate schema options = (declarations schema options).map documentText) ∧
    (∀ joined singular strict,
      Alike (fun ds ds' => ds'.map (·.name) = ds.map (·.name) ∧
          ds'.map Declaration.keys = ds.map Declaration.keys)
        (declarations schema options)
        (declarations schema { options with
          useIntersectionTypes := joined
          legacySingularMode := singular
          treatRequiredAsNonNull := strict })) ∧
    ((∀ singular,
      Alike (fun ds ds' => ∃ records, ds = records ++ [directory schema options] ∧
          ds' = records ++ [directory schema { options with legacySingularMode := singular }])
        (declarations schema options)
        (declarations schema { options with legacySingularMode := singular })) ∧
      ∀ c, directoryMember { options with legacySingularMode := false } c =
        if c.singleton then directoryMember { options with legacySingularMode := true } c
        else (directoryMember { options with legacySingularMode := true } c).listed) ∧
    (∀ joined,
      directory schema { options with useIntersectionTypes := joined } = directory schema options ∧
      Alike (SideBySide (fun field member member' => member = member' ∨ JoinsKey field ∨
            (RelatesToSeveral field ∧ member.optional = true))
          schema options { options with useIntersectionTypes := joined })
        (declarations schema options)
        (declarations schema { options with useIntersectionTypes := joined })) ∧
    (directory schema { options with treatRequiredAsNonNull := true } =
        directory schema { options with treatRequiredAsNonNull := false } ∧
      Alike (SideBySide (fun field member member' =>
            if field.nullable && field.required then LosesNull options field member member'
            else member = member')
          schema { options with treatRequiredAsNonNull := false }
          { options with treatRequiredAsNonNull := true })
        (declarations schema { options with treatRequiredAsNonNull := false })
        (declarations schema { options with treatRequiredAsNonNull := true })) := by
  refine ⟨generate_eq_map schema, fun joined singular strict => ?_, ⟨alike_singular, ?_⟩, ?_, rfl,
    alike_strict⟩
  · exact alike_names_and_keys rfl rfl
  · exact directoryMember_false options
  · exact fun joined => ⟨rfl, alike_joined joined⟩

end SchemaScribe.Typing
