import Mathlib.Data.List.Forall2
import SchemaScribe.Proofs.Outcome
import SchemaScribe.Typing.Declaration

/-!
# The members of the type definitions

What type definitions that could be given consist of: a member for each field that stores a value
(`fieldMembers_eq_ok_iff`), a record type of these members for each collection, and the directory
(`generate_eq_ok_iff`).
-/

namespace SchemaScribe.Typing

/-! ### Fields -/

/-- The fields of a collection that store a value. -/
def storedFields (collection : Collection) : List Field :=
  collection.fields.filter fun field => !field.isPresentational

/-- A field that stores a value becomes a member under its own name, whose type is that of its
values, with null where the member is optional. -/
theorem resolve_eq_ok_some_iff {schema : Schema} {options : Options} {collection : Text}
    {field : Field} {member : Member} :
    resolve schema options collection field = .ok (some member) ↔
      field.isPresentational = false ∧ ∃ type,
        requiredType schema options collection field = .ok type ∧
          member = ⟨field.name,
            if isOptional options field then orNull options field type else type,
            isOptional options field⟩ := by
  rw [resolve]
  cases field.isPresentational with
  | true => simp
  | false =>
    rw [if_neg Bool.false_ne_true, bind_eq_ok_iff]
    simp only [pure_eq_ok_iff, Option.some.injEq, true_and]
    exact exists_congr fun type => and_congr_right fun _ => eq_comm

/-- A field that stores nothing becomes no member. -/
theorem resolve_eq_ok_none_iff {schema : Schema} {options : Options} {collection : Text}
    {field : Field} :
    resolve schema options collection field = .ok none ↔ field.isPresentational = true := by
  rw [resolve]
  cases field.isPresentational with
  | true => simp
  | false =>
    rw [if_neg Bool.false_ne_true, bind_eq_ok_iff]
    simp [pure_eq_ok_iff]

/-- **The members of fields**: one for each field that stores a value, in order. -/
theorem fieldMembers_eq_ok_iff {schema : Schema} {options : Options} {collection : Text}
    {fields : List Field} {members : List Member} :
    fieldMembers schema options collection fields = .ok members ↔
      List.Forall₂ (fun field member => resolve schema options collection field = .ok (some member))
        (fields.filter fun field => !field.isPresentational) members := by
  induction fields generalizing members with
  | nil => simp [fieldMembers, eq_comm]
  | cons field rest ih =>
    rw [fieldMembers, List.filter_cons]
    -- a field that stores nothing is resolved to no member, and is left out of the related fields
    by_cases hp : field.isPresentational = true
    · have hnone : resolve schema options collection field = .ok none :=
        resolve_eq_ok_none_iff.2 hp
      rw [hnone, if_neg (by simp [hp]), ← ih]
      show (fieldMembers schema options collection rest >>= fun more => pure ([] ++ more)) = _ ↔ _
      simp
    · rw [if_pos (by simp [hp]), bind_eq_ok_iff, List.forall₂_cons_left_iff]
      constructor
      · rintro ⟨found, hfound, h⟩
        obtain ⟨more, hmore, h⟩ := bind_eq_ok_iff.1 h
        obtain rfl := pure_eq_ok_iff.1 h
        cases found with
        | none => exact absurd (resolve_eq_ok_none_iff.1 hfound) hp
        | some member => exact ⟨member, more, hfound, ih.1 hmore, rfl⟩
      · rintro ⟨member, more, hmember, hmore, rfl⟩
        exact ⟨some member, hmember, bind_eq_ok_iff.2 ⟨more, ih.2 hmore, rfl⟩⟩

/-! ### Collections -/

/-- **The members of a record type**: those of its fields, and then the computed ones. -/
theorem recordMembers_eq_ok_append_iff {schema : Schema} {options : Options}
    {collection : Collection} {members : List Member} :
    recordMembers schema options collection = .ok members ↔
      ∃ own, List.Forall₂
          (fun field member => resolve schema options collection.name field = .ok (some member))
          (storedFields collection) own ∧
        members = own ++ (computedOf options collection.name).map Member.ofComputed := by
  rw [recordMembers, bind_eq_ok_iff]
  exact exists_congr fun own => and_congr fieldMembers_eq_ok_iff (pure_eq_ok_iff.trans eq_comm)

/-- Without computed fields, the members of a record type are those of its fields. -/
theorem recordMembers_eq_ok_iff {schema : Schema} {options : Options}
    (hc : options.computedFields = []) {collection : Collection} {members : List Member} :
    recordMembers schema options collection = .ok members ↔
      List.Forall₂
        (fun field member => resolve schema options collection.name field = .ok (some member))
        (storedFields collection) members := by
  have hnone : computedOf options collection.name = [] := by rw [computedOf, hc]; rfl
  rw [recordMembers_eq_ok_append_iff, hnone]
  simp

/-- The declaration of a record type with the given members. -/
def recordText (collection : Collection) (members : List Member) : Text :=
  declaration (pascalCase collection.name) (members.map Member.text)

theorem recordDeclarations_eq_ok_iff {schema : Schema} {options : Options}
    {collections : List Collection} {records : List Text} :
    recordDeclarations schema options collections = .ok records ↔
      ∃ members, List.Forall₂ (fun c m => recordMembers schema options c = .ok m)
          collections members ∧
        records = List.zipWith recordText collections members := by
  induction collections generalizing records with
  | nil => simp [recordDeclarations, eq_comm]
  | cons c rest ih =>
    rw [recordDeclarations, bind_eq_ok_iff]
    constructor
    · rintro ⟨record, hrecord, h⟩
      obtain ⟨m, hm, hr⟩ := bind_eq_ok_iff.1 hrecord
      obtain ⟨more, hmore, h⟩ := bind_eq_ok_iff.1 h
      obtain ⟨members, hmembers, rfl⟩ := ih.1 hmore
      obtain rfl := pure_eq_ok_iff.1 hr
      obtain rfl := pure_eq_ok_iff.1 h
      exact ⟨m :: members, List.Forall₂.cons hm hmembers, rfl⟩
    · rintro ⟨members, hmembers, rfl⟩
      obtain ⟨m, more, hm, hmore, rfl⟩ := List.forall₂_cons_left_iff.1 hmembers
      refine ⟨recordText c m, bind_eq_ok_iff.2 ⟨m, hm, rfl⟩, bind_eq_ok_iff.2 ?_⟩
      exact ⟨_, ih.2 ⟨more, hmore, rfl⟩, rfl⟩

/-- **What type definitions consist of**: the record types of the collections in order, and the
directory. -/
theorem generate_eq_ok_iff {schema : Schema} {options : Options} {definitions : Text} :
    generate schema options = .ok definitions ↔
      checkComputed schema options.computedFields = .ok () ∧
        ∃ members, List.Forall₂ (fun c m => recordMembers schema options c = .ok m)
            schema.collections members ∧
          definitions = Text.intercalate "\n"
            (List.zipWith recordText schema.collections members ++
              [directoryDeclaration schema options]) := by
  rw [generate, bind_eq_ok_iff]
  constructor
  · rintro ⟨⟨⟩, hcheck, h⟩
    obtain ⟨records, hrecords, h⟩ := bind_eq_ok_iff.1 h
    obtain ⟨members, hmembers, rfl⟩ := recordDeclarations_eq_ok_iff.1 hrecords
    exact ⟨hcheck, members, hmembers, (pure_eq_ok_iff.1 h).symm⟩
  · rintro ⟨hcheck, members, hmembers, rfl⟩
    refine ⟨(), hcheck, bind_eq_ok_iff.2 ?_⟩
    exact ⟨_, recordDeclarations_eq_ok_iff.2 ⟨members, hmembers, rfl⟩, rfl⟩

end SchemaScribe.Typing
