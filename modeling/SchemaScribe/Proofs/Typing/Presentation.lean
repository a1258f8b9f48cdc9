import SchemaScribe.Proofs.Alike
import SchemaScribe.Proofs.Typing.Failure
import SchemaScribe.Proofs.Typing.Lookup

/-!
# Fields that only arrange a form

A field that stores nothing leaves no trace in the type definitions: neither as a field of a
collection nor as a sub-field of a list at any depth, and whatever its relation points to.  Only the
field that the records of a collection are told apart by is looked at even if it stores nothing.
`presentation_is_invisible` says so of schemas from which such fields are left out (`TrimmedTo`).
-/

namespace SchemaScribe

/-! ### Leaving fields out -/

/-- **A list from which items were left out.**  Only items that may go are, and each of the others
is replaced by one that is related to it. -/
inductive Thinned {α : Type} (MayGo : α → Prop) (R : α → α → Prop) : List α → List α → Prop
  | nil : Thinned MayGo R [] []
  | keep {a b : α} {as bs : List α} (h : R a b) (hrest : Thinned MayGo R as bs) :
    Thinned MayGo R (a :: as) (b :: bs)
  | drop {a : α} {as bs : List α} (h : MayGo a) (hrest : Thinned MayGo R as bs) :
    Thinned MayGo R (a :: as) bs

/-- **A field from which sub-fields that store nothing were left out**, at any depth. -/
inductive Field.TrimmedTo : Field → Field → Prop
  | intro {field : Field} {subFields : List Field}
    (h : Thinned (fun sub => sub.isPresentational = true) TrimmedTo field.subFields subFields) :
    TrimmedTo field { field with subFields := subFields }

/-- **A collection from which fields that store nothing were left out**, except the one that its
records are told apart by. -/
structure Collection.TrimmedTo (c d : Collection) : Prop where
  name : c.name = d.name
  singleton : c.singleton = d.singleton
  fields : Thinned (fun field => field.isPresentational = true ∧ c.primaryKeyField? ≠ some field)
    Field.TrimmedTo c.fields d.fields

/-- **A schema from which fields and sub-fields that store nothing were left out.** -/
def Schema.TrimmedTo (schema schema' : Schema) : Prop :=
  List.Forall₂ Collection.TrimmedTo schema.collections schema'.collections

variable {schema schema' : Schema}

/-! ### Keys -/

/-- The first item of a kind stays the first one, if it may not go. -/
theorem Thinned.find? {α : Type} {MayGo : α → Prop} {R : α → α → Prop} {p : α → Bool}
    {as bs : List α} (h : Thinned MayGo R as bs) (hp : ∀ a b, R a b → p a = p b)
    (hstay : ∀ a, as.find? p = some a → ¬ MayGo a) :
    Option.Rel R (as.find? p) (bs.find? p) := by
  induction h with
  | nil => exact .none
  | @keep a b as bs hab hrest ih =>
    rw [List.find?_cons, List.find?_cons, ← hp a b hab]
    cases ha : p a with
    | true => exact .some hab
    | false =>
      apply ih
      intro a' ha'
      exact hstay a' (by rwa [List.find?_cons_of_neg (by simp [ha])])
  | @drop a as bs hgo hrest ih =>
    -- what may go is not the first item of the kind
    have ha : p a = false := by
      rw [Bool.eq_false_iff]
      intro ha
      exact hstay a (List.find?_cons_of_pos ha) hgo
    rw [List.find?_cons_of_neg (by simp [ha])] at hstay ⊢
    exact ih hstay

theorem Collection.TrimmedTo.primaryKeyField? {c d : Collection} (h : c.TrimmedTo d) :
    Option.Rel Field.TrimmedTo c.primaryKeyField? d.primaryKeyField? := by
  have hflag : ∀ a b : Field, a.TrimmedTo b → a.primaryKey = b.primaryKey := by
    rintro a b ⟨-⟩
    rfl
  have hname : ∀ a b : Field, a.TrimmedTo b → (a.name == "id") = (b.name == "id") := by
    rintro a b ⟨-⟩
    rfl
  have hflagged : Option.Rel Field.TrimmedTo (c.fields.find? (·.primaryKey))
      (d.fields.find? (·.primaryKey)) := by
    apply h.fields.find? hflag
    intro field hfield hgo
    apply hgo.2
    rw [Collection.primaryKeyField?, hfield, Option.some_or]
  rw [Collection.primaryKeyField?, Collection.primaryKeyField?]
  generalize hd : d.fields.find? (·.primaryKey) = flagged' at hflagged ⊢
  cases hc : c.fields.find? (·.primaryKey) with
  | some key =>
    rw [hc] at hflagged
    cases hflagged with
    | some hkey => exact .some hkey
  | none =>
    -- the name counts where no field is flagged, before and after
    rw [hc] at hflagged
    cases hflagged with
    | none =>
      rw [Option.none_or, Option.none_or]
      apply h.fields.find? hname
      intro field hfield hgo
      apply hgo.2
      rw [Collection.primaryKeyField?, hc, Option.none_or, hfield]

theorem Schema.TrimmedTo.names_eq (h : schema.TrimmedTo schema') : schema.names = schema'.names :=
  Schema.names_eq_of_forall₂ (fun _ _ hcd => hcd.name) h

theorem Schema.TrimmedTo.rel_keyOf (h : schema.TrimmedTo schema') (name : Text) :
    Option.Rel Field.TrimmedTo (schema.keyOf name) (schema'.keyOf name) :=
  Schema.rel_keyOf (fun _ _ hcd => hcd.name) (fun _ _ hcd => hcd.primaryKeyField?) h name

namespace Typing

variable {options : Options}

/-! ### Stored values -/

mutual

/-- **The type of a stored value does not show what was left out.** -/
theorem primitiveType_of_trimmedTo :
    ∀ (field field' : Field) (depth : Int), field.TrimmedTo field' →
      primitiveType field depth = primitiveType field' depth
  | ⟨_, _, _, _, _, _, _, _, subFields, _⟩, _, depth, .intro h => by
    rw [primitiveType, primitiveType, itemMembers_of_thinned subFields _ (depth + 1) h]

theorem itemMembers_of_thinned :
    ∀ (fields fields' : List Field) (depth : Int),
      Thinned (fun sub => sub.isPresentational = true) Field.TrimmedTo fields fields' →
      itemMembers fields depth = itemMembers fields' depth
  | [], _, _, .nil => rfl
  | field :: rest, _, depth, .keep h hrest => by
    have htype := primitiveType_of_trimmedTo field _ depth h
    rw [itemMembers, itemMembers, itemMembers_of_thinned rest _ depth hrest, htype]
    cases h
    rfl
  | field :: rest, _, depth, .drop h hrest => by
    rw [itemMembers, if_pos h, itemMembers_of_thinned rest _ depth hrest]

end

/-! ### Fields -/

theorem alike_baseType (h : schema.TrimmedTo schema') (collection : Text) {field field' : Field}
    (hfield : field.TrimmedTo field') :
    Alike Eq (baseType schema collection field) (baseType schema' collection field') := by
  have htype : primitiveType field 0 = primitiveType field' 0 :=
    primitiveType_of_trimmedTo field field' 0 hfield
  have hsame : field.name = field'.name ∧ field'.relation = field.relation := by
    obtain ⟨-⟩ := hfield
    exact ⟨rfl, rfl⟩
  have hnames : ∀ name, name ∈ schema.names ↔ name ∈ schema'.names := by simp [h.names_eq]
  rw [baseType, baseType, hsame.2]
  cases field.relation with
  | none => exact .ok htype
  | some relation =>
    cases relation with
    | one target =>
      dsimp only
      rw [requireCollection_congr (hnames target) hsame.1]
      exact Alike.bind_self fun _ _ => .ok htype
    | many target =>
      -- both keys are found or neither is, and they differ in what is presentational alone
      have hkey := alike_findKey (hnames target) (h.rel_keyOf target) hsame.1 collection
      refine hkey.bind fun key key' hkey => ?_
      rw [primitiveType_of_trimmedTo key key' 0 hkey.2.2]
      exact .ok rfl
    | any targets => exact .ok rfl
    | anyType targets => exact .ok rfl
    | unknown kind => exact .error _

/-- A field becomes the same member, or fails alike, without what was left out. -/
theorem resolve_of_trimmedTo (h : schema.TrimmedTo schema') (collection : Text)
    {field field' : Field} (hfield : field.TrimmedTo field') :
    resolve schema options collection field = resolve schema' options collection field' := by
  have hbase := (alike_baseType h collection hfield).eq
  obtain ⟨-⟩ := hfield
  rw [resolve, resolve, requiredType, requiredType, hbase]
  rfl

theorem fieldMembers_of_thinned (h : schema.TrimmedTo schema') (collection : Text)
    {MayGo : Field → Prop} (hgo : ∀ field, MayGo field → field.isPresentational = true)
    {fields fields' : List Field} (hfields : Thinned MayGo Field.TrimmedTo fields fields') :
    fieldMembers schema options collection fields =
      fieldMembers schema' options collection fields' := by
  induction hfields with
  | nil => rfl
  | keep hfield _ ih =>
    rw [fieldMembers, fieldMembers, resolve_of_trimmedTo h collection hfield, ih]
  | @drop field rest _ hmay _ ih =>
    rw [fieldMembers, resolve_eq_ok_none_iff.2 (hgo field hmay), ← ih]
    show (fieldMembers schema options collection rest >>= fun more => pure ([] ++ more)) = _
    cases fieldMembers schema options collection rest <;> rfl

/-! ### Documents -/

theorem recordType_of_trimmedTo (h : schema.TrimmedTo schema') {c d : Collection}
    (hcd : c.TrimmedTo d) : recordType schema options c = recordType schema' options d := by
  have hmembers : fieldMembers schema options c.name c.fields =
      fieldMembers schema' options c.name d.fields :=
    fieldMembers_of_thinned h c.name (fun _ hgo => hgo.1) hcd.fields
  rw [recordType, recordType, recordMembers, recordMembers, hmembers, hcd.name]

theorem declarations_of_trimmedTo (h : schema.TrimmedTo schema') (options : Options) :
    declarations schema options = declarations schema' options := by
  have hnames : ∀ name, name ∈ schema.names ↔ name ∈ schema'.names := by
    intro name
    rw [h.names_eq]
  have hrecords : schema.collections.mapM (recordType schema options) =
      schema'.collections.mapM (recordType schema' options) :=
    mapM_congr_of_forall₂ (fun _ _ hcd => recordType_of_trimmedTo h hcd) h
  have hdirectory : directory schema options = directory schema' options :=
    directory_congr (fun _ _ hcd => ⟨hcd.name, hcd.singleton⟩) h options
  rw [declarations, declarations, checkComputed_congr hnames, hrecords, hdirectory]

theorem generate_of_trimmedTo (h : schema.TrimmedTo schema') (options : Options) :
    generate schema options = generate schema' options := by
  rw [generate_eq_map, generate_eq_map, declarations_of_trimmedTo h]

/-! ### Faults -/

/-- Where generation fails, it fails at an entry of the computed fields that belongs to no
collection or at a field that stores a value. -/
theorem stored_of_generate_eq_error (hs : Snapshot.IsSound schema) {fault : Fault}
    (h : generate schema options = .error fault) :
    (∃ key ∈ Association.keys options.computedFields, key ∉ schema.names ∧
        ∃ name, fault = .inconsistent key name .computedTarget) ∨
      ∃ c ∈ schema.collections, ∃ field ∈ storedFields c, ∃ cause,
        fault = .inconsistent c.name field.name cause := by
  -- the fault is the first of the problems, and each of these has its place
  have hfirst := (failsFirst_generate hs options fault).1 h
  obtain ⟨problem, hproblem, rfl⟩ := List.mem_map.1 (List.mem_of_head? hfirst)
  rw [problems, List.mem_append, List.mem_filterMap, List.mem_flatMap] at hproblem
  rcases hproblem with ⟨entry, hentry, hp⟩ | ⟨c, hc, hp⟩
  · left
    rw [computedProblem?] at hp
    split at hp
    · cases hp
    · next hmissing =>
      obtain rfl := Option.some.inj hp
      exact ⟨entry.1, List.mem_map_of_mem hentry, hmissing, _, rfl⟩
  · right
    obtain ⟨field, hfield, hp⟩ := List.mem_filterMap.1 hp
    rw [fieldProblem?] at hp
    split at hp
    · cases hp
    · next hstored =>
      obtain ⟨cause, -, rfl⟩ := Option.map_eq_some_iff.1 hp
      exact ⟨c, hc, field, List.mem_filter.2 ⟨hfield, by simpa using hstored⟩, cause, rfl⟩

/-! ### Invisibility -/

/-- **Fields that store nothing are invisible.**  A schema has the same type definitions, or fails
with the same fault, without any of them: fields of collections, except the one that records are
told apart by, and sub-fields at any depth.  And generation from a loaded schema never fails at
one of them, whatever its relation points to. -/
theorem presentation_is_invisible (options : Options) :
    (∀ schema schema' : Schema, schema.TrimmedTo schema' →
      generate schema options = generate schema' options) ∧
    ∀ (text : Text) (schema : Schema), Snapshot.load text = .ok schema → ∀ fault,
      generate schema options = .error fault →
      (∃ key ∈ Association.keys options.computedFields, key ∉ schema.names ∧
          ∃ name, fault = .inconsistent key name .computedTarget) ∨
        ∃ c ∈ schema.collections, ∃ field ∈ storedFields c, ∃ cause,
          fault = .inconsistent c.name field.name cause := by
  constructor
  · exact fun schema schema' h => generate_of_trimmedTo h options
  · exact fun text schema hload fault h => stored_of_generate_eq_error
      (Snapshot.isSound_of_load hload) h

/-- Albums have a key that stores nothing, a line that relates to a collection that is nowhere, and
photos with places. -/
def albums : Schema :=
  ⟨[⟨"albums", false, [
    { name := "id", type := "integer", primaryKey := true,
      interface := some "presentation-notice" },
    { name := "line", type := "alias", interface := some "group-raw",
      relation := some (.many "lost") },
    { name := "photos", type := "json", interface := some "list", subFields := [
      { name := "place", type := "json", interface := some "list", subFields := [
        { name := "hint", type := "alias", interface := some "presentation-divider" },
        { name := "latitude", type := "float", required := true }] },
      { name := "group", type := "alias", interface := some "group-detail" }] },
    { name := "related", type := "alias", relation := some (.many "albums") }]⟩]⟩

/-- The albums without their line, the group of the photos and the hint of the places. -/
def plainAlbums : Schema :=
  ⟨[⟨"albums", false, [
    { name := "id", type := "integer", primaryKey := true,
      interface := some "presentation-notice" },
    { name := "photos", type := "json", interface := some "list", subFields := [
      { name := "place", type := "json", interface := some "list", subFields := [
        { name := "latitude", type := "float", required := true }] }] },
    { name := "related", type := "alias", relation := some (.many "albums") }]⟩]⟩

/-- Albums have the same definitions with and without the fields that store nothing; and of two
lists of records without keys, only the one that stores a value is told. -/
theorem presentation_is_invisible_albums :
    albums.TrimmedTo plainAlbums ∧ generate albums {} = generate plainAlbums {} ∧
      generate keyless {} = .error (.inconsistent "a" "y" (.missingKey "a")) ∧
      ∃ c ∈ keyless.collections, ∃ field ∈ storedFields c, c.name = "a" ∧ field.name = "y" := by
  obtain ⟨htrimmed, hfault⟩ := presentation_is_invisible {}
  have htrim : albums.TrimmedTo plainAlbums := by
    refine .cons ⟨rfl, rfl, ?_⟩ .nil
    refine .keep ⟨.nil⟩ (.drop ⟨by decide, ?_⟩ (.keep ⟨?_⟩ (.keep ⟨.nil⟩ .nil)))
    · intro h
      have hname : some ("id" : Text) = some ("line" : Text) := congrArg (Option.map Field.name) h
      exact absurd hname (by decide)
    · refine .keep ⟨.drop (by decide) (.keep ⟨.nil⟩ .nil)⟩ (.drop (by decide) .nil)
  have hfails : generate keyless {} = .error (.inconsistent "a" "y" (.missingKey "a")) := rfl
  refine ⟨htrim, htrimmed _ _ htrim, hfails, ?_⟩
  rcases hfault _ _ load_keylessText _ hfails with ⟨_, h, -⟩ | ⟨c, hc, field, hfield, _, h⟩
  · cases h
  · obtain ⟨hcollection, hname, -⟩ := Fault.inconsistent.inj h
    exact ⟨c, hc, field, hfield, hcollection.symm, hname.symm⟩

end Typing

end SchemaScribe
