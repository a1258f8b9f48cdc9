import Mathlib.Tactic.Choose
import SchemaScribe.Proofs.Alike
import SchemaScribe.Proofs.Snapshot.Loaded
import SchemaScribe.Proofs.Typing.Document

/-!
# What a record type depends on

The type of a field looks into the schema for the collection that its relation points to: whether it
is there, and for a list of records which field its records are told apart by.  Nothing else of the
other collections shows in a record type, so two schemas that answer this alike (`SameLookups`) give
it the same members or the same fault.  `record_depends_on_lookups` draws from it that collections
may be reordered, added, and edited besides their keys.
-/

namespace SchemaScribe

/-! ### Keys -/

/-- A field that may be the one that records are told apart by. -/
def Field.mayBeKey (field : Field) : Bool := field.primaryKey || field.name == "id"

/-- Only fields that may be keys are looked at for the key of a collection. -/
theorem Collection.primaryKeyField?_congr {c d : Collection}
    (h : c.fields.filter Field.mayBeKey = d.fields.filter Field.mayBeKey) :
    c.primaryKeyField? = d.primaryKeyField? := by
  -- both searches look only at fields that may be keys
  have hfind : ∀ p : Field → Bool, (∀ field, p field = true → field.mayBeKey = true) →
      c.fields.find? p = d.fields.find? p := by
    intro p hp
    have hfilter : ∀ fields : List Field,
        fields.find? p = (fields.filter Field.mayBeKey).find? p := by
      intro fields
      rw [List.find?_filter]
      congr 1
      funext field
      have hfield := hp field
      cases hpf : p field <;> simp_all
    rw [hfilter, h, ← hfilter]
  rw [primaryKeyField?, primaryKeyField?, hfind, hfind]
  · intro field hnamed
    simp only [Field.mayBeKey, hnamed, Bool.or_true]
  · intro field hflagged
    simp only [Field.mayBeKey, hflagged, Bool.true_or]

/-- **A collection and another one of the same name and key**, whatever else was edited. -/
def Collection.SameKey (c d : Collection) : Prop :=
  c.name = d.name ∧ c.primaryKeyField? = d.primaryKeyField?

/-! ### Lookup in two schemas -/

namespace Schema

variable {schema schema' : Schema} {name : Text}

/-- The field that the records of the collection of a given name are told apart by. -/
def keyOf (schema : Schema) (name : Text) : Option Field :=
  (schema.find? name).bind (·.primaryKeyField?)

/-- A collection is found under a name in two schemas alike when they have the same collections of
that name. -/
theorem find?_eq_find? (hd : schema.names.Nodup)
    (h : ∀ c ∈ schema.collections, c.name = name → c ∈ schema'.collections)
    (h' : ∀ c ∈ schema'.collections, c.name = name → c ∈ schema.collections) :
    schema.find? name = schema'.find? name := by
  cases hfound : schema'.find? name with
  | some c =>
    have hname : c.name = name := by simpa using List.find?_some hfound
    have hc : c ∈ schema.collections := h' c (List.mem_of_find?_eq_some hfound) hname
    rw [← hname]
    exact find?_name_of_mem hd hc
  | none =>
    rw [find?, List.find?_eq_none] at hfound ⊢
    intro c hc hname
    exact hfound c (h c hc (by simpa using hname)) hname

theorem find?_eq_of_perm (hd : schema.names.Nodup)
    (h : schema.collections.Perm schema'.collections) (name : Text) :
    schema.find? name = schema'.find? name :=
  find?_eq_find? hd (fun _ hc _ => h.subset hc) fun _ hc _ => h.symm.subset hc

theorem exists_find?_of_mem (h : name ∈ schema.names) : ∃ c, schema.find? name = some c := by
  rw [← Option.isSome_iff_exists, find?_isSome, has_iff]
  exact h

theorem mem_names_iff_of_find?_eq (h : schema.find? name = schema'.find? name) :
    name ∈ schema.names ↔ name ∈ schema'.names := by
  rw [← has_iff, ← has_iff, ← find?_isSome, ← find?_isSome, h]

theorem names_eq_of_forall₂ {R : Collection → Collection → Prop}
    (hname : ∀ c d, R c d → c.name = d.name)
    (h : List.Forall₂ R schema.collections schema'.collections) : schema.names = schema'.names := by
  rw [names, names, ← List.forall₂_eq_eq_eq, List.forall₂_map_left_iff, List.forall₂_map_right_iff]
  exact h.imp hname

/-- Where collections correspond to each other in order and by their names, so do those found under
a name. -/
theorem rel_find? {R : Collection → Collection → Prop} (hname : ∀ c d, R c d → c.name = d.name)
    (h : List.Forall₂ R schema.collections schema'.collections) (name : Text) :
    Option.Rel R (schema.find? name) (schema'.find? name) := by
  exact forall₂_find? h fun c d hcd => by rw [hname c d hcd]

/-- The keys found under a name correspond to each other where those of the collections do. -/
theorem rel_keyOf {R : Collection → Collection → Prop} {S : Field → Field → Prop}
    (hname : ∀ c d, R c d → c.name = d.name)
    (hkey : ∀ c d, R c d → Option.Rel S c.primaryKeyField? d.primaryKeyField?)
    (h : List.Forall₂ R schema.collections schema'.collections) (name : Text) :
    Option.Rel S (schema.keyOf name) (schema'.keyOf name) := by
  have hfound := rel_find? hname h name
  rw [keyOf, keyOf]
  generalize schema.find? name = found at hfound ⊢
  generalize schema'.find? name = found' at hfound ⊢
  cases hfound with
  | none => exact .none
  | some hsame => exact hkey _ _ hsame

theorem keyOf_of_edits
    (h : List.Forall₂ Collection.SameKey schema.collections schema'.collections)
    (name : Text) : schema.keyOf name = schema'.keyOf name := by
  have hfound := rel_find? (fun _ _ hsame => hsame.1) h name
  rw [keyOf, keyOf]
  generalize schema.find? name = found at hfound ⊢
  generalize schema'.find? name = found' at hfound ⊢
  cases hfound with
  | none => rfl
  | some hsame => exact hsame.2

end Schema

namespace Typing

/-! ### Fields -/

variable {schema schema' : Schema} {options : Options}

/-- **Two schemas answer alike what the type of a field asks for.** -/
def SameLookups (schema schema' : Schema) (field : Field) : Prop :=
  match field.relation with
  | some (.one target) => target ∈ schema.names ↔ target ∈ schema'.names
  | some (.many target) =>
    (target ∈ schema.names ↔ target ∈ schema'.names) ∧ schema.keyOf target = schema'.keyOf target
  | _ => True

theorem requireCollection_congr {target : Text} {field field' : Field}
    (h : target ∈ schema.names ↔ target ∈ schema'.names) (hfield : field.name = field'.name)
    (collection : Text) :
    requireCollection schema collection field target =
      requireCollection schema' collection field' target := by
  have hhas : schema.has target = schema'.has target := by
    rw [Bool.eq_iff_iff, Schema.has_iff, Schema.has_iff, h]
  rw [requireCollection, requireCollection, hhas, hfield]

/-- The key of a collection is found when the collection is there and has one. -/
theorem findKey_eq (schema : Schema) (collection : Text) (field : Field) (target : Text) :
    findKey schema collection field target =
      requireCollection schema collection field target >>= fun _ =>
        (schema.keyOf target).elim
          (.error (.inconsistent collection field.name (.missingKey target))) .ok := by
  by_cases hin : target ∈ schema.names
  · obtain ⟨c, hc⟩ := Schema.exists_find?_of_mem hin
    have hget : (schema.get target).mapError Fault.lookup = .ok c := by rw [Schema.get, hc]; rfl
    rw [findKey, hget, ok_bind, Schema.keyOf, hc, Option.bind_some]
    cases c.primaryKeyField? <;> rfl
  · have hmissing : requireCollection schema collection field target =
        .error (.inconsistent collection field.name (.missingCollection target)) := by
      rw [requireCollection, if_neg (by rwa [Schema.has_iff])]
    rw [findKey, hmissing, error_bind, error_bind]

theorem findKey_congr {target : Text} (h : target ∈ schema.names ↔ target ∈ schema'.names)
    (hkey : schema.keyOf target = schema'.keyOf target) (collection : Text) (field : Field) :
    findKey schema collection field target = findKey schema' collection field target := by
  rw [findKey_eq, findKey_eq, requireCollection_congr h rfl, hkey]

/-- Keys that correspond to each other are found alike. -/
theorem alike_findKey {R : Field → Field → Prop} {target : Text} {field field' : Field}
    (h : target ∈ schema.names ↔ target ∈ schema'.names)
    (hkey : Option.Rel R (schema.keyOf target) (schema'.keyOf target))
    (hfield : field.name = field'.name) (collection : Text) :
    Alike (fun key key' => schema.keyOf target = some key ∧ schema'.keyOf target = some key' ∧
        R key key')
      (findKey schema collection field target) (findKey schema' collection field' target) := by
  rw [findKey_eq, findKey_eq, requireCollection_congr h hfield]
  refine Alike.bind_self fun _ _ => ?_
  generalize schema.keyOf target = key at hkey ⊢
  generalize schema'.keyOf target = key' at hkey ⊢
  cases hkey with
  | none => rw [hfield]; exact .error _
  | some hkey => exact .ok ⟨rfl, rfl, hkey⟩

theorem baseType_congr {field : Field} (h : SameLookups schema schema' field)
    (collection : Text) :
    baseType schema collection field = baseType schema' collection field := by
  rw [SameLookups] at h
  rw [baseType, baseType]
  cases hr : field.relation with
  | none => rfl
  | some relation =>
    rw [hr] at h
    cases relation with
    | one target => simp only [requireCollection_congr h rfl]
    | many target => simp only [findKey_congr h.1 h.2]
    | any targets => rfl
    | anyType targets => rfl
    | unknown kind => rfl

theorem resolve_congr {field : Field}
    (h : field.isPresentational = false → SameLookups schema schema' field) (collection : Text) :
    resolve schema options collection field = resolve schema' options collection field := by
  rw [resolve, resolve]
  cases hp : field.isPresentational with
  | true => rfl -- a field that stores nothing looks nothing up
  | false => rw [requiredType, requiredType, baseType_congr (h hp)]

theorem fieldMembers_congr {fields : List Field}
    (h : ∀ field ∈ fields, field.isPresentational = false → SameLookups schema schema' field)
    (collection : Text) :
    fieldMembers schema options collection fields =
      fieldMembers schema' options collection fields := by
  induction fields with
  | nil => rfl
  | cons field rest ih =>
    rw [List.forall_mem_cons] at h
    rw [fieldMembers, fieldMembers, resolve_congr h.1, ih h.2]

/-! ### Record types -/

/-- **The members of a record type are the same** in two schemas that answer alike what its fields
ask for. -/
theorem recordMembers_congr {c : Collection}
    (h : ∀ field ∈ storedFields c, SameLookups schema schema' field) :
    recordMembers schema options c = recordMembers schema' options c := by
  rw [recordMembers, recordMembers, fieldMembers_congr]
  intro field hfield hp
  exact h field (List.mem_filter.2 ⟨hfield, by simp [hp]⟩)

theorem sameLookups_of_find? {field : Field}
    (h : ∀ target, field.relation = some (.one target) ∨ field.relation = some (.many target) →
      schema.find? target = schema'.find? target) : SameLookups schema schema' field := by
  rw [SameLookups]
  split
  · next target hr => exact Schema.mem_names_iff_of_find?_eq (h target (Or.inl hr))
  · next target hr =>
    have hfind := h target (Or.inr hr)
    exact ⟨Schema.mem_names_iff_of_find?_eq hfind, by rw [Schema.keyOf, Schema.keyOf, hfind]⟩
  · trivial

theorem sameLookups_of_edits
    (h : List.Forall₂ Collection.SameKey schema.collections schema'.collections) (field : Field) :
    SameLookups schema schema' field := by
  have hnames : schema.names = schema'.names :=
    Schema.names_eq_of_forall₂ (fun _ _ hsame => hsame.1) h
  rw [SameLookups]
  split
  · rw [hnames]
  · next target _ => exact ⟨by rw [hnames], Schema.keyOf_of_edits h target⟩
  · trivial

/-- A schema finds nothing else for a collection when others are added that it has no relation
to. -/
theorem sameLookups_of_subset {c : Collection} (hd : schema.names.Nodup)
    (hsub : schema.collections ⊆ schema'.collections)
    (hnew : ∀ d ∈ schema'.collections, d ∉ schema.collections → ∀ field ∈ storedFields c,
      field.relation ≠ some (.one d.name) ∧ field.relation ≠ some (.many d.name)) :
    ∀ field ∈ storedFields c, SameLookups schema schema' field := by
  intro field hfield
  refine sameLookups_of_find? fun target hrelation => ?_
  refine Schema.find?_eq_find? hd (fun d hin _ => hsub hin) fun d hin hname => ?_
  subst hname
  -- a collection that was added is not the one that the field points to
  by_contra hadded
  obtain ⟨hone, hmany⟩ := hnew d hin hadded field hfield
  rcases hrelation with h | h
  · exact hone h
  · exact hmany h

/-! ### Documents -/

theorem recordDeclaration_congr {c : Collection}
    (h : recordMembers schema options c = recordMembers schema' options c) :
    recordDeclaration schema options c = recordDeclaration schema' options c := by
  rw [recordDeclaration, recordDeclaration, h]

theorem recordType_congr {c : Collection}
    (h : recordMembers schema options c = recordMembers schema' options c) :
    recordType schema options c = recordType schema' options c := by
  rw [recordType, recordType, h]

/-- The directory shows the names of collections and which of them are singletons. -/
theorem directory_congr {R : Collection → Collection → Prop}
    (hshown : ∀ c d, R c d → c.name = d.name ∧ c.singleton = d.singleton)
    (h : List.Forall₂ R schema.collections schema'.collections) (options : Options) :
    directory schema options = directory schema' options := by
  have hmembers : schema.collections.map (directoryMember options) =
      schema'.collections.map (directoryMember options) := by
    rw [← List.forall₂_eq_eq_eq, List.forall₂_map_left_iff, List.forall₂_map_right_iff]
    refine h.imp fun c d hcd => ?_
    rw [directoryMember, directoryMember, (hshown c d hcd).1, (hshown c d hcd).2]
  rw [directory, directory, hmembers]

theorem checkComputed_congr (h : ∀ name, name ∈ schema.names ↔ name ∈ schema'.names)
    (computed : Association Text (List ComputedField)) :
    checkComputed schema computed = checkComputed schema' computed := by
  have hhas : schema.has = schema'.has := by
    funext name
    rw [Bool.eq_iff_iff, Schema.has_iff, Schema.has_iff, h]
  rw [checkComputed, checkComputed, strayComputed?, strayComputed?, hhas]

theorem declarations_eq_ok_map_iff {ds : List Declaration} :
    declarations schema options = .ok ds ↔
      checkComputed schema options.computedFields = .ok () ∧ ∃ record : Collection → Declaration,
        (∀ c ∈ schema.collections, recordType schema options c = .ok (record c)) ∧
          ds = schema.collections.map record ++ [directory schema options] := by
  have hmapM : ∀ record : Collection → Declaration,
      schema.collections.mapM (recordType schema options) = .ok (schema.collections.map record) ↔
        ∀ c ∈ schema.collections, recordType schema options c = .ok (record c) := by
    intro record
    rw [mapM_eq_ok_iff, List.forall₂_map_right_iff, List.forall₂_same]
  rw [declarations, bind_eq_ok_iff]
  constructor
  · rintro ⟨⟨⟩, hcheck, h⟩
    obtain ⟨records, hrecords, h⟩ := bind_eq_ok_iff.1 h
    have hgiven : ∀ c ∈ schema.collections, ∃ record, recordType schema options c = .ok record :=
      exists_forall₂_iff.1 ⟨records, mapM_eq_ok_iff.1 hrecords⟩
    have : Nonempty Declaration := ⟨⟨"", []⟩⟩
    choose! record hrecord using hgiven
    obtain rfl := Except.ok.inj (hrecords.symm.trans ((hmapM record).2 hrecord))
    exact ⟨hcheck, record, hrecord, (pure_eq_ok_iff.1 h).symm⟩
  · rintro ⟨hcheck, record, hrecord, rfl⟩
    exact ⟨(), hcheck, bind_eq_ok_iff.2 ⟨_, (hmapM record).2 hrecord, rfl⟩⟩

/-- **Collections may be reordered.**  The definitions consist of the same declarations and entries,
in the order of the collections. -/
theorem generate_of_perm (hd : schema.names.Nodup)
    (hperm : schema.collections.Perm schema'.collections) {definitions : Text}
    (hg : generate schema options = .ok definitions) :
    ∃ record : Collection → Declaration,
      (∀ c ∈ schema.collections, recordType schema options c = .ok (record c) ∧
        recordType schema' options c = .ok (record c)) ∧
      definitions = documentText (schema.collections.map record ++
        [⟨options.directoryTypeName, schema.collections.map (directoryMember options)⟩]) ∧
      generate schema' options = .ok (documentText (schema'.collections.map record ++
        [⟨options.directoryTypeName, schema'.collections.map (directoryMember options)⟩])) := by
  have hfind := Schema.find?_eq_of_perm hd hperm
  have hsame : ∀ c, recordType schema options c = recordType schema' options c := by
    intro c
    exact recordType_congr (recordMembers_congr fun field _ =>
      sameLookups_of_find? fun target _ => hfind target)
  -- so each collection has one record, in whatever order they are declared
  obtain ⟨ds, hds, rfl⟩ := generate_eq_ok_text_iff.1 hg
  obtain ⟨hcheck, record, hrecord, rfl⟩ := declarations_eq_ok_map_iff.1 hds
  have hrecord' : ∀ c ∈ schema.collections, recordType schema' options c = .ok (record c) := by
    intro c hc
    rw [← hsame, hrecord c hc]
  refine ⟨record, fun c hc => ⟨hrecord c hc, hrecord' c hc⟩, rfl, ?_⟩
  refine generate_eq_ok_text_iff.2 ⟨_, declarations_eq_ok_map_iff.2 ⟨?_, record, ?_, rfl⟩, rfl⟩
  · rwa [← checkComputed_congr fun name => Schema.mem_names_iff_of_find?_eq (hfind name)]
  · exact fun c hc => hrecord' c (hperm.symm.subset hc)

/-! ### Dependence -/

/-- **What a record type depends on**: its own collection, the presence of the collections that its
relations point to, and the keys of those that it lists records of.  So a schema may be reordered,
which reorders the declarations and the entries of the directory and changes none of them; and a
record type stays as it is when other collections are edited besides their keys, and when
collections are added that it has no relation to. -/
theorem record_depends_on_lookups (options : Options) :
    (∀ (schema schema' : Schema) (c : Collection),
      (∀ field ∈ storedFields c, SameLookups schema schema' field) →
      recordMembers schema options c = recordMembers schema' options c) ∧
    (∀ (schema schema' : Schema), schema.names.Nodup →
      schema.collections.Perm schema'.collections → ∀ definitions,
      generate schema options = .ok definitions →
      ∃ record : Collection → Declaration,
        (∀ c ∈ schema.collections, recordType schema options c = .ok (record c) ∧
          recordType schema' options c = .ok (record c)) ∧
        definitions = documentText (schema.collections.map record ++
          [⟨options.directoryTypeName, schema.collections.map (directoryMember options)⟩]) ∧
        generate schema' options = .ok (documentText (schema'.collections.map record ++
          [⟨options.directoryTypeName, schema'.collections.map (directoryMember options)⟩]))) ∧
    ((∀ d d' : Collection,
        d.fields.filter Field.mayBeKey = d'.fields.filter Field.mayBeKey →
        d.primaryKeyField? = d'.primaryKeyField?) ∧
      ∀ (schema schema' : Schema) (c : Collection),
        List.Forall₂ Collection.SameKey schema.collections schema'.collections →
        recordDeclaration schema options c = recordDeclaration schema' options c) ∧
    (∀ (schema schema' : Schema) (c : Collection), schema.names.Nodup →
      schema.collections ⊆ schema'.collections →
      (∀ d ∈ schema'.collections, d ∉ schema.collections → ∀ field ∈ storedFields c,
        field.relation ≠ some (.one d.name) ∧ field.relation ≠ some (.many d.name)) →
      recordDeclaration schema options c = recordDeclaration schema' options c) := by
  refine ⟨fun schema schema' c h => recordMembers_congr h, ?_, ⟨?_, ?_⟩, ?_⟩
  · exact fun schema schema' hd hperm definitions hg => generate_of_perm hd hperm hg
  · exact fun d d' h => Collection.primaryKeyField?_congr h
  · intro schema schema' c h
    exact recordDeclaration_congr (recordMembers_congr fun field _ => sameLookups_of_edits h field)
  · intro schema schema' c hd hsub hnew
    exact recordDeclaration_congr (recordMembers_congr (sameLookups_of_subset hd hsub hnew))

/-- Posts have a field that relates to a person, one that relates to tags, and one that stores
nothing and would relate to a collection that is nowhere. -/
def posts : Collection :=
  ⟨"posts", false, [
    { name := "id", type := "integer", primaryKey := true },
    { name := "author", type := "uuid", nullable := true, relation := some (.one "people") },
    { name := "tags", type := "alias", relation := some (.many "tags") },
    { name := "line", type := "alias", interface := some "presentation-divider",
      relation := some (.many "lost") }]⟩

/-- Posts with people and tags; people have their posts. -/
def blog : Schema :=
  ⟨[posts,
    ⟨"people", false, [
      { name := "id", type := "uuid" },
      { name := "written", type := "alias", relation := some (.many "posts") }]⟩,
    ⟨"tags", false, [{ name := "word", type := "string", primaryKey := true }]⟩]⟩

/-- The same posts; people have a name and no list of posts, and tags have a meaning. -/
def editedBlog : Schema :=
  ⟨[posts,
    ⟨"people", false, [
      { name := "name", type := "string" },
      { name := "id", type := "uuid" }]⟩,
    ⟨"tags", true, [
      { name := "meaning", type := "text", nullable := true },
      { name := "word", type := "string", primaryKey := true }]⟩]⟩

/-- The same posts with comments on them. -/
def commentedBlog : Schema :=
  ⟨⟨"comments", false, [
      { name := "id", type := "integer", primaryKey := true },
      { name := "post", type := "integer", relation := some (.one "posts") }]⟩ :: blog.collections⟩

/-- Posts are declared alike in the edited blog and in the one with comments, and the blog may be
reversed. -/
theorem record_depends_on_lookups_blog :
    recordMembers blog {} posts = recordMembers editedBlog {} posts ∧
    (∃ record : Collection → Declaration,
      generate blog {} = .ok (documentText (blog.collections.map record ++
        [⟨"CustomDirectusTypes", blog.collections.map (directoryMember {})⟩])) ∧
      generate ⟨blog.collections.reverse⟩ {} =
        .ok (documentText (blog.collections.reverse.map record ++
          [⟨"CustomDirectusTypes", blog.collections.reverse.map (directoryMember {})⟩]))) ∧
    recordDeclaration blog {} posts = recordDeclaration editedBlog {} posts ∧
    recordDeclaration blog {} posts = recordDeclaration commentedBlog {} posts := by
  obtain ⟨hmembers, hperm, ⟨hkeys, hedited⟩, hadded⟩ := record_depends_on_lookups {}
  have hd : blog.names.Nodup := by decide
  have hstored : storedFields posts = posts.fields.take 3 := rfl
  -- posts look up people and tags, and neither is changed in what is looked up
  have hrelations : ∀ field ∈ storedFields posts, field.relation = none ∨
      field.relation = some (.one "people") ∨ field.relation = some (.many "tags") := by
    rw [hstored]
    simp [posts]
  refine ⟨hmembers _ _ _ ?_, ?_, hedited _ _ _ ?_, hadded _ _ _ hd ?_ ?_⟩
  · intro field hfield
    rcases hrelations field hfield with h | h | h <;> rw [SameLookups, h]
    · trivial
    · exact iff_of_true (by decide) (by decide)
    · exact ⟨iff_of_true (by decide) (by decide), rfl⟩
  · obtain ⟨definitions, hg⟩ : ∃ definitions, generate blog {} = .ok definitions := ⟨_, rfl⟩
    obtain ⟨record, -, rfl, hreversed⟩ :=
      hperm blog ⟨blog.collections.reverse⟩ hd (List.reverse_perm _).symm definitions hg
    exact ⟨record, hg, hreversed⟩
  · exact .cons ⟨rfl, rfl⟩ (.cons ⟨rfl, hkeys _ _ rfl⟩ (.cons ⟨rfl, hkeys _ _ rfl⟩ .nil))
  · exact List.subset_cons_self _ _
  · intro d hd hnew field hfield
    rcases List.mem_cons.1 hd with rfl | hd
    · rcases hrelations field hfield with h | h | h <;> rw [h] <;> decide
    · exact absurd hd hnew

end Typing

end SchemaScribe
