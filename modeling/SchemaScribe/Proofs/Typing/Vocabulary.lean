import Mathlib.Data.List.Forall2
import SchemaScribe.Proofs.Typing.Document
import SchemaScribe.Proofs.Typing.Own

/-!
# The words of generated types

The types of values are made of literals and of a few words (`typeWords`): whatever the choices of a
loaded schema are, no other name is read in what the generator writes for them.  In particular it
never writes the words for the numbers without digits, although a snapshot may hold a number that is
read as infinite (`invariant_of_load`).
-/

namespace SchemaScribe.Typing

open TypeExpr (unite)

/-! ### What is collected from types of values -/

section Collects

variable {β : Type} {f : TypeExpr → List β}

theorem collect_listsOf (hf : TypeExpr.Collects f) (levels : Nat) (type : TypeExpr) :
    f (listsOf levels type) = f type := by
  induction levels generalizing type with
  | zero => rfl
  | succ levels ih => rw [listsOf, ih, hf.array]

/-- Null brings nothing in. -/
theorem collect_withNull (hf : TypeExpr.Collects f) (nullable : Bool) (type : TypeExpr) :
    f (withNull nullable type) = f type := by
  rw [withNull]
  split
  · rw [hf.unite (by simp), List.flatMap_cons, List.flatMap_singleton, hf.literal, List.append_nil]
  · rfl

theorem choiceTypes_ne_nil {values : List ChoiceValue} (hne : values ≠ []) :
    choiceTypes values ≠ [] := by
  cases values with
  | nil => exact absurd rfl hne
  | cons value rest => simp [choiceTypes, distinct]

/-- Literals of choices bring nothing in. -/
theorem collect_unite_choiceTypes (hf : TypeExpr.Collects f) {values : List ChoiceValue}
    (hne : values ≠ []) : f (unite (choiceTypes values)) = [] := by
  rw [hf.unite (choiceTypes_ne_nil hne), List.flatMap_eq_nil_iff]
  intro type htype
  obtain ⟨literal, -, rfl⟩ := List.mem_map.1 htype
  exact hf.literal literal

/-- From choices as much is collected as from what stands for other values. -/
theorem collect_choiceType_subset (hf : TypeExpr.Collects f) (values : List ChoiceValue)
    (allowOther : Bool) (fallback : TypeExpr) :
    f (choiceType values allowOther fallback) ⊆ f fallback := by
  rw [choiceType]
  split
  · exact List.Subset.refl _
  · next hne =>
    rw [Bool.or_eq_true, not_or, List.isEmpty_iff] at hne
    rw [collect_unite_choiceTypes hf hne.2]
    exact List.nil_subset _

end Collects

/-! ### Names in types -/

mutual

/-- The names that a type mentions.  Literals mention none. -/
def TypeExpr.names : TypeExpr → List Text
  | .named name => [name]
  | .applied name arguments => name :: namesIn arguments
  | .literal _ => []
  | .array element => element.names
  | .tuple items => namesIn items
  | .object members => namesOf members
  | .union first second more => first.names ++ (second.names ++ namesIn more)
  | .intersection first second more => first.names ++ (second.names ++ namesIn more)

/-- The names that types mention. -/
def namesIn : List TypeExpr → List Text
  | [] => []
  | type :: rest => type.names ++ namesIn rest

/-- The names that the types of members mention. -/
def namesOf : List (ObjectMember TypeExpr) → List Text
  | [] => []
  | ⟨_, _, type⟩ :: rest => type.names ++ namesOf rest

end

theorem namesIn_eq_flatMap (types : List TypeExpr) :
    namesIn types = types.flatMap TypeExpr.names := by
  induction types with
  | nil => rfl
  | cons type rest ih => rw [namesIn, ih, List.flatMap_cons]

theorem collects_names : TypeExpr.Collects TypeExpr.names where
  union first second more := by
    rw [TypeExpr.names, namesIn_eq_flatMap, List.flatMap_cons, List.flatMap_cons]
  array element := by rw [TypeExpr.names]
  literal value := by rw [TypeExpr.names]

/-! ### Stored values -/

/-- The words that types of values are made of. -/
def typeWords : List Text := ["string", "number", "boolean", "unknown", "Record"]

/-- A type that is made of literals and of words. -/
def UsesWords (type : TypeExpr) : Prop := ∀ name ∈ type.names, name ∈ typeWords

theorem usesWords_named {name : Text} (h : name ∈ typeWords) : UsesWords (.named name) := by
  rw [UsesWords, TypeExpr.names, List.forall_mem_singleton]
  exact h

/-- Choices bring no name in. -/
theorem usesWords_choiceType {fallback : TypeExpr} (hfallback : UsesWords fallback)
    (values : List ChoiceValue) (allowOther : Bool) :
    UsesWords (choiceType values allowOther fallback) :=
  fun name hname => hfallback name (collect_choiceType_subset collects_names _ _ _ hname)

theorem usesWords_scalarType (type : Text) : UsesWords (.named (scalarType type)) := by
  rw [scalarType]
  split
  · exact usesWords_named (by decide)
  split
  · exact usesWords_named (by decide)
  · exact usesWords_named (by decide)

theorem usesWords_shapeType (shape : Text) (levels : Nat) :
    UsesWords (shapeType shape levels) := by
  rw [UsesWords, shapeType]
  simp only [TypeExpr.names, namesOf, namesIn, collect_listsOf collects_names]
  decide

theorem usesWords_itemsType {members : List (ObjectMember TypeExpr)}
    (h : ∀ name ∈ namesOf members, name ∈ typeWords) : UsesWords (itemsType members) := by
  rw [UsesWords, itemsType, TypeExpr.names]
  split
  · simp only [TypeExpr.names, namesIn]
    decide
  · rw [TypeExpr.names]
    exact h

mutual

/-- **The type of a stored value is made of literals and words**, at any depth of lists. -/
theorem usesWords_storedType :
    ∀ (field : Field) (depth : Int), UsesWords (storedType field depth)
  | ⟨_, type, _, _, _, interface, choices, allowOther, subFields, _⟩, depth => by
    have hunknown : UsesWords (.named "unknown") := usesWords_named (by decide)
    have hstring : UsesWords (.named "string") := usesWords_named (by decide)
    rw [storedType]
    cases hshape : shapeType? type with
    | some shape =>
      obtain ⟨entry, -, rfl⟩ := Option.map_eq_some_iff.1 hshape
      exact usesWords_shapeType entry.1 entry.2
    | none =>
      dsimp only
      split
      · split
        · split
          · exact hunknown
          · exact usesWords_itemsType (usesWords_storedMembers subFields (depth + 1))
        · rw [structuredChoice]
          split
          · exact usesWords_choiceType hstring _ _
          split
          · exact usesWords_choiceType hstring _ _
          · exact hunknown
      · rw [scalarChoice]
        split
        · exact usesWords_choiceType (usesWords_scalarType type) _ _
        · exact usesWords_scalarType type

theorem usesWords_storedMembers :
    ∀ (fields : List Field) (depth : Int),
      ∀ name ∈ namesOf (storedMembers fields depth), name ∈ typeWords
  | [], _ => by simp [storedMembers, namesOf]
  | field :: rest, depth => by
    have hrest := usesWords_storedMembers rest depth
    rw [storedMembers]
    split
    · exact hrest
    · rw [namesOf, collect_withNull collects_names, List.forall_mem_append]
      exact ⟨usesWords_storedType field depth, hrest⟩

end

/-! ### Members -/

/-- **A text that is read as a type of literals and words.** -/
def ReadsAsWords (text : Text) : Prop := ∃ type, TypeExpr.read? text = some type ∧ UsesWords type

/-- **The type that a field has by itself is made of literals and words**, whether it is that of its
value or of the keys that it holds. -/
theorem usesWords_of_isOwnType {schema : Schema} {field : Field} {type : TypeExpr}
    (h : IsOwnType schema field type) : UsesWords type := by
  cases h with
  | value hrelation => exact usesWords_storedType field 0
  | @keys target key hrelation hkey =>
    rw [UsesWords, collects_names.listedLast]
    exact usesWords_storedType key 0
  | word hrelation => exact usesWords_named (by decide)
  | names hrelation hne =>
    rw [UsesWords, collect_unite_choiceTypes collects_names (by simpa using hne)]
    simp

/-- What a field shows behind its own type: the records that its relation points to. -/
def relatedText (options : Options) : Option Relation → Text
  | none => ""
  | some relation =>
    match relatedType relation with
    | .ok related => joiner options.useIntersectionTypes relation ++ related
    | .error _ => ""

theorem append_relatedText (options : Options) (own : Text) {relation : Relation}
    {related : Text} (h : relatedType relation = .ok related) :
    own ++ relatedText options (some relation) =
      own ++ joiner options.useIntersectionTypes relation ++ related := by
  rw [relatedText, h, Text.append_assoc]

/-- The type of a member, put around the type that its field has by itself. -/
def typeAround (options : Options) (field : Field) (own : Text) : Text :=
  let type := own ++ relatedText options field.relation
  if isOptional options field then orNull options field type else type

theorem exists_baseType_of_requiredType {schema : Schema} {options : Options}
    {collection type : Text} {field : Field}
    (h : requiredType schema options collection field = .ok type) :
    ∃ own, baseType schema collection field = .ok own ∧
      type = own ++ relatedText options field.relation := by
  obtain ⟨own, hown, h⟩ := bind_eq_ok_iff.1 h
  refine ⟨own, hown, ?_⟩
  split at h
  · next hr =>
    obtain rfl := pure_eq_ok_iff.1 h
    rw [hr, relatedText, Text.append_empty]
  · next hr =>
    obtain rfl := pure_eq_ok_iff.1 h
    rw [hr]
    exact (Text.append_empty own).symm
  · next relation _ hr =>
    obtain ⟨related, hrelated, h⟩ := bind_eq_ok_iff.1 h
    obtain rfl := pure_eq_ok_iff.1 h
    rw [hr, append_relatedText options own hrelated]

/-- **A member is around the type that its field has by itself.** -/
theorem exists_isOwnType_of_resolve {schema : Schema} (hs : schema.IsWellFormed) {options : Options}
    {c : Collection} (hc : c ∈ schema.collections) {field : Field} (hf : field ∈ storedFields c)
    {member : Member} (h : resolve schema options c.name field = .ok (some member)) :
    member.name = field.name ∧ ∃ own type, member.type = typeAround options field own ∧
      Writes own type ∧ IsOwnType schema field type := by
  obtain ⟨-, text, htext, rfl⟩ := resolve_eq_ok_some_iff.1 h
  obtain ⟨own, hown, rfl⟩ := exists_baseType_of_requiredType htext
  have hfield : field ∈ c.fields := List.mem_of_mem_filter hf
  obtain ⟨type, hwrites, htype⟩ := exists_isOwnType hs (hs.isFinite hc hfield) hown
  exact ⟨rfl, own, type, rfl, hwrites, htype⟩

/-- **A member around a type of literals and words.** -/
theorem exists_own_of_resolve {schema : Schema} (hs : schema.IsWellFormed) {options : Options}
    {c : Collection} (hc : c ∈ schema.collections) {field : Field} (hf : field ∈ storedFields c)
    {member : Member} (h : resolve schema options c.name field = .ok (some member)) :
    member.name = field.name ∧
      ∃ own, ReadsAsWords own ∧ member.type = typeAround options field own := by
  obtain ⟨hname, own, type, hmember, hwrites, htype⟩ := exists_isOwnType_of_resolve hs hc hf h
  have hwords : UsesWords type := usesWords_of_isOwnType htype
  exact ⟨hname, own, ⟨type, hwrites.reads.read?_eq, hwords⟩, hmember⟩

/-! ### Literals -/

/-- The words for the numbers without digits. -/
def digitlessWords : List Text :=
  [literalWords.nan, literalWords.infinite, literalWords.negativeInfinite]

/-- The literal of a value with digits is read as a literal, and the words without are read as names
or not at all. -/
theorem literal_notMem_digitlessWords {value : ChoiceValue} (h : value.isFinite = true) :
    literal value ∉ digitlessWords := by
  have hread := (single_spelling (isProper_choiceLiteral h)).1.union.read?_eq
  rw [spelling_choiceLiteral] at hread
  have hwords : ∀ word ∈ digitlessWords, ∀ spelled : Literal,
      TypeExpr.read? word ≠ some (.literal spelled) := by
    have hnan : TypeExpr.read? "NaN" = some (.named "NaN") := rfl
    have hinf : TypeExpr.read? "Infinity" = some (.named "Infinity") := rfl
    have hneg : TypeExpr.read? "-Infinity" = none := rfl
    simp [digitlessWords, literalWords, hnan, hinf, hneg]
  intro hmem
  exact hwords _ hmem _ hread

/-! ### Loaded schemas -/

/-- **What holds of every loaded schema.**  It has one collection for each entry of the snapshot, in
order and found under its own name, and it is well-formed at every depth, so no choice is written as
a word without digits.  Its definitions without computed fields are record types and the directory,
and what they say of a value is made of literals and the words of types.  Yet a number may be read
as infinite, where nothing asks for it. -/
theorem invariant_of_load {text : Text} {schema : Schema}
    (h : Snapshot.load text = .ok schema) :
    (∃ value entries, Json.read text = .ok value ∧ Snapshot.entries? value = some entries ∧
      List.Forall₂ (fun entry c => Snapshot.decodeParts entry.1 entry.2 = .ok c ∧
        Snapshot.IsEntry entry c.name) entries schema.collections) ∧
      (∀ c ∈ schema.collections, schema.find? c.name = some c) ∧
      schema.IsWellFormed ∧
      (∀ c ∈ schema.collections, ∀ field ∈ c.fields, ∀ value ∈ choiceValues field,
        literal value ∉ digitlessWords) ∧
      (∀ options definitions, options.computedFields = [] →
        generate schema options = .ok definitions →
        ∃ records, definitions = documentText (records ++ [directory schema options]) ∧
          List.Forall₂ (fun c record => record.name = pascalCase c.name ∧
            List.Forall₂ (fun field member => member.name = field.name ∧
              ∃ own, ReadsAsWords own ∧ member.type = typeAround options field own)
              (storedFields c) record.members) schema.collections records) ∧
      Json.read "1e999" = .ok (.float (.infinite false)) := by
  have hs : schema.IsWellFormed := Snapshot.isWellFormed_of_load h
  refine ⟨?_, fun c hc => Schema.find?_name_of_mem hs.distinct hc, hs, ?_, ?_, rfl⟩
  · obtain ⟨value, hread, hdecode⟩ := Snapshot.exists_of_load h
    obtain ⟨entries, hentries, hall, -⟩ := Snapshot.decode_eq_ok_iff.1 hdecode
    refine ⟨value, entries, hread, hentries, hall.imp fun entry c hparts => ⟨hparts, ?_⟩⟩
    exact Snapshot.exists_decodeParts_iff.1 ⟨c, hparts, rfl⟩
  · intro c hc field hf value hvalue
    exact literal_notMem_digitlessWords (hs.isFinite hc hf value hvalue)
  · intro options definitions hcomputed hg
    -- each member is built around the own type of its field
    obtain ⟨records, htext, hrecords⟩ := exists_records_of_generate hcomputed hg
    refine ⟨records, htext, hrecords.imp fun c record hrecord => ?_⟩
    obtain ⟨hc, hname, hmembers⟩ := hrecord
    refine ⟨hname, hmembers.imp fun field member hmember => ?_⟩
    exact exists_own_of_resolve hs hc hmember.1 hmember.2

/-- A text with a number past all others where nothing is asked of it, and a field with presets, one
of them with a child, and with a sub-field. -/
def presetText : Text :=
  "\x7b\"a\":\x7b\"n\":1e999,\"fields\":[\x7b\"field\":\"x\",\"meta\":\x7b\"options\":" ++
    "\x7b\"presets\":[\"NaN\",\x7b\"value\":-12,\"children\":[true]\x7d]," ++
    "\"fields\":[\x7b\"field\":\"y\"\x7d]\x7d\x7d\x7d]\x7d\x7d"

/-- The schema of `presetText`. -/
def presetSchema : Schema :=
  ⟨[⟨"a", false, [
    { name := "x", type := "string",
      choices := [⟨.text "NaN", []⟩, ⟨.int (-12), [⟨.bool true, []⟩]⟩],
      subFields := [{ name := "y", type := "string" }] }]⟩]⟩

theorem load_presetText : Snapshot.load presetText = .ok presetSchema :=
  by decide +kernel

/-- `presetText` is loaded, its schema is well-formed, and its definitions are those of one record
type and the directory. -/
theorem invariant_of_presetText :
    Snapshot.load presetText = .ok presetSchema ∧ presetSchema.IsWellFormed ∧
      ∃ definitions record, generate presetSchema {} = .ok definitions ∧
        definitions = documentText [record, directory presetSchema {}] ∧
        record.members.length = 1 := by
  obtain ⟨-, -, hs, -, hdefinitions, -⟩ := invariant_of_load load_presetText
  obtain ⟨definitions, hg⟩ : ∃ definitions, generate presetSchema {} = .ok definitions := ⟨_, rfl⟩
  obtain ⟨records, htext, hrecords⟩ := hdefinitions {} definitions rfl hg
  obtain ⟨record, rest, ⟨-, hmembers⟩, hrest, rfl⟩ := List.forall₂_cons_left_iff.1 hrecords
  obtain rfl := List.forall₂_nil_left_iff.1 hrest
  exact ⟨load_presetText, hs, definitions, record, hg, htext, hmembers.length_eq.symm⟩

end SchemaScribe.Typing
