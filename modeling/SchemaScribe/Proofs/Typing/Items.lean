import Mathlib.Data.Int.Order.Basic
import Mathlib.Data.List.Forall2
import Mathlib.Data.List.Nodup
import SchemaScribe.Proofs.Typing.Keys
import SchemaScribe.Proofs.Typing.Vocabulary

/-!
# The keys of list items

The items of a list are typed by an object type with a member for each sub-field that stores a
value.  The sub-fields of a list may share a name, which nothing checks, so the keys of an object
type are distinct exactly where the names of the sub-fields are (`item_keys_distinct_iff`).
-/

namespace SchemaScribe.Typing

/-! ### Object types -/

mutual

/-- **The members of the object types within a type**, from the outside in. -/
def TypeExpr.objects : TypeExpr → List (List (ObjectMember TypeExpr))
  | .named _ => []
  | .applied _ arguments => objectsIn arguments
  | .literal _ => []
  | .array element => element.objects
  | .tuple items => objectsIn items
  | .object members => members :: objectsOf members
  | .union first second more => first.objects ++ (second.objects ++ objectsIn more)
  | .intersection first second more => first.objects ++ (second.objects ++ objectsIn more)

/-- The members of the object types within types. -/
def objectsIn : List TypeExpr → List (List (ObjectMember TypeExpr))
  | [] => []
  | type :: rest => type.objects ++ objectsIn rest

/-- The members of the object types within the types of members. -/
def objectsOf : List (ObjectMember TypeExpr) → List (List (ObjectMember TypeExpr))
  | [] => []
  | ⟨_, _, type⟩ :: rest => type.objects ++ objectsOf rest

end

theorem objectsIn_eq_flatMap (types : List TypeExpr) :
    objectsIn types = types.flatMap TypeExpr.objects := by
  induction types with
  | nil => rfl
  | cons type rest ih => rw [objectsIn, ih, List.flatMap_cons]

theorem collects_objects : TypeExpr.Collects TypeExpr.objects where
  union first second more := by
    rw [TypeExpr.objects, objectsIn_eq_flatMap, List.flatMap_cons, List.flatMap_cons]
  array element := by rw [TypeExpr.objects]
  literal value := by rw [TypeExpr.objects]

/-- Members are written under distinct keys. -/
def KeysDistinct (members : List (ObjectMember TypeExpr)) : Prop :=
  (members.map fun member => memberIdentifier member.name).Nodup

/-- **No object type within a type has two members of one key.** -/
def ItemKeysDistinct (type : TypeExpr) : Prop := ∀ members ∈ type.objects, KeysDistinct members

theorem itemKeysDistinct_of_eq_nil {type : TypeExpr} (h : type.objects = []) :
    ItemKeysDistinct type := by
  rw [ItemKeysDistinct, h]
  exact fun members hmembers => absurd hmembers List.not_mem_nil

theorem itemKeysDistinct_named (name : Text) : ItemKeysDistinct (.named name) :=
  itemKeysDistinct_of_eq_nil (by rw [TypeExpr.objects])

theorem keysDistinct_iff {members : List (ObjectMember TypeExpr)} :
    KeysDistinct members ↔ (members.map (·.name)).Nodup := by
  have hkeys : members.map (fun member => memberIdentifier member.name) =
      (members.map (·.name)).map memberIdentifier := by
    rw [List.map_map]
    rfl
  rw [KeysDistinct, hkeys, List.nodup_map_iff memberIdentifier_injective]

/-! ### Lists that are shown -/

/-- **A list field shows its items** unless it stands within too many lists. -/
def showsItems (type : Text) (interface : Option Text) (depth : Int) : Bool :=
  (geometryType? type).isNone && structuredTypes.contains type &&
    (interface == some listInterface && decide (depth < maxListDepth))

/-- The sub-fields of a field that store a value. -/
def storedSubFields (field : Field) : List Field :=
  field.subFields.filter fun sub => !sub.isPresentational

mutual

/-- **The fields whose items are shown in the type of a stored value**: the field itself if it is a
list, and those among its sub-fields. -/
def shownLists : Field → Int → List Field
  | ⟨name, type, nullable, required, primaryKey, interface, choices, allowOther, subFields,
      relation⟩, depth =>
    if showsItems type interface depth then
      ⟨name, type, nullable, required, primaryKey, interface, choices, allowOther, subFields,
        relation⟩ :: shownListsIn subFields (depth + 1)
    else []

/-- The fields whose items are shown in the types of fields that store a value. -/
def shownListsIn : List Field → Int → List Field
  | [], _ => []
  | field :: rest, depth =>
    if field.isPresentational then shownListsIn rest depth
    else shownLists field depth ++ shownListsIn rest depth

end

theorem storedType_of_showsItems {field : Field} {depth : Int}
    (h : showsItems field.type field.interface depth = true) :
    storedType field depth = itemsType (storedMembers field.subFields (depth + 1)) := by
  obtain ⟨name, type, nullable, required, primaryKey, interface, choices, allowOther, subFields,
    relation⟩ := field
  simp only [showsItems, Bool.and_eq_true, Option.isNone_iff_eq_none, beq_iff_eq,
    decide_eq_true_eq] at h
  obtain ⟨⟨hgeometry, hstructured⟩, hinterface, hdepth⟩ := h
  rw [storedType, geometryType?_eq_none_iff.1 hgeometry]
  dsimp only
  rw [if_pos hstructured, if_pos hinterface, if_neg (not_le.2 hdepth)]

/-- A choice has no object type in it. -/
theorem itemKeysDistinct_choiceType (values : List ChoiceValue) (allowOther : Bool)
    (name : Text) : ItemKeysDistinct (choiceType values allowOther (.named name)) := by
  intro members hmembers
  have hname := collect_choiceType_subset collects_objects values allowOther (.named name) hmembers
  exact itemKeysDistinct_named name members hname

theorem itemKeysDistinct_structuredChoice (interface : Option Text) (choices : List Choice)
    (allowOther : Bool) : ItemKeysDistinct (structuredChoice interface choices allowOther) := by
  have harray : ∀ type, ItemKeysDistinct type → ItemKeysDistinct (.array type) := by
    intro type h
    rwa [ItemKeysDistinct, TypeExpr.objects]
  rw [structuredChoice]
  split
  · exact harray _ (itemKeysDistinct_choiceType _ _ _)
  split
  · exact harray _ (itemKeysDistinct_choiceType _ _ _)
  · exact itemKeysDistinct_named _

/-- A shape has a name and coordinates, which are lists of pairs. -/
theorem itemKeysDistinct_shapeType (shape : Text) (levels : Nat) :
    ItemKeysDistinct (shapeType shape levels) := by
  rw [ItemKeysDistinct, shapeType]
  simp only [TypeExpr.objects, objectsOf, objectsIn, collect_listsOf collects_objects,
    List.append_nil, List.forall_mem_singleton]
  rw [keysDistinct_iff]
  show [("type" : Text), "coordinates"].Nodup
  decide

/-- A field that shows no items has no object type but that of a shape. -/
theorem itemKeysDistinct_storedType {field : Field} {depth : Int}
    (h : ¬ showsItems field.type field.interface depth = true) :
    ItemKeysDistinct (storedType field depth) := by
  obtain ⟨name, type, nullable, required, primaryKey, interface, choices, allowOther, subFields,
    relation⟩ := field
  rw [storedType]
  cases hshape : shapeType? type with
  | some shape =>
    obtain ⟨entry, -, rfl⟩ := Option.map_eq_some_iff.1 hshape
    exact itemKeysDistinct_shapeType entry.1 entry.2
  | none =>
    dsimp only
    split
    · next hstructured =>
      split
      · next hinterface =>
        split
        · exact itemKeysDistinct_named _
        · next hdepth =>
          -- here the items would be shown
          refine absurd ?_ h
          simp only [showsItems, geometryType?_eq_none_iff.2 hshape, hstructured, hinterface,
            not_le.1 hdepth, Option.isNone_none, BEq.rfl, decide_true, Bool.and_self]
      · exact itemKeysDistinct_structuredChoice interface choices allowOther
    · rw [scalarChoice]
      split
      · exact itemKeysDistinct_choiceType _ _ _
      · exact itemKeysDistinct_named _

theorem names_storedMembers (fields : List Field) (depth : Int) :
    (storedMembers fields depth).map (·.name) =
      (fields.filter fun field => !field.isPresentational).map (·.name) := by
  induction fields with
  | nil => rfl
  | cons field rest ih =>
    rw [storedMembers, List.filter_cons]
    by_cases h : field.isPresentational = true
    · rw [if_pos h, if_neg (by simp [h]), ih]
    · rw [if_neg h, if_pos (by simp [h]), List.map_cons, List.map_cons, ih]

/-- The items of a list have distinct keys when its members do and the lists in them. -/
theorem itemKeysDistinct_itemsType_iff {members : List (ObjectMember TypeExpr)} :
    ItemKeysDistinct (itemsType members) ↔
      KeysDistinct members ∧ ∀ inner ∈ objectsOf members, KeysDistinct inner := by
  rw [ItemKeysDistinct, itemsType, TypeExpr.objects]
  cases members with
  | nil => simp [TypeExpr.objects, objectsIn, objectsOf, KeysDistinct]
  | cons member rest =>
    rw [List.isEmpty_cons, if_neg Bool.false_ne_true, TypeExpr.objects, List.forall_mem_cons]

mutual

/-- **The object types of a stored value have distinct keys exactly when the lists that are shown
have sub-fields of distinct names**, at any depth. -/
theorem itemKeysDistinct_storedType_iff :
    ∀ (field : Field) (depth : Int), ItemKeysDistinct (storedType field depth) ↔
      ∀ list ∈ shownLists field depth, ((storedSubFields list).map (·.name)).Nodup
  | ⟨name, type, nullable, required, primaryKey, interface, choices, allowOther, subFields,
      relation⟩, depth => by
    rw [shownLists]
    split
    · next h =>
      have hitems : storedType ⟨name, type, nullable, required, primaryKey, interface, choices,
          allowOther, subFields, relation⟩ depth =
            itemsType (storedMembers subFields (depth + 1)) := storedType_of_showsItems h
      rw [hitems, itemKeysDistinct_itemsType_iff, List.forall_mem_cons, keysDistinct_iff,
        names_storedMembers, forall_objectsOf_storedMembers_iff subFields (depth + 1)]
      rfl
    · next h =>
      refine iff_of_true (itemKeysDistinct_storedType h) ?_
      exact fun list hlist => absurd hlist List.not_mem_nil

theorem forall_objectsOf_storedMembers_iff :
    ∀ (fields : List Field) (depth : Int),
      (∀ members ∈ objectsOf (storedMembers fields depth), KeysDistinct members) ↔
        ∀ list ∈ shownListsIn fields depth, ((storedSubFields list).map (·.name)).Nodup
  | [], _ => by simp [storedMembers, objectsOf, shownListsIn]
  | field :: rest, depth => by
    have hrest := forall_objectsOf_storedMembers_iff rest depth
    have hfield := itemKeysDistinct_storedType_iff field depth
    rw [storedMembers, shownListsIn]
    split
    · exact hrest
    · rw [objectsOf, collect_withNull collects_objects, List.forall_mem_append,
        List.forall_mem_append, hrest, ← hfield]
      rfl

end

/-! ### Members -/

/-- **The lists whose items are shown in the type that a field has by itself**: those of its value,
or those of the keys that it holds. -/
def listsShown (schema : Schema) (field : Field) : List Field :=
  match field.relation with
  | none | some (.one _) => shownLists field 0
  | some (.many target) => (schema.keyOf target).elim [] (shownLists · 0)
  | _ => []

theorem itemKeysDistinct_of_isOwnType {schema : Schema} {field : Field} {type : TypeExpr}
    (h : IsOwnType schema field type) :
    ItemKeysDistinct type ↔
      ∀ list ∈ listsShown schema field, ((storedSubFields list).map (·.name)).Nodup := by
  -- a type that holds no object belongs to a field that shows no lists
  have hnone : type.objects = [] → listsShown schema field = [] → (ItemKeysDistinct type ↔
      ∀ list ∈ listsShown schema field, ((storedSubFields list).map (·.name)).Nodup) := by
    intro hobjects hlists
    rw [hlists]
    exact iff_of_true (itemKeysDistinct_of_eq_nil hobjects) (by simp)
  cases h with
  | value hrelation =>
    have hlists : listsShown schema field = shownLists field 0 := by
      rcases hrelation with hrelation | ⟨target, hrelation⟩ <;> rw [listsShown, hrelation]
    rw [hlists]
    exact itemKeysDistinct_storedType_iff field 0
  | @keys target key hrelation hkey =>
    have hlists : listsShown schema field = shownLists key 0 := by
      rw [listsShown, hrelation]
      dsimp only
      rw [hkey, Option.elim_some]
    rw [hlists, ItemKeysDistinct, collects_objects.listedLast]
    exact itemKeysDistinct_storedType_iff key 0
  | word hrelation =>
    refine hnone (by rw [TypeExpr.objects]) ?_
    obtain ⟨targets, hrelation | hrelation⟩ := hrelation <;> rw [listsShown, hrelation]
  | names hrelation hne =>
    refine hnone (collect_unite_choiceTypes collects_objects (by simpa using hne)) ?_
    rw [listsShown, hrelation]

/-- **The keys of list items are distinct exactly when the sub-fields of each list have distinct
names.**  The definitions of a loaded schema consist of the members of its fields, each around the
type that its field has by itself; and no object type in that type, at any depth, has a key twice,
exactly when no list whose items it shows has two sub-fields of one name that store a value. -/
theorem item_keys_distinct_iff {text : Text} {schema : Schema}
    (hload : Snapshot.load text = .ok schema) {options : Options}
    (hcomputed : options.computedFields = []) {definitions : Text}
    (hg : generate schema options = .ok definitions) :
    ∃ records, definitions = documentText (records ++ [directory schema options]) ∧
      List.Forall₂ (fun c record => record.name = pascalCase c.name ∧
        List.Forall₂ (fun field member => ∃ own type,
          member.type = typeAround options field own ∧ TypeExpr.read? own = some type ∧
          ((∀ members ∈ type.objects,
              (members.map fun member => memberIdentifier member.name).Nodup) ↔
            ∀ list ∈ listsShown schema field,
              ((list.subFields.filter fun sub => !sub.isPresentational).map (·.name)).Nodup))
          (storedFields c) record.members) schema.collections records := by
  have hs : schema.IsWellFormed := Snapshot.isWellFormed_of_load hload
  obtain ⟨records, htext, hrecords⟩ := exists_records_of_generate hcomputed hg
  refine ⟨records, htext, hrecords.imp fun c record hrecord => ?_⟩
  obtain ⟨hc, hname, hmembers⟩ := hrecord
  refine ⟨hname, hmembers.imp fun field member hmember => ?_⟩
  obtain ⟨-, own, type, htype, hwrites, hown⟩ :=
    exists_isOwnType_of_resolve hs hc hmember.1 hmember.2
  exact ⟨own, type, htype, hwrites.reads.read?_eq, itemKeysDistinct_of_isOwnType hown⟩

/-- A text with a list whose items have two sub-fields of different names. -/
def differentText : Text :=
  "\x7b\"a\":\x7b\"fields\":[\x7b\"field\":\"rows\",\"type\":\"json\",\"meta\":" ++
    "\x7b\"interface\":\"list\",\"options\":\x7b\"fields\":[" ++
    "\x7b\"field\":\"x\"\x7d,\x7b\"field\":\"y\"\x7d]\x7d\x7d\x7d]\x7d\x7d"

/-- A text with a list whose items have two sub-fields of the same name. -/
def sameText : Text :=
  "\x7b\"a\":\x7b\"fields\":[\x7b\"field\":\"rows\",\"type\":\"json\",\"meta\":" ++
    "\x7b\"interface\":\"list\",\"options\":\x7b\"fields\":[" ++
    "\x7b\"field\":\"x\"\x7d,\x7b\"field\":\"x\"\x7d]\x7d\x7d\x7d]\x7d\x7d"

/-- A schema with a list whose items have two sub-fields. -/
def pairSchema (first second : Text) : Schema :=
  ⟨[⟨"a", false, [{ name := "rows", type := "json", interface := some "list", subFields :=
    [{ name := first, type := "string" }, { name := second, type := "string" }] }]⟩]⟩

theorem load_differentText : Snapshot.load differentText = .ok (pairSchema "x" "y") :=
  by decide +kernel

theorem load_sameText : Snapshot.load sameText = .ok (pairSchema "x" "x") :=
  by decide +kernel

/-- A list whose items have two sub-fields of different names has distinct keys. -/
theorem item_keys_of_different_names :
    ∃ definitions record, generate (pairSchema "x" "y") {} = .ok definitions ∧
      definitions = documentText [record, directory (pairSchema "x" "y") {}] ∧
      ∀ member ∈ record.members, ∃ type, TypeExpr.read? member.type = some type ∧
        ItemKeysDistinct type := by
  obtain ⟨definitions, hg⟩ : ∃ definitions, generate (pairSchema "x" "y") {} = .ok definitions :=
    ⟨_, rfl⟩
  obtain ⟨records, htext, hrecords⟩ := item_keys_distinct_iff load_differentText rfl hg
  obtain ⟨record, rest, ⟨-, hmembers⟩, hrest, rfl⟩ := List.forall₂_cons_left_iff.1 hrecords
  obtain rfl := List.forall₂_nil_left_iff.1 hrest
  refine ⟨definitions, record, hg, htext, fun member hmember => ?_⟩
  obtain ⟨only, more, ⟨own, type, hown, hread, hiff⟩, hmore, hmembers⟩ :=
    List.forall₂_cons_left_iff.1 hmembers
  obtain rfl := List.forall₂_nil_left_iff.1 hmore
  rw [hmembers, List.mem_singleton] at hmember
  subst hmember
  -- a field without relation shows nothing but the type that it has by itself
  have hself : member.type = own := by
    rw [hown]
    exact Text.append_empty own
  exact ⟨type, hself ▸ hread, hiff.2 (by decide)⟩

/-- **A list whose items have a key twice**: it is loaded, and its items are written with the two
members. -/
theorem item_keys_of_same_names :
    Snapshot.load sameText = .ok (pairSchema "x" "x") ∧
      generate (pairSchema "x" "x") {} = .ok ("export type A = \x7b\n" ++
        "  rows: \x7b x?: string; x?: string \x7d[];\n\x7d;\n\n" ++
        "export type CustomDirectusTypes = \x7b\n  a: A[];\n\x7d;\n") ∧
      ∃ type, TypeExpr.read? "\x7b x?: string; x?: string \x7d[]" = some type ∧
        ¬ ItemKeysDistinct type := by
  have hread : TypeExpr.read? "\x7b x?: string; x?: string \x7d[]" = some (.array (.object
      [⟨"x", true, .named "string"⟩, ⟨"x", true, .named "string"⟩])) := rfl
  refine ⟨load_sameText, by decide +kernel, _, hread, fun h => ?_⟩
  have hobject := h [⟨"x", true, .named "string"⟩, ⟨"x", true, .named "string"⟩]
    (by simp [TypeExpr.objects])
  rw [keysDistinct_iff] at hobject
  exact absurd hobject (show ¬ [("x" : Text), "x"].Nodup by decide)

end SchemaScribe.Typing
