import Mathlib.Data.List.Nodup
import Mathlib.Tactic.Convert
import SchemaScribe.Proofs.Snapshot.WellFormed
import SchemaScribe.Proofs.Text.Case
import SchemaScribe.Proofs.Typing.Members

/-!
# What the types of relations denote

A relation is typed by its keys beside the related records, and the key type is written out where it
stands.  Where that type is a union, what is written behind it belongs to its last alternative: the
brackets of a list (`keyedLists`) and the ampersand of an intersection (`keyedRecord`).  So keys are
grouped as a whole exactly if their type is no union, and it is one exactly if the key field offers
several choices and nothing else (`NarrowsToUnion`).
-/

namespace SchemaScribe.Typing

open TypeExpr (unite intersect)

/-! ### Names of record types -/

/-- A name in Pascal case does not begin with a small letter. -/
theorem isLower_head_pascalChars {cs : List CodePoint} {c : CodePoint}
    (h : (pascalChars true cs).head? = some c) : c.isLower = false := by
  induction cs with
  | nil => cases h
  | cons first rest ih =>
    rw [pascalChars] at h
    split at h
    · exact ih h
    · obtain ⟨d, more, hupper, hlower⟩ := Text.exists_upperChar first
      rw [if_pos rfl, hupper] at h
      obtain rfl := Option.some.inj h
      exact hlower

/-- A name in Pascal case is none of the words for values. -/
theorem wordType_pascalCase (name : Text) :
    wordType (pascalCase name) = .named (pascalCase name) := by
  have hne : ∀ word : Text, word.toList.head?.any CodePoint.isLower = true →
      pascalCase name ≠ word := by
    rintro word hword rfl
    rw [pascalCase, Text.toList_ofList, Option.any_eq_true] at hword
    obtain ⟨c, hc, hlower⟩ := hword
    rw [isLower_head_pascalChars hc] at hlower
    cases hlower
  rw [wordType]
  · exact hne "null" (by decide)
  · exact hne "true" (by decide)
  · exact hne "false" (by decide)

theorem single_pascalCase {name : Text}
    (h : isPlainIdentifier (pascalCase name).toList = true) :
    Single (pascalCase name) (.named (pascalCase name)) :=
  single_word h (wordType_pascalCase name)

/-! ### What stands behind a type -/

/-- Types joined as the options say. -/
def joinTypes (useIntersectionTypes : Bool) (types : List TypeExpr) : TypeExpr :=
  if useIntersectionTypes then intersect types else unite types

/-- **What brackets of a list behind a type make of it**: a list of its last alternative only. -/
def listedLast (type : TypeExpr) : TypeExpr :=
  unite (type.otherAlternatives ++ [.array type.lastAlternative])

/-- **What another type behind a type makes of it**: an ampersand takes only its last
alternative. -/
def joinedLast (useIntersectionTypes : Bool) (type next : TypeExpr) : TypeExpr :=
  if useIntersectionTypes then
    unite (type.otherAlternatives ++ [intersect [type.lastAlternative, next]])
  else unite [type, next]

theorem writes_listedLast {text : Text} {type : TypeExpr} (h : Writes text type) :
    Writes (text ++ "[]") (listedLast type) :=
  writes_unite (h.paste (fun _ _ hlast => hlast.array) fun _ _ hother => hother)

/-- Brackets of a list behind a type bring nothing to what is collected from it. -/
theorem TypeExpr.Collects.listedLast {β : Type} {f : TypeExpr → List β} (hf : Collects f)
    (type : TypeExpr) : f (listedLast type) = f type := by
  rw [Typing.listedLast, hf.unite (by simp), List.flatMap_append, List.flatMap_singleton, hf.array,
    ← List.flatMap_singleton f, ← List.flatMap_append, ← alternatives_eq_append,
    hf.flatMap_alternatives]

theorem reads_joinedLast {text next : Text} {type other : TypeExpr} (h : Writes text type)
    (hnext : Single next other) (useIntersectionTypes : Bool) :
    Reads union? [.char '|', .char '&']
      (text ++ (if useIntersectionTypes then (" & " : Text) else unionSeparator) ++ next)
      (joinedLast useIntersectionTypes type other) := by
  cases useIntersectionTypes with
  | true =>
    -- an ampersand binds tighter than the bars before it
    have hlast : ∀ text last, Single text last →
        Reads intersection? [.char '&'] (text ++ (" & " ++ next)) (intersect [last, other]) := by
      intro text last hlast
      rw [← Text.append_assoc]
      exact reads_intersection ((Joined.one hlast.1).more hnext.1)
    have hpasted := h.paste hlast fun _ _ hother => hother.1.intersection
    rw [← Text.append_assoc] at hpasted
    exact reads_union hpasted
  | false => exact (h.or hnext).reads

/-- **The type of a relation in an intersection**, or null where the field is optional. -/
theorem read?_orNull {signs : List CodePoint} {text : Text} {type : TypeExpr} {options : Options}
    {field : Field} (h : Reads union? signs text type) (hrelation : field.relation.isSome = true)
    (hoptions : options.useIntersectionTypes = true) :
    TypeExpr.read? (if isOptional options field then orNull options field text else text) =
      some (withNull (isOptional options field) type) := by
  rw [withNull]
  split
  · have hnull : Reads operand? [] "null" (.literal .null) := reads_word (by decide)
    have hjoined :=
      reads_union ((Joined.one h.parentheses.intersection).more hnull.intersection)
    rw [orNull, hrelation, hoptions, Bool.and_true, if_pos rfl]
    convert hjoined.read?_eq using 2
    · simp [← Text.toList_inj]
    · rfl
  · exact h.read?_eq

/-! ### Keys as a whole -/

/-- A type whose alternatives are no unions themselves. -/
def IsFlat (type : TypeExpr) : Prop :=
  ∀ alternative ∈ type.alternatives, alternative.isUnion = false

theorem isFlat_unite {types : List TypeExpr} (hne : types ≠ [])
    (h : ∀ type ∈ types, type.isUnion = false) : IsFlat (unite types) := by
  rw [IsFlat, TypeExpr.alternatives_unite hne h]
  exact h

theorem isUnion_intersect (a b : TypeExpr) : (intersect [a, b]).isUnion = false := by
  cases a <;> cases b <;> rfl

theorem otherAlternatives_eq_nil_iff {type : TypeExpr} :
    type.otherAlternatives = [] ↔ type.isUnion = false := by
  cases type <;> simp [TypeExpr.otherAlternatives, TypeExpr.isUnion]

/-- Of a type that is no union, the last alternative is all there is. -/
theorem lastAlternative_eq_self {type : TypeExpr} (h : type.isUnion = false) :
    type.lastAlternative = type := by
  cases type with
  | union first second more => cases h
  | _ => rfl

theorem isFlat_of_isUnion {type : TypeExpr} (h : type.isUnion = false) : IsFlat type := by
  rw [IsFlat, TypeExpr.alternatives_eq_singleton h, List.forall_mem_singleton]
  exact h

theorem alternatives_unite_pair {type other : TypeExpr} (h : IsFlat type)
    (hother : other.isUnion = false) :
    (unite [type, other]).alternatives = type.alternatives ++ [other] := by
  have hall : ∀ t ∈ type.alternatives ++ [other], t.isUnion = false := by
    rw [List.forall_mem_append, List.forall_mem_singleton]
    exact ⟨h, hother⟩
  have hunite : unite [type, other] = unite (type.alternatives ++ [other]) := by
    rw [TypeExpr.unite_eq_ofAlternatives hall, unite]
    simp [TypeExpr.alternatives_eq_singleton hother]
  rw [hunite, TypeExpr.alternatives_unite (by simp) hall]

/-- A type is told from its union with another one. -/
theorem unite_pair_inj {a b other : TypeExpr} (ha : IsFlat a) (hb : IsFlat b)
    (hother : other.isUnion = false) (h : unite [a, other] = unite [b, other]) : a = b := by
  have halternatives := congrArg TypeExpr.alternatives h
  rw [alternatives_unite_pair ha hother, alternatives_unite_pair hb hother,
    List.append_cancel_right_eq] at halternatives
  rw [← TypeExpr.ofAlternatives_alternatives a, halternatives,
    TypeExpr.ofAlternatives_alternatives]

/-- A type is told from what it is with or without null. -/
theorem withNull_inj {a b : TypeExpr} (ha : IsFlat a) (hb : IsFlat b) {nullable : Bool} :
    withNull nullable a = withNull nullable b ↔ a = b := by
  constructor
  · intro h
    cases nullable with
    | true => exact unite_pair_inj ha hb rfl h
    | false => exact h
  · rintro rfl
    rfl

theorem IsFlat.pasted {type last : TypeExpr} (h : IsFlat type) (hlast : last.isUnion = false) :
    ∀ alternative ∈ type.otherAlternatives ++ [last], alternative.isUnion = false := by
  rw [IsFlat, TypeExpr.alternatives_eq_append, List.forall_mem_append] at h
  rw [List.forall_mem_append, List.forall_mem_singleton]
  exact ⟨h.1, hlast⟩

theorem isFlat_joinedLast {type other : TypeExpr} (h : IsFlat type) :
    IsFlat (joinedLast true type other) :=
  isFlat_unite (by simp) (h.pasted (isUnion_intersect _ _))

theorem length_alternatives_joinedLast {type other : TypeExpr} (h : IsFlat type)
    (hother : other.isUnion = false) (useIntersectionTypes : Bool) :
    (joinedLast useIntersectionTypes type other).alternatives.length =
      type.otherAlternatives.length + if useIntersectionTypes then 1 else 2 := by
  cases useIntersectionTypes with
  | true =>
    rw [joinedLast, if_pos rfl,
      TypeExpr.alternatives_unite (by simp) (h.pasted (isUnion_intersect _ _))]
    simp
  | false =>
    rw [joinedLast, if_neg Bool.false_ne_true, alternatives_unite_pair h hother,
      TypeExpr.alternatives_eq_append]
    simp

theorem length_alternatives_joinTypes {a b : TypeExpr} (ha : a.isUnion = false)
    (hb : b.isUnion = false) (useIntersectionTypes : Bool) :
    (joinTypes useIntersectionTypes [a, b]).alternatives.length =
      if useIntersectionTypes then 1 else 2 := by
  cases useIntersectionTypes with
  | true =>
    rw [joinTypes, if_pos rfl, TypeExpr.alternatives_eq_singleton (isUnion_intersect a b)]
    rfl
  | false =>
    rw [joinTypes, if_neg Bool.false_ne_true, alternatives_unite_pair (isFlat_of_isUnion ha) hb,
      TypeExpr.alternatives_eq_singleton ha]
    rfl

theorem joinedLast_eq_joinTypes {type other : TypeExpr} (h : type.isUnion = false)
    (useIntersectionTypes : Bool) :
    joinedLast useIntersectionTypes type other = joinTypes useIntersectionTypes [type, other] := by
  cases useIntersectionTypes with
  | true =>
    rw [joinedLast, if_pos rfl, otherAlternatives_eq_nil_iff.2 h, lastAlternative_eq_self h,
      List.nil_append, TypeExpr.unite_singleton]
    rfl
  | false => rfl

/-- **A key is in intersection with a record as a whole** exactly if it is no union. -/
theorem joinedLast_eq_intersect_iff {key record : TypeExpr} (h : IsFlat key)
    (hrecord : record.isUnion = false) :
    joinedLast true key record = intersect [key, record] ↔ key.isUnion = false := by
  constructor
  · intro heq
    -- an intersection is one alternative, so the key has no other
    have hlength := length_alternatives_joinedLast h hrecord true
    rw [heq, TypeExpr.alternatives_eq_singleton (isUnion_intersect key record)] at hlength
    rw [← otherAlternatives_eq_nil_iff, ← List.length_eq_zero_iff]
    simpa using hlength.symm
  · intro hkey
    exact joinedLast_eq_joinTypes hkey true

/-- **A list is of keys as a whole** exactly if the key is no union. -/
theorem joinedLast_listedLast_eq_iff {key record : TypeExpr} (h : IsFlat key)
    (useIntersectionTypes : Bool) :
    joinedLast useIntersectionTypes (listedLast key) (.array record) =
      joinTypes useIntersectionTypes [.array key, .array record] ↔ key.isUnion = false := by
  constructor
  · intro heq
    -- the other alternatives of the key stay outside of the list, and so there are none
    have hflat : ∀ type ∈ key.otherAlternatives ++ [.array key.lastAlternative],
        type.isUnion = false := h.pasted rfl
    have hothers : (listedLast key).otherAlternatives.length = key.otherAlternatives.length := by
      have hlisted := congrArg List.length (TypeExpr.alternatives_unite (by simp) hflat)
      rw [TypeExpr.alternatives_eq_append, List.length_append, List.length_append] at hlisted
      exact Nat.add_right_cancel hlisted
    have hlist : IsFlat (listedLast key) := isFlat_unite (by simp) hflat
    have hrecord : (TypeExpr.array record).isUnion = false := rfl
    have hlength := length_alternatives_joinedLast hlist hrecord useIntersectionTypes
    rw [heq, length_alternatives_joinTypes rfl rfl, hothers] at hlength
    rw [← otherAlternatives_eq_nil_iff, ← List.length_eq_zero_iff]
    omega
  · intro hkey
    have hlisted : listedLast key = .array key := by
      rw [listedLast, otherAlternatives_eq_nil_iff.2 hkey, lastAlternative_eq_self hkey,
        List.nil_append, TypeExpr.unite_singleton]
    rw [hlisted]
    exact joinedLast_eq_joinTypes rfl useIntersectionTypes

/-! ### Fields that store a union -/

/-- **A field whose type is a union**: it takes one of several choices and nothing else. -/
structure NarrowsToUnion (field : Field) : Prop where
  scalar : geometryType? field.type = none ∧ field.type ∉ structuredTypes
  single : ∃ interface ∈ field.interface, interface ∈ singleChoiceInterfaces
  closed : field.allowOther = false
  several : ∃ a ∈ field.choices, ∃ b ∈ field.choices,
    choiceLiteral a.value ≠ choiceLiteral b.value

/-- Without its repetitions, a list has several members exactly if two of them differ. -/
theorem two_le_length_distinct_iff {α : Type} [DecidableEq α] {as : List α} :
    2 ≤ (distinct as).length ↔ ∃ a ∈ as, ∃ b ∈ as, a ≠ b := by
  have hmem : ∀ a, a ∈ distinct as ↔ a ∈ as := fun a => mem_distinct
  have hnodup := nodup_distinct as
  constructor
  · intro h
    cases hd : distinct as with
    | nil => rw [hd] at h; exact absurd h (by simp)
    | cons a rest =>
      cases rest with
      | nil => rw [hd] at h; exact absurd h (by simp)
      | cons b more =>
        rw [hd, List.nodup_cons] at hnodup
        refine ⟨a, (hmem a).1 (by simp [hd]), b, (hmem b).1 (by simp [hd]), ?_⟩
        -- the first two members differ, since none is repeated
        rintro rfl
        exact hnodup.1 List.mem_cons_self
  · rintro ⟨a, ha, b, hb, hne⟩
    rw [← hmem] at ha hb
    cases hd : distinct as with
    | nil => rw [hd] at ha; cases ha
    | cons x rest =>
      cases rest with
      | nil =>
        rw [hd, List.mem_singleton] at ha hb
        exact absurd (ha.trans hb.symm) hne
      | cons y more => simp

theorem isUnion_ofAlternatives {types : List TypeExpr} (h : ∀ type ∈ types, type.isUnion = false) :
    (TypeExpr.ofAlternatives types).isUnion = true ↔ 2 ≤ types.length := by
  cases types with
  | nil => simp [TypeExpr.ofAlternatives, TypeExpr.isUnion]
  | cons first rest =>
    cases rest with
    | nil => simp [TypeExpr.ofAlternatives, h first]
    | cons second more => simp [TypeExpr.ofAlternatives, TypeExpr.isUnion]

theorem isUnion_choiceType {values : List ChoiceValue} {allowOther : Bool} {fallback : TypeExpr}
    (hf : fallback.isUnion = false) :
    (choiceType values allowOther fallback).isUnion = true ↔
      allowOther = false ∧ ∃ a ∈ values, ∃ b ∈ values, choiceLiteral a ≠ choiceLiteral b := by
  rw [choiceType]
  split
  · next hor =>
    -- with nothing to choose from, or anything, the type is the fallback
    rw [hf]
    refine iff_of_false Bool.false_ne_true ?_
    rintro ⟨hclosed, a, ha, -⟩
    rw [hclosed, Bool.false_or, List.isEmpty_iff] at hor
    rw [hor] at ha
    cases ha
  · next hor =>
    -- the literals are no unions, so their number decides
    have hliterals : ∀ type ∈ choiceTypes values, type.isUnion = false := by
      intro type htype
      obtain ⟨literal, -, rfl⟩ := List.mem_map.1 htype
      rfl
    have hclosed : allowOther = false := by
      rw [Bool.or_eq_true, not_or] at hor
      exact Bool.eq_false_iff.2 hor.1
    rw [TypeExpr.unite_eq_ofAlternatives hliterals, isUnion_ofAlternatives hliterals, choiceTypes,
      List.length_map, two_le_length_distinct_iff]
    simp [hclosed]

theorem isUnion_structuredChoice (interface : Option Text) (choices : List Choice)
    (allowOther : Bool) : (structuredChoice interface choices allowOther).isUnion = false := by
  rw [structuredChoice]
  split
  · rfl
  · split <;> rfl

/-- **The type of a stored value is a union** exactly if the field narrows to one. -/
theorem isUnion_storedType_iff {field : Field} (depth : Int) :
    (storedType field depth).isUnion = true ↔ NarrowsToUnion field := by
  obtain ⟨name, type, nullable, required, primaryKey, interface, choices, allowOther, subFields,
    relation⟩ := field
  have hinterface : interface.any singleChoiceInterfaces.contains = true ↔
      ∃ i ∈ interface, i ∈ singleChoiceInterfaces := by
    rw [Option.any_eq_true]
    simp
  rw [storedType]
  cases hshape : shapeType? type with
  | some shape =>
    obtain ⟨entry, -, rfl⟩ := Option.map_eq_some_iff.1 hshape
    refine iff_of_false Bool.false_ne_true ?_
    rintro ⟨⟨hnone, -⟩, -⟩
    rw [geometryType?_eq_none_iff.1 hnone] at hshape
    cases hshape
  | none =>
    dsimp only
    split
    · next hstructured =>
      -- a structured value is a list or unknown
      have hfalse : ∀ t : TypeExpr, t.isUnion = false →
          (t.isUnion = true ↔ NarrowsToUnion ⟨name, type, nullable, required, primaryKey, interface,
            choices, allowOther, subFields, relation⟩) := by
        intro t ht
        rw [ht]
        refine iff_of_false Bool.false_ne_true ?_
        rintro ⟨⟨-, hscalar⟩, -⟩
        exact hscalar (by simpa using hstructured)
      apply hfalse
      split
      · split <;> rfl
      · exact isUnion_structuredChoice interface choices allowOther
    · next hscalar =>
      rw [scalarChoice]
      split
      · next hsingle =>
        rw [isUnion_choiceType rfl]
        constructor
        · rintro ⟨hclosed, a, ha, b, hb, hne⟩
          obtain ⟨first, hfirst, rfl⟩ := List.mem_map.1 ha
          obtain ⟨second, hsecond, rfl⟩ := List.mem_map.1 hb
          exact ⟨⟨geometryType?_eq_none_iff.2 hshape, by simpa using hscalar⟩,
            hinterface.1 hsingle, hclosed, first, hfirst, second, hsecond, hne⟩
        · rintro ⟨-, -, hclosed, first, hfirst, second, hsecond, hne⟩
          exact ⟨hclosed, _, List.mem_map_of_mem hfirst, _, List.mem_map_of_mem hsecond, hne⟩
      · next hsingle =>
        refine iff_of_false Bool.false_ne_true ?_
        rintro ⟨-, hoffers, -⟩
        exact hsingle (hinterface.2 hoffers)

/-! ### Relations -/

theorem mem_fields_of_primaryKeyField? {c : Collection} {key : Field}
    (h : c.primaryKeyField? = some key) : key ∈ c.fields := by
  rw [Collection.primaryKeyField?, Option.or_eq_some_iff] at h
  rcases h with h | ⟨-, h⟩
  · exact List.mem_of_find?_eq_some h
  · exact List.mem_of_find?_eq_some h

theorem findKey_eq_ok {schema : Schema} {collection target : Text} {field key : Field}
    {c : Collection} (hc : schema.find? target = some c) (hkey : c.primaryKeyField? = some key) :
    findKey schema collection field target = .ok key := by
  have hhas : schema.has target = true := by
    rw [← Schema.find?_isSome, hc]
    rfl
  have hget : schema.get target = .ok c := by rw [Schema.get, hc]
  rw [findKey, requireCollection, if_pos hhas, hget]
  simp only [Except.mapError, bind, Except.bind, hkey]
  rfl

theorem requiredType_many {schema : Schema} {options : Options} {collection target : Text}
    {field key : Field} (hrelation : field.relation = some (.many target))
    (hkey : findKey schema collection field target = .ok key) :
    requiredType schema options collection field = .ok (primitiveType key 0 ++ "[]" ++
      (if options.useIntersectionTypes then (" & " : Text) else unionSeparator) ++
        (pascalCase target ++ "[]")) := by
  rw [requiredType, baseType, hrelation]
  dsimp only
  rw [hkey]
  rfl

theorem requiredType_one {schema : Schema} {options : Options} {collection target : Text}
    {field : Field} (hrelation : field.relation = some (.one target))
    (htarget : target ∈ schema.names) :
    requiredType schema options collection field = .ok (primitiveType field 0 ++
      (if options.useIntersectionTypes then (" & " : Text) else unionSeparator) ++
        pascalCase target) := by
  rw [requiredType, baseType, hrelation]
  dsimp only
  rw [requireCollection, if_pos (Schema.has_iff.2 htarget)]
  rfl

/-- **The type of a relation to many records.**  Its keys are in a list as a whole exactly if the
key field does not narrow to a union. -/
theorem resolve_many_groups_key_iff {text : Text} {schema : Schema}
    (hload : Snapshot.load text = .ok schema) (options : Options) {target : Text}
    {c : Collection} (hc : schema.find? target = some c) {key : Field}
    (hkey : c.primaryKeyField? = some key)
    (hname : isPlainIdentifier (pascalCase target).toList = true) (collection : Text)
    {field : Field} (hstored : field.isPresentational = false) (hnullable : field.nullable = false)
    (hrelation : field.relation = some (.many target)) :
    ∃ (keyType : TypeExpr) (type : Text),
      TypeExpr.read? (primitiveType key 0) = some keyType ∧
      resolve schema options collection field = .ok (some ⟨field.name, type, false⟩) ∧
      TypeExpr.read? type = some (joinedLast options.useIntersectionTypes (listedLast keyType)
        (.array (.named (pascalCase target)))) ∧
      (TypeExpr.read? type = some (joinTypes options.useIntersectionTypes
        [.array keyType, .array (.named (pascalCase target))]) ↔ ¬ NarrowsToUnion key) := by
  have hfinite : ∀ value ∈ choiceValues key, value.isFinite = true :=
    Snapshot.isFinite_of_load hload (List.mem_of_find?_eq_some hc)
      (mem_fields_of_primaryKeyField? hkey)
  -- the brackets behind the text of the key belong to its last alternative
  have hwrites := writes_primitiveType key 0 hfinite
  have hread := (reads_joinedLast (writes_listedLast hwrites) (single_pascalCase hname).array
    options.useIntersectionTypes).read?_eq
  refine ⟨storedType key 0, _, hwrites.reads.read?_eq, ?_, hread, ?_⟩
  · have hrequired : isOptional options field = false := by
      rw [isOptional, hnullable, Bool.false_and]
    rw [resolve_eq_ok_some_iff]
    refine ⟨hstored, _, requiredType_many hrelation (findKey_eq_ok hc hkey), ?_⟩
    rw [hrequired, if_neg Bool.false_ne_true]
  · rw [hread, Option.some.injEq, joinedLast_listedLast_eq_iff hwrites.forall_isUnion,
      ← isUnion_storedType_iff 0]
    simp

/-- A text whose posts relate to many tags.  A post is told by a number, a tag by one of two
choices. -/
def choiceKeyText : Text :=
  "\x7b\"tags\":\x7b\"fields\":[\x7b\"field\":\"id\"," ++
    "\"meta\":\x7b\"interface\":\"select-radio\"," ++
    "\"options\":\x7b\"choices\":[\"a\",\"b\"]\x7d\x7d\x7d]\x7d," ++
    "\"posts\":\x7b\"fields\":[\x7b\"field\":\"id\",\"type\":\"integer\"\x7d," ++
    "\x7b\"field\":\"tags\"," ++
    "\"relation\":\x7b\"type\":\"many\",\"collection\":\"tags\"\x7d\x7d]\x7d\x7d"

def choiceKey : Field :=
  { name := "id", type := "string", interface := some "select-radio",
    choices := [⟨.text "a", []⟩, ⟨.text "b", []⟩] }

def numberKey : Field := { name := "id", type := "integer" }

def manyTags : Field := { name := "tags", type := "string", relation := some (.many "tags") }

def choiceKeyPosts : Collection := ⟨"posts", false, [numberKey, manyTags]⟩

/-- The schema of `choiceKeyText`. -/
def choiceKeySchema : Schema :=
  ⟨[⟨"tags", false, [choiceKey]⟩, choiceKeyPosts]⟩

def manyPosts : Field := { name := "posts", type := "alias", relation := some (.many "posts") }

theorem load_choiceKeyText : Snapshot.load choiceKeyText = .ok choiceKeySchema :=
  by decide +kernel

/-- Many posts are lists of whole keys. -/
theorem lists_of_numberKey :
    ∃ type, resolve choiceKeySchema { useIntersectionTypes := true } "tags" manyPosts =
        .ok (some ⟨"posts", type, false⟩) ∧
      TypeExpr.read? type =
        some (intersect [.array (.named "number"), .array (.named "Posts")]) := by
  have hposts : choiceKeySchema.find? "posts" = some choiceKeyPosts := rfl
  have hid : choiceKeyPosts.primaryKeyField? = some numberKey := rfl
  have hmany : manyPosts.relation = some (.many "posts") := rfl
  obtain ⟨keyType, type, hkey, hresolve, -, hiff⟩ :=
    resolve_many_groups_key_iff load_choiceKeyText { useIntersectionTypes := true } hposts hid
      (by decide) "tags" rfl rfl hmany
  have hnumber : TypeExpr.read? (primitiveType numberKey 0) = some (.named "number") := rfl
  obtain rfl := Option.some.inj (hkey.symm.trans hnumber)
  have hplain : ¬ NarrowsToUnion numberKey := by
    rintro ⟨-, ⟨interface, hinterface, -⟩, -⟩
    cases hinterface
  exact ⟨type, hresolve, hiff.2 hplain⟩

/-- The type of many tags is not that of lists of whole keys: only the last choice is in a list. -/
theorem lists_of_choiceKey :
    Snapshot.load choiceKeyText = .ok choiceKeySchema ∧
      (choiceKeySchema.find? "tags").bind Collection.primaryKeyField? = some choiceKey ∧
      TypeExpr.read? (primitiveType choiceKey 0) =
        some (.union (.literal (.text "a")) (.literal (.text "b")) []) ∧
      resolve choiceKeySchema {} "posts" manyTags =
        .ok (some ⟨"tags", "\"a\" | \"b\"[] | Tags[]", false⟩) ∧
      TypeExpr.read? "\"a\" | \"b\"[] | Tags[]" = some (.union (.literal (.text "a"))
        (.array (.literal (.text "b"))) [.array (.named "Tags")]) ∧
      TypeExpr.read? "\"a\" | \"b\"[] | Tags[]" ≠ some (unite
        [.array (.union (.literal (.text "a")) (.literal (.text "b")) []),
          .array (.named "Tags")]) := by
  have hread : TypeExpr.read? "\"a\" | \"b\"[] | Tags[]" = some (.union (.literal (.text "a"))
      (.array (.literal (.text "b"))) [.array (.named "Tags")]) := rfl
  refine ⟨load_choiceKeyText, rfl, rfl, rfl, hread, ?_⟩
  rw [hread]
  intro h
  cases Option.some.inj h

/-- **The type of a relation to one record in an intersection.**  The key is in it as a whole
exactly if the field does not narrow to a union. -/
theorem resolve_one_groups_key_iff {text : Text} {schema : Schema}
    (hload : Snapshot.load text = .ok schema) {options : Options}
    (hoptions : options.useIntersectionTypes = true) {c : Collection}
    (hc : c ∈ schema.collections) {field : Field} (hf : field ∈ c.fields)
    (hstored : field.isPresentational = false) {target : Text}
    (hrelation : field.relation = some (.one target)) (htarget : target ∈ schema.names)
    (hname : isPlainIdentifier (pascalCase target).toList = true) :
    ∃ (keyType : TypeExpr) (member : Member),
      TypeExpr.read? (primitiveType field 0) = some keyType ∧
      resolve schema options c.name field = .ok (some member) ∧
      TypeExpr.read? member.type = some (withNull (isOptional options field)
        (joinedLast true keyType (.named (pascalCase target)))) ∧
      (TypeExpr.read? member.type = some (withNull (isOptional options field)
        (intersect [keyType, .named (pascalCase target)])) ↔ ¬ NarrowsToUnion field) := by
  have hwrites := writes_primitiveType field 0 (Snapshot.isFinite_of_load hload hc hf)
  have hreads := reads_joinedLast hwrites (single_pascalCase hname) true
  have hrequired : requiredType schema options c.name field = _ :=
    requiredType_one hrelation htarget
  rw [hoptions] at hrequired
  -- null is put around the whole, so the question is what is inside of it
  have hsome : field.relation.isSome = true := by rw [hrelation]; rfl
  have hread := read?_orNull hreads hsome hoptions
  refine ⟨storedType field 0, _, hwrites.reads.read?_eq,
    resolve_eq_ok_some_iff.2 ⟨hstored, _, hrequired, rfl⟩, hread, ?_⟩
  rw [hread, Option.some.injEq, withNull_inj (isFlat_joinedLast hwrites.forall_isUnion)
    (isFlat_of_isUnion (isUnion_intersect _ _)),
    joinedLast_eq_intersect_iff hwrites.forall_isUnion rfl, ← isUnion_storedType_iff 0]
  simp

/-- A text whose tags have another tag, told by one of two choices, and perhaps a parent. -/
def choiceText : Text :=
  "\x7b\"tags\":\x7b\"fields\":[\x7b\"field\":\"tag\"," ++
    "\"meta\":\x7b\"interface\":\"select-dropdown\"," ++
    "\"options\":\x7b\"choices\":[\"a\",\"b\"]\x7d\x7d," ++
    "\"relation\":\x7b\"type\":\"one\",\"collection\":\"tags\"\x7d\x7d," ++
    "\x7b\"field\":\"parent\",\"type\":\"integer\"," ++
    "\"schema\":\x7b\"is_nullable\":true\x7d," ++
    "\"relation\":\x7b\"type\":\"one\",\"collection\":\"tags\"\x7d\x7d]\x7d\x7d"

/-- A relation to one tag by one of two choices. -/
def oneTag : Field :=
  { name := "tag", type := "string", interface := some "select-dropdown",
    choices := [⟨.text "a", []⟩, ⟨.text "b", []⟩], relation := some (.one "tags") }

/-- A relation to one tag by a number, which may be missing. -/
def parentTag : Field :=
  { name := "parent", type := "integer", nullable := true, relation := some (.one "tags") }

def choiceTags : Collection := ⟨"tags", false, [oneTag, parentTag]⟩

/-- The schema of `choiceText`. -/
def choiceSchema : Schema := ⟨[choiceTags]⟩

theorem load_choiceText : Snapshot.load choiceText = .ok choiceSchema :=
  by decide +kernel

/-- The parent of a tag is a whole key in an intersection, or null. -/
theorem intersection_of_parentTag :
    ∃ member, resolve choiceSchema { useIntersectionTypes := true } "tags" parentTag =
        .ok (some member) ∧
      TypeExpr.read? member.type =
        some (unite [intersect [.named "number", .named "Tags"], .literal .null]) := by
  have htags : choiceTags ∈ choiceSchema.collections := List.mem_singleton_self choiceTags
  have hparent : parentTag ∈ choiceTags.fields := by simp [choiceTags]
  have hone : parentTag.relation = some (.one "tags") := rfl
  have hoptions : Options.useIntersectionTypes { useIntersectionTypes := true } = true := rfl
  obtain ⟨keyType, member, hkey, hresolve, -, hiff⟩ :=
    resolve_one_groups_key_iff load_choiceText hoptions htags hparent rfl hone (by decide)
      (by decide)
  have hnumber : TypeExpr.read? (primitiveType parentTag 0) = some (.named "number") := rfl
  obtain rfl := Option.some.inj (hkey.symm.trans hnumber)
  have hplain : ¬ NarrowsToUnion parentTag := by
    rintro ⟨-, ⟨interface, hinterface, -⟩, -⟩
    cases hinterface
  exact ⟨member, hresolve, hiff.2 hplain⟩

/-- The other tag of a tag is not a whole key in an intersection: only the last choice is in it. -/
theorem intersection_of_oneTag :
    Snapshot.load choiceText = .ok choiceSchema ∧
      TypeExpr.read? (primitiveType oneTag 0) =
        some (.union (.literal (.text "a")) (.literal (.text "b")) []) ∧
      resolve choiceSchema { useIntersectionTypes := true } "tags" oneTag =
        .ok (some ⟨"tag", "\"a\" | \"b\" & Tags", false⟩) ∧
      TypeExpr.read? "\"a\" | \"b\" & Tags" = some (.union (.literal (.text "a"))
        (.intersection (.literal (.text "b")) (.named "Tags") []) []) ∧
      TypeExpr.read? "\"a\" | \"b\" & Tags" ≠ some (intersect
        [.union (.literal (.text "a")) (.literal (.text "b")) [], .named "Tags"]) := by
  have hread : TypeExpr.read? "\"a\" | \"b\" & Tags" = some (.union (.literal (.text "a"))
      (.intersection (.literal (.text "b")) (.named "Tags") []) []) := rfl
  refine ⟨load_choiceText, rfl, rfl, hread, ?_⟩
  rw [hread]
  intro h
  cases Option.some.inj h

end SchemaScribe.Typing
