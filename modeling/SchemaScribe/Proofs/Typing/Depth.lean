import Mathlib.Algebra.Order.BigOperators.Group.List
import Mathlib.Algebra.Ring.Int.Defs
import Mathlib.Data.List.Forall2
import Mathlib.Order.Bounds.Defs
import SchemaScribe.Proofs.Typing.Items

/-!
# The limit on lists within lists

Lists within lists are typed by their sub-fields down to `maxListDepth`, and a list that lies deeper
has the type of which nothing is known.  Here the type is compared with the one that it would have
without a limit (`fullType`): the two are the same exactly if no list lies too deep, which is told
by the number of lists within each other (`listHeight`).  What lies below the limit has no part in
the type at all (`depth_limit_is_exact`).
-/

namespace SchemaScribe.Typing

/-! ### Lists within lists -/

/-- A type and an interface for a list of items. -/
def holdsItems (type : Text) (interface : Option Text) : Bool :=
  structuredTypes.contains type && interface == some listInterface

/-- **A field lies below another one**: within `levels` lists, each of which holds the next, or the
field at the end, among its sub-fields that store a value. -/
inductive LiesBelow (top : Field) : Nat → Field → Prop
  | top : LiesBelow top 0 top
  | item {levels : Nat} {list field : Field} (h : LiesBelow top levels list)
    (hlist : holdsItems list.type list.interface = true) (hfield : field ∈ storedSubFields list) :
    LiesBelow top (levels + 1) field

/-- **Two fields are the same above a level**: they may differ in the sub-fields of lists that lie
that many lists below them, and deeper.  The sub-fields of a field that is no list lie in no list,
and nothing is asked of them. -/
def SameAbove : Nat → Field → Field → Prop
  | 0, field, other => other = { field with subFields := other.subFields }
  | levels + 1, field, other => other = { field with subFields := other.subFields } ∧
    (holdsItems field.type field.interface = true →
      List.Forall₂ (SameAbove levels) field.subFields other.subFields)

mutual

/-- **How many lists there are within each other**, the field itself included. -/
def listHeight : Field → Nat
  | ⟨_, type, _, _, _, interface, _, _, subFields, _⟩ =>
    if holdsItems type interface then itemsHeight subFields + 1 else 0

/-- How many lists there are within each other in one of the fields that store a value. -/
def itemsHeight : List Field → Nat
  | [] => 0
  | field :: rest =>
    if field.isPresentational then itemsHeight rest else max (listHeight field) (itemsHeight rest)

end

mutual

/-- **The type of the value that a field stores, without a limit** on lists within lists. -/
def fullType : Field → Text
  | ⟨name, type, nullable, required, primaryKey, interface, choices, allowOther, subFields,
      relation⟩ =>
    if holdsItems type interface then listType (fullMembers subFields)
    else primitiveType ⟨name, type, nullable, required, primaryKey, interface, choices, allowOther,
      subFields, relation⟩ 0

/-- The members of the items of a list, without a limit on lists within lists. -/
def fullMembers : List Field → List Text
  | [] => []
  | field :: rest =>
    if field.isPresentational then fullMembers rest
    else itemMember field (fullType field) :: fullMembers rest

end

/-! ### Lists and their sub-fields -/

variable {field other : Field} {depth : Int}

/-- A list is typed by its sub-fields, unless it lies too deep. -/
theorem primitiveType_of_holdsItems (h : holdsItems field.type field.interface = true)
    (depth : Int) :
    primitiveType field depth = if maxListDepth ≤ depth then unknownType
      else listType (itemMembers field.subFields (depth + 1)) := by
  obtain ⟨name, type, nullable, required, primaryKey, interface, choices, allowOther, subFields,
    relation⟩ := field
  simp only [holdsItems, Bool.and_eq_true, beq_iff_eq] at h
  have hgeometry := geometryType?_of_structured (List.contains_iff_mem.1 h.1)
  rw [primitiveType, hgeometry]
  dsimp only
  rw [if_pos h.1, if_pos h.2]

/-- The type of a field that is no list depends neither on its sub-fields nor on the depth. -/
theorem primitiveType_of_not_holdsItems (h : ¬ holdsItems field.type field.interface = true)
    (subFields : List Field) (depth depth' : Int) :
    primitiveType { field with subFields := subFields } depth' = primitiveType field depth := by
  obtain ⟨name, type, nullable, required, primaryKey, interface, choices, allowOther, others,
    relation⟩ := field
  rw [primitiveType, primitiveType]
  cases geometryType? type with
  | some geometry => rfl
  | none =>
    dsimp only
    split
    · next hstructured =>
      have hinterface : interface ≠ some listInterface := by
        rintro rfl
        exact h (by simp only [holdsItems, hstructured, BEq.rfl, Bool.and_self])
      rw [if_neg hinterface, if_neg hinterface]
    · rfl

/-- A function that skips the fields which store nothing is a map over the others. -/
theorem eq_map_of_skips {β : Type} {f : List Field → List β} {g : Field → β} (hnil : f [] = [])
    (hcons : ∀ field rest, f (field :: rest) =
      if field.isPresentational then f rest else g field :: f rest) (fields : List Field) :
    f fields = (fields.filter fun field => !field.isPresentational).map g := by
  induction fields with
  | nil => exact hnil
  | cons field rest ih =>
    rw [hcons, List.filter_cons]
    by_cases h : field.isPresentational = true
    · rw [if_pos h, if_neg (by simp [h]), ih]
    · rw [if_neg h, if_pos (by simp [h]), List.map_cons, ih]

theorem itemMembers_eq_map (fields : List Field) (depth : Int) :
    itemMembers fields depth = (fields.filter fun field => !field.isPresentational).map
      fun field => itemMember field (primitiveType field depth) :=
  eq_map_of_skips (f := fun fields => itemMembers fields depth) rfl (fun _ _ => by rw [itemMembers])
    fields

theorem fullMembers_eq_map (fields : List Field) :
    fullMembers fields = (fields.filter fun field => !field.isPresentational).map
      fun field => itemMember field (fullType field) :=
  eq_map_of_skips rfl (fun _ _ => by rw [fullMembers]) fields

theorem fullType_of_holdsItems (h : holdsItems field.type field.interface = true) :
    fullType field = listType (fullMembers field.subFields) := by
  cases field
  rw [fullType, if_pos h]

theorem fullType_of_not_holdsItems (h : ¬ holdsItems field.type field.interface = true)
    (depth : Int) : fullType field = primitiveType field depth := by
  have htype := primitiveType_of_not_holdsItems h field.subFields depth 0
  cases field
  rw [fullType, if_neg h]
  exact htype

/-! ### Heights -/

theorem listHeight_of_holdsItems (h : holdsItems field.type field.interface = true) :
    listHeight field = itemsHeight field.subFields + 1 := by
  cases field
  rw [listHeight, if_pos h]

theorem listHeight_of_not_holdsItems (h : ¬ holdsItems field.type field.interface = true) :
    listHeight field = 0 := by
  cases field
  rw [listHeight, if_neg h]

theorem listHeight_le_itemsHeight {fields : List Field}
    (h : field ∈ fields.filter fun field => !field.isPresentational) :
    listHeight field ≤ itemsHeight fields := by
  induction fields with
  | nil => cases h
  | cons first rest ih =>
    rw [itemsHeight]
    rw [List.filter_cons] at h
    by_cases hfirst : first.isPresentational = true
    · rw [if_neg (by simp [hfirst])] at h
      rw [if_pos hfirst]
      exact ih h
    · rw [if_pos (by simp [hfirst]), List.mem_cons] at h
      rw [if_neg hfirst]
      rcases h with rfl | h
      · exact le_max_left _ _
      · exact le_max_of_le_right (ih h)

/-- Where there are lists within fields, one of the fields reaches their height. -/
theorem exists_listHeight_eq {fields : List Field} (h : 0 < itemsHeight fields) :
    ∃ field ∈ fields.filter fun field => !field.isPresentational,
      listHeight field = itemsHeight fields := by
  induction fields with
  | nil => cases h
  | cons first rest ih =>
    rw [itemsHeight] at h ⊢
    rw [List.filter_cons]
    by_cases hfirst : first.isPresentational = true
    · rw [if_pos hfirst] at h ⊢
      rw [if_neg (by simp [hfirst])]
      exact ih h
    · rw [if_neg hfirst] at h ⊢
      rw [if_pos (by simp [hfirst])]
      -- the first of the fields that count is the highest, or one of the rest is
      rcases le_total (itemsHeight rest) (listHeight first) with hle | hle
      · exact ⟨first, List.mem_cons_self, (max_eq_left hle).symm⟩
      · rw [max_eq_right hle] at h ⊢
        obtain ⟨field, hfield, hheight⟩ := ih h
        exact ⟨field, List.mem_cons_of_mem _ hfield, hheight⟩

/-- The sub-fields of a list are less high than it is. -/
theorem listHeight_lt (hlist : holdsItems field.type field.interface = true)
    (h : other ∈ storedSubFields field) : listHeight other < listHeight field := by
  rw [listHeight_of_holdsItems hlist]
  exact Nat.lt_succ_of_le (listHeight_le_itemsHeight h)

/-- **Induction on lists within lists**: what holds of the sub-fields of a list holds of the
list. -/
theorem induction_on_lists {motive : Field → Prop}
    (other : ∀ field, ¬ holdsItems field.type field.interface = true → motive field)
    (list : ∀ field, holdsItems field.type field.interface = true →
      (∀ sub ∈ storedSubFields field, motive sub) → motive field) (field : Field) :
    motive field := by
  induction hn : listHeight field using Nat.strong_induction_on generalizing field with
  | _ n ih =>
    by_cases hlist : holdsItems field.type field.interface = true
    · refine list field hlist fun sub hsub => ?_
      exact ih (listHeight sub) (hn ▸ listHeight_lt hlist hsub) sub rfl
    · exact other field hlist

/-! ### Chains of lists -/

/-- What lies below a sub-field of a list lies below the list, one level deeper. -/
theorem LiesBelow.of_item {levels : Nat} {inner : Field}
    (hlist : holdsItems field.type field.interface = true) (hother : other ∈ storedSubFields field)
    (h : LiesBelow other levels inner) : LiesBelow field (levels + 1) inner := by
  induction h with
  | top => exact .item .top hlist hother
  | item _ hinner hsub ih => exact .item ih hinner hsub

theorem LiesBelow.add_listHeight_le {levels : Nat} {inner : Field}
    (h : LiesBelow field levels inner) : levels + listHeight inner ≤ listHeight field := by
  induction h with
  | top => exact (Nat.zero_add _).le
  | item _ hlist hsub ih =>
    have hlt := listHeight_lt hlist hsub
    omega

/-- **The height is the largest number of lists on a chain**: the lists above a field that lies
below the top, and the field itself if it is one. -/
theorem isGreatest_listHeight (field : Field) :
    IsGreatest {count | ∃ levels inner, LiesBelow field levels inner ∧
      count = levels + if holdsItems inner.type inner.interface then 1 else 0}
      (listHeight field) := by
  constructor
  · show ∃ levels inner, _ ∧ _
    induction field using induction_on_lists with
    | other field hlist =>
      refine ⟨0, field, .top, ?_⟩
      rw [listHeight_of_not_holdsItems hlist, if_neg hlist]
    | list field hlist ih =>
      rw [listHeight_of_holdsItems hlist]
      rcases Nat.eq_zero_or_pos (itemsHeight field.subFields) with hzero | hpos
      · -- without lists among its items the field itself is the only one on the chain
        refine ⟨0, field, .top, ?_⟩
        rw [hzero, if_pos hlist]
      · -- the highest item has a chain, which is one longer from here
        obtain ⟨sub, hsub, hheight⟩ := exists_listHeight_eq hpos
        obtain ⟨levels, inner, hinner, hcount⟩ := ih sub hsub
        refine ⟨levels + 1, inner, hinner.of_item hlist hsub, ?_⟩
        rw [← hheight, hcount, Nat.add_right_comm]
  · rintro count ⟨levels, inner, hinner, rfl⟩
    have hle := hinner.add_listHeight_le
    split
    · next hlist =>
      rw [listHeight_of_holdsItems hlist] at hle
      omega
    · omega

/-! ### Below the limit -/

theorem eq_of_sameAbove {levels : Nat} (h : SameAbove levels field other) :
    other = { field with subFields := other.subFields } := by
  cases levels with
  | zero => exact h
  | succ levels => exact h.1

/-- Fields that are the same but for their sub-fields are members of the same form. -/
theorem itemMember_congr (h : other = { field with subFields := other.subFields }) (type : Text) :
    itemMember other type = itemMember field type := by
  rw [h]
  rfl

theorem itemMembers_congr {fields others : List Field}
    (h : List.Forall₂ (fun field other => other = { field with subFields := other.subFields } ∧
      primitiveType field depth = primitiveType other depth) fields others) :
    itemMembers fields depth = itemMembers others depth := by
  induction h with
  | nil => rfl
  | @cons field other fields others hfirst _ ih =>
    obtain ⟨hsame, htype⟩ := hfirst
    have hpresentational : other.isPresentational = field.isPresentational := by
      rw [hsame]
      rfl
    rw [itemMembers, itemMembers, hpresentational, ih, htype, itemMember_congr hsame]

/-- **What lies below the limit is not told**: fields that are the same above it have the same
type. -/
theorem primitiveType_of_sameAbove {levels : Nat} (h : SameAbove levels field other)
    (hdepth : maxListDepth ≤ depth + levels) :
    primitiveType field depth = primitiveType other depth := by
  -- each list takes one of the levels, so a list is cut before they are used up
  induction levels generalizing field other depth with
  | zero =>
    by_cases hlist : holdsItems field.type field.interface = true
    · have hother : holdsItems other.type other.interface = true := by rwa [eq_of_sameAbove h]
      rw [Nat.cast_zero, add_zero] at hdepth
      rw [primitiveType_of_holdsItems hlist, primitiveType_of_holdsItems hother, if_pos hdepth,
        if_pos hdepth]
    · rw [eq_of_sameAbove h, primitiveType_of_not_holdsItems hlist]
  | succ levels ih =>
    by_cases hlist : holdsItems field.type field.interface = true
    · have hother : holdsItems other.type other.interface = true := by rwa [eq_of_sameAbove h]
      have hitems : itemMembers field.subFields (depth + 1) =
          itemMembers other.subFields (depth + 1) := by
        refine itemMembers_congr ((h.2 hlist).imp fun sub sub' hsub => ?_)
        exact ⟨eq_of_sameAbove hsub, ih hsub (by push_cast at hdepth; omega)⟩
      rw [primitiveType_of_holdsItems hlist, primitiveType_of_holdsItems hother, hitems]
    · rw [eq_of_sameAbove h, primitiveType_of_not_holdsItems hlist]

/-! ### Where the limit cuts -/

theorem infix_itemMember (field : Field) (type : Text) :
    type.toList <:+: (itemMember field type).toList := by
  rw [itemMember, Text.toList_append, Text.toList_append]
  exact List.infix_append _ _ _

theorem infix_listType {member : Text} {members : List Text} (h : member ∈ members) :
    member.toList <:+: (listType members).toList := by
  rw [listType, if_neg (by simpa using List.ne_nil_of_mem h), Text.toList_append,
    Text.toList_append]
  exact (infix_intercalate h).trans (List.infix_append _ _ _)

/-- A sub-field of a list that is not cut is shown as a member in its type. -/
theorem infix_primitiveType (hlist : holdsItems field.type field.interface = true)
    (hdepth : depth < maxListDepth) (hother : other ∈ storedSubFields field) :
    (itemMember other (primitiveType other (depth + 1))).toList <:+:
      (primitiveType field depth).toList := by
  rw [primitiveType_of_holdsItems hlist, if_neg (not_le.2 hdepth), itemMembers_eq_map]
  exact infix_listType (List.mem_map_of_mem hother)

/-- **A field is reached** where no list above it is cut: then its type is shown. -/
theorem LiesBelow.infix_primitiveType {levels : Nat} {inner : Field}
    (h : LiesBelow field levels inner)
    (habove : ∀ above < levels, depth + (above : Int) < maxListDepth) :
    (primitiveType inner (depth + levels)).toList <:+: (primitiveType field depth).toList := by
  induction h with
  | top => rw [Nat.cast_zero, add_zero]
  | @item levels list sub _ hlist hsub ih =>
    have hshown := ih fun above hlt => habove above (Nat.lt_succ_of_lt hlt)
    rw [Nat.cast_succ, ← add_assoc]
    exact ((infix_itemMember sub _).trans
      (Typing.infix_primitiveType hlist (habove levels (Nat.lt_succ_self levels)) hsub)).trans
        hshown

/-- **A list that is reached below the limit is told as unknown**: it is the field itself, or a
member within its type. -/
theorem LiesBelow.infix_unknownType {levels : Nat} {list : Field}
    (h : LiesBelow field levels list) (hlist : holdsItems list.type list.interface = true)
    (hdepth : maxListDepth ≤ depth + levels)
    (habove : ∀ above < levels, depth + (above : Int) < maxListDepth) :
    (list = field ∧ primitiveType field depth = unknownType) ∨
      (itemMember list unknownType).toList <:+: (primitiveType field depth).toList := by
  have hunknown : primitiveType list (depth + levels) = unknownType := by
    rw [primitiveType_of_holdsItems hlist, if_pos hdepth]
  cases h with
  | top =>
    rw [Nat.cast_zero, add_zero] at hunknown
    exact Or.inl ⟨rfl, hunknown⟩
  | @item levels above _ h habove' hlist' =>
    right
    -- the type of the list above holds it as a member, and lies itself within that of the field
    have hreached := h.infix_primitiveType fun n hn => habove n (Nat.lt_succ_of_lt hn)
    rw [Nat.cast_succ, ← add_assoc] at hunknown
    rw [← hunknown]
    have hmember :=
      Typing.infix_primitiveType habove' (habove levels (Nat.lt_succ_self levels)) hlist'
    exact hmember.trans hreached

/-! ### Types without a limit -/

theorem length_intercalate (separator first : Text) (rest : List Text) :
    (Text.intercalate separator (first :: rest)).length =
      first.length + (rest.map fun part => separator.length + part.length).sum := by
  induction rest generalizing first with
  | nil => rw [Text.intercalate_singleton, List.map_nil, List.sum_nil, add_zero]
  | cons second more ih =>
    rw [Text.intercalate_cons_cons, Text.length_append, Text.length_append, ih,
      List.map_cons, List.sum_cons]
    omega

/-- The members of the items of a list take two signs more than they are long, and the list takes
four. -/
theorem length_listType {members : List Text} (hne : members ≠ []) :
    (listType members).length = 4 + (members.map fun member => 2 + member.length).sum := by
  cases members with
  | nil => exact absurd rfl hne
  | cons first rest =>
    have hopening : ("\x7b " : Text).length = 2 := rfl
    have hclosing : (" \x7d[]" : Text).length = 4 := rfl
    have hseparator : ("; " : Text).length = 2 := rfl
    rw [listType, List.isEmpty_cons, if_neg Bool.false_ne_true, Text.length_append,
      Text.length_append, length_intercalate, hopening, hclosing, hseparator, List.map_cons,
      List.sum_cons]
    omega

theorem length_itemMember (field : Field) (type : Text) :
    (itemMember field type).length = (itemMember field "").length + type.length := by
  simp only [itemMember, Text.length_append]
  have hempty : ("" : Text).length = 0 := rfl
  omega

/-- A list of items is written longer than what is unknown. -/
theorem length_unknownType_lt (fields : List Field) :
    unknownType.length < (listType (fullMembers fields)).length := by
  have hunknown : unknownType.length = 7 := rfl
  have hcolon : (": " : Text).length = 2 := rfl
  rw [hunknown, fullMembers_eq_map]
  cases fields.filter fun field => !field.isPresentational with
  | nil => decide
  | cons first rest =>
    rw [length_listType (by simp), List.map_cons, List.map_cons, List.sum_cons]
    simp only [itemMember, Text.length_append]
    omega

/-- The length of a list of items is told by the lengths of the types of its members. -/
theorem length_listType_map {fields : List Field} (hne : fields ≠ []) (type : Field → Text) :
    (listType (fields.map fun field => itemMember field (type field))).length =
      4 + (fields.map fun field =>
        2 + (itemMember field "").length + (type field).length).sum := by
  rw [length_listType (by simpa using hne), List.map_map]
  refine congrArg (fun lengths => 4 + lengths.sum) (List.map_congr_left fun field _ => ?_)
  rw [Function.comp_apply, length_itemMember, add_assoc]

/-- Lists that lie too deep in a list that does not lie in one of its sub-fields. -/
theorem exists_deep_subField (hlist : holdsItems field.type field.interface = true)
    (hdepth : depth < maxListDepth) (hdeep : maxListDepth < depth + listHeight field) :
    ∃ sub ∈ storedSubFields field, listHeight sub ≠ 0 ∧
      maxListDepth < depth + 1 + listHeight sub := by
  rw [listHeight_of_holdsItems hlist, Nat.cast_succ] at hdeep
  have hpos : 0 < itemsHeight field.subFields := by omega
  obtain ⟨sub, hsub, hheight⟩ := exists_listHeight_eq hpos
  exact ⟨sub, hsub, by omega, by omega⟩

/-- **The limit only takes away from a type**, and it takes something away wherever lists lie too
deep. -/
theorem length_primitiveType (field : Field) : ∀ depth : Int,
    (primitiveType field depth).length ≤ (fullType field).length ∧
      (listHeight field ≠ 0 → maxListDepth < depth + listHeight field →
        (primitiveType field depth).length < (fullType field).length) := by
  induction field using induction_on_lists with
  | other field hlist =>
    intro depth
    rw [fullType_of_not_holdsItems hlist depth]
    exact ⟨le_rfl, fun hheight => absurd (listHeight_of_not_holdsItems hlist) hheight⟩
  | list field hlist ih =>
    intro depth
    rw [fullType_of_holdsItems hlist, primitiveType_of_holdsItems hlist]
    split
    · have hlt := length_unknownType_lt field.subFields
      exact ⟨hlt.le, fun _ _ => hlt⟩
    · next hdepth =>
      -- the list itself is not cut, so what is taken away is taken from one of its sub-fields
      have hdeepest := fun hdeep => exists_deep_subField hlist (not_le.1 hdepth) hdeep
      have hle : ∀ sub ∈ storedSubFields field,
          2 + (itemMember sub "").length + (primitiveType sub (depth + 1)).length ≤
            2 + (itemMember sub "").length + (fullType sub).length :=
        fun sub hsub => Nat.add_le_add_left (ih sub hsub (depth + 1)).1 _
      rw [itemMembers_eq_map, fullMembers_eq_map]
      by_cases hne : storedSubFields field = []
      · rw [hne] at hdeepest
        rw [← storedSubFields, hne]
        refine ⟨le_rfl, fun _ hdeep => ?_⟩
        obtain ⟨sub, hsub, -⟩ := hdeepest hdeep
        cases hsub
      · rw [← storedSubFields, length_listType_map hne, length_listType_map hne]
        refine ⟨Nat.add_le_add_left (List.sum_le_sum hle) 4, fun _ hdeep => ?_⟩
        obtain ⟨sub, hsub, hheight, hlt⟩ := hdeepest hdeep
        refine Nat.add_lt_add_left (List.sum_lt_sum _ _ hle ⟨sub, hsub, ?_⟩) 4
        exact Nat.add_lt_add_left ((ih sub hsub (depth + 1)).2 hheight hlt) _

theorem primitiveType_eq_fullType (field : Field) : ∀ depth : Int,
    (listHeight field = 0 ∨ depth + listHeight field ≤ maxListDepth) →
      primitiveType field depth = fullType field := by
  induction field using induction_on_lists with
  | other field hlist =>
    intro depth _
    exact (fullType_of_not_holdsItems hlist depth).symm
  | list field hlist ih =>
    intro depth hdepth
    rw [listHeight_of_holdsItems hlist, or_iff_right (Nat.succ_ne_zero _), Nat.cast_succ] at hdepth
    have hmembers : itemMembers field.subFields (depth + 1) = fullMembers field.subFields := by
      rw [itemMembers_eq_map, fullMembers_eq_map]
      refine List.map_congr_left fun sub hsub => ?_
      have hheight := listHeight_le_itemsHeight hsub
      rw [ih sub hsub (depth + 1) (Or.inr (by omega))]
    rw [fullType_of_holdsItems hlist, primitiveType_of_holdsItems hlist, if_neg (by omega),
      hmembers]

/-- **A type is told in full exactly if no list in it lies too deep.** -/
theorem primitiveType_eq_fullType_iff :
    primitiveType field depth = fullType field ↔
      listHeight field = 0 ∨ depth + listHeight field ≤ maxListDepth := by
  refine ⟨fun h => ?_, primitiveType_eq_fullType field depth⟩
  by_contra hdeep
  rw [not_or, not_le] at hdeep
  have hlt := (length_primitiveType field depth).2 hdeep.1 hdeep.2
  rw [h] at hlt
  exact lt_irrefl _ hlt

/-! ### The limit -/

/-- **The limit cuts at its depth and nowhere else.**  Below it nothing is told: fields that are the
same above it have the same type, and each list that is reached there is written as unknown.  Above
it everything is told: a field whose lists all lie within the limit has the same type at any depth,
which is the one without a limit; and it has that one only then. -/
theorem depth_limit_is_exact (field : Field) (depth : Int) :
    (∀ (levels : Nat) (other : Field), maxListDepth ≤ depth + levels →
      SameAbove levels field other → primitiveType field depth = primitiveType other depth) ∧
    (∀ (levels : Nat) (list : Field), LiesBelow field levels list →
      holdsItems list.type list.interface = true → maxListDepth ≤ depth + levels →
      (∀ above < levels, depth + (above : Int) < maxListDepth) →
        (list = field ∧ primitiveType field depth = unknownType) ∨
          (itemMember list unknownType).toList <:+: (primitiveType field depth).toList) ∧
    IsGreatest {count | ∃ levels inner, LiesBelow field levels inner ∧
      count = levels + if holdsItems inner.type inner.interface then 1 else 0}
      (listHeight field) ∧
    (∀ depth' : Int, depth + listHeight field ≤ maxListDepth →
      depth' + listHeight field ≤ maxListDepth →
        primitiveType field depth = primitiveType field depth') ∧
    (primitiveType field depth = fullType field ↔
      listHeight field = 0 ∨ depth + listHeight field ≤ maxListDepth) := by
  refine ⟨fun levels other hdepth h => primitiveType_of_sameAbove h hdepth,
    fun levels list h hlist hdepth habove => h.infix_unknownType hlist hdepth habove,
    isGreatest_listHeight field, fun depth' hdepth hdepth' => ?_, primitiveType_eq_fullType_iff⟩
  rw [primitiveType_eq_fullType field depth (Or.inr hdepth),
    primitiveType_eq_fullType field depth' (Or.inr hdepth')]

/-- Lists within each other with a number in the innermost one. -/
def nestedLists : Nat → Field
  | 0 => { name := "x", type := "integer" }
  | count + 1 =>
    { name := "rows", type := "json", interface := some "list", subFields := [nestedLists count] }

/-- Of three lists within each other the last is cut at depth six, where it makes no difference what
is in it; one level up none is. -/
theorem depth_limit_nestedLists :
    primitiveType (nestedLists 3) 6 = primitiveType (nestedLists 5) 6 ∧
      (Text.toList "rows?: unknown") <:+: (primitiveType (nestedLists 3) 6).toList ∧
      primitiveType (nestedLists 3) 6 ≠ fullType (nestedLists 3) ∧
      primitiveType (nestedLists 3) 5 = primitiveType (nestedLists 3) (-2) ∧
      primitiveType (nestedLists 3) 5 = fullType (nestedLists 3) := by
  obtain ⟨hbelow, hcut, -, -, hfull⟩ := depth_limit_is_exact (nestedLists 3) 6
  obtain ⟨-, -, -, habove, hfull'⟩ := depth_limit_is_exact (nestedLists 3) 5
  have hlies : LiesBelow (nestedLists 3) 2 (nestedLists 1) :=
    .item (.item .top rfl List.mem_cons_self) rfl List.mem_cons_self
  refine ⟨hbelow 2 _ le_rfl ⟨rfl, fun _ => .cons ⟨rfl, fun _ => .cons rfl .nil⟩ .nil⟩, ?_, ?_,
    habove (-2) (by decide) (by decide), hfull'.2 (Or.inr (by decide))⟩
  · rcases hcut 2 _ hlies rfl le_rfl (by decide) with ⟨htop, -⟩ | hshown
    · exact absurd (congrArg listHeight htop) (by decide)
    · exact hshown
  · rw [ne_eq, hfull]
    decide

end SchemaScribe.Typing
