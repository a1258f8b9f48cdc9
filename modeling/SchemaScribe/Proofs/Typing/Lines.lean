import SchemaScribe.Proofs.Json.Quoted
import SchemaScribe.Proofs.Typing.References

/-!
# Types stand on one line

Names and choices of a schema may hold anything, but no type that is written for a field breaks its
line (`oneLine_type_of_resolve`): names that are not plain are quoted, and so are choices.  The
names of record types are the exception, so those that a type refers to have to be on one line
themselves.
-/

namespace SchemaScribe.Typing

/-- **A text without a line break.** -/
def OneLine (text : Text) : Prop := .char '\n' ∉ text.toList

instance (text : Text) : Decidable (OneLine text) :=
  inferInstanceAs (Decidable (.char '\n' ∉ text.toList))

@[simp] theorem oneLine_append_iff {a b : Text} : OneLine (a ++ b) ↔ OneLine a ∧ OneLine b := by
  simp [OneLine]

theorem oneLine_intercalate {separator : Text} {parts : List Text} (hs : OneLine separator)
    (h : ∀ part ∈ parts, OneLine part) : OneLine (Text.intercalate separator parts) := by
  induction parts with
  | nil => simp [OneLine]
  | cons first rest ih =>
    rw [List.forall_mem_cons] at h
    cases rest with
    | nil => rw [Text.intercalate_singleton]; exact h.1
    | cons second rest =>
      rw [Text.intercalate_cons_cons, oneLine_append_iff, oneLine_append_iff]
      exact ⟨⟨h.1, hs⟩, ih h.2⟩

/-! ### Names -/

theorem oneLine_quote (text : Text) : OneLine (Json.quote text) := by
  -- a line break inside of a literal is escaped
  rw [OneLine, Json.quote, Text.toList_ofList]
  exact Json.newline_notMem_quoteChars text.toList

theorem isIdentifierPart_of_isPlainIdentifier {cs : List CodePoint}
    (h : isPlainIdentifier cs = true) :
    ∀ c ∈ cs, isIdentifierPart c = true := by
  cases cs with
  | nil => cases h
  | cons c rest =>
    rw [isPlainIdentifier, Bool.and_eq_true, List.all_eq_true] at h
    rw [List.forall_mem_cons]
    exact ⟨by rw [isIdentifierPart, h.1, Bool.true_or], h.2⟩

theorem ne_nil_of_isPlainIdentifier {cs : List CodePoint} (h : isPlainIdentifier cs = true) :
    cs ≠ [] := by
  rintro rfl
  cases h

theorem oneLine_of_isPlainIdentifier {name : Text} (h : isPlainIdentifier name.toList = true) :
    OneLine name := by
  intro hmem
  have hpart : isIdentifierPart '\n' = true := isIdentifierPart_of_isPlainIdentifier h _ hmem
  exact absurd hpart (by decide)

theorem oneLine_memberIdentifier (name : Text) : OneLine (memberIdentifier name) := by
  rw [memberIdentifier]
  split
  · next h => exact oneLine_of_isPlainIdentifier h
  · exact oneLine_quote name

/-! ### Numbers -/

theorem newline_notMem_decimalDigits (n : Nat) : .char '\n' ∉ Text.decimalDigits n := by
  intro h
  exact absurd (Text.isDigit_of_mem_decimalDigits h) (by decide)

theorem oneLine_toString_int (n : Int) : OneLine (toString n) := by
  rw [OneLine, Text.toList_toString_int]
  split
  · exact newline_notMem_decimalDigits _
  · exact List.not_mem_cons_of_ne_of_not_mem (by decide) (newline_notMem_decimalDigits _)

theorem newline_notMem_stripZeros {digits : List CodePoint} (h : .char '\n' ∉ digits) :
    .char '\n' ∉ Binary64.stripZeros digits := by
  have hdrop : .char '\n' ∉ (digits.reverse.dropWhile (· == .char '0')).reverse := by
    intro hmem
    exact h (List.mem_reverse.1 ((List.dropWhile_sublist _).mem (List.mem_reverse.1 hmem)))
  rw [Binary64.stripZeros]
  split
  · decide
  · exact hdrop

theorem newline_notMem_exponentText (e : Int) : .char '\n' ∉ Binary64.exponentText e := by
  have hdigits : .char '\n' ∉ Text.decimalDigits e.natAbs := newline_notMem_decimalDigits e.natAbs
  rw [Binary64.exponentText]
  split <;> split <;> simp [hdigits]

theorem newline_notMem_layOut {digits : List CodePoint} (h : .char '\n' ∉ digits) (e : Int) :
    .char '\n' ∉ Binary64.layOut digits e := by
  have htake : ∀ n, .char '\n' ∉ digits.take n := fun n hmem => h (List.mem_of_mem_take hmem)
  have hdrop : ∀ n, .char '\n' ∉ digits.drop n := fun n hmem => h (List.mem_of_mem_drop hmem)
  have hexponent : .char '\n' ∉ Binary64.exponentText e := newline_notMem_exponentText e
  unfold Binary64.layOut
  -- positional below one, positional from one on, and with an exponent
  split
  · split
    · simp [h, List.mem_replicate]
    · dsimp only
      split <;> simp [htake, hdrop, List.mem_replicate]
  · split <;> simp_all

theorem newline_notMem_decimal (d : Binary64.Decimal) : .char '\n' ∉ d.text := by
  rw [Binary64.Decimal.text]
  exact newline_notMem_layOut (newline_notMem_stripZeros (newline_notMem_decimalDigits d.digits)) _

theorem oneLine_binary64 (value : Binary64) : OneLine (value.text literalWords) := by
  cases value with
  | finite negative rank =>
    rw [OneLine, Binary64.text, Text.toList_ofList, List.mem_append, not_or]
    exact ⟨by cases negative <;> decide, newline_notMem_decimal _⟩
  | infinite negative => cases negative <;> decide
  | nan => decide

/-! ### Choices -/

theorem oneLine_literal (value : ChoiceValue) : OneLine (literal value) := by
  cases value with
  | null => decide
  | bool value => cases value <;> decide
  | int value => exact oneLine_toString_int value
  | float value => exact oneLine_binary64 value
  | text value => exact oneLine_quote value

theorem oneLine_union {types : List Text} (h : ∀ type ∈ types, OneLine type) :
    OneLine (union types) := oneLine_intercalate (by decide) h

theorem oneLine_literalUnion (values : List ChoiceValue) : OneLine (literalUnion values) := by
  apply oneLine_union
  intro type htype
  rw [mem_distinct, List.mem_map] at htype
  obtain ⟨value, -, rfl⟩ := htype
  exact oneLine_literal value

theorem oneLine_literalsOr {values : List ChoiceValue} {allowOther : Bool} {fallback : Text}
    (h : OneLine fallback) : OneLine (literalsOr values allowOther fallback) := by
  rw [literalsOr]
  split
  · exact h
  · exact oneLine_literalUnion values

theorem oneLine_arrayOf {element : Text} (h : OneLine element) : OneLine (arrayOf element) := by
  have hbrackets : OneLine "[]" := by decide
  have hparentheses : OneLine "(" ∧ OneLine ")[]" := by decide
  rw [arrayOf]
  split <;> simp [h, hbrackets, hparentheses]

theorem oneLine_chosenType (interface : Option Text) (choices : List Choice)
    (allowOther : Bool) : OneLine (chosenType interface choices allowOther) := by
  have htext : OneLine "string" := by decide
  cases interface with
  | none => exact (by decide : OneLine unknownType)
  | some interface =>
    rw [chosenType]
    split
    · exact oneLine_arrayOf (oneLine_literalsOr htext)
    split
    · exact oneLine_arrayOf (oneLine_literalsOr htext)
    · decide

theorem oneLine_selectedType (type : Text) (interface : Option Text) (choices : List Choice)
    (allowOther : Bool) : OneLine (selectedType type interface choices allowOther) := by
  have hscalar : OneLine (scalarType type) := by
    rw [scalarType]
    split
    · decide
    split
    · decide
    · decide
  rw [selectedType]
  split
  · exact oneLine_literalsOr hscalar
  · exact hscalar

/-! ### Stored values -/

theorem oneLine_of_geometryType? {type geometry : Text}
    (h : geometryType? type = some geometry) : OneLine geometry := by
  obtain ⟨entry, hentry, rfl⟩ := Option.map_eq_some_iff.1 h
  have hall : ∀ entry ∈ geometryShapes, OneLine (geometryObject entry.1 entry.2) := by
    decide +kernel
  exact hall entry (List.mem_of_find?_eq_some hentry)

theorem oneLine_listType {members : List Text} (h : ∀ member ∈ members, OneLine member) :
    OneLine (listType members) := by
  have hopen : OneLine "\x7b " ∧ OneLine " \x7d[]" := by decide
  have hmembers : OneLine (Text.intercalate "; " members) := oneLine_intercalate (by decide) h
  rw [listType]
  split
  · decide
  · simp [hopen, hmembers]

theorem oneLine_itemMember {field : Field} {type : Text} (h : OneLine type) :
    OneLine (itemMember field type) := by
  have hparts : OneLine "" ∧ OneLine "?" ∧ OneLine ": " ∧ OneLine " | null" := by decide
  have hname : OneLine (memberIdentifier field.name) := oneLine_memberIdentifier field.name
  rw [itemMember]
  split <;> split <;> simp [h, hparts, hname]

mutual

/-- The type of a stored value, at any depth of lists. -/
theorem oneLine_primitiveType :
    ∀ (field : Field) (depth : Int), OneLine (primitiveType field depth)
  | ⟨_, _, _, _, _, _, _, _, subFields, _⟩, depth => by
    rw [primitiveType]
    split
    · next h => exact oneLine_of_geometryType? h
    split
    · split
      · split
        · decide
        · exact oneLine_listType (oneLine_itemMembers subFields (depth + 1))
      · exact oneLine_chosenType _ _ _
    · exact oneLine_selectedType _ _ _ _

theorem oneLine_itemMembers :
    ∀ (fields : List Field) (depth : Int), ∀ member ∈ itemMembers fields depth, OneLine member
  | [], _ => by simp [itemMembers]
  | field :: rest, depth => by
    have hrest : ∀ member ∈ itemMembers rest depth, OneLine member :=
      oneLine_itemMembers rest depth
    rw [itemMembers]
    split
    · exact hrest
    · rw [List.forall_mem_cons]
      exact ⟨oneLine_itemMember (oneLine_primitiveType field depth), hrest⟩

end

/-! ### Fields -/

theorem oneLine_baseType {schema : Schema} {collection type : Text} {field : Field}
    (h : baseType schema collection field = .ok type) : OneLine type := by
  rw [baseType] at h
  split at h
  · obtain rfl := Except.ok.inj h
    exact oneLine_primitiveType field 0
  · obtain ⟨-, -, h⟩ := bind_eq_ok_iff.1 h
    obtain rfl := pure_eq_ok_iff.1 h
    exact oneLine_primitiveType field 0
  · obtain ⟨key, -, h⟩ := bind_eq_ok_iff.1 h
    obtain rfl := pure_eq_ok_iff.1 h
    exact oneLine_append_iff.2 ⟨oneLine_primitiveType key 0, by decide⟩
  · obtain rfl := Except.ok.inj h
    decide
  · obtain rfl := Except.ok.inj h
    rw [orElse]
    split
    · decide
    · exact oneLine_literalUnion _
  · cases h

/-- Types are joined as alternatives or as an intersection. -/
theorem joiner_eq_or_eq (useIntersectionTypes : Bool) (relation : Relation) :
    joiner useIntersectionTypes relation = " | " ∨
      joiner useIntersectionTypes relation = " & " := by
  cases relation with
  | any alternatives => exact Or.inl rfl
  | _ =>
    cases useIntersectionTypes with
    | false => exact Or.inl rfl
    | true => exact Or.inr rfl

theorem oneLine_joiner (useIntersectionTypes : Bool) (relation : Relation) :
    OneLine (joiner useIntersectionTypes relation) := by
  rcases joiner_eq_or_eq useIntersectionTypes relation with h | h <;> rw [h] <;> decide

theorem oneLine_relatedType {field : Field} {relation : Relation} {related : Text}
    (hr : field.relation = some relation) (h : relatedType relation = .ok related)
    (ht : ∀ target ∈ targets field, OneLine (pascalCase target)) : OneLine related := by
  rw [targets, hr] at ht
  cases relation with
  | one target =>
    obtain rfl := Except.ok.inj h
    exact ht target (List.mem_singleton_self target)
  | many target =>
    obtain rfl := Except.ok.inj h
    exact oneLine_append_iff.2 ⟨ht target (List.mem_singleton_self target), by decide⟩
  | any alternatives =>
    obtain rfl := Except.ok.inj h
    rw [orElse]
    split
    · decide
    · exact oneLine_union (by simpa using ht)
  | _ => cases h

/-- **The type of a member stands on one line** when the names of the record types that it refers to
do. -/
theorem oneLine_type_of_resolve {schema : Schema} {options : Options} {collection : Text}
    {field : Field} {member : Member}
    (h : resolve schema options collection field = .ok (some member))
    (ht : ∀ target ∈ targets field, OneLine (pascalCase target)) : OneLine member.type := by
  obtain ⟨-, type, htype, rfl⟩ := resolve_eq_ok_some_iff.1 h
  have hparts : OneLine "(" ∧ OneLine ") | null" ∧ OneLine " | null" := by decide
  -- every part of the type is on one line, and what joins them is too
  have hrequired : OneLine type := by
    obtain ⟨base, hbase, htype⟩ := bind_eq_ok_iff.1 htype
    have hbase : OneLine base := oneLine_baseType hbase
    split at htype
    · obtain rfl := pure_eq_ok_iff.1 htype; exact hbase
    · obtain rfl := pure_eq_ok_iff.1 htype; exact hbase
    · next relation hr =>
      obtain ⟨related, hrelated, htype⟩ := bind_eq_ok_iff.1 htype
      obtain rfl := pure_eq_ok_iff.1 htype
      have hrelated : OneLine related := oneLine_relatedType hr hrelated ht
      simp [hbase, oneLine_joiner, hrelated]
  show OneLine (if isOptional options field then orNull options field type else type)
  rw [orNull]
  split
  · split <;> simp [hparts, hrequired]
  · exact hrequired

end SchemaScribe.Typing
