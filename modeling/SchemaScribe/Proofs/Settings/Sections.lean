import Mathlib.Algebra.Group.Nat.Defs
import Mathlib.Tactic.Tauto
import SchemaScribe.Proofs.Disk.Answer
import SchemaScribe.Settings.Read

/-!
# What the sections of a configuration have to be

Each reader of a part of a configuration settles a condition on its value (`Settles`): where the
condition holds it gives a value that can be told from the part alone, and where it does not the
configuration is refused.  The conditions are stated without the readers, as what a part is or may
be: null, a text, a flag, a mapping.
-/

namespace SchemaScribe.Settings

open Yaml (Value Scalar)

/-! ### Outcomes that settle a condition -/

/-- **An outcome settles a condition**: there is a value, and a good one, where the condition holds,
and there is a bad fault where it does not. -/
inductive Settles {ε α : Type} (p : Prop) (good : α → Prop) (bad : ε → Prop) : Except ε α → Prop
  | ok {a : α} (hp : p) (h : good a) : Settles p good bad (.ok a)
  | error {e : ε} (hp : ¬ p) (h : bad e) : Settles p good bad (.error e)

namespace Settles

variable {ε ε' α β : Type} {p q : Prop} {good : α → Prop} {good' : β → Prop} {bad bad' : ε → Prop}
  {x : Except ε α}

theorem imp (h : Settles p good bad x) {good' : α → Prop} (hp : p ↔ q)
    (hgood : ∀ a, p → good a → good' a) (hbad : ∀ e, ¬ p → bad e → bad' e) :
    Settles q good' bad' x := by
  cases h with
  | ok hp' h => exact .ok (hp.1 hp') (hgood _ hp' h)
  | error hp' h => exact .error (fun hq => hp' (hp.2 hq)) (hbad _ hp' h)

theorem congr (h : Settles p good bad x) (hp : p ↔ q) : Settles q good bad x :=
  h.imp hp (fun _ _ hgood => hgood) fun _ _ hbad => hbad

theorem weaken (h : Settles p good bad x) (hbad : ∀ e, ¬ p → bad e → bad' e) :
    Settles p good bad' x :=
  h.imp Iff.rfl (fun _ _ hgood => hgood) hbad

/-- A sequence settles both conditions of its steps. -/
theorem bind {f : α → Except ε β} (hx : Settles p good bad x)
    (hf : ∀ a, p → good a → Settles q good' bad (f a)) :
    Settles (p ∧ q) good' bad (x >>= f) := by
  cases hx with
  | ok hp h => exact (hf _ hp h).congr (by simp [hp])
  | error hp h => exact .error (fun hpq => hp hpq.1) h

theorem map {f : α → β} (hx : Settles p good bad x) (hf : ∀ a, good a → good' (f a)) :
    Settles p good' bad (x >>= fun a => pure (f a)) := by
  cases hx with
  | ok hp h => exact .ok hp (hf _ h)
  | error hp h => exact .error hp h

theorem succeeds_iff (h : Settles p good bad x) : Succeeds x ↔ p := by
  cases h with
  | ok hp h => exact iff_of_true succeeds_ok hp
  | error hp h => exact iff_of_false not_succeeds_error hp

theorem good_of_ok (h : Settles p good bad x) {a : α} (hx : x = .ok a) : p ∧ good a := by
  subst hx
  cases h with
  | ok hp h => exact ⟨hp, h⟩

theorem bad_of_error (h : Settles p good bad x) {e : ε} (hx : x = .error e) : ¬ p ∧ bad e := by
  subst hx
  cases h with
  | error hp h => exact ⟨hp, h⟩

end Settles

/-! ### Parts of a value -/

/-- The pairs of a mapping, and none of any other value. -/
def pairsOf : Value → List (Scalar × Value)
  | .mapping pairs => pairs
  | _ => []

/-- **The part of a mapping under a key**, null if there is none. -/
def part (key : Text) (value : Value) : Value := Value.under key (pairsOf value)

/-- The value is a mapping. -/
def IsMapping (value : Value) : Prop := ∃ pairs, value = .mapping pairs

/-- The value is a text. -/
def IsText (value : Value) : Prop := ∃ text, value = .scalar (.text text)

/-- The value is a text that is not blank. -/
def IsWords (value : Value) : Prop := ∃ text, value = .scalar (.text text) ∧ Text.trim text ≠ ""

/-- The value is a truth value. -/
def IsFlag (value : Value) : Prop := ∃ flag, value = .scalar (.bool flag)

/-- The value is null, or it is as asked. -/
def MayBe (p : Value → Prop) (value : Value) : Prop := value = .null ∨ p value

/-- The text of a value without the blanks around it, and none of a value that is no text. -/
def wordsOf : Value → Text
  | .scalar (.text text) => Text.trim text
  | _ => ""

/-- The text of a value without the blanks around it, if something is left. -/
def words? (value : Value) : Option Text :=
  if wordsOf value = "" then none else some (wordsOf value)

/-- A flag that is set. -/
def isSet : Value → Bool
  | .scalar (.bool flag) => flag
  | _ => false

/-- **A fault of the configuration itself**, which is reported as such: neither one of the disk nor
one of a value that is out of range. -/
def Fault.IsOwn (fault : Fault) : Prop :=
  match fault with
  | .document fault => fault.isMalformed
  | .disk _ => False
  | .nameTooLong => False
  | _ => True

/-! ### Single values -/

theorem settles_requireMapping (name : Text) (value : Value) :
    Settles (IsMapping value) (· = pairsOf value) Fault.IsOwn (requireMapping name value) := by
  cases value with
  | mapping pairs => exact .ok ⟨pairs, rfl⟩ rfl
  | scalar _ => exact .error (by rintro ⟨_, ⟨⟩⟩) trivial
  | list _ => exact .error (by rintro ⟨_, ⟨⟩⟩) trivial
  | set _ => exact .error (by rintro ⟨_, ⟨⟩⟩) trivial

/-- A section that may be missing gives its pairs, and none if it is. -/
theorem settles_sections (value : Value) :
    Settles (MayBe IsMapping value) (· = pairsOf value) Fault.IsOwn (sections value) := by
  unfold sections
  split
  · exact .ok (Or.inl rfl) rfl
  · exact .ok (Or.inr ⟨_, rfl⟩) rfl
  · next hnull hmapping =>
    refine .error ?_ trivial
    rintro (rfl | ⟨pairs, rfl⟩)
    · exact hnull rfl
    · exact hmapping pairs rfl

theorem settles_optionalText (setting : Text) (value : Value) :
    Settles (MayBe IsText value) (· = words? value) Fault.IsOwn (optionalText setting value) := by
  unfold optionalText
  split
  · exact .ok (Or.inl rfl) rfl
  · exact .ok (Or.inr ⟨_, rfl⟩) rfl
  · next hnull htext =>
    refine .error ?_ trivial
    rintro (rfl | ⟨text, rfl⟩)
    · exact hnull rfl
    · exact htext text rfl

theorem settles_requireText (setting : Text) (value : Value) :
    Settles (IsWords value) (· = wordsOf value) Fault.IsOwn (requireText setting value) := by
  unfold requireText
  split
  · next text =>
    dsimp only
    split
    · next hblank =>
      refine .error ?_ trivial
      rintro ⟨_, ⟨⟩, hne⟩
      exact hne hblank
    · next hne => exact .ok ⟨text, rfl, hne⟩ rfl
  · next htext =>
    refine .error ?_ trivial
    rintro ⟨text, rfl, -⟩
    exact htext text rfl

theorem settles_optionalFlag (setting : Text) (value : Value) :
    Settles (MayBe IsFlag value) (· = isSet value) Fault.IsOwn (optionalFlag setting value) := by
  unfold optionalFlag
  split
  · exact .ok (Or.inl rfl) rfl
  · exact .ok (Or.inr ⟨_, rfl⟩) rfl
  · next hnull hflag =>
    refine .error ?_ trivial
    rintro (rfl | ⟨flag, rfl⟩)
    · exact hnull rfl
    · exact hflag flag rfl

/-! ### The schema section -/

/-- **A schema section names its source** when just one of the two parts is given, and that one is a
text. -/
structure NamesSource (value : Value) : Prop where
  one : (part "inline" value).isTruthy ≠ (part "path" value).isTruthy
  inlineText : (part "inline" value).isTruthy → IsText (part "inline" value)
  pathText : (part "path" value).isTruthy → IsText (part "path" value)

/-- The text of a value as it is written. -/
def writtenIn : Value → Text
  | .scalar (.text text) => text
  | _ => ""

/-- The source that a schema section names. -/
def sourceIn (value : Value) : Source :=
  if (part "inline" value).isTruthy then .inline (writtenIn (part "inline" value))
  else .file (.ofText (writtenIn (part "path" value)))

theorem settles_source (value : Value) :
    Settles (IsMapping value ∧ NamesSource value) (· = sourceIn value) Fault.IsOwn
      (Source.ofValue value) := by
  rw [Source.ofValue]
  refine (settles_requireMapping "schema" value).bind ?_
  rintro pairs - rfl
  have hinline : Value.under "inline" (pairsOf value) = part "inline" value := rfl
  have hpath : Value.under "path" (pairsOf value) = part "path" value := rfl
  rw [hinline, hpath, sourceIn]
  dsimp only
  -- each of the two may be given or not, and only one may
  cases hi : (part "inline" value).isTruthy with
  | true =>
    cases hp : (part "path" value).isTruthy with
    | true => exact .error (fun h => h.one (hi.trans hp.symm)) trivial
    | false =>
      simp only [Bool.and_false, Bool.false_eq_true, if_false, if_true]
      split
      · next text htext =>
        rw [htext]
        refine .ok ⟨by simp [hi, hp], fun _ => ⟨text, htext⟩, fun h => ?_⟩ rfl
        rw [hp] at h
        cases h
      · next htext =>
        refine .error (fun h => ?_) trivial
        obtain ⟨text, h⟩ := h.inlineText hi
        exact htext text h
  | false =>
    cases hp : (part "path" value).isTruthy with
    | true =>
      simp only [Bool.and_true, Bool.false_eq_true, if_false, if_true]
      split
      · next text htext =>
        rw [htext]
        refine .ok ⟨by simp [hi, hp], fun h => ?_, fun _ => ⟨text, htext⟩⟩ rfl
        rw [hi] at h
        cases h
      · next htext =>
        refine .error (fun h => ?_) trivial
        obtain ⟨text, h⟩ := h.pathText hp
        exact htext text h
    | false => exact .error (fun h => h.one (hi.trans hp.symm)) trivial

/-! ### The output section -/

/-- **What an output section has to be**: null or a mapping whose path is null or a text. -/
structure IsOutput (value : Value) : Prop where
  mapping : MayBe IsMapping value
  path : MayBe IsText (part "path" value)

theorem settles_outputText (value : Value) :
    Settles (IsOutput value) (· = words? (part "path" value)) Fault.IsOwn (outputText value) := by
  unfold outputText
  split
  · exact .ok ⟨Or.inl rfl, Or.inl rfl⟩ rfl
  · next hnull =>
    have hpath (pairs : List (Scalar × Value)) (hpairs : pairs = pairsOf value) :
        Settles (MayBe IsText (part "path" value)) (· = words? (part "path" value)) Fault.IsOwn
          (optionalText "output.path" (Value.under "path" pairs)) := by
      rw [hpairs]
      exact settles_optionalText _ _
    refine ((settles_requireMapping "output" value).bind fun pairs _ h => hpath pairs h).congr ?_
    constructor
    · exact fun ⟨h, h'⟩ => ⟨Or.inr h, h'⟩
    · exact fun ⟨h, h'⟩ => ⟨h.resolve_left hnull, h'⟩

/-! ### The computed fields -/

/-- **What the entry of a computed field has to be**: a mapping with a name and a type that are not
blank, and perhaps a flag. -/
structure IsEntry (item : Value) : Prop where
  mapping : IsMapping item
  name : IsWords (part "name" item)
  type : IsWords (part "type" item)
  optional : MayBe IsFlag (part "optional" item)

/-- The computed field of an entry. -/
def fieldIn (item : Value) : ComputedField :=
  ⟨wordsOf (part "name" item), wordsOf (part "type" item), isSet (part "optional" item)⟩

/-- A value that is a list, and no text, of entries. -/
def IsEntryList (value : Value) : Prop :=
  ∃ items, items? value = some items ∧ ∀ item ∈ items, IsEntry item

/-- The computed fields of a list of entries. -/
def fieldsIn (value : Value) : List ComputedField := ((items? value).getD []).map fieldIn

theorem settles_computedField (label : Text) (item : Value) :
    Settles (IsEntry item) (· = fieldIn item) Fault.IsOwn (computedField label item) := by
  unfold computedField
  split
  · next pairs =>
    let value := Value.mapping pairs
    have hname := settles_requireText (label ++ ".name") (part "name" value)
    have htype := settles_requireText (label ++ ".type") (part "type" value)
    have hoptional := settles_optionalFlag (label ++ ".optional") (part "optional" value)
    refine (hname.bind fun name _ hn => htype.bind fun type _ ht =>
      hoptional.map fun optional ho => ?_).congr ?_
    · rw [hn, ht, ho]
      rfl
    · exact ⟨fun ⟨h₁, h₂, h₃⟩ => ⟨⟨pairs, rfl⟩, h₁, h₂, h₃⟩, fun h => ⟨h.name, h.type, h.optional⟩⟩
  · next hmapping =>
    refine .error (fun h => ?_) trivial
    obtain ⟨pairs, rfl⟩ := h.mapping
    exact hmapping pairs rfl

theorem settles_computedList (label : Text) (index : Nat) (items : List Value) :
    Settles (∀ item ∈ items, IsEntry item) (· = items.map fieldIn) Fault.IsOwn
      (computedList label index items) := by
  induction items generalizing index with
  | nil => exact .ok (by simp) rfl
  | cons item rest ih =>
    rw [computedList]
    refine ((settles_computedField _ item).bind fun field _ hfield =>
      (ih (index + 1)).map fun more hmore => ?_).congr List.forall_mem_cons.symm
    rw [hfield, hmore, List.map_cons]

/-- **A key has a name** unless it is an integer of more digits than are written out. -/
def HasName (key : Scalar) : Prop :=
  ∀ n, key = .int n → n.natAbs < 10 ^ Numeral.digitLimit

/-- The name that a key reads as. -/
def nameOf (key : Scalar) : Text := key.display?.getD ""

theorem hasName_int_iff {n : Int} : HasName (.int n) ↔ n.natAbs < 10 ^ Numeral.digitLimit := by
  simp [HasName]

theorem display?_eq_none_iff {key : Scalar} : key.display? = none ↔ ¬ HasName key := by
  cases key with
  | int n =>
    rw [hasName_int_iff, ← Nat.length_toDigits_le_iff (by decide) (by decide), not_le,
      Scalar.display?, Binary64.decimalLength]
    split <;> simp_all
  | bool flag => cases flag <;> simp [Scalar.display?, HasName]
  | _ => simp [Scalar.display?, HasName]

theorem hasName_of_display?_eq_some {key : Scalar} {name : Text} (h : key.display? = some name) :
    HasName key := by
  by_contra hlong
  rw [display?_eq_none_iff.2 hlong] at h
  cases h

/-- **What the section of the computed fields has to be**: null or a mapping to lists of entries. -/
structure IsComputed (value : Value) : Prop where
  mapping : MayBe IsMapping value
  lists : ∀ pair ∈ pairsOf value, IsEntryList pair.2

/-- All collections of a section of computed fields have names. -/
def AreNamed (pairs : List (Scalar × Value)) : Prop := ∀ pair ∈ pairs, HasName pair.1

/-- The faults of pairs of computed fields: one of the configuration itself where a list is not what
it has to be, and the other one where a collection has no name. -/
def PairsFault (pairs : List (Scalar × Value)) (fault : Fault) : Prop :=
  (¬ ∀ pair ∈ pairs, IsEntryList pair.2) ∧ fault.IsOwn ∨ ¬ AreNamed pairs ∧ fault = .nameTooLong

theorem PairsFault.cons {pairs : List (Scalar × Value)} {fault : Fault} (h : PairsFault pairs fault)
    (pair : Scalar × Value) : PairsFault (pair :: pairs) fault :=
  h.imp (And.imp_left fun h hall => h (List.forall_mem_cons.1 hall).2)
    (And.imp_left fun h hall => h (List.forall_mem_cons.1 hall).2)

/-- The computed fields of pairs, put one after the other to those made before. -/
def computedFrom (made : Association Text (List ComputedField)) (pairs : List (Scalar × Value)) :
    Association Text (List ComputedField) :=
  (pairs.map fun pair => (nameOf pair.1, fieldsIn pair.2)).foldl
    (fun made pair => Association.put pair.1 pair.2 made) made

theorem settles_computedEntries (made : Association Text (List ComputedField))
    (pairs : List (Scalar × Value)) :
    Settles ((∀ pair ∈ pairs, IsEntryList pair.2) ∧ AreNamed pairs) (· = computedFrom made pairs)
      (PairsFault pairs) (computedEntries made pairs) := by
  induction pairs generalizing made with
  | nil => exact .ok (by simp [AreNamed]) rfl
  | cons pair rest ih =>
    obtain ⟨key, value⟩ := pair
    rw [computedEntries]
    cases hkey : key.display? with
    | none =>
      -- the key is an integer of too many digits
      have hname : ¬ AreNamed ((key, value) :: rest) := fun h =>
        display?_eq_none_iff.1 hkey (List.forall_mem_cons.1 h).1
      exact .error (fun h => hname h.2) (Or.inr ⟨hname, rfl⟩)
    | some name =>
      have hname : HasName key := hasName_of_display?_eq_some hkey
      have hnameOf : nameOf key = name := by rw [nameOf, hkey]; rfl
      dsimp only
      cases hitems : items? value with
      | none =>
        -- what stands under the key is no list
        have hlist : ¬ ∀ pair ∈ (key, value) :: rest, IsEntryList pair.2 := by
          intro h
          obtain ⟨items, hsome, -⟩ := (List.forall_mem_cons.1 h).1
          rw [hitems] at hsome
          cases hsome
        exact .error (fun h => hlist h.1) (Or.inl ⟨hlist, trivial⟩)
      | some items =>
        -- the fields of this key come first, and the other keys are put after them
        have hlist : (∀ item ∈ items, IsEntry item) ↔ IsEntryList value := by
          simp [IsEntryList, hitems]
        have hfields : Settles (IsEntryList value) (· = fieldsIn value)
            (PairsFault ((key, value) :: rest))
            (computedList ("computed_fields." ++ name) 0 items) := by
          refine (settles_computedList _ 0 items).imp hlist ?_ fun fault h hown => Or.inl ⟨?_, hown⟩
          · intro fields _ h
            rw [h, fieldsIn, hitems]
            rfl
          · exact fun hall => h (hlist.2 (List.forall_mem_cons.1 hall).1)
        have hrest (fields : List ComputedField) (hmade : fields = fieldsIn value) :
            Settles ((∀ pair ∈ rest, IsEntryList pair.2) ∧ AreNamed rest)
              (· = computedFrom made ((key, value) :: rest)) (PairsFault ((key, value) :: rest))
              (computedEntries (Association.put name fields made) rest) := by
          refine (ih _).imp Iff.rfl ?_ fun fault _ h => h.cons _
          intro result _ h
          rw [h, hmade, ← hnameOf]
          rfl
        refine (hfields.bind fun fields _ h => hrest fields h).congr ?_
        rw [AreNamed, AreNamed, List.forall_mem_cons, List.forall_mem_cons]
        tauto

/-- **The computed fields of a section**: of the lists under keys that read the same the last one
stands. -/
def computedIn (value : Value) : Association Text (List ComputedField) :=
  Association.ofPairs ((pairsOf value).map fun pair => (nameOf pair.1, fieldsIn pair.2))

theorem settles_computedFields (value : Value) :
    Settles (IsComputed value ∧ AreNamed (pairsOf value)) (· = computedIn value)
      (fun fault => ¬ IsComputed value ∧ fault.IsOwn ∨
        ¬ AreNamed (pairsOf value) ∧ fault = .nameTooLong)
      (computedFields value) := by
  unfold computedFields
  split
  · exact .ok ⟨⟨Or.inl rfl, by simp [pairsOf]⟩, by simp [AreNamed, pairsOf]⟩ rfl
  · next hnull =>
    let bad (fault : Fault) : Prop := ¬ IsComputed value ∧ fault.IsOwn ∨
      ¬ AreNamed (pairsOf value) ∧ fault = .nameTooLong
    have hmapping : Settles (IsMapping value) (· = pairsOf value) bad
        (requireMapping "computed_fields" value) := by
      refine (settles_requireMapping _ value).weaken fun fault h hown => ?_
      refine Or.inl ⟨fun hc => ?_, hown⟩
      exact hc.mapping.elim hnull h
    -- no fields are made before the first key is read
    have hentries (pairs : List (Scalar × Value)) (hpairs : pairs = pairsOf value) :
        Settles ((∀ pair ∈ pairsOf value, IsEntryList pair.2) ∧ AreNamed (pairsOf value))
          (· = computedIn value) bad (computedEntries [] pairs) := by
      rw [hpairs]
      refine (settles_computedEntries [] _).weaken fun fault _ h => ?_
      exact h.imp_left (And.imp_left fun h hc => h hc.lists)
    refine (hmapping.bind fun pairs _ h => hentries pairs h).congr ?_
    constructor
    · exact fun ⟨h, hlists, hnamed⟩ => ⟨⟨Or.inr h, hlists⟩, hnamed⟩
    · exact fun ⟨h, hnamed⟩ => ⟨h.mapping.resolve_left hnull, h.lists, hnamed⟩

/-! ### The generation section -/

/-- The value may be missing or blank, and is a type name otherwise. -/
structure NamesType (value : Value) : Prop where
  text : MayBe IsText value
  plain : ∀ name, words? value = some name → Typing.IsPlainName name

/-- The flags of the generation section. -/
def flagNames : List Text :=
  ["use_intersection_types", "legacy_singular_mode", "treat_required_as_non_null"]

/-- **What the generation section has to be**: null or a mapping with flags that may be null, and
with a name that may be null or blank and is a type name otherwise. -/
structure IsGeneration (value : Value) : Prop where
  mapping : MayBe IsMapping value
  name : NamesType (part "directory_type_name" value)
  flags : ∀ key ∈ flagNames, MayBe IsFlag (part key value)

/-- The options of a generation section. -/
def optionsIn (computed : Association Text (List ComputedField)) (value : Value) : Options where
  useIntersectionTypes := isSet (part "use_intersection_types" value)
  legacySingularMode := isSet (part "legacy_singular_mode" value)
  treatRequiredAsNonNull := isSet (part "treat_required_as_non_null" value)
  directoryTypeName := (words? (part "directory_type_name" value)).getD defaultDirectoryTypeName
  computedFields := computed

theorem settles_directoryTypeName (value : Value) :
    Settles (NamesType value) (· = (words? value).getD defaultDirectoryTypeName) Fault.IsOwn
      (directoryTypeName value) := by
  have hplain (given : Option Text) (hgiven : given = words? value) :
      Settles (∀ name, words? value = some name → Typing.IsPlainName name)
        (· = (words? value).getD defaultDirectoryTypeName) Fault.IsOwn
        (if Typing.isPlainIdentifier (given.getD defaultDirectoryTypeName).toList then
          pure (given.getD defaultDirectoryTypeName)
        else throw (.typeName (given.getD defaultDirectoryTypeName))) := by
    subst hgiven
    have hdefault : Typing.isPlainIdentifier defaultDirectoryTypeName.toList = true := by decide
    split
    · next hplain =>
      refine .ok (fun name hname => ?_) rfl
      rw [hname] at hplain
      exact Typing.isPlainName_iff.2 hplain
    · next hplain =>
      refine .error (fun h => hplain ?_) trivial
      cases hw : words? value with
      | none => exact hdefault
      | some name => exact Typing.isPlainName_iff.1 (h name hw)
  refine ((settles_optionalText _ value).bind fun given _ h => hplain given h).congr ?_
  exact ⟨fun ⟨h, h'⟩ => ⟨h, h'⟩, fun ⟨h, h'⟩ => ⟨h, h'⟩⟩

theorem settles_generation_of_ne (computed : Association Text (List ComputedField))
    {value : Value} (hnull : value ≠ .null) :
    Settles (IsGeneration value) (· = optionsIn computed value) Fault.IsOwn
      (generation computed value) := by
  have hflag (key : Text) := settles_optionalFlag ("generation." ++ key) (part key value)
  have hparts : Settles (IsMapping value ∧ NamesType (part "directory_type_name" value) ∧
      MayBe IsFlag (part "use_intersection_types" value) ∧
      MayBe IsFlag (part "legacy_singular_mode" value) ∧
      MayBe IsFlag (part "treat_required_as_non_null" value))
      (· = optionsIn computed value) Fault.IsOwn (generation computed value) := by
    rw [generation]
    · -- the name is settled first, then the three flags in order
      refine (settles_requireMapping "generation" value).bind fun pairs _ hpairs => ?_
      subst hpairs
      refine (settles_directoryTypeName _).bind fun name _ hname => ?_
      refine (hflag "use_intersection_types").bind fun first _ h₁ => ?_
      refine (hflag "legacy_singular_mode").bind fun second _ h₂ => ?_
      refine (hflag "treat_required_as_non_null").map fun third h₃ => ?_
      rw [hname, h₁, h₂, h₃]
      rfl
    · exact hnull
  refine hparts.congr ?_
  constructor
  · exact fun ⟨h, hname, hflags⟩ => ⟨Or.inr h, hname, by simpa [flagNames] using hflags⟩
  · exact fun ⟨h, hname, hflags⟩ =>
      ⟨h.resolve_left hnull, hname, by simpa [flagNames] using hflags⟩

theorem settles_generation (computed : Association Text (List ComputedField)) (value : Value) :
    Settles (IsGeneration value) (· = optionsIn computed value) Fault.IsOwn
      (generation computed value) := by
  by_cases hnull : value = .null
  · -- a section that is missing is read as one without pairs
    subst hnull
    have hempty := settles_generation_of_ne computed (show Value.mapping [] ≠ .null by rintro ⟨⟩)
    refine hempty.congr ?_
    exact ⟨fun h => ⟨Or.inl rfl, h.name, h.flags⟩, fun h => ⟨Or.inr ⟨[], rfl⟩, h.name, h.flags⟩⟩
  · exact settles_generation_of_ne computed hnull

end SchemaScribe.Settings
