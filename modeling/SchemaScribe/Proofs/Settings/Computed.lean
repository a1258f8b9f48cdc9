import Mathlib.Algebra.GroupWithZero.Nat
import SchemaScribe.Proofs.Settings.Unforeseen

/-!
# Which computed fields are kept

What is loaded was taken from the parts of the value in the file (`isTakenFrom_of_ofValue`).  Of the
lists of computed fields under keys that read the same the last one stands, so that nothing is lost
exactly when no list but an empty one comes before another whose key reads the same
(`computed_fields_kept_iff`).
-/

namespace SchemaScribe.Settings

open Disk (answer)
open Yaml (Value Scalar)

variable {volume : Volume} {path : Path} {text : String} {value : Value}
  {configuration : Configuration}

/-! ### What a loaded configuration says -/

/-- What is loaded is what the value in the file describes. -/
theorem exists_value_of_load (h : answer (load path) volume = .ok configuration) :
    ∃ text value, HoldsText volume path text ∧ Value.ofText depth text = .ok value ∧
      answer (ofValue path value) volume = .ok configuration := by
  rw [answer_load_eq, bind_eq_ok_iff] at h
  obtain ⟨text, htext, h⟩ := h
  obtain ⟨value, hvalue, h⟩ := bind_eq_ok_iff.1 h
  exact ⟨text, value, textAt_eq_ok_iff.1 htext, mapError_eq_ok_iff.1 hvalue, h⟩

/-- **What a configuration took from the parts of its value**: the snapshot from the source that the
schema section names, the path of the output from the output section, and the computed fields from
theirs. -/
structure IsTakenFrom (volume : Volume) (path : Path) (value : Value)
    (configuration : Configuration) : Prop where
  place : configuration.path = path
  snapshot : answer (readSource path.parent (sourceIn (part "schema" value))) volume =
    .ok (configuration.schemaText, configuration.sourcePath)
  output : answer (outputPlace path.parent (words? (part "path" (part "output" value)))) volume =
    .ok configuration.outputPath
  usable : IsComputed (part "computed_fields" value)
  computed : configuration.options.computedFields = computedIn (part "computed_fields" value)

theorem isTakenFrom_of_ofValue (h : answer (ofValue path value) volume = .ok configuration) :
    IsTakenFrom volume path value configuration := by
  rw [answer_ofValue, bind_eq_ok_iff] at h
  obtain ⟨pairs, hpairs, h⟩ := h
  obtain ⟨-, rfl⟩ := (settles_sections value).good_of_ok hpairs
  obtain ⟨source, hsource, h⟩ := bind_eq_ok_iff.1 h
  obtain ⟨found, hfound, h⟩ := bind_eq_ok_iff.1 h
  obtain ⟨-, -, h⟩ := bind_eq_ok_iff.1 h
  obtain ⟨given, hgiven, h⟩ := bind_eq_ok_iff.1 h
  obtain ⟨place, hplace, h⟩ := bind_eq_ok_iff.1 h
  obtain ⟨computed, hcomputed, h⟩ := bind_eq_ok_iff.1 h
  obtain ⟨options, hoptions, h⟩ := bind_eq_ok_iff.1 h
  obtain rfl := Except.ok.inj h
  -- each section gave what can be told from it alone
  obtain ⟨-, rfl⟩ := (settles_source _).good_of_ok hsource
  obtain ⟨-, rfl⟩ := (settles_outputText _).good_of_ok hgiven
  obtain ⟨⟨hsection, -⟩, rfl⟩ := (settles_computedFields _).good_of_ok hcomputed
  obtain ⟨-, rfl⟩ := (settles_generation _ _).good_of_ok hoptions
  exact ⟨rfl, hfound, hplace, hsection, rfl⟩

/-! ### Nothing is lost -/

/-- **All that a section lists for a collection**: the fields under each key that reads as its name,
in order. -/
def fieldsListed (name : Text) (pairs : List (Scalar × Value)) : List ComputedField :=
  (pairs.filter (nameOf ·.1 = name)).flatMap (fieldsIn ·.2)

/-- **No list of fields is replaced**: one whose key reads the same as a later key is empty. -/
def NoneReplaced (pairs : List (Scalar × Value)) : Prop :=
  pairs.Pairwise fun earlier later => nameOf earlier.1 = nameOf later.1 → fieldsIn earlier.2 = []

instance (pairs : List (Scalar × Value)) : Decidable (NoneReplaced pairs) :=
  inferInstanceAs (Decidable (pairs.Pairwise _))

/-- The pairs of a section with their names and fields. -/
def namedLists (pairs : List (Scalar × Value)) : List (Text × List ComputedField) :=
  pairs.map fun pair => (nameOf pair.1, fieldsIn pair.2)

theorem losesNothing_namedLists_iff {pairs : List (Scalar × Value)} :
    Association.LosesNothing (namedLists pairs) ↔ NoneReplaced pairs :=
  List.pairwise_map

theorem listed_namedLists (name : Text) (pairs : List (Scalar × Value)) :
    Association.listed name (namedLists pairs) = fieldsListed name pairs := by
  rw [Association.listed, namedLists, List.filter_map, List.flatMap_map]
  rfl

theorem getLast?_namedLists (name : Text) (pairs : List (Scalar × Value)) :
    ((namedLists pairs).filter (·.1 = name)).getLast?.map Prod.snd =
      (pairs.filter (nameOf ·.1 = name)).getLast?.map (fieldsIn ·.2) := by
  rw [namedLists, List.filter_map, List.getLast?_map, Option.map_map]
  rfl

/-- **The computed fields of a section are all kept exactly when none of its lists is replaced.**
Each list under a key is a list of entries.  Under the name of a collection stand the fields of the
last key that reads as the name; they are all that are listed for it, for each name, exactly when no
list with an entry comes before one whose key reads the same, and just then there are as many fields
as entries. -/
theorem computed_fields_kept_iff (htext : HoldsText volume path text)
    (hvalue : Value.ofText depth text = .ok value)
    (hload : answer (load path) volume = .ok configuration) :
    let pairs := pairsOf (part "computed_fields" value)
    let computed := configuration.options.computedFields
    (∀ pair ∈ pairs, IsEntryList pair.2) ∧ (Association.keys computed).Nodup ∧
      (∀ name, Association.get? name computed =
        (pairs.filter (nameOf ·.1 = name)).getLast?.map (fieldsIn ·.2)) ∧
      ((∀ name, (Association.get? name computed).getD [] = fieldsListed name pairs) ↔
        NoneReplaced pairs) ∧
      ((computed.map (·.2.length)).sum = (pairs.map fun pair => (fieldsIn pair.2).length).sum ↔
        NoneReplaced pairs) := by
  intro pairs computed
  obtain ⟨text', value', htext', hvalue', h⟩ := exists_value_of_load hload
  -- the value that was loaded is the one of the text
  obtain rfl := htext'.unique htext
  obtain rfl := Except.ok.inj (hvalue'.symm.trans hvalue)
  have htaken := isTakenFrom_of_ofValue h
  have hbuilt : computed = Association.ofPairs (namedLists pairs) := htaken.computed
  refine ⟨htaken.usable.lists, ?_, fun name => ?_, ?_, ?_⟩
  · rw [hbuilt]
    exact Association.nodup_keys_ofPairs _
  · rw [hbuilt, Association.get?_ofPairs, getLast?_namedLists]
  · rw [← losesNothing_namedLists_iff, ← Association.keepsAll_iff, Association.KeepsAll, hbuilt]
    simp only [listed_namedLists]
  · have hpairs : (pairs.map fun pair => (fieldsIn pair.2).length).sum =
        ((namedLists pairs).flatMap Prod.snd).length := by
      rw [List.length_flatMap, namedLists, List.map_map]
      rfl
    rw [← losesNothing_namedLists_iff, ← Association.length_flatMap_ofPairs_eq_iff, hpairs,
      ← List.length_flatMap, hbuilt]

/-! ### Keys that read differently, and keys that read the same -/

/-- A volume with nothing but a configuration. -/
def loneVolume (text : String) : Volume where
  working := ["w"]
  entries := [(["w"], .directory), (["w", "c.yaml"], .file text.toUTF8)]

/-- A configuration with an empty snapshot in it and one computed field under each of the keys. -/
def oneEach (keys : List (Scalar × Text)) : Value :=
  .mapping [(.text "schema", .mapping [(.text "inline", .scalar (.text "[]"))]),
    (.text "computed_fields", .mapping (keys.map fun (key, name) => (key, .list [.mapping
      [(.text "name", .scalar (.text name)), (.text "type", .scalar (.text "T"))]])))]

/-- What is loaded from a configuration with an empty snapshot in it. -/
def loneConfiguration (computed : Association Text (List ComputedField)) : Configuration :=
  ⟨⟨.here, ["c.yaml"]⟩, "[]", none, none, { computedFields := computed }⟩

/-- Computed fields under a number and under a truth value. -/
def apartText : String :=
  "\x7bschema: \x7binline: '[]'\x7d, computed_fields: " ++
    "\x7b7: [\x7bname: a, type: T\x7d], true: [\x7bname: b, type: T\x7d]\x7d\x7d"

/-- Computed fields under the number 1 and under the text `1`. -/
def onesText : String :=
  "\x7bschema: \x7binline: '[]'\x7d, computed_fields: " ++
    "\x7b1: [\x7bname: a, type: T\x7d], '1': [\x7bname: b, type: T\x7d]\x7d\x7d"

set_option maxRecDepth 10000 in
theorem ofText_apartText :
    Value.ofText depth apartText = .ok (oneEach [(.int 7, "a"), (.bool true, "b")]) := by
  decide +kernel

set_option maxRecDepth 10000 in
theorem ofText_onesText :
    Value.ofText depth onesText = .ok (oneEach [(.int 1, "a"), (.text "1", "b")]) := by
  decide +kernel

theorem holdsText_apartText : HoldsText (loneVolume apartText) ⟨.here, ["c.yaml"]⟩ apartText :=
  holdsText_of_find (by decide) rfl (by decide +kernel)

theorem holdsText_onesText : HoldsText (loneVolume onesText) ⟨.here, ["c.yaml"]⟩ onesText :=
  holdsText_of_find (by decide) rfl (by decide +kernel)

theorem load_apartText :
    answer (load ⟨.here, ["c.yaml"]⟩) (loneVolume apartText) =
      .ok (loneConfiguration [("7", [⟨"a", "T", false⟩]), ("True", [⟨"b", "T", false⟩])]) := by
  rw [answer_load holdsText_apartText ofText_apartText]
  exact by decide +kernel

/-- Keys that read differently: as many fields are kept as are listed. -/
theorem computed_fields_of_apartText :
    (([("7", [⟨"a", "T", false⟩]), ("True", [⟨"b", "T", false⟩])] :
        Association Text (List ComputedField)).map (·.2.length)).sum =
      ((pairsOf (part "computed_fields" (oneEach [(.int 7, "a"), (.bool true, "b")]))).map
        fun pair => (fieldsIn pair.2).length).sum :=
  (computed_fields_kept_iff holdsText_apartText ofText_apartText load_apartText).2.2.2.2.2
    (by decide +kernel)

/-- **Keys that read the same**: of two fields that are listed the second one alone is kept. -/
theorem computed_fields_of_onesText :
    Value.ofText depth onesText = .ok (oneEach [(.int 1, "a"), (.text "1", "b")]) ∧
      fieldsListed "1" (pairsOf (part "computed_fields"
        (oneEach [(.int 1, "a"), (.text "1", "b")]))) =
          [⟨"a", "T", false⟩, ⟨"b", "T", false⟩] ∧
      answer (load ⟨.here, ["c.yaml"]⟩) (loneVolume onesText) =
        .ok (loneConfiguration [("1", [⟨"b", "T", false⟩])]) := by
  refine ⟨ofText_onesText, by decide +kernel, ?_⟩
  rw [answer_load holdsText_onesText ofText_onesText]
  exact by decide +kernel

end SchemaScribe.Settings
