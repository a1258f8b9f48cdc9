import Mathlib.Data.List.Forall2
import Mathlib.Data.List.Nodup
import SchemaScribe.Proofs.Snapshot.Loaded
import SchemaScribe.Proofs.Typing.Document
import SchemaScribe.Settings.Read

/-!
# The keys of record types

A record type has a member for each field that stores a value and one for each computed field.  The
names of a collection's fields are distinct, and different names are written as different keys
(`memberIdentifier_injective`), but the computed fields come from elsewhere:
`member_keys_distinct_iff` says when their names leave the keys distinct.
-/

namespace SchemaScribe.Typing

/-- A key tells the name that it was written for: it can be read back. -/
theorem memberIdentifier_injective : Function.Injective memberIdentifier := by
  intro a b h
  have hread := readName?_memberIdentifier a (c := ':') (by decide) []
  rw [h, readName?_memberIdentifier b (by decide) []] at hread
  exact (Prod.mk.inj (Option.some.inj hread)).1.symm

theorem names_of_forall₂_resolve {schema : Schema} {options : Options} {collection : Text}
    {fields : List Field} {members : List Member}
    (h : List.Forall₂ (fun field member =>
      resolve schema options collection field = .ok (some member)) fields members) :
    members.map (·.name) = fields.map (·.name) := by
  induction h with
  | nil => rfl
  | cons hfirst _ ih =>
    obtain ⟨-, type, -, rfl⟩ := resolve_eq_ok_some_iff.1 hfirst
    rw [List.map_cons, List.map_cons, ih]

theorem names_of_recordMembers {schema : Schema} {options : Options} {c : Collection}
    {members : List Member} (h : recordMembers schema options c = .ok members) :
    members.map (·.name) =
      (storedFields c).map (·.name) ++ (computedOf options c.name).map (·.name) := by
  obtain ⟨own, hown, rfl⟩ := recordMembers_eq_ok_append_iff.1 h
  rw [List.map_append, names_of_forall₂_resolve hown, List.map_map]
  rfl

theorem nodup_storedFields {c : Collection} (h : (c.fields.map (·.name)).Nodup) :
    ((storedFields c).map (·.name)).Nodup :=
  h.sublist (List.filter_sublist.map _)

theorem nodup_keys_iff {schema : Schema} {options : Options} {c : Collection}
    {record : Declaration} (hd : (c.fields.map (·.name)).Nodup)
    (h : recordMembers schema options c = .ok record.members) :
    record.keys.Nodup ↔
      ((computedOf options c.name).map (·.name)).Nodup ∧
        ∀ computed ∈ computedOf options c.name, ∀ field ∈ storedFields c,
          computed.name ≠ field.name := by
  have hkeys : record.keys = (record.members.map (·.name)).map memberIdentifier := by
    rw [List.map_map]
    rfl
  -- different names have different keys, and the names of fields are distinct
  rw [hkeys, List.nodup_map_iff memberIdentifier_injective, names_of_recordMembers h,
    List.nodup_append, and_iff_right (nodup_storedFields hd)]
  refine and_congr_right fun _ => ?_
  simp only [List.forall_mem_map]
  constructor
  · intro hne computed hcomputed field hfield
    exact (hne field hfield computed hcomputed).symm
  · intro hne field hfield computed hcomputed
    exact (hne computed hcomputed field hfield).symm

/-- **The members of a record type have distinct keys** just when the computed fields of its
collection have distinct names, and none of them has the name of a field that stores a value. -/
theorem member_keys_distinct_iff {text : Text} {schema : Schema}
    (hload : Snapshot.load text = .ok schema) {options : Options} {definitions : Text}
    (hg : generate schema options = .ok definitions) :
    ∃ records, definitions = documentText (records ++ [directory schema options]) ∧
      List.Forall₂ (fun c record => record.name = pascalCase c.name ∧
        recordMembers schema options c = .ok record.members ∧
        record.members.map (·.name) =
          (storedFields c).map (·.name) ++ (computedOf options c.name).map (·.name) ∧
        (record.keys.Nodup ↔
          ((computedOf options c.name).map (·.name)).Nodup ∧
            ∀ computed ∈ computedOf options c.name, ∀ field ∈ storedFields c,
              computed.name ≠ field.name)) schema.collections records := by
  obtain ⟨records, htext, hrecords⟩ := exists_declarations hg
  refine ⟨records, htext, ?_⟩
  refine List.Forall₂.imp ?_ ((List.forall₂_and_left _ _).2 ⟨fun c hc => hc, hrecords⟩)
  rintro c record ⟨hc, hname, hmembers⟩
  have hd := Snapshot.nodup_fieldNames_of_load hload hc
  exact ⟨hname, hmembers, names_of_recordMembers hmembers, nodup_keys_iff hd hmembers⟩

/-- A text with a field that stores nothing. -/
def notedText : Text :=
  "\x7b\"a\":\x7b\"fields\":[\x7b\"field\":\"x\"," ++
    "\"meta\":\x7b\"interface\":\"group-raw\"\x7d\x7d]\x7d\x7d"

def notedSchema : Schema :=
  ⟨[⟨"a", false, [{ name := "x", type := "string", interface := some "group-raw" }]⟩]⟩

/-- Options that compute a field of the name of one that stores nothing. -/
def notedOptions : Options := { computedFields := [("a", [⟨"x", "Date", true⟩])] }

set_option maxRecDepth 5000 in
/-- The computed field of `notedOptions` is the only member of its name. -/
theorem member_keys_of_notedText :
    ∃ definitions record, Snapshot.load notedText = .ok notedSchema ∧
      generate notedSchema notedOptions = .ok definitions ∧
      definitions = documentText ([record] ++ [directory notedSchema notedOptions]) ∧
      record.members.map (·.name) = [("x" : Text)] ∧ record.keys.Nodup := by
  have hload : Snapshot.load notedText = .ok notedSchema := by decide +kernel
  obtain ⟨definitions, hg⟩ : ∃ definitions, generate notedSchema notedOptions = .ok definitions :=
    ⟨_, rfl⟩
  obtain ⟨records, htext, hrecords⟩ := member_keys_distinct_iff hload hg
  obtain ⟨record, rest, ⟨-, -, hnames, hkeys⟩, hrest, rfl⟩ := List.forall₂_cons_left_iff.1 hrecords
  obtain rfl := List.forall₂_nil_left_iff.1 hrest
  exact ⟨definitions, record, hload, hg, htext, hnames.trans (by decide), hkeys.2 (by decide)⟩

/-- A text with a field that a computed field is going to repeat. -/
def repeatedText : Text := "\x7b\"a\":\x7b\"fields\":[\x7b\"field\":\"id\"\x7d]\x7d\x7d"

def repeatedSchema : Schema := ⟨[⟨"a", false, [{ name := "id", type := "string" }]⟩]⟩

def numberEntry (name : Text) : Yaml.Value :=
  .mapping [(.text "name", .scalar (.text name)), (.text "type", .scalar (.text "number"))]

/-- A section of a configuration that computes a field which is there already, and one twice. -/
def repeatedSection : Yaml.Value :=
  .mapping [(.text "a", .list [numberEntry "id", numberEntry "n", numberEntry "n"])]

def repeatedOptions : Options :=
  { computedFields := [("a", [⟨"id", "number", false⟩, ⟨"n", "number", false⟩,
      ⟨"n", "number", false⟩])] }

/-- The record type of `repeatedText` with these. -/
def repeatedRecord : Declaration :=
  ⟨"A", [⟨"id", "string", false⟩, ⟨"id", "number", false⟩, ⟨"n", "number", false⟩,
    ⟨"n", "number", false⟩]⟩

set_option maxRecDepth 5000 in
/-- The record type of `repeatedText` has two members for each of its keys. -/
theorem repeated_keys_of_repeatedText :
    Snapshot.load repeatedText = .ok repeatedSchema ∧
      Settings.computedFields repeatedSection = .ok repeatedOptions.computedFields ∧
      generate repeatedSchema repeatedOptions =
        .ok (documentText [repeatedRecord, directory repeatedSchema repeatedOptions]) ∧
      repeatedRecord.keys = ["id", "id", "n", "n"] ∧ ¬ repeatedRecord.keys.Nodup := by
  refine ⟨by decide +kernel, by decide +kernel, by decide +kernel, by decide, by decide⟩

end SchemaScribe.Typing
