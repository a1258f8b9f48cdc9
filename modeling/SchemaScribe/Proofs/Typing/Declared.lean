import Mathlib.Data.List.Forall2
import Mathlib.Data.List.Nodup
import SchemaScribe.Proofs.Snapshot.Loaded
import SchemaScribe.Proofs.Typing.Document

/-!
# Which names are declared

The type definitions of a schema declare a record type for each collection and the directory.  The
collections of a loaded schema have different names, but the names of their types may be the same:
separators are left out of them, and the directory has a name of its own.
`declarations_distinct_iff` says when all declarations have different names, and that the entries of
the directory refer to their own collections just then.
-/

namespace SchemaScribe.Typing

theorem count_name (name : Text) (declarations : List Declaration) :
    (declarations.map (·.name)).count name =
      (declarations.filter (·.name == name)).length := by
  rw [List.count, List.countP_map, List.countP_eq_length_filter]
  rfl

/-- Declarations before a last one have different names, and so has the last one, exactly if each of
them is the only one of its name. -/
theorem nodup_names_iff {declarations : List Declaration} {last : Declaration} :
    ((declarations ++ [last]).map (·.name)).Nodup ↔
      ∀ d ∈ declarations, (declarations ++ [last]).filter (·.name == d.name) = [d] := by
  rw [List.nodup_iff_count_le_one]
  constructor
  · intro h d hd
    have hcount := h d.name
    have hmem : d ∈ (declarations ++ [last]).filter (·.name == d.name) := by
      rw [List.mem_filter]
      exact ⟨List.mem_append_left _ hd, beq_self_eq_true d.name⟩
    rw [count_name] at hcount
    obtain ⟨found, hfound⟩ := List.length_eq_one_iff.1
      (le_antisymm hcount (List.length_pos_of_mem hmem))
    rw [hfound, List.mem_singleton] at hmem
    rw [hfound, hmem]
  · intro h name
    rw [count_name]
    by_cases hname : ∃ d ∈ declarations, d.name = name
    · obtain ⟨d, hd, rfl⟩ := hname
      rw [h d hd, List.length_singleton]
    · -- of the declarations only the last one may have the name
      have hnone : declarations.filter (·.name == name) = [] := by
        rw [List.filter_eq_nil_iff]
        intro d hd heq
        exact hname ⟨d, hd, by simpa using heq⟩
      rw [List.filter_append, hnone, List.nil_append]
      exact List.length_filter_le _ [last]

theorem forall₂_iff_of_names {schema : Schema} {options : Options} {collections : List Collection}
    {records : List Declaration} {p : Text → Declaration → Prop}
    (h : List.Forall₂ (fun c record => record.name = pascalCase c.name ∧
      recordMembers schema options c = .ok record.members) collections records) :
    List.Forall₂ (fun c record => p (pascalCase c.name) record) collections records ↔
      ∀ record ∈ records, p record.name record := by
  induction h with
  | nil => simp
  | cons hfirst _ ih =>
    rw [List.forall₂_cons, List.forall_mem_cons, ih, hfirst.1]

/-- **No two declarations have the same name** exactly if no two collections have types of the same
name and none has a type of the name of the directory.  Just then each entry of the directory refers
to a type that is declared once, and that is the record type of its own collection. -/
theorem declarations_distinct_iff {text : Text} {schema : Schema}
    (hload : Snapshot.load text = .ok schema) {options : Options} {definitions : Text}
    (hg : generate schema options = .ok definitions) :
    ∃ records, definitions = documentText (records ++ [directory schema options]) ∧
      List.Forall₂ (fun c record => record.name = pascalCase c.name ∧
        recordMembers schema options c = .ok record.members) schema.collections records ∧
      (((records ++ [directory schema options]).map (·.name)).Nodup ↔
        (∀ a ∈ schema.names, ∀ b ∈ schema.names, pascalCase a = pascalCase b → a = b) ∧
          ∀ a ∈ schema.names, pascalCase a ≠ options.directoryTypeName) ∧
      (((records ++ [directory schema options]).map (·.name)).Nodup ↔
        List.Forall₂ (fun c record =>
          (records ++ [directory schema options]).filter (·.name == pascalCase c.name) = [record])
          schema.collections records) := by
  obtain ⟨records, htext, hrecords⟩ := exists_declarations hg
  have hdistinct := (Snapshot.isSound_of_load hload).distinct
  refine ⟨records, htext, hrecords, ?_, ?_⟩
  · -- two records have one name just if two names of collections read the same
    rw [List.map_append, names_of_forall₂ hrecords, List.map_singleton, List.nodup_append,
      ← Schema.names, List.nodup_map_iff_inj_on hdistinct]
    simp [directory]
  · rw [nodup_names_iff]
    exact (forall₂_iff_of_names (p := fun name record =>
      (records ++ [directory schema options]).filter (·.name == name) = [record]) hrecords).symm

/-- A text with two collections that differ in more than separators. -/
def distinctText : Text := "\x7b\"a_b\":\x7b\x7d,\"ab\":\x7b\x7d\x7d"

/-- The schema of `distinctText`. -/
def distinctSchema : Schema := ⟨[⟨"a_b", false, []⟩, ⟨"ab", false, []⟩]⟩

set_option maxRecDepth 5000 in
/-- The types of `distinctText` are each declared once. -/
theorem declarations_of_distinctText :
    ∃ a b, generate distinctSchema {} =
        .ok (documentText ([a, b] ++ [directory distinctSchema {}])) ∧
      (([a, b] ++ [directory distinctSchema {}]).map (·.name)).Nodup ∧
      ([a, b] ++ [directory distinctSchema {}]).filter (·.name == "AB") = [a] := by
  have hload : Snapshot.load distinctText = .ok distinctSchema := by decide +kernel
  obtain ⟨definitions, hg⟩ : ∃ definitions, generate distinctSchema {} = .ok definitions :=
    ⟨_, rfl⟩
  obtain ⟨records, htext, hrecords, hnames, hentries⟩ := declarations_distinct_iff hload hg
  obtain ⟨a, more, -, hmore, rfl⟩ := List.forall₂_cons_left_iff.1 hrecords
  obtain ⟨b, none, -, hnone, rfl⟩ := List.forall₂_cons_left_iff.1 hmore
  obtain rfl := List.forall₂_nil_left_iff.1 hnone
  have hnodup := hnames.2 (by decide)
  have hfirst := (List.forall₂_cons.1 (hentries.1 hnodup)).1
  exact ⟨a, b, htext ▸ hg, hnodup, hfirst⟩

/-- A text with two collections that differ in a separator only. -/
def clashText : Text := "\x7b\"a_b\":\x7b\x7d,\"a-b\":\x7b\x7d\x7d"

/-- The schema of `clashText`. -/
def clashSchema : Schema := ⟨[⟨"a_b", false, []⟩, ⟨"a-b", false, []⟩]⟩

/-- The declarations of `clashText`. -/
def clashDeclarations : List Declaration :=
  [⟨"AB", []⟩, ⟨"AB", []⟩,
    ⟨"CustomDirectusTypes", [⟨"a_b", "AB[]", false⟩, ⟨"a-b", "AB[]", false⟩]⟩]

set_option maxRecDepth 5000 in
/-- The two types of `clashText` are declared under one name. -/
theorem declarations_of_clashText :
    Snapshot.load clashText = .ok clashSchema ∧
      generate clashSchema {} = .ok (documentText clashDeclarations) ∧
      clashDeclarations.map (·.name) =
        clashSchema.names.map pascalCase ++ [("CustomDirectusTypes" : Text)] ∧
      ¬ (clashDeclarations.map (·.name)).Nodup := by
  refine ⟨by decide +kernel, rfl, by decide, by decide⟩

end SchemaScribe.Typing
