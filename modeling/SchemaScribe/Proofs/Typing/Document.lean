import SchemaScribe.Proofs.Json.Literal
import SchemaScribe.Proofs.Typing.Lines
import SchemaScribe.Proofs.Typing.Reading

/-!
# Reading definitions back

The reader finds in the type definitions of a schema what the schema says: a record type for each
collection with a member for each field that stores a value, and the directory
(`generate_reads_back`).  Field names, choices and nested types may hold anything; only the names of
types have to be plain identifiers, since they are written as they are.
-/

namespace SchemaScribe.Typing

/-! ### Members -/

/-- A written name is read back, whatever follows it that cannot go on in an identifier. -/
theorem readName?_memberIdentifier (name : Text) {c : CodePoint} (hc : isIdentifierPart c = false)
    (rest : List CodePoint) :
    readName? ((memberIdentifier name).toList ++ c :: rest) = some (name, c :: rest) := by
  rw [memberIdentifier]
  split
  · next hplain =>
    have hpart := isIdentifierPart_of_isPlainIdentifier hplain
    -- the name ends at the first character that is no part of it
    have htake : (name.toList ++ c :: rest).takeWhile isIdentifierPart = name.toList := by
      rw [List.takeWhile_append_of_pos hpart, List.takeWhile_cons_of_neg (by simp [hc]),
        List.append_nil]
    have hdrop : (name.toList ++ c :: rest).dropWhile isIdentifierPart = c :: rest := by
      rw [List.dropWhile_append_of_pos hpart, List.dropWhile_cons_of_neg (by simp [hc])]
    rw [readName?]
    · rw [htake, hdrop, if_pos hplain, Text.ofList_toList]
    · intro more h
      exact Json.word_append_ne_quote (by decide) (ne_nil_of_isPlainIdentifier hplain) hpart h
  · rw [Json.toList_quote, List.cons_append, List.append_assoc, readName?, List.singleton_append,
      Json.readString_escape]
    · rfl
    · have hlength := Json.length_le_length_escape name.toList
      rw [List.length_append, List.length_cons]
      omega

/-- The type of a member is read back, whatever it is. -/
theorem readType?_append (type : Text) :
    readType? (.char ':' :: .char ' ' :: (type.toList ++ [.char ';'])) = some type := by
  rw [readType?, List.getLast?_concat, if_pos rfl, List.dropLast_concat, Text.ofList_toList]

/-- **A member is read back from its line.** -/
theorem readMember?_text (member : Member) :
    readMember? (("  " : Text) ++ member.text).toList = some member := by
  obtain ⟨name, type, optional⟩ := member
  have hread : ∀ {c : CodePoint} {rest : List CodePoint}, isIdentifierPart c = false →
      readMark (c :: rest) = (optional, .char ':' :: .char ' ' :: (type.toList ++ [.char ';'])) →
      readMember? (.char ' ' :: .char ' ' :: ((memberIdentifier name).toList ++ c :: rest)) =
        some ⟨name, type, optional⟩ := by
    intro c rest hc hmark
    rw [readMember?, readName?_memberIdentifier name hc]
    simp only [Option.bind_eq_bind, Option.bind_some, hmark, readType?_append]
    rfl
  -- the mark stands between the name and the colon, and neither can go on in a name
  cases optional with
  | true =>
    have hline : (("  " : Text) ++ Member.text ⟨name, type, true⟩).toList =
        .char ' ' :: .char ' ' :: ((memberIdentifier name).toList ++
          .char '?' :: .char ':' :: .char ' ' :: (type.toList ++ [.char ';'])) := by
      simp [Member.text]
    rw [hline]
    exact hread (by decide) rfl
  | false =>
    have hline : (("  " : Text) ++ Member.text ⟨name, type, false⟩).toList =
        .char ' ' :: .char ' ' :: ((memberIdentifier name).toList ++
          .char ':' :: .char ' ' :: (type.toList ++ [.char ';'])) := by
      simp [Member.text]
    rw [hline]
    exact hread (by decide) rfl

/-! ### Lines -/

/-- The characters of lines, each of which is ended. -/
def unlines (lines : List (List CodePoint)) : List CodePoint :=
  lines.flatMap fun line => line ++ [.char '\n']

/-- Lines without breaks are told from their characters, whatever follows. -/
theorem splitOn_unlines_append {lines : List (List CodePoint)}
    (h : ∀ line ∈ lines, .char '\n' ∉ line)
    (rest : List CodePoint) :
    (unlines lines ++ rest).splitOn (.char '\n') = lines ++ rest.splitOn (.char '\n') := by
  induction lines with
  | nil => rfl
  | cons line more ih =>
    rw [List.forall_mem_cons] at h
    have hcons : unlines (line :: more) ++ rest = line ++ .char '\n' :: (unlines more ++ rest) := by
      simp [unlines]
    rw [hcons, List.splitOn_append_cons_self_of_not_mem h.1, ih h.2, List.cons_append]

/-- Texts joined by line breaks, with one more at the end. -/
theorem toList_intercalate_newline (lines : List Text) (hne : lines ≠ []) :
    (Text.intercalate "\n" lines ++ "\n").toList = unlines (lines.map Text.toList) := by
  induction lines with
  | nil => exact absurd rfl hne
  | cons first rest ih =>
    cases rest with
    | nil => simp [unlines]
    | cons second rest =>
      rw [Text.intercalate_cons_cons, Text.append_assoc, Text.append_assoc,
        Text.toList_append, Text.toList_append, ih (by simp)]
      simp [unlines]

/-- The text of a declaration. -/
def Declaration.text (d : Declaration) : Text := declaration d.name (d.members.map Member.text)

/-- The keys of the members of a declaration, as they are written. -/
def Declaration.keys (d : Declaration) : List Text :=
  d.members.map fun member => memberIdentifier member.name

/-- The lines of a declaration. -/
def Declaration.lines (d : Declaration) : List (List CodePoint) :=
  if d.members.isEmpty then [emptyLine d.name]
  else openingLine d.name :: d.members.map (fun member => (("  " : Text) ++ member.text).toList) ++
    [closingLine]

/-- The text of a declaration is made up of its lines. -/
theorem Declaration.toList_text (d : Declaration) : d.text.toList = unlines d.lines := by
  obtain ⟨name, members⟩ := d
  cases members with
  | nil => simp [Declaration.text, Declaration.lines, declaration, emptyLine, unlines]
  | cons member rest =>
    have hbody := toList_intercalate_newline
      (((member :: rest).map Member.text).map fun line => ("  " : Text) ++ line) (by simp)
    have htext : (Declaration.text ⟨name, member :: rest⟩).toList =
        openingLine name ++ .char '\n' ::
          ((Text.intercalate "\n"
            (((member :: rest).map Member.text).map fun line => ("  " : Text) ++ line) ++
              "\n").toList ++
              closingLine ++ [.char '\n']) := by
      simp [Declaration.text, declaration, openingLine, closingLine]
    rw [htext, hbody, Declaration.lines, if_neg (by simp)]
    simp [unlines, Function.comp_def]

/-- A declaration is read from its lines. -/
theorem Declaration.writtenAs_lines {d : Declaration}
    (hname : isPlainIdentifier d.name.toList = true) : d.WrittenAs d.lines := by
  obtain ⟨name, members⟩ := d
  cases members with
  | nil => exact .empty hname
  | cons member rest =>
    refine .members hname ?_
    rw [List.forall₂_map_right_iff, List.forall₂_same]
    exact fun member _ => readMember?_text member

/-- No line of a declaration is broken when no type of its members is. -/
theorem Declaration.newline_notMem_lines {d : Declaration}
    (hname : isPlainIdentifier d.name.toList = true)
    (htypes : ∀ member ∈ d.members, OneLine member.type) : ∀ line ∈ d.lines, .char '\n' ∉ line := by
  have hline : OneLine d.name := oneLine_of_isPlainIdentifier hname
  have hparts : OneLine "export type " ∧ OneLine " = \x7b" ∧ OneLine " = \x7b\x7d;" := by decide
  have hempty : .char '\n' ∉ emptyLine d.name := by
    show OneLine ("export type " ++ d.name ++ " = \x7b\x7d;")
    simp [hline, hparts]
  have hopening : .char '\n' ∉ openingLine d.name := by
    show OneLine ("export type " ++ d.name ++ " = \x7b")
    simp [hline, hparts]
  have htext : ∀ member ∈ d.members, .char '\n' ∉ (("  " : Text) ++ member.text).toList := by
    intro member hmember
    have hsigns : OneLine "  " ∧ OneLine "?" ∧ OneLine "" ∧ OneLine ": " ∧ OneLine ";" := by decide
    show OneLine (("  " : Text) ++ member.text)
    rw [Member.text]
    split <;> simp [hsigns, oneLine_memberIdentifier, htypes member hmember]
  intro line h
  rw [Declaration.lines] at h
  split at h
  · obtain rfl := List.mem_singleton.1 h
    exact hempty
  · rcases List.mem_cons.1 h with rfl | h
    · exact hopening
    rcases List.mem_append.1 h with h | h
    · obtain ⟨member, hmember, rfl⟩ := List.mem_map.1 h
      exact htext member hmember
    · obtain rfl := List.mem_singleton.1 h
      decide

/-! ### Declarations -/

/-- The text of declarations. -/
def documentText (declarations : List Declaration) : Text :=
  Text.intercalate "\n" (declarations.map Declaration.text)

/-- **Declarations are read back from their text**, and nothing else is, when their names are plain
and no type of their members breaks its line. -/
theorem isReading_documentText {declarations : List Declaration} (hne : declarations ≠ [])
    (hnames : ∀ d ∈ declarations, isPlainIdentifier d.name.toList = true)
    (htypes : ∀ d ∈ declarations, ∀ member ∈ d.members, OneLine member.type) :
    IsReading (documentText declarations) declarations (declarations.map Declaration.lines) := by
  constructor
  · rw [List.forall₂_map_right_iff, List.forall₂_same]
    exact fun d hd => Declaration.writtenAs_lines (hnames d hd)
  · rw [documentText]
    induction declarations with
    | nil => exact absurd rfl hne
    | cons first rest ih =>
      rw [List.forall_mem_cons] at hnames htypes
      have hfirst : ∀ line ∈ first.lines, .char '\n' ∉ line :=
        Declaration.newline_notMem_lines hnames.1 htypes.1
      cases rest with
      | nil =>
        have hlines := splitOn_unlines_append hfirst []
        rw [List.append_nil, ← Declaration.toList_text] at hlines
        rw [List.map_singleton, Text.intercalate_singleton, hlines]
        simp
      | cons second rest =>
        have hrest := ih (by simp) hnames.2 htypes.2
        -- the break between two declarations ends a blank line
        have hblank : ∀ cs : List CodePoint,
            (.char '\n' :: cs).splitOn (.char '\n') = [] :: cs.splitOn (.char '\n') := by
          intro cs
          exact List.splitOn_append_cons_self_of_not_mem List.not_mem_nil cs
        rw [List.map_cons] at hrest
        rw [List.map_cons, List.map_cons, Text.intercalate_cons_cons, Text.toList_append,
          Text.toList_append, Declaration.toList_text, List.append_assoc,
          splitOn_unlines_append hfirst]
        show _ ++ (.char '\n' :: Text.toList _).splitOn (.char '\n') = _
        rw [hblank, hrest]
        simp

/-! ### Definitions -/

/-- The entry of a collection in the directory, as a member. -/
def directoryMember (options : Options) (c : Collection) : Member :=
  ⟨c.name, pascalCase c.name ++ (if c.singleton || options.legacySingularMode then "" else "[]"),
    false⟩

/-- The directory, as a declaration. -/
def directory (schema : Schema) (options : Options) : Declaration :=
  ⟨options.directoryTypeName, schema.collections.map (directoryMember options)⟩

theorem text_directory (schema : Schema) (options : Options) :
    (directory schema options).text = directoryDeclaration schema options := by
  have hentry : Member.text ∘ directoryMember options = directoryEntry options := by
    funext c
    show Member.text (directoryMember options c) = directoryEntry options c
    rw [Member.text, directoryMember, directoryEntry, if_neg Bool.false_ne_true,
      Text.append_empty, ← Text.append_assoc]
  rw [Declaration.text, directory, directoryDeclaration, List.map_map, hentry]

theorem oneLine_of_mem_directory {schema : Schema} {options : Options}
    (hnames : ∀ c ∈ schema.collections, isPlainIdentifier (pascalCase c.name).toList = true) :
    ∀ member ∈ (directory schema options).members, OneLine member.type := by
  intro member hmember
  obtain ⟨c, hc, rfl⟩ := List.mem_map.1 hmember
  have hname : OneLine (pascalCase c.name) := oneLine_of_isPlainIdentifier (hnames c hc)
  have hsuffix : OneLine "" ∧ OneLine "[]" := by decide
  rw [directoryMember]
  split <;> simp [hname, hsuffix]

/-- The record type of a collection, as a declaration. -/
def recordType (schema : Schema) (options : Options) (c : Collection) :
    Except Fault Declaration := do
  let members ← recordMembers schema options c
  pure ⟨pascalCase c.name, members⟩

/-- **The declarations of a schema**: the record types of its collections in order, and the
directory. -/
def declarations (schema : Schema) (options : Options) : Except Fault (List Declaration) := do
  checkComputed schema options.computedFields
  let records ← schema.collections.mapM (recordType schema options)
  pure (records ++ [directory schema options])

theorem recordDeclarations_eq_map (schema : Schema) (options : Options)
    (collections : List Collection) :
    recordDeclarations schema options collections =
      (collections.mapM (recordType schema options)).map (List.map Declaration.text) := by
  induction collections with
  | nil => rfl
  | cons c rest ih =>
    rw [recordDeclarations, recordDeclaration, ih, List.mapM_cons, recordType]
    -- both stop at the collection, or else at the rest
    cases recordMembers schema options c with
    | error fault => rfl
    | ok members => cases rest.mapM (recordType schema options) <;> rfl

/-- **Type definitions are the text of declarations**, and they fail just as these do. -/
theorem generate_eq_map (schema : Schema) (options : Options) :
    generate schema options = (declarations schema options).map documentText := by
  rw [generate, declarations, recordDeclarations_eq_map]
  cases checkComputed schema options.computedFields with
  | error fault => rfl
  | ok _ =>
    cases schema.collections.mapM (recordType schema options) with
    | error fault => rfl
    | ok records =>
      show Except.ok _ = Except.ok (documentText (records ++ [directory schema options]))
      rw [documentText, List.map_append, List.map_singleton, text_directory]

theorem recordType_eq_ok_iff {schema : Schema} {options : Options} {c : Collection}
    {record : Declaration} :
    recordType schema options c = .ok record ↔
      record.name = pascalCase c.name ∧ recordMembers schema options c = .ok record.members := by
  rw [recordType, bind_eq_ok_iff]
  constructor
  · rintro ⟨members, hmembers, h⟩
    obtain rfl := pure_eq_ok_iff.1 h
    exact ⟨rfl, hmembers⟩
  · rintro ⟨hname, hmembers⟩
    exact ⟨record.members, hmembers, pure_eq_ok_iff.2 (by rw [← hname])⟩

theorem declarations_eq_ok_iff {schema : Schema} {options : Options} {ds : List Declaration} :
    declarations schema options = .ok ds ↔
      checkComputed schema options.computedFields = .ok () ∧
        ∃ records, List.Forall₂ (fun c record => record.name = pascalCase c.name ∧
            recordMembers schema options c = .ok record.members) schema.collections records ∧
          ds = records ++ [directory schema options] := by
  rw [declarations, bind_eq_ok_iff]
  constructor
  · rintro ⟨⟨⟩, hcheck, h⟩
    obtain ⟨records, hrecords, h⟩ := bind_eq_ok_iff.1 h
    refine ⟨hcheck, records, ?_, (pure_eq_ok_iff.1 h).symm⟩
    exact (mapM_eq_ok_iff.1 hrecords).imp fun c record h => recordType_eq_ok_iff.1 h
  · rintro ⟨hcheck, records, hrecords, rfl⟩
    refine ⟨(), hcheck, bind_eq_ok_iff.2 ⟨records, mapM_eq_ok_iff.2 ?_, rfl⟩⟩
    exact hrecords.imp fun c record h => recordType_eq_ok_iff.2 h

theorem generate_eq_ok_text_iff {schema : Schema} {options : Options} {definitions : Text} :
    generate schema options = .ok definitions ↔
      ∃ ds, declarations schema options = .ok ds ∧ definitions = documentText ds := by
  rw [generate_eq_map]
  cases declarations schema options with
  | error fault => simp [Except.map]
  | ok ds => simp [Except.map, eq_comm]

/-- The definitions are the text of declarations, with computed fields behind the others. -/
theorem exists_declarations {schema : Schema} {options : Options} {definitions : Text}
    (hg : generate schema options = .ok definitions) :
    ∃ records, definitions = documentText (records ++ [directory schema options]) ∧
      List.Forall₂ (fun c record => record.name = pascalCase c.name ∧
        recordMembers schema options c = .ok record.members) schema.collections records := by
  obtain ⟨ds, hds, rfl⟩ := generate_eq_ok_text_iff.1 hg
  obtain ⟨-, records, hrecords, rfl⟩ := declarations_eq_ok_iff.1 hds
  exact ⟨records, rfl, hrecords⟩

theorem names_of_forall₂ {schema : Schema} {options : Options} {collections : List Collection}
    {records : List Declaration}
    (h : List.Forall₂ (fun c record => record.name = pascalCase c.name ∧
      recordMembers schema options c = .ok record.members) collections records) :
    records.map (·.name) = (collections.map (·.name)).map pascalCase := by
  induction h with
  | nil => rfl
  | cons hfirst _ ih => rw [List.map_cons, List.map_cons, List.map_cons, hfirst.1, ih]

/-- The names of the declarations: those of the collections in Pascal case, and the one that the
options give to the directory. -/
theorem names_of_declarations {schema : Schema} {options : Options} {ds : List Declaration}
    (h : declarations schema options = .ok ds) :
    ds.map (·.name) = schema.names.map pascalCase ++ [options.directoryTypeName] := by
  obtain ⟨-, records, hrecords, rfl⟩ := declarations_eq_ok_iff.1 h
  rw [List.map_append, names_of_forall₂ hrecords]
  rfl

/-- Without computed fields, the members of the declarations come from the fields of their
collections. -/
theorem exists_records_of_generate {schema : Schema} {options : Options} {definitions : Text}
    (hcomputed : options.computedFields = []) (hg : generate schema options = .ok definitions) :
    ∃ records, definitions = documentText (records ++ [directory schema options]) ∧
      List.Forall₂ (fun c record => c ∈ schema.collections ∧ record.name = pascalCase c.name ∧
        List.Forall₂ (fun field member => field ∈ storedFields c ∧
          resolve schema options c.name field = .ok (some member)) (storedFields c) record.members)
        schema.collections records := by
  obtain ⟨records, htext, hrecords⟩ := exists_declarations hg
  refine ⟨records, htext, ?_⟩
  refine (List.forall₂_and_left _ _).2 ⟨fun c hc => hc, hrecords.imp fun c record h => ⟨h.1, ?_⟩⟩
  exact (List.forall₂_and_left _ _).2 ⟨fun f hf => hf, (recordMembers_eq_ok_iff hcomputed).1 h.2⟩

/-- A type refers to nothing whose name breaks its line, when the names of the collections and of
the alternatives are plain. -/
theorem oneLine_of_mem_targets {schema : Schema} {options : Options} {c : Collection}
    {field : Field} {member : Member} {target : Text}
    (hnames : ∀ c ∈ schema.collections, isPlainIdentifier (pascalCase c.name).toList = true)
    (hopen : ∀ target ∈ openReferences schema,
      isPlainIdentifier (pascalCase target).toList = true)
    (hc : c ∈ schema.collections) (hf : field ∈ storedFields c)
    (h : resolve schema options c.name field = .ok (some member)) (ht : target ∈ targets field) :
    OneLine (pascalCase target) := by
  apply oneLine_of_isPlainIdentifier
  by_cases ha : target ∈ alternatives field
  · exact hopen target (mem_openReferences.2 ⟨c, hc, field, hf, ha⟩)
  · obtain ⟨d, hd, rfl⟩ := List.mem_map.1 (mem_names_of_resolve h ht ha)
    exact hnames d hd

/-- **Type definitions are read back.**  There is one reading of them: a record type for each
collection, in order and under its name in Pascal case, with a member for each field that stores a
value, under its own name and marked exactly when it may be absent; and then the directory, with an
entry for each collection. -/
theorem generate_reads_back {schema : Schema} {options : Options} {definitions : Text}
    (hcomputed : options.computedFields = []) (hg : generate schema options = .ok definitions)
    (hnames : ∀ c ∈ schema.collections, isPlainIdentifier (pascalCase c.name).toList = true)
    (hopen : ∀ target ∈ openReferences schema,
      isPlainIdentifier (pascalCase target).toList = true)
    (hdirectory : isPlainIdentifier options.directoryTypeName.toList = true) :
    ∃ (records : List Declaration) (blocks : List (List (List CodePoint))),
      (∀ declarations lines, IsReading definitions declarations lines ↔
        declarations = records ++ [⟨options.directoryTypeName, schema.collections.map fun c =>
          ⟨c.name, pascalCase c.name ++
            (if c.singleton || options.legacySingularMode then "" else "[]"), false⟩⟩] ∧
        lines = blocks) ∧
      List.Forall₂ (fun c record => record.name = pascalCase c.name ∧
        List.Forall₂ (fun field member => member.name = field.name ∧
          member.optional =
            (field.nullable && !(options.treatRequiredAsNonNull && field.required)) ∧
          resolve schema options c.name field = .ok (some member))
        (c.fields.filter fun field => !field.isPresentational) record.members)
        schema.collections records := by
  obtain ⟨records, rfl, hrecords⟩ := exists_records_of_generate hcomputed hg
  -- the text has the reading that it was made from, and a text has only one
  have hreading : IsReading (documentText (records ++ [directory schema options]))
      (records ++ [directory schema options])
      ((records ++ [directory schema options]).map Declaration.lines) := by
    refine isReading_documentText (by simp) ?_ ?_
    · rw [List.forall_mem_append, List.forall_mem_singleton]
      refine ⟨fun record hrecord => ?_, hdirectory⟩
      obtain ⟨c, hc, hname, -⟩ := exists_item_of_forall₂ hrecords hrecord
      rw [hname]
      exact hnames c hc
    · rw [List.forall_mem_append, List.forall_mem_singleton]
      constructor
      · intro record hrecord member hmember
        obtain ⟨c, hc, -, hfields⟩ := exists_item_of_forall₂ hrecords hrecord
        obtain ⟨field, hf, hresolve⟩ := exists_item_of_forall₂ hfields hmember
        exact oneLine_type_of_resolve hresolve fun target ht =>
          oneLine_of_mem_targets hnames hopen hc hf hresolve ht
      · exact oneLine_of_mem_directory hnames
  refine ⟨records, _, fun declarations lines => ⟨fun h => h.unique hreading, ?_⟩, ?_⟩
  · rintro ⟨rfl, rfl⟩
    exact hreading
  · refine hrecords.imp fun c record h => ⟨h.2.1, h.2.2.imp fun field member h => ?_⟩
    obtain ⟨-, type, -, hmember⟩ := resolve_eq_ok_some_iff.1 h.2
    exact ⟨by rw [hmember], by rw [hmember, isOptional], h.2⟩

/-- A schema with a field whose name looks like the border between two declarations, and with a
choice that breaks the line. -/
def awkwardSchema : Schema :=
  ⟨[⟨"field notes", true, [
    { name := "\x7d;\n\nexport type X = \x7b", type := "string", nullable := true },
    { name := "mark", type := "string", interface := some "select-radio",
      choices := [⟨.text "\";\n", []⟩] },
    { name := "subject", type := "uuid", relation := some (.any ["field notes"]) }]⟩]⟩

/-- The definitions of `awkwardSchema` are read back as one record type and the directory. -/
theorem generate_awkwardSchema_reads_back :
    ∃ (definitions : Text) (record : Declaration) (blocks : List (List (List CodePoint))),
      generate awkwardSchema {} = .ok definitions ∧
      (∀ declarations lines, IsReading definitions declarations lines ↔
        declarations = [record, ⟨"CustomDirectusTypes", [⟨"field notes", "FieldNotes", false⟩]⟩] ∧
        lines = blocks) ∧
      record.name = "FieldNotes" ∧ record.members.length = 3 := by
  obtain ⟨definitions, hg⟩ : ∃ definitions, generate awkwardSchema {} = .ok definitions := ⟨_, rfl⟩
  obtain ⟨records, blocks, hreading, hrecords⟩ :=
    generate_reads_back rfl hg (by decide) (by decide) (by decide)
  obtain ⟨record, rest, ⟨hname, hmembers⟩, hrest, rfl⟩ := List.forall₂_cons_left_iff.1 hrecords
  obtain rfl := List.forall₂_nil_left_iff.1 hrest
  exact ⟨definitions, record, blocks, hg, hreading, by rw [hname]; decide, hmembers.length_eq.symm⟩

end SchemaScribe.Typing
