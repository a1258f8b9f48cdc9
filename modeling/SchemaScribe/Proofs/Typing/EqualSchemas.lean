import SchemaScribe.Proofs.Alike
import SchemaScribe.Proofs.Typing.Flags
import SchemaScribe.Proofs.Typing.Lookup
import SchemaScribe.Proofs.Typing.Shown

/-!
# The type definitions of equal schemas

Equal schemas whose collections stand in the same order fail with the same fault or have both type
definitions (`generate_of_same`).  A choice shows its value as it was written, so the definitions
need not be the same: they are just when the lists of literals that are written out are
(`shownLiterals`).
-/

namespace SchemaScribe

variable {a b : Schema}

theorem Schema.Agrees.names_eq (h : a.Agrees b) : a.names = b.names :=
  Schema.names_eq_of_forall₂ (fun _ _ hcd => hcd.name) h

theorem Schema.Agrees.rel_keyOf (h : a.Agrees b) (name : Text) :
    Option.Rel Field.Agrees (a.keyOf name) (b.keyOf name) :=
  Schema.rel_keyOf (fun _ _ hcd => hcd.name) (fun _ _ hcd => hcd.rel_primaryKeyField?) h name

namespace Typing

variable {options : Options} {f g : Field}

/-! ### Literals that are shown -/

/-- The lists of literals in the type of a field: those of its value, or of the keys that it
holds. -/
def shownFor (schema : Schema) (field : Field) : List (List Text) :=
  match field.relation with
  | none | some (.one _) => shownChoices field 0
  | some (.many target) => (schema.keyOf target).elim [] fun key => shownChoices key 0
  | _ => []

/-- The lists of literals in the record type of a collection. -/
def shownIn (schema : Schema) (c : Collection) : List (List Text) :=
  (storedFields c).flatMap (shownFor schema)

/-- **The lists of literals in the type definitions of a schema**, in order. -/
def shownLiterals (schema : Schema) : List (List Text) :=
  schema.collections.flatMap (shownIn schema)

/-! ### Types -/

theorem alike_baseType_of_agrees (h : a.Agrees b) (hfg : f.Agrees g) (collection : Text) :
    Alike (fun type type' => Tells EndsAlike (shownFor a f) (shownFor b g) type.toList type'.toList)
      (baseType a collection f) (baseType b collection g) := by
  have htype := tells_primitiveType f g 0 hfg
  have hsame : f.name = g.name ∧ g.relation = f.relation := by
    rw [hfg.eq]
    exact ⟨rfl, rfl⟩
  have hnames : ∀ name, name ∈ a.names ↔ name ∈ b.names := by simp [h.names_eq]
  rw [baseType, baseType, shownFor, shownFor, hsame.2]
  cases f.relation with
  | none => exact .ok htype
  | some relation =>
    cases relation with
    | one target =>
      dsimp only
      rw [requireCollection_congr (hnames target) hsame.1]
      exact Alike.bind_self fun _ _ => .ok htype
    | many target =>
      -- both keys are found or neither is, and they agree
      have hkey := alike_findKey (hnames target) (h.rel_keyOf target) hsame.1 collection
      refine hkey.bind ?_
      rintro key key' ⟨hfound, hfound', hagrees⟩
      refine .ok ?_
      dsimp only
      rw [hfound, hfound', Text.toList_append, Text.toList_append]
      exact (tells_primitiveType key key' 0 hagrees).after _ fun hrest =>
        hrest.append (c := '[') (by simp [typeEnds]) (Text.toList "]")
    | any targets => exact .ok (tells_self _)
    | anyType targets => exact .ok (tells_self _)
    | unknown kind => exact .error _

theorem alike_requiredType_of_agrees (h : a.Agrees b) (hfg : f.Agrees g) (collection : Text) :
    Alike (fun type type' => Tells EndsAlike (shownFor a f) (shownFor b g) type.toList type'.toList)
      (requiredType a options collection f) (requiredType b options collection g) := by
  have hrelation : g.relation = f.relation := by rw [hfg.eq]
  rw [requiredType, requiredType, hrelation]
  refine (alike_baseType_of_agrees h hfg collection).bind fun base base' hbase => ?_
  split
  · exact .ok hbase
  · exact .ok hbase
  · next relation _ _ =>
    refine Alike.bind_self fun related _ => .ok ?_
    -- what joins the types begins with a blank
    obtain ⟨sign, hsign⟩ : ∃ sign, (joiner options.useIntersectionTypes relation).toList =
        .char ' ' :: sign := by
      rcases joiner_eq_or_eq options.useIntersectionTypes relation with h | h <;> rw [h] <;>
        exact ⟨_, rfl⟩
    simp only [Text.toList_append, List.append_assoc, hsign]
    exact hbase.after _ fun hrest => hrest.append (by simp [typeEnds]) _

/-! ### Members -/

/-- The lines of members, as they stand in a declaration. -/
def memberLines (members : List Member) : List CodePoint :=
  unlines (members.map fun member => (("  " : Text) ++ member.text).toList)

theorem toList_memberLine (name type : Text) (optional : Bool) :
    memberLines [⟨name, type, optional⟩] =
      (("  " : Text) ++ memberIdentifier name ++ (if optional then "?" else "") ++ ": ").toList ++
        (type.toList ++ [.char ';', .char '\n']) := by
  simp [memberLines, unlines, Member.text]

/-- **Members that tell two lists apart**, whatever follows their lines. -/
structure MembersTell (shown shown' : List (List Text)) (members members' : List Member) :
    Prop where
  eq_nil_iff : members = [] ↔ members' = []
  tells : Tells (fun _ _ => True) shown shown' (memberLines members) (memberLines members')

variable {shown shown' more more' : List (List Text)}
  {members members' others others' : List Member}

theorem membersTell_self (members : List Member) : MembersTell [] [] members members :=
  ⟨Iff.rfl, tells_self _⟩

theorem MembersTell.append (h : MembersTell shown shown' members members')
    (hothers : MembersTell more more' others others') :
    MembersTell (shown ++ more) (shown' ++ more') (members ++ others) (members' ++ others') where
  eq_nil_iff := by
    rw [List.append_eq_nil_iff, List.append_eq_nil_iff, h.eq_nil_iff, hothers.eq_nil_iff]
  tells := by
    simp only [memberLines, unlines, List.map_append, List.flatMap_append]
    exact h.tells.append hothers.tells fun _ => trivial

theorem tells_orNull {type type' : Text}
    (htype : Tells EndsAlike shown shown' type.toList type'.toList) (options : Options)
    (field : Field) :
    Tells EndsAlike shown shown' (orNull options field type).toList
      (orNull options field type').toList := by
  rw [orNull, orNull]
  split <;> simp only [Text.toList_append]
  · exact (htype.before _).after _ fun hrest =>
      hrest.append (c := ')') (by simp [typeEnds]) (Text.toList " | null")
  · exact htype.after _ fun hrest =>
      hrest.append (c := ' ') (by simp [typeEnds]) (Text.toList "| null")

/-- A member tells what its type tells. -/
theorem membersTell_fieldMember (hfg : f.Agrees g) {type type' : Text}
    (htype : Tells EndsAlike shown shown' type.toList type'.toList) :
    MembersTell shown shown' [fieldMember options f type] [fieldMember options g type'] where
  eq_nil_iff := by simp
  tells := by
    have hmember : fieldMember options g type' = ⟨f.name,
        if isOptional options f then orNull options f type' else type', isOptional options f⟩ := by
      rw [hfg.eq]
      rfl
    have hshown : Tells EndsAlike shown shown'
        (if isOptional options f then orNull options f type else type).toList
        (if isOptional options f then orNull options f type' else type').toList := by
      split
      · exact tells_orNull htype options f
      · exact htype
    rw [hmember, fieldMember, toList_memberLine, toList_memberLine]
    exact (hshown.after [.char ';', .char '\n'] fun _ => endsAlike_semicolon _ _).before _

theorem alike_fieldMembers_of_agrees (h : a.Agrees b) {fields fields' : List Field}
    (hfields : List.Forall₂ Field.Agrees fields fields') (collection : Text) :
    Alike (MembersTell ((fields.filter fun field => !field.isPresentational).flatMap (shownFor a))
        ((fields'.filter fun field => !field.isPresentational).flatMap (shownFor b)))
      (fieldMembers a options collection fields) (fieldMembers b options collection fields') := by
  induction hfields with
  | nil => exact .ok (membersTell_self [])
  | @cons f g rest rest' hfg _ ih =>
    rw [fieldMembers, fieldMembers, List.filter_cons, List.filter_cons, hfg.isPresentational]
    -- both fields store something or neither does
    by_cases hp : f.isPresentational = true
    · have hg : g.isPresentational = true := hfg.isPresentational.trans hp
      rw [resolve_eq_ok_none_iff.2 hp, resolve_eq_ok_none_iff.2 hg, if_neg (by simp [hp]),
        if_neg (by simp [hp])]
      exact ih.bind fun others others' hothers => .ok hothers
    · have hp : f.isPresentational = false := by simpa using hp
      have hg : g.isPresentational = false := hfg.isPresentational.trans hp
      rw [resolve_eq_map hp, resolve_eq_map hg, if_pos (by simp [hp]), if_pos (by simp [hp])]
      have hfound : Alike (fun found found' => MembersTell (shownFor a f) (shownFor b g)
            found.toList found'.toList)
          ((requiredType a options collection f).map fun type => some (fieldMember options f type))
          ((requiredType b options collection g).map fun type =>
            some (fieldMember options g type)) :=
        (alike_requiredType_of_agrees h hfg collection).map fun type type' htype =>
          membersTell_fieldMember hfg htype
      refine hfound.bind fun found found' hfound => ih.bind fun others others' hothers => .ok ?_
      exact hfound.append hothers

/-! ### Declarations -/

theorem MembersTell.tells_text (h : MembersTell shown shown' members members') (name : Text) :
    Tells (fun _ _ => True) shown shown' (Declaration.text ⟨name, members⟩).toList
      (Declaration.text ⟨name, members'⟩).toList := by
  rw [Declaration.toList_text, Declaration.toList_text]
  by_cases hempty : members = []
  · obtain rfl := h.eq_nil_iff.1 hempty
    subst hempty
    exact h.tells.of_self [] trivial _
  · have hlines : ∀ members : List Member, members ≠ [] →
        unlines (Declaration.lines ⟨name, members⟩) =
          (openingLine name ++ [.char '\n']) ++
            (memberLines members ++ (closingLine ++ [.char '\n'])) := by
      intro members hne
      rw [Declaration.lines, if_neg (by simpa using hne)]
      simp [memberLines, unlines]
    rw [hlines members hempty, hlines members' fun hnil => hempty (h.eq_nil_iff.2 hnil)]
    exact (h.tells.after _ fun _ => trivial).before _

/-- A record type tells the literals that are shown in it, whatever follows. -/
theorem alike_recordType_of_agrees (h : a.Agrees b) {c d : Collection} (hcd : c.Agrees d) :
    Alike (fun record record' => Tells (fun _ _ => True) (shownIn a c) (shownIn b d)
        record.text.toList record'.text.toList)
      (recordType a options c) (recordType b options d) := by
  have hmembers : Alike (MembersTell (shownIn a c) (shownIn b d)) (recordMembers a options c)
      (recordMembers b options d) := by
    rw [recordMembers, recordMembers, ← hcd.name]
    refine (alike_fieldMembers_of_agrees h hcd.fields c.name).bind fun own own' hown => .ok ?_
    have hall := hown.append (membersTell_self ((computedOf options c.name).map Member.ofComputed))
    rwa [List.append_nil, List.append_nil] at hall
  rw [recordType, recordType, ← hcd.name]
  exact hmembers.bind fun members members' hmembers => .ok (hmembers.tells_text _)

/-- The texts of declarations, each of which is ended. -/
def declarationTexts (declarations : List Declaration) : List CodePoint :=
  unlines (declarations.map fun d => d.text.toList)

theorem toList_documentText {declarations : List Declaration} (hne : declarations ≠ []) :
    (documentText declarations ++ "\n").toList = declarationTexts declarations := by
  rw [documentText, toList_intercalate_newline _ (by simpa using hne), List.map_map]
  rfl

theorem alike_mapM_recordType_of_agrees (h : a.Agrees b)
    {collections collections' : List Collection}
    (hcollections : List.Forall₂ Collection.Agrees collections collections') :
    Alike (fun records records' => Tells (fun _ _ => True) (collections.flatMap (shownIn a))
        (collections'.flatMap (shownIn b)) (declarationTexts records) (declarationTexts records'))
      (collections.mapM (recordType a options)) (collections'.mapM (recordType b options)) := by
  induction hcollections with
  | nil => exact .ok (tells_self _)
  | @cons c d _ _ hcd _ ih =>
    rw [List.mapM_cons, List.mapM_cons]
    refine (alike_recordType_of_agrees h hcd).bind fun record record' hrecord => ?_
    refine ih.bind fun records records' hrecords => .ok ?_
    have hended : Tells (fun _ _ => True) (shownIn a c) (shownIn b d)
        (record.text.toList ++ [.char '\n']) (record'.text.toList ++ [.char '\n']) :=
      hrecord.after _ fun _ => trivial
    exact hended.append hrecords fun _ => trivial

/-- **The declarations of schemas that agree tell the literals that are shown in them.** -/
theorem alike_declarations_of_agrees (h : a.Agrees b) (options : Options) :
    Alike (fun ds ds' => ds ≠ [] ∧ ds' ≠ [] ∧ Tells (fun _ _ => True) (shownLiterals a)
        (shownLiterals b) (declarationTexts ds) (declarationTexts ds'))
      (declarations a options) (declarations b options) := by
  have hcheck : checkComputed a options.computedFields = checkComputed b options.computedFields :=
    checkComputed_congr (fun name => by rw [h.names_eq]) _
  have hdirectory : directory a options = directory b options :=
    directory_congr (fun _ _ hcd => ⟨hcd.name, hcd.singleton⟩) h options
  rw [declarations, declarations, hcheck, hdirectory]
  refine Alike.bind_self fun _ _ => ?_
  refine (alike_mapM_recordType_of_agrees h h).bind fun records records' hrecords => .ok ?_
  refine ⟨by simp, by simp, ?_⟩
  simp only [declarationTexts, unlines, List.map_append, List.flatMap_append] at hrecords ⊢
  exact hrecords.after _ fun _ => trivial

/-! ### Definitions -/

/-- **Equal schemas in the same order have the same type definitions just when they show the same
literals**, and they fail with the same fault. -/
theorem generate_of_same (h : a.same b = true) (hnames : a.names = b.names)
    (hnodup : a.names.Nodup) (options : Options) :
    (∀ fault, generate a options = .error fault ↔ generate b options = .error fault) ∧
    ∀ definitions definitions', generate a options = .ok definitions →
      generate b options = .ok definitions' →
      (definitions = definitions' ↔ shownLiterals a = shownLiterals b) := by
  have hdeclarations :=
    alike_declarations_of_agrees (Schema.agrees_of_same h hnames hnodup) options
  -- texts that tell their literals are the same just if those are
  have hboth : Alike (fun definitions definitions' =>
      definitions = definitions' ↔ shownLiterals a = shownLiterals b)
      (generate a options) (generate b options) := by
    rw [generate_eq_map, generate_eq_map]
    refine hdeclarations.map ?_
    rintro ds ds' ⟨hne, hne', htells⟩
    rw [← toList_documentText hne, ← toList_documentText hne'] at htells
    constructor
    · intro heq
      have hchars : (documentText ds ++ "\n").toList ++ [] =
          (documentText ds' ++ "\n").toList ++ [] := by rw [heq]
      exact htells.shown_eq trivial hchars
    · intro hshown
      exact (Text.append_left_inj _).1 (Text.toList_injective (htells.text_eq hshown))
  refine ⟨hboth.eq_error_iff, fun definitions definitions' hg hg' => ?_⟩
  rw [hg, hg'] at hboth
  exact hboth.of_ok

/-- Films with a rating, whose single choice is shown, and a note with a single choice beside which
others may be entered. -/
def rated (shown hidden : ChoiceValue) : Schema :=
  ⟨[⟨"films", false, [
    { name := "id", type := "integer", primaryKey := true },
    { name := "rating", type := "integer", interface := some "select-dropdown",
      choices := [⟨shown, []⟩] },
    { name := "note", type := "string", interface := some "select-dropdown",
      choices := [⟨hidden, []⟩], allowOther := true }]⟩]⟩

/-- The choice of a note may be another equal value. -/
theorem generate_rated_with_equal_notes :
    (rated (.int 1) (.int 1)).same (rated (.int 1) (.bool true)) = true ∧
      (rated (.int 1) (.int 1)).names = (rated (.int 1) (.bool true)).names ∧
      (rated (.int 1) (.int 1)).names.Nodup ∧
      ∃ definitions, generate (rated (.int 1) (.int 1)) {} = .ok definitions ∧
        generate (rated (.int 1) (.bool true)) {} = .ok definitions := by
  have hsame : (rated (.int 1) (.int 1)).same (rated (.int 1) (.bool true)) = true := by decide
  have hnames : (rated (.int 1) (.int 1)).names = (rated (.int 1) (.bool true)).names := rfl
  have hnodup : (rated (.int 1) (.int 1)).names.Nodup := by decide
  obtain ⟨definitions, hg⟩ : ∃ definitions,
      generate (rated (.int 1) (.int 1)) {} = .ok definitions := ⟨_, rfl⟩
  obtain ⟨definitions', hg'⟩ : ∃ definitions,
      generate (rated (.int 1) (.bool true)) {} = .ok definitions := ⟨_, rfl⟩
  have hshown : shownLiterals (rated (.int 1) (.int 1)) =
      shownLiterals (rated (.int 1) (.bool true)) := by decide
  obtain rfl := ((generate_of_same hsame hnames hnodup {}).2 _ _ hg hg').2 hshown
  exact ⟨hsame, hnames, hnodup, definitions, hg, hg'⟩

/-- The type definitions of films whose rating has a given type. -/
def ratedDefinitions (rating : Text) : Text :=
  "export type Films = \x7b\n  id: number;\n  rating: " ++ rating ++
    ";\n  note: string;\n\x7d;\n\nexport type CustomDirectusTypes = \x7b\n" ++
    "  films: Films[];\n\x7d;\n"

/-- **Equal schemas may have different type definitions**: the number one and a truth value are
equal, and each is shown as what it is. -/
theorem generate_rated_with_equal_ratings :
    (rated (.int 1) .null).same (rated (.bool true) .null) = true ∧
      (rated (.int 1) .null).names = (rated (.bool true) .null).names ∧
      generate (rated (.int 1) .null) {} = .ok (ratedDefinitions "1") ∧
      generate (rated (.bool true) .null) {} = .ok (ratedDefinitions "true") ∧
      generate (rated (.int 1) .null) {} ≠ generate (rated (.bool true) .null) {} := by
  have hone : generate (rated (.int 1) .null) {} = .ok (ratedDefinitions "1") :=
    by decide +kernel
  have htrue : generate (rated (.bool true) .null) {} = .ok (ratedDefinitions "true") :=
    by decide +kernel
  refine ⟨by decide, rfl, hone, htrue, ?_⟩
  rw [hone, htrue]
  exact fun h => absurd (Except.ok.inj h) (by decide)

end Typing

end SchemaScribe
