import SchemaScribe.Proofs.Text.Case
import SchemaScribe.Proofs.Typing.Document
import SchemaScribe.Settings.Read

/-!
# What the names of types consist of

The name of a record type is put together from the words of the name of its collection, each with a
capital (`pascalChars_eq_flatMap_words`), and it is declared whatever comes out.  The name of the
directory is looked at when a configuration is read, and names of members are quoted where they have
to be, but `declared_names_admitted_iff` says that the names of record types are only as good as the
names of their collections.
-/

namespace SchemaScribe.Typing

/-! ### Words -/

/-- The words of a name: what stands between its separators. -/
def words (name : List CodePoint) : List (List CodePoint) :=
  (name.splitOnP isSeparator).filter fun word => !word.isEmpty

/-- A word with a capital. -/
def capitalized : List CodePoint → List CodePoint
  | [] => []
  | c :: rest => Text.upperChar c ++ rest

/-- What stands before the first separator is a word of its own only where one begins. -/
theorem pascalChars_of_splitOnP {cs first : List CodePoint} {more : List (List CodePoint)}
    (h : cs.splitOnP isSeparator = first :: more) (atStart : Bool) :
    pascalChars atStart cs =
      (if atStart then capitalized first else first) ++ more.flatMap capitalized := by
  induction cs generalizing first more atStart with
  | nil =>
    obtain ⟨rfl, rfl⟩ := List.cons.inj h
    cases atStart <;> rfl
  | cons c rest ih =>
    obtain ⟨next, others, hrest⟩ := List.exists_cons_of_ne_nil
      (List.splitOnP_ne_nil isSeparator rest)
    rw [List.splitOnP_cons_eq_if_modifyHead, hrest] at h
    -- a separator ends the word before it, and the next one begins with a capital
    by_cases hc : isSeparator c = true
    · rw [if_pos hc] at h
      obtain ⟨rfl, rfl⟩ := List.cons.inj h
      rw [pascalChars, if_pos hc, ih hrest true]
      cases atStart <;> rfl
    · rw [if_neg hc] at h
      obtain ⟨rfl, rfl⟩ := List.cons.inj h
      rw [pascalChars, if_neg hc, ih hrest false]
      cases atStart <;> simp [capitalized]

/-- **A name in Pascal case is made of its words**, each with a capital. -/
theorem pascalChars_eq_flatMap_words (cs : List CodePoint) :
    pascalChars true cs = (words cs).flatMap capitalized := by
  obtain ⟨first, more, h⟩ := List.exists_cons_of_ne_nil (List.splitOnP_ne_nil isSeparator cs)
  have hempty : ∀ stretches : List (List CodePoint),
      (stretches.filter fun word => !word.isEmpty).flatMap capitalized =
        stretches.flatMap capitalized := by
    intro stretches
    induction stretches with
    | nil => rfl
    | cons word rest ih => cases word <;> simp [ih, capitalized]
  rw [pascalChars_of_splitOnP h true, words, hempty, h, if_pos rfl, List.flatMap_cons]

theorem ne_nil_of_mem_words {name word : List CodePoint} (h : word ∈ words name) : word ≠ [] := by
  rintro rfl
  simpa using (List.mem_filter.1 h).2

theorem capitalized_ne_nil {word : List CodePoint} (h : word ≠ []) : capitalized word ≠ [] := by
  cases word with
  | nil => exact absurd rfl h
  | cons c rest =>
    obtain ⟨d, more, hupper, -⟩ := Text.exists_upperChar c
    simp [capitalized, hupper]

/-! ### Rules -/

/-- **What a name may consist of**: the characters that may begin it, and those that may go on in
it. -/
structure NameRule where
  start : CodePoint → Prop
  part : CodePoint → Prop

/-- A name by a rule.  It is not empty. -/
def NameRule.Admits (rule : NameRule) : List CodePoint → Prop
  | [] => False
  | c :: rest => rule.start c ∧ ∀ d ∈ rest, rule.part d

/-- **Words that make up a name by a rule**: the first of them is one with its capital, and the
others go on in it with theirs. -/
def NameRule.AdmitsWords (rule : NameRule) : List (List CodePoint) → Prop
  | [] => False
  | first :: more =>
    rule.Admits (capitalized first) ∧ ∀ word ∈ more, ∀ c ∈ capitalized word, rule.part c

theorem NameRule.admits_append_iff {rule : NameRule} {a b : List CodePoint} (ha : a ≠ []) :
    rule.Admits (a ++ b) ↔ rule.Admits a ∧ ∀ c ∈ b, rule.part c := by
  cases a with
  | nil => exact absurd rfl ha
  | cons c rest =>
    show (rule.start c ∧ ∀ d ∈ rest ++ b, rule.part d) ↔
      (rule.start c ∧ ∀ d ∈ rest, rule.part d) ∧ _
    rw [List.forall_mem_append, and_assoc]

/-- **The name of a record type goes by a rule** just when the words of the collection's name do. -/
theorem NameRule.admits_pascalCase_iff (rule : NameRule) (name : Text) :
    rule.Admits (pascalCase name).toList ↔ rule.AdmitsWords (words name.toList) := by
  rw [pascalCase, Text.toList_ofList, pascalChars_eq_flatMap_words]
  have hne : ∀ word ∈ words name.toList, word ≠ [] := fun word h => ne_nil_of_mem_words h
  cases hwords : words name.toList with
  | nil => rfl
  | cons first more =>
    have hfirst : capitalized first ≠ [] :=
      capitalized_ne_nil (hne first (hwords ▸ List.mem_cons_self))
    rw [List.flatMap_cons, NameRule.admits_append_iff hfirst, NameRule.AdmitsWords]
    simp only [List.mem_flatMap, forall_exists_index, and_imp]
    exact and_congr_right fun _ => forall_comm.trans (forall_congr' fun _ => forall_comm)

/-! ### Plain words -/

def plainRule : NameRule :=
  ⟨fun c => isIdentifierStart c = true, fun c => isIdentifierPart c = true⟩

theorem plainRule_admits_iff {cs : List CodePoint} :
    plainRule.Admits cs ↔ isPlainIdentifier cs = true := by
  cases cs with
  | nil => simp [NameRule.Admits, isPlainIdentifier]
  | cons c rest => simp [NameRule.Admits, isPlainIdentifier, plainRule]

/-- **A word that goes into a plain identifier**: letters of ASCII, digits and dollar signs, but it
may begin with any letter whose capital is one of ASCII. -/
def IsPlainWord : List CodePoint → Prop
  | [] => True
  | c :: rest => (isIdentifierPart c = true ∨ c ∈ Text.asciiCapitals) ∧ rest.all isIdentifierPart

instance : DecidablePred IsPlainWord
  | [] => inferInstanceAs (Decidable True)
  | _ :: _ => inferInstanceAs (Decidable (_ ∧ _))

theorem ascii_of_isIdentifierPart {c : CodePoint} (h : isIdentifierPart c = true) :
    c.toNat < 128 := by
  simp only [isIdentifierPart, isIdentifierStart, CodePoint.isAlpha, Bool.or_eq_true, beq_iff_eq,
    CodePoint.isUpper_iff, CodePoint.isLower_iff, CodePoint.isDigit_iff] at h
  rcases h with (((h | h) | rfl) | rfl) | h
  · omega
  · omega
  · decide
  · decide
  · omega

/-- The upper case of what can stand in a plain identifier can do so too, and a digit is nothing
but the upper case of a digit. -/
theorem upperChar_of_isIdentifierPart {c : CodePoint}
    (h : isIdentifierPart c = true ∨ c ∈ Text.asciiCapitals) :
    ∃ d more, Text.upperChar c = d :: more ∧ (d.isDigit = c.isDigit) ∧
      isIdentifierPart d = true ∧ ∀ e ∈ more, isIdentifierPart e = true := by
  rcases h with h | h
  · have hc : c.toNat < 128 := ascii_of_isIdentifierPart h
    -- within ASCII each character has been tried
    have hall : ∀ n : Fin 128, isIdentifierPart (CodePoint.ofNat n) = true →
        (CodePoint.ofNat n).toUpper.isDigit = (CodePoint.ofNat n).isDigit ∧
          isIdentifierPart (CodePoint.ofNat n).toUpper = true := by decide +kernel
    have hupper := hall ⟨c.toNat, hc⟩
    rw [CodePoint.ofNat_toNat] at hupper
    exact ⟨c.toUpper, [], Text.upperChar_of_ascii hc, (hupper h).1, (hupper h).2, by simp⟩
  · have hall : (Text.asciiCapitals.all fun c =>
        ((Text.upperChar c).head?.any fun d => d.isDigit == c.isDigit) &&
          (Text.upperChar c).all isIdentifierPart) = true := by decide +kernel
    have hupper := List.all_eq_true.1 hall c h
    rw [Bool.and_eq_true, List.all_eq_true] at hupper
    cases hcs : Text.upperChar c with
    | nil => rw [hcs] at hupper; cases hupper.1
    | cons d more =>
      rw [hcs, List.forall_mem_cons] at hupper
      exact ⟨d, more, rfl, by simpa using hupper.1, hupper.2⟩

theorem forall_capitalized_iff {word : List CodePoint} :
    (∀ d ∈ capitalized word, isIdentifierPart d = true) ↔ IsPlainWord word := by
  cases word with
  | nil => simp [capitalized, IsPlainWord]
  | cons c rest =>
    rw [capitalized, List.forall_mem_append, IsPlainWord, List.all_eq_true]
    refine and_congr_left fun _ => ?_
    constructor
    · intro h
      rcases Text.ascii_upperChar_iff.1 fun d hd => ascii_of_isIdentifierPart (h d hd) with hc | hc
      · -- in ASCII, upper case makes nothing plain that was not so before
        have hall : ∀ n : Fin 128, isIdentifierPart (CodePoint.ofNat n).toUpper = true →
            isIdentifierPart (CodePoint.ofNat n) = true := by decide +kernel
        have hupper := hall ⟨c.toNat, hc⟩
        rw [CodePoint.ofNat_toNat] at hupper
        rw [Text.upperChar_of_ascii hc, List.forall_mem_singleton] at h
        exact Or.inl (hupper h)
      · exact Or.inr hc
    · intro h
      obtain ⟨d, more, hupper, -, hd, hmore⟩ := upperChar_of_isIdentifierPart h
      rw [hupper, List.forall_mem_cons]
      exact ⟨hd, hmore⟩

theorem isIdentifierStart_iff {c : CodePoint} :
    isIdentifierStart c = true ↔ isIdentifierPart c = true ∧ c.isDigit = false := by
  by_cases hc : c.toNat < 128
  · have hall : ∀ n : Fin 128, isIdentifierStart (CodePoint.ofNat n) = true ↔
        isIdentifierPart (CodePoint.ofNat n) = true ∧ (CodePoint.ofNat n).isDigit = false := by
      decide +kernel
    have hchar := hall ⟨c.toNat, hc⟩
    rwa [CodePoint.ofNat_toNat] at hchar
  · have hpart : ¬ isIdentifierPart c = true := fun h => hc (ascii_of_isIdentifierPart h)
    have hstart : ¬ isIdentifierStart c = true := fun h => hpart (by rw [isIdentifierPart, h]; rfl)
    exact iff_of_false hstart fun h => hpart h.1

theorem plainRule_admits_cons_iff {c : CodePoint} {rest : List CodePoint} :
    plainRule.Admits (c :: rest) ↔
      c.isDigit = false ∧ ∀ d ∈ c :: rest, isIdentifierPart d = true := by
  show isIdentifierStart c = true ∧ (∀ d ∈ rest, isIdentifierPart d = true) ↔ _
  rw [isIdentifierStart_iff, List.forall_mem_cons, and_comm (a := isIdentifierPart c = true),
    and_assoc]

theorem plainRule_admits_capitalized_iff {c : CodePoint} {rest : List CodePoint} :
    plainRule.Admits (capitalized (c :: rest)) ↔ c.isDigit = false ∧ IsPlainWord (c :: rest) := by
  obtain ⟨d, more, hupper, -⟩ := Text.exists_upperChar c
  have hword : capitalized (c :: rest) = d :: (more ++ rest) := by
    rw [capitalized, hupper, List.cons_append]
  rw [← forall_capitalized_iff, hword, plainRule_admits_cons_iff, ← hword]
  refine and_congr_left fun hpart => ?_
  -- a capital is a digit only of a digit
  have hc := (forall_capitalized_iff.1 hpart).1
  obtain ⟨d', more', hupper', hdigit, -⟩ := upperChar_of_isIdentifierPart hc
  obtain ⟨rfl, -⟩ := List.cons.inj (hupper.symm.trans hupper')
  rw [hdigit]

/-- **Words make up a plain identifier** just when there are any, they are plain, and the first of
them does not begin with a digit. -/
theorem plainRule_admitsWords_iff {name : List CodePoint} :
    plainRule.AdmitsWords (words name) ↔
      (∃ c rest more, words name = (c :: rest) :: more ∧ c.isDigit = false) ∧
        ∀ word ∈ words name, IsPlainWord word := by
  have hne : ∀ word ∈ words name, word ≠ [] := fun word h => ne_nil_of_mem_words h
  cases hwords : words name with
  | nil => simp [NameRule.AdmitsWords]
  | cons first more =>
    cases first with
    | nil => exact absurd rfl (hne [] (hwords ▸ List.mem_cons_self))
    | cons c rest =>
      rw [NameRule.AdmitsWords, plainRule_admits_capitalized_iff, List.forall_mem_cons, and_assoc]
      have hfirst : (∃ c' rest' more', (c :: rest) :: more = (c' :: rest') :: more' ∧
          c'.isDigit = false) ↔ c.isDigit = false := by simp
      have hmore : (∀ word ∈ more, ∀ d ∈ capitalized word, plainRule.part d) ↔
          ∀ word ∈ more, IsPlainWord word := forall₂_congr fun word _ => forall_capitalized_iff
      rw [hfirst, hmore]

/-! ### Declarations -/

theorem isPlainIdentifier_of_directoryTypeName {value : Yaml.Value} {name : Text}
    (h : Settings.directoryTypeName value = .ok name) : isPlainIdentifier name.toList = true := by
  obtain ⟨given, -, h⟩ := bind_eq_ok_iff.1 h
  dsimp only at h
  split at h
  · next hplain =>
    obtain rfl := pure_eq_ok_iff.1 h
    exact hplain
  · cases h

theorem forall_names_admitted_iff {rule : NameRule} {schema : Schema} {options : Options}
    {ds : List Declaration} (hdirectory : rule.Admits options.directoryTypeName.toList)
    (h : declarations schema options = .ok ds) :
    (∀ d ∈ ds, rule.Admits d.name.toList) ↔
      ∀ name ∈ schema.names, rule.AdmitsWords (words name.toList) := by
  have hnames : (∀ d ∈ ds, rule.Admits d.name.toList) ↔
      ∀ name ∈ ds.map (·.name), rule.Admits name.toList := by simp
  rw [hnames, names_of_declarations h, List.forall_mem_append, List.forall_mem_singleton,
    and_iff_left hdirectory, List.forall_mem_map]
  exact forall₂_congr fun name _ => rule.admits_pascalCase_iff name

/-- **Which collections get types of usable names.**  Whatever a name may consist of, as long as a
plain identifier is one: all declarations have such names just when the words of each collection's
name make one up.  By the rule that the name of the directory goes by this means that each of these
names has a word, that the first word does not begin with a digit, and that all are plain. -/
theorem declared_names_admitted_iff {rule : NameRule}
    (hplain : ∀ cs, isPlainIdentifier cs = true → rule.Admits cs) {schema : Schema}
    {options : Options} {value : Yaml.Value} {definitions : Text}
    (hdirectory : Settings.directoryTypeName value = .ok options.directoryTypeName)
    (hg : generate schema options = .ok definitions) :
    ∃ ds, declarations schema options = .ok ds ∧ definitions = documentText ds ∧
      ds.map (·.name) = schema.names.map pascalCase ++ [options.directoryTypeName] ∧
      ((∀ d ∈ ds, rule.Admits d.name.toList) ↔
        ∀ name ∈ schema.names, rule.AdmitsWords (words name.toList)) ∧
      ((∀ d ∈ ds, isPlainIdentifier d.name.toList = true) ↔
        ∀ name ∈ schema.names,
          (∃ c rest more, words name.toList = (c :: rest) :: more ∧ c.isDigit = false) ∧
            ∀ word ∈ words name.toList, IsPlainWord word) := by
  obtain ⟨ds, hds, htext⟩ := generate_eq_ok_text_iff.1 hg
  -- the name of the directory is an identifier, since the configuration was accepted
  have hname := isPlainIdentifier_of_directoryTypeName hdirectory
  have hrule := forall_names_admitted_iff (hplain _ hname) hds
  have hstrict := forall_names_admitted_iff (plainRule_admits_iff.2 hname) hds
  simp only [plainRule_admits_iff, plainRule_admitsWords_iff] at hstrict
  exact ⟨ds, hds, htext, names_of_declarations hds, hrule, hstrict⟩

/-- A schema with a name of two words, one of which has a capital outside of its own alphabet. -/
def wordySchema : Schema := ⟨[⟨"ßeta__2", false, []⟩]⟩

set_option maxRecDepth 5000 in
/-- The types of `wordySchema` have plain names. -/
theorem declared_names_of_wordySchema :
    ∃ definitions ds, generate wordySchema {} = .ok definitions ∧ definitions = documentText ds ∧
      ds.map (·.name) = ["SSeta2", "CustomDirectusTypes"] ∧
      ∀ d ∈ ds, plainRule.Admits d.name.toList := by
  obtain ⟨definitions, hg⟩ : ∃ definitions, generate wordySchema {} = .ok definitions := ⟨_, rfl⟩
  have hdirectory : Settings.directoryTypeName (.scalar .null) = .ok "CustomDirectusTypes" := by
    decide
  obtain ⟨ds, -, htext, hnames, hrule, -⟩ :=
    declared_names_admitted_iff (fun cs h => plainRule_admits_iff.2 h) hdirectory hg
  have hwords : words (Text.toList "ßeta__2") = [Text.toList "ßeta", Text.toList "2"] := by decide
  have hplain : IsPlainWord (Text.toList "ßeta") ∧ IsPlainWord (Text.toList "2") := by decide
  refine ⟨definitions, ds, hg, htext, hnames.trans (by decide), hrule.2 ?_⟩
  intro name hname
  obtain rfl : name = "ßeta__2" := List.mem_singleton.1 hname
  rw [plainRule_admitsWords_iff, hwords, List.forall_mem_cons, List.forall_mem_singleton]
  exact ⟨⟨'ß', _, _, rfl, by decide⟩, hplain⟩

/-- A text with names of which one has no words, one begins with a digit and one holds a mark. -/
def unusableText : Text := "\x7b\"___\":\x7b\x7d,\"1x\":\x7b\x7d,\"a.b\":\x7b\x7d\x7d"

def unusableSchema : Schema := ⟨[⟨"___", false, []⟩, ⟨"1x", false, []⟩, ⟨"a.b", false, []⟩]⟩

def unusableDeclarations : List Declaration :=
  [⟨"", []⟩, ⟨"1x", []⟩, ⟨"A.b", []⟩,
    ⟨"CustomDirectusTypes", [⟨"___", "[]", false⟩, ⟨"1x", "1x[]", false⟩, ⟨"a.b", "A.b[]", false⟩]⟩]

set_option maxRecDepth 5000 in
/-- The types of `unusableText` are declared under no name, under one that begins with a digit and
under one with a mark, though none of the collections has the empty name. -/
theorem unusable_names_of_unusableText :
    Snapshot.load unusableText = .ok unusableSchema ∧
      Settings.directoryTypeName (.scalar .null) = .ok "CustomDirectusTypes" ∧
      generate unusableSchema {} = .ok (documentText unusableDeclarations) ∧
      (∀ name ∈ unusableSchema.names, name ≠ "") ∧
      unusableDeclarations.map (·.name) = ["", "1x", "A.b", "CustomDirectusTypes"] ∧
      ¬ ∀ d ∈ unusableDeclarations, isPlainIdentifier d.name.toList = true := by
  refine ⟨by decide +kernel, by decide, rfl, by decide, by decide, by decide⟩

end SchemaScribe.Typing
