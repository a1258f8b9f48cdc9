import Mathlib.Data.List.Find
import Mathlib.Data.List.Induction
import Mathlib.Data.List.TakeWhile
import SchemaScribe.CommandLine.Program
import SchemaScribe.Proofs.Outcome

/-!
# Command lines

The command lines of a run are written option by option, each of them with its value in a word of
its own or behind an equals sign (`Writes`).  Exactly these are read without a problem and without
an early reply (`writes_iff`), and a line asks for what its options ask for one after the other, so
that the last one counts (`requestFor`).
-/

namespace SchemaScribe.CommandLine

/-! ### Lines -/

/-- **The words that give an option of a run.** -/
inductive Spells : Given → List Text → Prop
  | config (path : Text) : Spells ⟨.config, path⟩ ["--config", path]
  | configJoined (path : Text) : Spells ⟨.config, path⟩ ["--config" ++ "=" ++ path]
  | output (path : Text) : Spells ⟨.output, path⟩ ["--output", path]
  | outputJoined (path : Text) : Spells ⟨.output, path⟩ ["--output" ++ "=" ++ path]
  | switch {word : Text} {which : Switch} {value : Bool}
    (h : (word, .switch which value) ∈ Command.generate.longOptions) :
    Spells ⟨.switch which value, ""⟩ [word]

/-- **The lines that give options**, one after the other.  Two hyphens may end them. -/
inductive Writes : List Given → List Text → Prop
  | nil : Writes [] []
  | hyphens : Writes [] ["--"]
  | cons {option : Given} {given : List Given} {words line : List Text} (h : Spells option words)
    (hrest : Writes given line) : Writes (option :: given) (words ++ line)

/-- **The arguments that call for a run** with a line of options. -/
inductive Calls (line : List Text) : List Text → Prop
  | named : Calls line ("generate" :: line)
  | hyphens : Calls line ("--" :: "generate" :: line)

/-! ### Words -/

theorem splitValue_of_notMem {word : Text} (h : .char '=' ∉ word.toList) :
    splitValue word = (word, none) := by
  have hall : ∀ c ∈ word.toList, (c != '=') = true := fun c hc =>
    bne_iff_ne.2 fun heq => h (heq ▸ hc)
  have hend : word.toList.dropWhile (· != .char '=') = [] := Text.dropWhile_eq_nil.2 hall
  rw [splitValue, hend, List.takeWhile_eq_self_iff.2 hall, Text.ofList_toList]

theorem splitValue_append {word : Text} (h : .char '=' ∉ word.toList) (value : Text) :
    splitValue (word ++ "=" ++ value) = (word, some value) := by
  have hall : ∀ c ∈ word.toList, (c != '=') = true := fun c hc =>
    bne_iff_ne.2 fun heq => h (heq ▸ hc)
  have hlist : (word ++ "=" ++ value).toList = word.toList ++ .char '=' :: value.toList := by simp
  rw [splitValue, hlist, List.dropWhile_append_of_pos hall, List.takeWhile_append_of_pos hall]
  simp

/-- An argument is a word alone or a word, an equals sign and a value. -/
theorem eq_of_splitValue {argument word : Text} {value? : Option Text}
    (h : splitValue argument = (word, value?)) :
    value? = none ∧ argument = word ∨
      ∃ value, value? = some value ∧ argument = word ++ "=" ++ value := by
  have hparts := List.takeWhile_append_dropWhile (p := (· != .char '=')) (l := argument.toList)
  rw [splitValue] at h
  split at h
  · next hend =>
    obtain ⟨rfl, rfl⟩ := Prod.mk.inj h
    rw [hend, List.append_nil] at hparts
    exact Or.inl ⟨rfl, by rw [hparts, Text.ofList_toList]⟩
  · next sign value hend =>
    obtain ⟨rfl, rfl⟩ := Prod.mk.inj h
    have hsign : sign = '=' := by
      simpa using Text.not_of_dropWhile_eq_cons hend
    refine Or.inr ⟨_, rfl, Text.toList_inj.1 ?_⟩
    rw [hend, hsign] at hparts
    simp [hparts]

/-! ### Reading -/

/-- The options and the other arguments of a line with one more option. -/
def withOption (option : Given) (read : List Given × List Text) : List Given × List Text :=
  (option :: read.1, read.2)

variable {word : Text} {meaning : Meaning}

/-- **A long option of a run**: the word is found, and it is an option without an equals sign. -/
structure IsLongOption (word : Text) (meaning : Meaning) : Prop where
  found : Command.generate.longOptions.find? (·.1 == word) = some (word, meaning)
  hyphens : word.toList.take 2 = [.char '-', .char '-']
  long : 2 < word.toList.length
  unsigned : .char '=' ∉ word.toList

theorem isLongOption_of_mem (h : (word, meaning) ∈ Command.generate.longOptions) :
    IsLongOption word meaning := by
  simp only [Command.longOptions, List.mem_cons, Prod.mk.injEq, List.not_mem_nil, or_false] at h
  rcases h with h | h | h | h | h | h | h | h | h <;> obtain ⟨rfl, rfl⟩ := h <;>
    exact ⟨by decide, by decide, by decide, by decide⟩

theorem isOption_of_take {argument : Text} (h : argument.toList.take 2 = [.char '-', .char '-']) :
    isOption argument = true := by
  rw [isOption]
  cases hcs : argument.toList with
  | nil => simp [hcs] at h
  | cons c cs =>
    cases cs with
    | nil => simp [hcs] at h
    | cons d rest =>
      obtain ⟨rfl, -⟩ : c = '-' ∧ d = '-' := by simpa [hcs] using h
      rfl

namespace IsLongOption

theorem ne_hyphens (h : IsLongOption word meaning) : word ≠ "--" := by
  rintro rfl
  exact absurd h.long (by decide)

theorem readArguments_apart (h : IsLongOption word meaning) (hvalue : meaning.takesValue = true)
    (value : Text) (line : List Text) :
    readArguments .generate (word :: value :: line) =
      (readArguments .generate line).map (withOption ⟨meaning, value⟩) := by
  rw [readArguments, if_neg h.ne_hyphens]
  simp [isOption_of_take h.hyphens, splitValue_of_notMem h.unsigned, h.found, hvalue]
  rfl

theorem readArguments_flag (h : IsLongOption word meaning) (hvalue : meaning.takesValue = false)
    (line : List Text) :
    readArguments .generate (word :: line) =
      (readArguments .generate line).map (withOption ⟨meaning, ""⟩) := by
  rw [readArguments, if_neg h.ne_hyphens]
  simp [isOption_of_take h.hyphens, splitValue_of_notMem h.unsigned, h.found, hvalue]
  rfl

theorem readArguments_joined (h : IsLongOption word meaning) (hvalue : meaning.takesValue = true)
    (value : Text) (line : List Text) :
    readArguments .generate ((word ++ "=" ++ value) :: line) =
      (readArguments .generate line).map (withOption ⟨meaning, value⟩) := by
  have hlist : (word ++ "=" ++ value).toList = word.toList ++ .char '=' :: value.toList := by simp
  have htake : (word ++ "=" ++ value).toList.take 2 = [.char '-', .char '-'] := by
    rw [hlist, List.take_append_of_le_length h.long.le, h.hyphens]
  have hne : word ++ "=" ++ value ≠ "--" := by
    intro heq
    have hlong := h.long
    have hlength := congrArg List.length (hlist.symm.trans (congrArg Text.toList heq))
    have htwo : (Text.toList "--").length = 2 := by decide
    rw [List.length_append, List.length_cons, htwo] at hlength
    omega
  rw [readArguments, if_neg hne]
  simp [isOption_of_take htake, splitValue_append h.unsigned, h.found, hvalue]
  rfl

end IsLongOption

theorem readArguments_of_spells {option : Given} {words : List Text} (h : Spells option words)
    (line : List Text) :
    readArguments .generate (words ++ line) =
      (readArguments .generate line).map (withOption option) := by
  have hconfig : IsLongOption "--config" .config := isLongOption_of_mem (by decide)
  have houtput : IsLongOption "--output" .output := isLongOption_of_mem (by decide)
  cases h with
  | config path => exact hconfig.readArguments_apart rfl path line
  | configJoined path => exact hconfig.readArguments_joined rfl path line
  | output path => exact houtput.readArguments_apart rfl path line
  | outputJoined path => exact houtput.readArguments_joined rfl path line
  | switch h => exact (isLongOption_of_mem h).readArguments_flag rfl line

theorem readArguments_of_writes {given : List Given} {line : List Text} (h : Writes given line) :
    readArguments .generate line = .ok (given, []) := by
  induction h with
  | nil => rfl
  | hyphens => rfl
  | cons h _ ih => rw [readArguments_of_spells h, ih]; rfl

theorem mem_of_found {found : Text}
    (h : Command.generate.longOptions.find? (·.1 == word) = some (found, meaning)) :
    (word, meaning) ∈ Command.generate.longOptions := by
  obtain rfl : found = word := by simpa using List.find?_some h
  exact List.mem_of_find?_eq_some h

/-- The options with a value are the two paths. -/
theorem takesValue_iff_of_mem (h : (word, meaning) ∈ Command.generate.longOptions) :
    meaning.takesValue = true ↔
      word = "--config" ∧ meaning = .config ∨ word = "--output" ∧ meaning = .output := by
  simp only [Command.longOptions, List.mem_cons, Prod.mk.injEq, List.not_mem_nil, or_false] at h
  rcases h with h | h | h | h | h | h | h | h | h <;> obtain ⟨rfl, rfl⟩ := h <;> decide

theorem spells_apart (h : (word, meaning) ∈ Command.generate.longOptions)
    (hvalue : meaning.takesValue = true) (value : Text) :
    Spells ⟨meaning, value⟩ [word, value] := by
  rcases (takesValue_iff_of_mem h).1 hvalue with ⟨rfl, rfl⟩ | ⟨rfl, rfl⟩
  · exact .config value
  · exact .output value

theorem spells_joined (h : (word, meaning) ∈ Command.generate.longOptions)
    (hvalue : meaning.takesValue = true) (value : Text) :
    Spells ⟨meaning, value⟩ [word ++ "=" ++ value] := by
  rcases (takesValue_iff_of_mem h).1 hvalue with ⟨rfl, rfl⟩ | ⟨rfl, rfl⟩
  · exact .configJoined value
  · exact .outputJoined value

theorem spells_flag (h : (word, meaning) ∈ Command.generate.longOptions)
    (hvalue : meaning.takesValue = false) (hhelp : meaning ≠ .help) :
    Spells ⟨meaning, ""⟩ [word] := by
  cases meaning with
  | switch which value => exact .switch h
  | help => exact absurd rfl hhelp
  | config => cases hvalue
  | output => cases hvalue
  | version => simp [Command.longOptions] at h
  | verbose => simp [Command.longOptions] at h

/-- Letters joined after a hyphen call for help, as there is no other option of one letter. -/
theorem help_of_readLetters {c : CodePoint} {cs : List CodePoint} {letters : List Given}
    (h : readLetters .generate (c :: cs) = .ok letters) : ⟨.help, ""⟩ ∈ letters := by
  rw [readLetters] at h
  cases hfound : Command.generate.shortOptions.find? (·.1 == c) with
  | none =>
    rw [hfound] at h
    cases h
  | some found =>
    obtain ⟨letter, meaning⟩ := found
    have hmem := List.mem_of_find?_eq_some hfound
    simp only [Command.shortOptions, List.mem_singleton, Prod.mk.injEq] at hmem
    obtain ⟨rfl, rfl⟩ := hmem
    rw [hfound] at h
    obtain ⟨more, _, h⟩ := bind_eq_ok_iff.1 h
    rw [← pure_eq_ok_iff.1 h]
    exact List.mem_cons_self

/-- What is read with one more option is what is read without it, and the option. -/
theorem exists_of_bind {option : Given} {read : Except Problem (List Given × List Text)}
    {given : List Given}
    (h : (read >>= fun more => pure (option :: more.1, more.2)) = .ok (given, [])) :
    ∃ more, given = option :: more ∧ read = .ok (more, []) := by
  obtain ⟨⟨more, others⟩, hread, h⟩ := bind_eq_ok_iff.1 h
  obtain ⟨rfl, rfl⟩ := Prod.mk.inj (pure_eq_ok_iff.1 h)
  exact ⟨more, rfl, hread⟩

theorem writes_of_readArguments {given : List Given} {line : List Text}
    (h : readArguments .generate line = .ok (given, []))
    (hhelp : ∀ option ∈ given, option.meaning ≠ .help) : Writes given line := by
  fun_induction readArguments Command.generate line generalizing given with
  | case1 =>
    -- no argument
    obtain ⟨rfl, -⟩ := Prod.mk.inj (Except.ok.inj h)
    exact .nil
  | case2 rest =>
    -- two hyphens end the options
    obtain ⟨rfl, rfl⟩ := Prod.mk.inj (Except.ok.inj h)
    exact .hyphens
  | case3 argument rest _ _ hprogram =>
    -- an argument that names the command of the program
    cases hprogram
  | case4 argument rest _ _ _ ih =>
    -- any other argument that is no option is left over
    obtain ⟨more, _, h⟩ := bind_eq_ok_iff.1 h
    cases (Prod.mk.inj (pure_eq_ok_iff.1 h)).2
  | case5 argument _ _ word found meaning value rest hfound hvalue hsplit ih =>
    -- an option with its value behind an equals sign
    obtain ⟨more, rfl, hread⟩ := exists_of_bind h
    have hrest := ih hread (List.forall_mem_cons.1 hhelp).2
    rcases eq_of_splitValue hsplit with ⟨hnone, -⟩ | ⟨_, hsome, rfl⟩
    · cases hnone
    · obtain rfl := Option.some.inj hsome
      exact .cons (spells_joined (mem_of_found hfound) hvalue _) hrest
  | case6 =>
    -- a flag with a value
    cases h
  | case7 =>
    -- an option without its value at the end
    cases h
  | case8 argument _ _ word found meaning hfound hvalue value rest hsplit ih =>
    -- an option with its value in the next word
    obtain ⟨more, rfl, hread⟩ := exists_of_bind h
    have hrest := ih hread (List.forall_mem_cons.1 hhelp).2
    rcases eq_of_splitValue hsplit with ⟨-, rfl⟩ | ⟨_, hsome, -⟩
    · exact .cons (spells_apart (mem_of_found hfound) hvalue value) hrest
    · cases hsome
  | case9 argument _ _ word found meaning rest hfound hvalue hsplit ih =>
    -- a flag
    obtain ⟨more, rfl, hread⟩ := exists_of_bind h
    obtain ⟨hmeaning, hmore⟩ := List.forall_mem_cons.1 hhelp
    rcases eq_of_splitValue hsplit with ⟨-, rfl⟩ | ⟨_, hsome, -⟩
    · have hflag : meaning.takesValue = false := by simpa using hvalue
      exact .cons (spells_flag (mem_of_found hfound) hflag hmeaning) (ih hread hmore)
    · cases hsome
  | case10 =>
    -- an unknown word behind two hyphens
    cases h
  | case11 argument _ hoption word value? hsplit rest hfound hlong ih =>
    -- letters behind one hyphen, the first of which calls for help
    obtain ⟨letters, hletters, h⟩ := bind_eq_ok_iff.1 h
    obtain ⟨⟨more, others⟩, -, h⟩ := bind_eq_ok_iff.1 h
    obtain ⟨rfl, -⟩ := Prod.mk.inj (pure_eq_ok_iff.1 h)
    have hmem : (⟨.help, ""⟩ : Given) ∈ letters := by
      rw [isOption] at hoption
      split at hoption
      · next c cs hcs =>
        rw [hcs] at hletters
        exact help_of_readLetters hletters
      · simp at hoption
    exact absurd rfl (hhelp _ (List.mem_append_left _ hmem))

theorem meaning_ne_help_of_writes {given : List Given} {line : List Text}
    (h : Writes given line) :
    ∀ option ∈ given, option.meaning ≠ .help ∧ option.meaning ≠ .version := by
  induction h with
  | nil => simp
  | hyphens => simp
  | cons h _ ih =>
    refine List.forall_mem_cons.2 ⟨?_, ih⟩
    cases h <;> simp

/-- Nothing is answered early where neither help nor the version is called for. -/
theorem earlyReply?_eq_none_iff {command : Command} {given : List Given} :
    earlyReply? command given = none ↔
      ∀ option ∈ given, option.meaning ≠ .help ∧ option.meaning ≠ .version := by
  rw [earlyReply?, List.findSome?_eq_none_iff]
  refine forall₂_congr fun option _ => ?_
  cases option.meaning <;> simp

/-- **The lines of a run are exactly those that are read as options**, with nothing left over and
nothing to answer early. -/
theorem writes_iff {given : List Given} {line : List Text} :
    Writes given line ↔ readArguments .generate line = .ok (given, []) ∧
      earlyReply? .generate given = none := by
  rw [earlyReply?_eq_none_iff]
  exact ⟨fun h => ⟨readArguments_of_writes h, meaning_ne_help_of_writes h⟩,
    fun ⟨h, hearly⟩ => writes_of_readArguments h fun option hmem => (hearly option hmem).1⟩

/-! ### Requests -/

/-- What an option asks for, in place of what was asked for before. -/
def enter (request : Request) (option : Given) : Request :=
  match option.meaning with
  | .config => { request with configPath := option.value }
  | .output => { request with outputPath := some option.value }
  | .switch .intersectionTypes value => { request with useIntersectionTypes := some value }
  | .switch .legacySingular value => { request with legacySingularMode := some value }
  | .switch .requiredNonNull value => { request with treatRequiredAsNonNull := some value }
  | _ => request

/-- **The request of a line**: the options enter what they ask for one after the other, and what
none of them gives is left open. -/
def requestFor (given : List Given) : Request :=
  given.foldl enter ⟨"", none, none, none, none⟩

theorem requestFor_append (given : List Given) (option : Given) :
    requestFor (given ++ [option]) = enter (requestFor given) option := by
  rw [requestFor, List.foldl_append]
  rfl

theorem lastValue?_append (meaning : Meaning) (given : List Given) (option : Given) :
    lastValue? meaning (given ++ [option]) =
      if option.meaning = meaning then some option.value else lastValue? meaning given := by
  rw [lastValue?, List.reverse_append, List.reverse_singleton, List.singleton_append,
    List.find?_cons]
  by_cases h : option.meaning = meaning
  · rw [if_pos h, h, beq_self_eq_true]
    rfl
  · rw [if_neg h, beq_false_of_ne h]
    rfl

theorem lastSwitch?_append (which : Switch) (given : List Given) (option : Given) :
    lastSwitch? which (given ++ [option]) =
      (lastSwitch? which [option]).or (lastSwitch? which given) := by
  simp only [lastSwitch?, List.reverse_append, List.reverse_singleton, List.singleton_append,
    List.findSome?_cons, List.findSome?_nil]
  cases option.meaning with
  | switch other value => by_cases h : other = which <;> simp [h]
  | _ => rfl

/-- The request of a line is the one that the last options of each kind make. -/
theorem requestOf_eq (given : List Given) :
    requestOf ((lastValue? .config given).getD "") given = requestFor given := by
  induction given using List.reverseRecOn with
  | nil => rfl
  | append_singleton given option ih =>
    rw [requestFor_append, ← ih]
    obtain ⟨meaning, value⟩ := option
    simp only [requestOf, lastValue?_append, lastSwitch?_append]
    cases meaning with
    | switch which value => cases which <;> simp [enter, lastSwitch?]
    | _ => simp [enter, lastSwitch?]

/-- **The paths that are asked for can be passed to the disk.** -/
def IsPassable (request : Request) : Prop :=
  nameFault? request.configPath.toList = none ∧
    ∀ path, request.outputPath = some path → nameFault? path.toList = none

theorem argumentFault?_eq_none {given : List Given} (h : IsPassable (requestFor given)) :
    argumentFault? given = none := by
  rw [← requestOf_eq] at h
  have hfault : ∀ meaning : Meaning, meaning.takesValue = true →
      (lastValue? meaning given).bind (fun value => nameFault? value.toList) = none := by
    intro meaning hvalue
    cases hlast : lastValue? meaning given with
    | none => rfl
    | some value =>
      cases meaning with
      | config => simpa [requestOf, hlast] using h.1
      | output => exact h.2 value hlast
      | _ => cases hvalue
  rw [argumentFault?, List.findSome?_eq_none_iff]
  intro option _
  split
  · next hvalue => exact hfault option.meaning hvalue
  · rfl

theorem lastValue?_config {given : List Given} (h : ∃ option ∈ given, option.meaning = .config) :
    lastValue? .config given = some (requestFor given).configPath := by
  obtain ⟨option, hmem, hmeaning⟩ := h
  have hfound : (given.reverse.find? (·.meaning == .config)).isSome := by
    rw [List.find?_isSome]
    exact ⟨option, List.mem_reverse.2 hmem, by simp [hmeaning]⟩
  obtain ⟨last, hlast⟩ := Option.isSome_iff_exists.1 hfound
  have hvalue : lastValue? .config given = some last.value := by rw [lastValue?, hlast]; rfl
  rw [hvalue, ← requestOf_eq, hvalue]
  rfl

end SchemaScribe.CommandLine
