import SchemaScribe.Proofs.CommandLine.Line
import SchemaScribe.Proofs.Run.Effect

/-!
# Calls and runs

A call for a run changes what the run changes, and tells what came of it: the text or the place
where it was written, or the message of the fault (`call_agrees_with_run`).  What is told of a run
without an output is what the same run stores in one.  All of this holds just as far as what is to
be told has bytes; of the faults, halves of surrogate pairs are told as escapes.
-/

namespace SchemaScribe.CommandLine

variable {volume : Volume} {given : List Given} {line arguments : List Text}

/-! ### What is shown -/

theorem dropSequences_of_notMem {cs : List CodePoint} (h : .char '\x1b' ∉ cs) (fuel : Nat) :
    dropSequences fuel cs = cs := by
  induction fuel generalizing cs with
  | zero => rfl
  | succ fuel ih =>
    cases cs with
    | nil => rfl
    | cons c rest =>
      rw [List.mem_cons, not_or] at h
      simp only [dropSequences, if_neg (Ne.symm h.1), ih h.2]

/-- A text without the escape character is shown as it is. -/
theorem shown_of_notMem {text : Text} (h : .char '\x1b' ∉ text.toList) : shown text = text := by
  rw [shown, dropSequences_of_notMem h, Text.ofList_toList]

theorem shown_line {text : Text} (h : .char '\x1b' ∉ text.toList) :
    shown (text ++ "\n") = text ++ "\n" :=
  shown_of_notMem (by simp [h])

/-- A string of characters without the escape character is told as an error as it is. -/
theorem shownError_line {text : Text} (h : .char '\x1b' ∉ text.toList) :
    shownError (text ++ "\n") = Text.Utf8.escapeHalves (text ++ "\n") := by
  rw [shownError, shown_line h]

theorem outputReply_of_string {s : String} (h : .char '\x1b' ∉ (Text.ofString s).toList)
    (errors : Text) : outputReply errors s = { output := s, errors := errors } := by
  rw [outputReply, shown_of_notMem h, Text.Utf8.encode_ofString]

theorem outputReply_of_error {text : Text} {cause : Text.Utf8.EncodeFault}
    (h : Text.Utf8.encode (shown text) = .error cause) (errors : Text) :
    outputReply errors text = { errors := errors, ending := .error (.output cause) } := by
  rw [outputReply, h]

/-- **What a run that ended well has to tell**: its text, or the place where that was written. -/
def told (outcome : Outcome) : Text :=
  match outcome.outputPath with
  | none => outcome.text
  | some place => place.text ++ "\n"

theorem runReply_ok (outcome : Outcome) :
    runReply [] (.ok outcome) = outputReply "" (told outcome) :=
  rfl

/-! ### Calls -/

/-- The reply to a call on a volume. -/
def replyTo (arguments : List Text) (volume : Volume) : Reply :=
  ((call arguments : StateM Volume _).run volume).1

/-- **The volume that a call leaves behind.** -/
def leftByCall (arguments : List Text) (volume : Volume) : Volume :=
  ((call arguments : StateM Volume _).run volume).2

/-- The arguments of a call for a run name the command and its line. -/
theorem readArguments_of_calls (hcall : Calls line arguments) :
    readArguments .program arguments = .ok ([], "generate" :: line) := by
  cases hcall <;> rfl

theorem call_eq_callCommand {m : Type → Type} [Monad m] [Disk m] (hcall : Calls line arguments) :
    (call arguments : m Reply) = callCommand false .generate line := by
  have hempty : arguments.isEmpty = false := by cases hcall <;> rfl
  rw [call, hempty, readArguments_of_calls hcall]
  rfl

theorem callCommand_eq {m : Type → Type} [Monad m] [Disk m] (hline : Writes given line) :
    (callCommand false .generate line : m Reply) = perform false .generate given [] := by
  obtain ⟨hread, hearly⟩ := writes_iff.1 hline
  rw [callCommand, hread]
  dsimp only
  rw [hearly]

/-- **A call for a run tells what came of the run** and leaves behind what the run does. -/
theorem run_call (volume : Volume) (hcall : Calls line arguments) (hline : Writes given line)
    (hconfig : ∃ option ∈ given, option.meaning = .config)
    (hpassable : IsPassable (requestFor given)) :
    (call arguments : StateM Volume _).run volume =
      (runReply [] (resultOf (requestFor given) volume), leftBy (requestFor given) volume) := by
  have hlast := lastValue?_config hconfig
  have hrequest : requestOf (requestFor given).configPath given = requestFor given := by
    have h := requestOf_eq given
    rwa [hlast] at h
  rw [call_eq_callCommand hcall, callCommand_eq hline]
  unfold perform
  rw [argumentFault?_eq_none hpassable, hlast]
  dsimp only
  rw [hrequest]
  rfl

theorem replyTo_eq (volume : Volume) (hcall : Calls line arguments) (hline : Writes given line)
    (hconfig : ∃ option ∈ given, option.meaning = .config)
    (hpassable : IsPassable (requestFor given)) :
    replyTo arguments volume = runReply [] (resultOf (requestFor given) volume) :=
  congrArg Prod.fst (run_call volume hcall hline hconfig hpassable)

/-- **Calls and runs agree**, as far as what they tell has bytes.  A call for a run leaves behind
what the run does.  If the run ends well the call tells its text, or the place where that was
written, and the exit code is 0, provided that this is a string of characters; otherwise nothing is
told and there is no exit code.  If the run fails with a fault that is foreseen, the call tells the
message alone, on the other stream and with its halves as escapes, and the exit code is 1.  A call
that asks for an output besides stores there the bytes of what this one tells, unless it fails while
it writes. -/
theorem call_agrees_with_run (hproper : volume.IsProper) (hcall : Calls line arguments)
    (hline : Writes given line) (hconfig : ∃ option ∈ given, option.meaning = .config)
    (hpassable : IsPassable (requestFor given)) :
    leftByCall arguments volume = leftBy (requestFor given) volume ∧
    (∀ outcome, resultOf (requestFor given) volume = .ok outcome →
      .char '\x1b' ∉ (told outcome).toList →
        (∀ s : String, told outcome = .ofString s → replyTo arguments volume = ⟨s, "", .ok 0⟩) ∧
        ∀ cause, Text.Utf8.encode (told outcome) = .error cause →
          replyTo arguments volume = ⟨"", "", .error (.output cause)⟩) ∧
    (∀ fault, resultOf (requestFor given) volume = .error fault → fault.isForeseen →
      .char '\x1b' ∉ fault.message.toList →
        replyTo arguments volume =
            ⟨"", Text.Utf8.escapeHalves (fault.message ++ "\n"), .ok 1⟩ ∧
          ∀ s : String, fault.message = .ofString s →
            (replyTo arguments volume).errors = .ofString (s ++ "\n")) ∧
    ∀ line' arguments' given', Calls line' arguments' → Writes given' line' →
      (∃ option ∈ given', option.meaning = .config) → IsPassable (requestFor given') →
      requestFor given' =
        { requestFor given with outputPath := (requestFor given').outputPath } →
      ∀ outcome text, resultOf (requestFor given) volume = .ok outcome →
        outcome.outputPath = none → .char '\x1b' ∉ outcome.text.toList →
        (requestFor given').outputPath = some text → text ≠ "" →
        (∃ fault, resultOf (requestFor given') volume = .error (.writing fault)) ∨
          ∃ written : String, replyTo arguments volume = ⟨written, "", .ok 0⟩ ∧
            Volume.entryAt? (leftByCall arguments' volume)
                ((Path.ofText text).normalize volume.working).names =
              some (.file written.toUTF8) := by
  have hreply := replyTo_eq volume hcall hline hconfig hpassable
  have htold : ∀ outcome, resultOf (requestFor given) volume = .ok outcome →
      .char '\x1b' ∉ (told outcome).toList → ∀ s : String, told outcome = .ofString s →
        replyTo arguments volume = ⟨s, "", .ok 0⟩ := by
    intro outcome houtcome hescape s hs
    rw [hs] at hescape
    rw [hreply, houtcome, runReply_ok, hs, outputReply_of_string hescape]
  refine ⟨?_, fun outcome houtcome hescape => ⟨htold outcome houtcome hescape, ?_⟩, ?_, ?_⟩
  · rw [leftByCall, run_call volume hcall hline hconfig hpassable]
  · intro cause hcause
    rw [← shown_of_notMem hescape] at hcause
    rw [hreply, houtcome, runReply_ok, outputReply_of_error hcause]
  · intro fault hfault hforeseen hescape
    have hmessage : replyTo arguments volume =
        ⟨"", Text.Utf8.escapeHalves (fault.message ++ "\n"), .ok 1⟩ := by
      rw [hreply, hfault, runReply]
      rw [if_pos hforeseen, shownError_line hescape]
      exact congrArg (Reply.mk "" · (.ok 1)) (Text.empty_append _)
    refine ⟨hmessage, fun s hs => ?_⟩
    rw [hmessage, hs, ← Text.ofString_append, Text.Utf8.escapeHalves_ofString]
  · intro line' arguments' given' hcall' hline' hconfig' hpassable' hsame outcome text houtcome
      hnone hescape hasked hne
    rw [leftByCall, run_call volume hcall' hline' hconfig' hpassable']
    refine (stores_of_told hproper hsame houtcome hnone hasked hne).imp_right ?_
    rintro ⟨written, htext, hfile⟩
    have htext' : told outcome = outcome.text := by rw [told, hnone]
    exact ⟨written, htold outcome houtcome (htext' ▸ hescape) written (htext'.trans htext), hfile⟩

/-- A volume with a configuration of one collection and without an output. -/
def plainVolume : Volume where
  working := ["w"]
  entries := [(["w"], .directory),
    (["w", "c.yaml"], .file "schema:\n  inline: '\x7b\"a\": \x7b\x7d\x7d'\n".toUTF8)]

theorem isProper_plainVolume : plainVolume.IsProper where
  undotted := by decide
  present := rfl

set_option maxRecDepth 10000 in
theorem resultOf_plainVolume :
    resultOf ⟨"c.yaml", none, none, none, none⟩ plainVolume = .ok ⟨none, noteDefinitions, 1⟩ :=
  by decide +kernel

set_option maxRecDepth 10000 in
theorem resultOf_plainVolume_output :
    resultOf ⟨"c.yaml", some "b.ts", none, none, none⟩ plainVolume =
      .ok ⟨some ⟨.root, ["w", "b.ts"]⟩, noteDefinitions, 1⟩ :=
  by decide +kernel

/-- The definitions are told by one call and stored by another. -/
theorem calls_of_plainVolume :
    replyTo ["generate", "--config", "c.yaml"] plainVolume = ⟨noteDefinitions, "", .ok 0⟩ ∧
      Volume.entryAt? (leftByCall ["generate", "--output", "b.ts", "--config=c.yaml"] plainVolume)
        ["w", "b.ts"] = some (.file noteDefinitions.toUTF8) := by
  have hline : Writes [⟨.config, "c.yaml"⟩] ["--config", "c.yaml"] :=
    .cons (.config "c.yaml") .nil
  have hline' : Writes [⟨.output, "b.ts"⟩, ⟨.config, "c.yaml"⟩]
      ["--output", "b.ts", "--config=c.yaml"] :=
    .cons (.output "b.ts") (.cons (.configJoined "c.yaml") .nil)
  have hescape : .char '\x1b' ∉ (Text.ofString noteDefinitions).toList := by decide +kernel
  obtain ⟨-, htold, -, hstored⟩ := call_agrees_with_run isProper_plainVolume .named hline
    ⟨_, List.mem_cons_self, rfl⟩ ⟨by decide, by simp [requestFor, enter]⟩
  have hreply := (htold _ resultOf_plainVolume hescape).1 _ rfl
  refine ⟨hreply, ?_⟩
  rcases hstored _ _ _ .named hline' ⟨_, List.mem_cons_of_mem _ List.mem_cons_self, rfl⟩
    ⟨by decide, by rintro _ ⟨⟩; decide⟩ rfl _ "b.ts" resultOf_plainVolume rfl hescape rfl
    (by decide) with ⟨fault, hfault⟩ | ⟨written, hwritten, hfile⟩
  · cases resultOf_plainVolume_output.symm.trans hfault
  · rw [hreply, Reply.mk.injEq, Text.ofString_inj] at hwritten
    rw [hwritten.1]
    exact hfile

/-- A volume with a configuration that has half of a surrogate pair among its choices. -/
def untoldVolume : Volume where
  working := ["w"]
  entries := [(["w"], .directory), (["w", "c.yaml"], .file halfConfiguration.toUTF8)]

/-- The definitions of `untoldVolume`, which have no bytes. -/
def untoldDefinitions : Text :=
  "export type A = \x7b\n  x: \"" ++ .ofList [.half 0] ++ "\";\n\x7d;\n\n" ++
    "export type CustomDirectusTypes = \x7b\n  a: A[];\n\x7d;\n"

set_option maxRecDepth 10000 in
/-- **A run ends well and its call does not**: the definitions cannot be told.  A call that asks for
an output does not store them either. -/
theorem call_of_untoldVolume :
    resultOf ⟨"c.yaml", none, none, none, none⟩ untoldVolume = .ok ⟨none, untoldDefinitions, 1⟩ ∧
      (replyTo ["generate", "--config", "c.yaml"] untoldVolume).ending =
        .error (.output ⟨0, 24, 1⟩) ∧
      (replyTo ["generate", "--config", "c.yaml", "--output", "b.ts"] untoldVolume).ending =
        .error (.run (.writing (.notEncoded ⟨0, 24, 1⟩))) ∧
      Volume.entryAt? (leftByCall ["generate", "--config", "c.yaml", "--output", "b.ts"]
        untoldVolume) ["w", "b.ts"] = some (.file .empty) := by
  decide +kernel

end SchemaScribe.CommandLine
