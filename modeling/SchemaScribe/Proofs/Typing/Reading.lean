import SchemaScribe.Json.Reader
import SchemaScribe.Proofs.Outcome
import SchemaScribe.Typing.Declaration

/-!
# How type definitions are read

A reader of type definitions that knows nothing of the schema.  It splits the text at line breaks
only and finds declarations in the lines, each with a blank line after it; a member is a line by
itself, and its name is a plain identifier or a string literal (`readMember?`).

A text has at most one such reading (`IsReading.unique`).
-/

namespace SchemaScribe.Typing

/-! ### Members -/

/-- The name at the head of a member: a string literal, or all the characters that can go on in a
plain identifier. -/
def readName? : List CodePoint → Option (Text × List CodePoint)
  | .char '"' :: rest => (Json.readString (rest.length + 1) rest).toOption
  | cs =>
    let name := cs.takeWhile isIdentifierPart
    if isPlainIdentifier name then some (Text.ofList name, cs.dropWhile isIdentifierPart)
    else none

/-- The mark of a member that may be absent. -/
def readMark : List CodePoint → Bool × List CodePoint
  | .char '?' :: rest => (true, rest)
  | rest => (false, rest)

/-- The type of a member: all that stands between the colon and the semicolon that ends the line. -/
def readType? : List CodePoint → Option Text
  | .char ':' :: .char ' ' :: rest =>
    if rest.getLast? = some (.char ';') then some (Text.ofList rest.dropLast) else none
  | _ => none

/-- **A member on a line by itself**, two spaces from the margin. -/
def readMember? : List CodePoint → Option Member
  | .char ' ' :: .char ' ' :: cs => do
    let (name, rest) ← readName? cs
    let (optional, rest) := readMark rest
    let type ← readType? rest
    pure ⟨name, type, optional⟩
  | _ => none

/-! ### Declarations -/

/-- **A declaration** as it is read. -/
structure Declaration where
  name : Text
  members : List Member
  deriving DecidableEq, Repr

/-- The line of a declaration without members. -/
def emptyLine (name : Text) : List CodePoint := ("export type " ++ name ++ " = \x7b\x7d;").toList

/-- The line before the members of a declaration. -/
def openingLine (name : Text) : List CodePoint := ("export type " ++ name ++ " = \x7b").toList

/-- The line after the members of a declaration. -/
def closingLine : List CodePoint := (Text.toList "\x7d;")

/-- **The lines that a declaration is read from.**  Its name is a plain identifier. -/
inductive Declaration.WrittenAs : Declaration → List (List CodePoint) → Prop
  | empty {name : Text} (hname : isPlainIdentifier name.toList = true) :
    WrittenAs ⟨name, []⟩ [emptyLine name]
  | members {name : Text} {members : List Member} {lines : List (List CodePoint)}
    (hname : isPlainIdentifier name.toList = true)
    (hlines : List.Forall₂ (fun member line => readMember? line = some member) members lines) :
    WrittenAs ⟨name, members⟩ (openingLine name :: lines ++ [closingLine])

/-- **A reading of a text**: the declarations, and the lines of each.  After each declaration comes
a blank line; the last one is the end of the text. -/
structure IsReading (text : Text) (declarations : List Declaration)
    (blocks : List (List (List CodePoint))) : Prop where
  written : List.Forall₂ Declaration.WrittenAs declarations blocks
  lines : text.toList.splitOn (.char '\n') = blocks.flatMap fun block => block ++ [[]]

/-! ### Uniqueness -/

/-- The part of a list before the first item without a property is told by the list. -/
theorem eq_of_append_cons_eq {α : Type} {p : α → Prop} {a : α}
    {before before' after after' : List α} (hb : ∀ x ∈ before, p x)
    (hb' : ∀ x ∈ before', p x) (ha : ¬ p a)
    (h : before ++ a :: after = before' ++ a :: after') : before = before' ∧ after = after' := by
  induction before generalizing before' with
  | nil =>
    cases before' with
    | nil => exact ⟨rfl, (List.cons.inj h).2⟩
    | cons x rest => exact absurd ((List.cons.inj h).1 ▸ hb' x List.mem_cons_self) ha
  | cons x rest ih =>
    rw [List.forall_mem_cons] at hb
    cases before' with
    | nil => exact absurd ((List.cons.inj h).1 ▸ hb.1) ha
    | cons x' rest' =>
      rw [List.forall_mem_cons] at hb'
      obtain ⟨rfl, htail⟩ := List.cons.inj h
      obtain ⟨rfl, hafter⟩ := ih hb.2 hb'.2 htail
      exact ⟨rfl, hafter⟩

theorem openingLine_inj {name name' : Text} (h : openingLine name = openingLine name') :
    name = name' := by
  simpa [openingLine, ← Text.toList_inj] using h

theorem emptyLine_inj {name name' : Text} (h : emptyLine name = emptyLine name') :
    name = name' := by
  simpa [emptyLine, ← Text.toList_inj] using h

/-- Whether there are members is told by the last character of the first line. -/
theorem emptyLine_ne_openingLine (name name' : Text) : emptyLine name ≠ openingLine name' := by
  intro h
  have hempty : (emptyLine name).getLast? = some (.char ';') := by
    rw [emptyLine, Text.toList_append, List.getLast?_append]
    rfl
  have hopening : (openingLine name').getLast? = some (.char '\x7b') := by
    rw [openingLine, Text.toList_append, List.getLast?_append]
    rfl
  rw [h, hopening] at hempty
  exact absurd hempty (by decide)

/-- The lines of members are told from the line that closes a declaration. -/
theorem readMember?_closingLine : readMember? closingLine = none := by decide

theorem members_unique {members members' : List Member} {lines : List (List CodePoint)}
    (h : List.Forall₂ (fun member line => readMember? line = some member) members lines)
    (h' : List.Forall₂ (fun member line => readMember? line = some member) members' lines) :
    members = members' := by
  apply List.left_unique_forall₂' _ h h'
  intro member line member' hm hm'
  rw [hm] at hm'
  exact Option.some.inj hm'

/-- A declaration ends where it does and says what it says, whatever comes after the blank line. -/
theorem Declaration.WrittenAs.unique {declaration declaration' : Declaration}
    {block block' after after' : List (List CodePoint)} (h : declaration.WrittenAs block)
    (h' : declaration'.WrittenAs block') (heq : block ++ [] :: after = block' ++ [] :: after') :
    declaration = declaration' ∧ block = block' ∧ after = after' := by
  have hread : ∀ {members : List Member} {lines : List (List CodePoint)},
      List.Forall₂ (fun member line => readMember? line = some member) members lines →
        ∀ line ∈ lines, readMember? line ≠ none := by
    intro members lines hall line hline
    obtain ⟨member, hmember⟩ := exists_forall₂_iff.1 ⟨members, hall.flip⟩ line hline
    rw [hmember]
    exact Option.some_ne_none member
  -- the first line tells the name and whether members follow
  cases h with
  | @empty name hname =>
    cases h' with
    | @empty name' hname' =>
      obtain ⟨hfirst, hrest⟩ := List.cons.inj heq
      obtain rfl := emptyLine_inj hfirst
      exact ⟨rfl, rfl, (List.cons.inj hrest).2⟩
    | @members name' members' lines' hname' hlines' =>
      exact absurd (List.cons.inj heq).1 (emptyLine_ne_openingLine name name')
  | @members name members lines hname hlines =>
    cases h' with
    | @empty name' hname' =>
      exact absurd (List.cons.inj heq).1.symm (emptyLine_ne_openingLine name' name)
    | @members name' members' lines' hname' hlines' =>
      obtain ⟨hfirst, hrest⟩ := List.cons.inj heq
      obtain rfl := openingLine_inj hfirst
      simp only [List.append_eq, List.append_assoc, List.singleton_append] at hrest
      -- the line that closes the declaration is the first that reads as no member
      obtain ⟨rfl, hafter⟩ := eq_of_append_cons_eq (hread hlines) (hread hlines')
        (not_not_intro readMember?_closingLine) hrest
      obtain rfl := members_unique hlines hlines'
      exact ⟨rfl, rfl, (List.cons.inj hafter).2⟩

/-- **A text is read in at most one way.** -/
theorem IsReading.unique {text : Text} {declarations declarations' : List Declaration}
    {blocks blocks' : List (List (List CodePoint))} (h : IsReading text declarations blocks)
    (h' : IsReading text declarations' blocks') :
    declarations = declarations' ∧ blocks = blocks' := by
  obtain ⟨hwritten, hlines⟩ := h
  obtain ⟨hwritten', hlines'⟩ := h'
  rw [hlines] at hlines'
  clear hlines
  induction hwritten generalizing declarations' blocks' with
  | nil =>
    cases hwritten' with
    | nil => exact ⟨rfl, rfl⟩
    | cons _ _ => simp at hlines'
  | @cons declaration block declarations blocks hfirst _ ih =>
    cases hwritten' with
    | nil => simp at hlines'
    | @cons declaration' block' declarations' blocks' hfirst' hrest' =>
      simp only [List.flatMap_cons, List.append_assoc, List.singleton_append] at hlines'
      -- the first declaration ends at the same line in both readings
      obtain ⟨rfl, rfl, hafter⟩ := hfirst.unique hfirst' hlines'
      obtain ⟨rfl, rfl⟩ := ih hrest' hafter
      exact ⟨rfl, rfl⟩

end SchemaScribe.Typing
