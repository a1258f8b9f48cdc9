import SchemaScribe.Proofs.Json.Continuation
import SchemaScribe.Proofs.Json.Quoted
import SchemaScribe.Proofs.Outcome

/-!
# Texts put together from the texts of values

The text of an object or an array is put together from texts of values (`objectText`,
`arrayText`).  Where each of them is one (`IsLegible`), the whole is read as the values that the
parts are read as on their own (`read_objectText`, `read_arrayText`): the reader works off the
members one after the other, and each is read in its place as it is alone, since the sign behind it
ends it.
-/

namespace SchemaScribe.Json

/-! ### Texts -/

/-- The characters of a member: its key, a colon and its value. -/
def memberChars (member : Text × Text) : List CodePoint :=
  quoteChars member.1.toList ++ .char ':' :: member.2.toList

/-- **The text of an object**, from its keys and the texts of their values. -/
def objectText (members : List (Text × Text)) : Text :=
  Text.ofList
    (.char '\x7b' :: ([.char ','].intercalate (members.map memberChars) ++ [.char '\x7d']))

/-- **The text of an array**, from the texts of its items. -/
def arrayText (items : List Text) : Text :=
  Text.ofList (.char '[' :: ([.char ','].intercalate (items.map Text.toList) ++ [.char ']']))

/-- **A text that is a value**, whatever its numbers are. -/
def IsLegible (text : Text) : Prop :=
  ∀ problem place, read text ≠ .error (.malformed problem place)

theorem isLegible_iff {text : Text} :
    IsLegible text ↔ ¬ IsMalformed (readDocument text.toList) := by
  rw [IsLegible, read, IsMalformed]
  cases readDocument text.toList with
  | ok value => simp [Except.mapError]
  | error fault => cases fault <;> simp [Except.mapError, Fault.locate]

theorem isLegible_of_read {text : Text} {value : Json} (h : read text = .ok value) :
    IsLegible text := by
  intro problem place hmalformed
  rw [h] at hmalformed
  cases hmalformed

/-! ### A value in its place -/

theorem exists_rest_of_readDocument {cs : List CodePoint} {value : Json}
    (h : readDocument cs = .ok value) :
    ∃ rest, readValue (2 * cs.length + 2) (skipSpace cs) = .ok (value, rest) ∧
      skipSpace rest = [] := by
  rw [readDocument.eq_def] at h
  split at h
  · cases h
  · obtain ⟨⟨found, rest⟩, hfound, h⟩ := bind_eq_ok_iff.1 h
    dsimp only at h
    split at h
    · next hrest =>
      obtain rfl := pure_eq_ok_iff.1 h
      exact ⟨rest, hfound, hrest⟩
    · cases h

theorem readValue_of_readDocument_eq_error {cs : List CodePoint} {fault : Fault}
    (h : readDocument cs = .error fault) (hcs : ¬ IsMalformed (readDocument cs)) :
    readValue (2 * cs.length + 2) (skipSpace cs) = .error fault := by
  rw [h] at hcs
  rw [readDocument.eq_def] at h
  split at h
  · exact absurd ⟨_, _, h.symm⟩ hcs
  · rcases bind_eq_error_iff.1 h with h | ⟨⟨found, rest⟩, -, h⟩
    · exact h
    · dsimp only at h
      split at h
      · cases h
      · exact absurd ⟨_, _, h.symm⟩ hcs

variable {α : Type} {c : CodePoint} {fuel : Nat}

/-- **A value is read in its place as it is read alone.** -/
theorem readValue_bind (hc : c ∈ valueEnds) {cs tail : List CodePoint}
    (hcs : ¬ IsMalformed (readDocument cs)) (hf : 2 * cs.length + 2 ≤ fuel)
    {next : Json × List CodePoint → Except Fault α} {next' : Json → Except Fault α}
    (hnext : ∀ value rest, skipSpace rest = c :: tail → next (value, rest) = next' value) :
    readValue fuel (skipSpace (cs ++ c :: tail)) >>= next = readDocument cs >>= next' := by
  obtain ⟨more, rfl⟩ := Nat.exists_eq_add_of_le hf
  have hgo := (goOn (2 * cs.length + 2)).value hc tail more (skipSpace cs)
  rw [skipSpace_append hc]
  cases h : readDocument cs with
  | ok value =>
    -- read alone, the value is followed by blanks only
    obtain ⟨rest, hread, hrest⟩ := exists_rest_of_readDocument h
    rw [hgo.read value rest hread]
    refine hnext value (rest ++ c :: tail) ?_
    rw [skipSpace_append hc, hrest, List.nil_append]
  | error fault =>
    have hread := readValue_of_readDocument_eq_error h hcs
    rcases hgo.refused fault hread with hmalformed | hgoes
    · obtain ⟨problem, remaining, hmalformed⟩ := hmalformed
      rw [hread] at hmalformed
      obtain rfl := Except.error.inj hmalformed
      exact absurd ⟨problem, remaining, h⟩ hcs
    · rw [hgoes]
      rfl

/-! ### Items -/

theorem readItems_last {cs : List CodePoint} (tail : List CodePoint)
    (hcs : ¬ IsMalformed (readDocument cs)) (hf : 2 * cs.length + 2 ≤ fuel) :
    readItems (fuel + 1) (skipSpace (cs ++ .char ']' :: tail)) =
      readDocument cs >>= fun item => pure ([item], tail) := by
  rw [readItems]
  refine readValue_bind (by decide) hcs hf fun item rest hrest => ?_
  dsimp only
  rw [hrest]
  rfl

theorem readItems_comma {cs : List CodePoint} (tail : List CodePoint)
    (hcs : ¬ IsMalformed (readDocument cs)) (hf : 2 * cs.length + 2 ≤ fuel) :
    readItems (fuel + 1) (skipSpace (cs ++ .char ',' :: tail)) =
      readDocument cs >>= fun item =>
        readItems fuel (skipSpace tail) >>= fun found => pure (item :: found.1, found.2) := by
  rw [readItems]
  refine readValue_bind (by decide) hcs hf fun item rest hrest => ?_
  dsimp only
  rw [hrest]
  rfl

/-- Items with commas between them are read one by one. -/
theorem readItems_intercalate (tail : List CodePoint) (first : List CodePoint)
    (items : List (List CodePoint))
    (hitems : ∀ cs ∈ first :: items, ¬ IsMalformed (readDocument cs)) :
    ∀ {fuel : Nat}, 2 * ([.char ','].intercalate (first :: items)).length + 3 ≤ fuel →
      readItems fuel (skipSpace ([.char ','].intercalate (first :: items) ++ .char ']' :: tail)) =
        (first :: items).mapM readDocument >>= fun values => pure (values, tail) := by
  induction items generalizing first with
  | nil =>
    intro fuel hf
    obtain ⟨fuel, rfl⟩ := Nat.exists_eq_add_of_le' (Nat.one_le_of_lt hf)
    rw [List.intercalate_singleton] at hf ⊢
    rw [readItems_last tail (hitems first List.mem_cons_self) (by omega)]
    simp
  | cons second items ih =>
    intro fuel hf
    obtain ⟨fuel, rfl⟩ := Nat.exists_eq_add_of_le' (Nat.one_le_of_lt hf)
    rw [List.forall_mem_cons] at hitems
    rw [List.intercalate_cons_cons] at hf ⊢
    simp only [List.length_append, List.length_singleton] at hf
    -- the first item is read up to the comma, and the others behind it
    rw [List.append_assoc, List.append_assoc, List.singleton_append,
      readItems_comma _ hitems.1 (by omega), ih second hitems.2 (by omega)]
    simp

/-! ### Members -/

/-- A member read on its own: its key, and the value that its text is read as. -/
def readMember (member : Text × Text) : Except ReadError (Text × Json) := do
  let value ← read member.2
  pure (member.1, value)

theorem readMember_eq_ok_iff {member : Text × Text} {found : Text × Json} :
    readMember member = .ok found ↔ member.1 = found.1 ∧ read member.2 = .ok found.2 := by
  rw [readMember, bind_eq_ok_iff]
  constructor
  · rintro ⟨value, hread, h⟩
    obtain rfl := pure_eq_ok_iff.1 h
    exact ⟨rfl, hread⟩
  · rintro ⟨hkey, hread⟩
    refine ⟨found.2, hread, ?_⟩
    rw [hkey, pure_eq_ok_iff]

/-- A literal and a colon are read as a key. -/
theorem readKey_quoteChars {key : Text} (hf : key.toList.length < fuel) (rest : List CodePoint) :
    readKey fuel (quoteChars key.toList ++ .char ':' :: rest) = .ok (key, skipSpace rest) := by
  have htext : quoteChars key.toList ++ .char ':' :: rest =
      .char '"' :: (escape key.toList ++ .char '"' :: .char ':' :: rest) := by
    simp [quoteChars]
  rw [htext, readKey, readString_escape key hf]
  rfl

variable {member : Text × Text}

theorem length_lt_length_memberChars (member : Text × Text) :
    member.1.toList.length + member.2.toList.length + 2 < (memberChars member).length := by
  have hkey := length_le_length_escape member.1.toList
  simp only [memberChars, quoteChars, List.length_append, List.length_cons, List.length_nil]
  omega

theorem skipSpace_memberChars (member : Text × Text) (rest : List CodePoint) :
    skipSpace (memberChars member ++ rest) = memberChars member ++ rest := rfl

theorem readMembers_last (made : List (Text × Json)) (tail : List CodePoint)
    (hmember : ¬ IsMalformed (readDocument member.2.toList))
    (hf : 2 * (memberChars member).length ≤ fuel) :
    readMembers (fuel + 1) made (memberChars member ++ .char '\x7d' :: tail) =
      readDocument member.2.toList >>= fun value =>
        pure (Association.put member.1 value made, tail) := by
  have hlength := length_lt_length_memberChars member
  rw [readMembers, memberChars, List.append_assoc, List.cons_append, readKey_quoteChars (by omega)]
  refine readValue_bind (by decide) hmember (by omega) fun value rest hrest => ?_
  dsimp only
  rw [hrest]
  rfl

theorem readMembers_comma (made : List (Text × Json)) (tail : List CodePoint)
    (hmember : ¬ IsMalformed (readDocument member.2.toList))
    (hf : 2 * (memberChars member).length ≤ fuel) :
    readMembers (fuel + 1) made (memberChars member ++ .char ',' :: tail) =
      readDocument member.2.toList >>= fun value =>
        readMembers fuel (Association.put member.1 value made) (skipSpace tail) := by
  have hlength := length_lt_length_memberChars member
  rw [readMembers, memberChars, List.append_assoc, List.cons_append, readKey_quoteChars (by omega)]
  refine readValue_bind (by decide) hmember (by omega) fun value rest hrest => ?_
  dsimp only
  rw [hrest]
  rfl

/-- A member read as a document of its own. -/
def readAlone (member : Text × Text) : Except Fault (Text × Json) := do
  let value ← readDocument member.2.toList
  pure (member.1, value)

/-- Members with commas between them are read one by one. -/
theorem readMembers_intercalate (tail : List CodePoint) (first : Text × Text)
    (members : List (Text × Text))
    (hmembers : ∀ member ∈ first :: members, ¬ IsMalformed (readDocument member.2.toList)) :
    ∀ {fuel : Nat} (made : List (Text × Json)),
      2 * ([.char ','].intercalate ((first :: members).map memberChars)).length + 3 ≤ fuel →
      readMembers fuel made
          (skipSpace ([.char ','].intercalate ((first :: members).map memberChars) ++
            .char '\x7d' :: tail)) =
        (first :: members).mapM readAlone >>= fun read =>
          pure (read.foldl (fun made pair => Association.put pair.1 pair.2 made) made, tail) := by
  induction members generalizing first with
  | nil =>
    intro fuel made hf
    obtain ⟨fuel, rfl⟩ := Nat.exists_eq_add_of_le' (Nat.one_le_of_lt hf)
    rw [List.map_singleton, List.intercalate_singleton] at hf ⊢
    rw [skipSpace_memberChars,
      readMembers_last made tail (hmembers first List.mem_cons_self) (by omega)]
    simp [readAlone]
  | cons second members ih =>
    -- a comma and the next member stand behind the first, which is put before that one
    intro fuel made hf
    obtain ⟨fuel, rfl⟩ := Nat.exists_eq_add_of_le' (Nat.one_le_of_lt hf)
    rw [List.forall_mem_cons] at hmembers
    rw [List.map_cons, List.map_cons, List.intercalate_cons_cons, ← List.map_cons] at hf ⊢
    simp only [List.length_append, List.length_singleton] at hf
    rw [List.append_assoc, List.append_assoc, List.singleton_append, skipSpace_memberChars,
      readMembers_comma made _ hmembers.1 (by omega)]
    have hrest := fun made => ih second hmembers.2 made (show _ ≤ fuel by omega)
    simp only [hrest]
    simp [readAlone]

/-! ### Whole texts -/

/-- What begins with a value and ends with it is a document. -/
theorem readDocument_of_readValue {first : CodePoint} {cs : List CodePoint} {x : Except Fault Json}
    (hspace : isSpace first = false) (hmark : first ≠ '\uFEFF')
    (h : readValue (2 * (first :: cs).length + 2) (first :: cs) =
      x >>= fun value => pure (value, [])) :
    readDocument (first :: cs) = x := by
  have hstart : skipSpace (first :: cs) = first :: cs :=
    List.dropWhile_cons_of_neg (by simp [hspace])
  rw [readDocument.eq_def]
  split
  · next heq => exact absurd (List.cons.inj heq).1 hmark
  · rw [hstart, h]
    cases x <;> rfl

theorem readDocument_objectText {members : List (Text × Text)}
    (hmembers : ∀ member ∈ members, ¬ IsMalformed (readDocument member.2.toList)) :
    readDocument (objectText members).toList =
      members.mapM readAlone >>= fun read => pure (.object (Association.ofPairs read)) := by
  rw [objectText, Text.toList_ofList]
  refine readDocument_of_readValue (by decide) (by decide) ?_
  rcases members with _ | ⟨first, members⟩
  · rfl
  have hquote : ∃ cs, skipSpace ([.char ','].intercalate ((first :: members).map memberChars) ++
      [.char '\x7d']) = .char '"' :: cs := by
    cases members with
    | nil => exact ⟨_, rfl⟩
    | cons second members => exact ⟨_, rfl⟩
  obtain ⟨cs, hquote⟩ := hquote
  rw [readValue, hquote]
  show (readMembers _ [] (.char '"' :: cs) >>= fun found => pure (Json.object found.1, found.2)) = _
  rw [← hquote, readMembers_intercalate [] first members hmembers [] (by simp; omega)]
  simp [Association.ofPairs]

/-- No item begins with the closing bracket. -/
theorem isMalformed_readItems_close (fuel : Nat) (rest : List CodePoint) :
    IsMalformed (readItems fuel (.char ']' :: rest)) := by
  rcases fuel with _ | _ | fuel
  · exact isMalformed_failAt
  · exact isMalformed_failAt
  · have hnumber : ¬ StartsNumber (.char ']' :: rest) := by
      rintro ⟨d, more, hd, h | h⟩
      · rw [← (List.cons.inj h).1] at hd
        cases hd
      · cases (List.cons.inj h).1
    rw [readItems]
    exact (isMalformed_readNumber hnumber).bind _

theorem readDocument_arrayText {items : List Text}
    (hitems : ∀ item ∈ items, ¬ IsMalformed (readDocument item.toList)) :
    readDocument (arrayText items).toList =
      (items.map Text.toList).mapM readDocument >>= fun read => pure (.array read) := by
  rw [arrayText, Text.toList_ofList]
  refine readDocument_of_readValue (by decide) (by decide) ?_
  rcases items with _ | ⟨first, items⟩
  · rfl
  have hchars : ∀ cs ∈ first.toList :: items.map Text.toList,
      ¬ IsMalformed (readDocument cs) := by
    rw [← List.map_cons]
    exact List.forall_mem_map.2 hitems
  have hread : ∀ fuel, _ ≤ fuel → _ := fun fuel hf =>
    readItems_intercalate [] first.toList (items.map Text.toList) hchars hf
  rw [List.map_cons, readValue]
  split
  -- the first item would begin with the bracket, and be malformed
  · next rest hclose =>
    have hitem := hread _ le_rfl
    obtain ⟨problem, remaining, hmalformed⟩ := isMalformed_readItems_close _ rest
    rw [hclose, hmalformed, eq_comm] at hitem
    rcases bind_eq_error_iff.1 hitem with hitem | ⟨values, -, hitem⟩
    · obtain ⟨cs, hcs, hitem⟩ := exists_item_of_mapM_eq_error hitem
      exact absurd ⟨problem, remaining, hitem⟩ (hchars cs hcs)
    · cases hitem
  · rw [hread _ (by simp; omega)]
    simp

/-! ### What a text is read as -/

/-- What is wrong with a legible text has no place in it. -/
theorem mapError_locate {text : Text} (htext : IsLegible text) (cs : List CodePoint) :
    (readDocument text.toList).mapError (Fault.locate cs) = read text := by
  rw [isLegible_iff] at htext
  rw [read]
  cases h : readDocument text.toList with
  | ok value => rfl
  | error fault =>
    cases fault with
    | malformed problem remaining => exact absurd ⟨problem, remaining, h⟩ htext
    | nonFinite token => rfl
    | tooLong digits => rfl

/-- **The text of an object is read as the object of what its values are read as.** -/
theorem read_objectText {members : List (Text × Text)}
    (hmembers : ∀ member ∈ members, IsLegible member.2) :
    read (objectText members) =
      members.mapM readMember >>= fun read => pure (.object (Association.ofPairs read)) := by
  have halone : ∀ member ∈ members,
      (readAlone member).mapError (Fault.locate (objectText members).toList) =
        readMember member := by
    intro member hmember
    rw [readAlone, mapError_bind, mapError_locate (hmembers member hmember)]
    rfl
  have hdocument := readDocument_objectText fun member hmember =>
    isLegible_iff.1 (hmembers member hmember)
  rw [read, hdocument, mapError_bind, mapError_mapM halone]
  rfl

/-- **The text of an array is read as the array of what its items are read as.** -/
theorem read_arrayText {items : List Text} (hitems : ∀ item ∈ items, IsLegible item) :
    read (arrayText items) = items.mapM read >>= fun read => pure (.array read) := by
  have halone : ∀ item ∈ items,
      ((readDocument ∘ Text.toList) item).mapError (Fault.locate (arrayText items).toList) =
        read item :=
    fun item hitem => mapError_locate (hitems item hitem) _
  have hdocument := readDocument_arrayText fun item hitem => isLegible_iff.1 (hitems item hitem)
  rw [List.mapM_map] at hdocument
  rw [read, hdocument, mapError_bind, mapError_mapM halone]
  rfl

/-- The text of an object is legible when those of its values are. -/
theorem isLegible_objectText {members : List (Text × Text)}
    (hmembers : ∀ member ∈ members, IsLegible member.2) : IsLegible (objectText members) := by
  intro problem place h
  rw [read_objectText hmembers] at h
  rcases bind_eq_error_iff.1 h with h | ⟨read, -, h⟩
  · obtain ⟨member, hmember, h⟩ := exists_item_of_mapM_eq_error h
    rcases bind_eq_error_iff.1 h with h | ⟨value, -, h⟩
    · exact hmembers member hmember problem place h
    · cases h
  · cases h

/-- A literal is read as its text. -/
@[simp] theorem read_quote (text : Text) : read (quote text) = .ok (.string text) := by
  have hlength := length_le_length_escape text.toList
  have hdocument : readDocument (quoteChars text.toList) = .ok (.string text) := by
    refine readDocument_of_readValue (by decide) (by decide) ?_
    show (readString _ (escape text.toList ++ [.char '"']) >>= fun found =>
      pure (Json.string found.1, found.2)) = _
    rw [readString_escape text (by simp; omega)]
    rfl
  rw [read, quote, Text.toList_ofList, hdocument]
  rfl

end SchemaScribe.Json
