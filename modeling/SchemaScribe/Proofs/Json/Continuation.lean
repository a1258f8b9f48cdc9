import Mathlib.Tactic.Tauto
import SchemaScribe.Proofs.Json.Numeral

/-!
# Reading a value where more follows

What the reader finds at the head of a text it also finds where the text goes on behind a sign that
may end a value (`goOn`): the value is the same, and the rest has what follows behind it.  A refused
number is refused again.  Of a malformed text nothing is said, since it may be completed by what
follows.
-/

namespace SchemaScribe.Json

variable {α β : Type}

/-! ### Going on -/

/-- The text is no value, whatever its numbers are. -/
def IsMalformed (x : Except Fault α) : Prop :=
  ∃ problem remaining, x = .error (.malformed problem remaining)

theorem isMalformed_failAt {problem : Problem} {rest : List CodePoint} :
    IsMalformed (failAt problem rest : Except Fault α) := ⟨problem, rest.length, rfl⟩

theorem IsMalformed.bind {x : Except Fault α} (h : IsMalformed x) (f : α → Except Fault β) :
    IsMalformed (x >>= f) := by
  obtain ⟨problem, remaining, rfl⟩ := h
  exact ⟨problem, remaining, rfl⟩

/-- **One reading goes on as another.**  What `x` reads, `y` reads with `more` behind the rest, and
what `x` refuses, `y` refuses. -/
structure GoesOn (more : List CodePoint) (x y : Except Fault (α × List CodePoint)) : Prop where
  read : ∀ a rest, x = .ok (a, rest) → y = .ok (a, rest ++ more)
  refused : ∀ fault, x = .error fault → IsMalformed x ∨ y = .error fault

theorem goesOn_ok (more : List CodePoint) (a : α) (rest : List CodePoint) :
    GoesOn more (.ok (a, rest)) (.ok (a, rest ++ more)) where
  read _ _ h := by
    obtain ⟨rfl, rfl⟩ := Prod.mk.inj (Except.ok.inj h)
    rfl
  refused _ h := by cases h

theorem goesOn_error (more : List CodePoint) (fault : Fault) :
    GoesOn more (.error fault : Except Fault (α × List CodePoint)) (.error fault) where
  read _ _ h := by cases h
  refused _ h := Or.inr h

theorem IsMalformed.goesOn {more : List CodePoint} {x y : Except Fault (α × List CodePoint)}
    (h : IsMalformed x) : GoesOn more x y where
  read _ _ hx := by
    obtain ⟨problem, remaining, h⟩ := h
    rw [h] at hx
    cases hx
  refused _ _ := Or.inl h

/-- Where the first step goes on, so does a sequence whose second step does. -/
theorem GoesOn.bind {more : List CodePoint} {x y : Except Fault (α × List CodePoint)}
    {f g : α × List CodePoint → Except Fault (β × List CodePoint)} (h : GoesOn more x y)
    (hfg : ∀ a rest, x = .ok (a, rest) → GoesOn more (f (a, rest)) (g (a, rest ++ more))) :
    GoesOn more (x >>= f) (y >>= g) := by
  cases hx : x with
  | error fault =>
    rcases h.refused fault hx with hmalformed | hy
    · rw [hx] at hmalformed
      exact (hmalformed.bind f).goesOn
    · rw [hy]
      exact goesOn_error more fault
  | ok found =>
    obtain ⟨a, rest⟩ := found
    rw [h.read a rest hx]
    exact hfg a rest hx

/-! ### The sign behind a value -/

/-- The signs that may stand behind a value within another one. -/
def valueEnds : List CodePoint := [.char ',', ']', '\x7d']

/-- The signs of which no scalar takes notice, behind it. -/
def scalarEnds : List CodePoint := .char ' ' :: valueEnds

variable {c : CodePoint}

theorem not_of_mem_ends {p : CodePoint → Bool} {ends : List CodePoint}
    (hp : ends.all (fun c => !p c) = true) (hc : c ∈ ends) : p c = false := by
  simpa using List.all_eq_true.1 hp c hc

theorem takeWhile_append_cons {p : CodePoint → Bool} (hp : p c = false) (cs tail : List CodePoint) :
    (cs ++ c :: tail).takeWhile p = cs.takeWhile p := by
  induction cs with
  | nil => exact List.takeWhile_cons_of_neg (by simp [hp])
  | cons d cs ih =>
    rw [List.cons_append, List.takeWhile_cons, List.takeWhile_cons, ih]

theorem dropWhile_append_cons {p : CodePoint → Bool} (hp : p c = false) (cs tail : List CodePoint) :
    (cs ++ c :: tail).dropWhile p = cs.dropWhile p ++ c :: tail := by
  induction cs with
  | nil => exact List.dropWhile_cons_of_neg (by simp [hp])
  | cons d cs ih =>
    rw [List.cons_append, List.dropWhile_cons, List.dropWhile_cons, ih]
    split <;> rfl

theorem skipSpace_append (hc : c ∈ valueEnds) (cs tail : List CodePoint) :
    skipSpace (cs ++ c :: tail) = skipSpace cs ++ c :: tail :=
  dropWhile_append_cons (not_of_mem_ends (by decide) hc) cs tail

/-! ### Strings -/

theorem readHex?_append {cs rest : List CodePoint} {code : Nat}
    (h : readHex? cs = some (code, rest))
    (more : List CodePoint) : readHex? (cs ++ more) = some (code, rest ++ more) := by
  rw [readHex?.eq_def] at h
  split at h
  · next a b c d e rest' =>
    simp only [Option.bind_eq_bind, Option.bind_eq_some_iff] at h
    obtain ⟨w, hw, x, hx, y, hy, z, hz, h⟩ := h
    obtain ⟨rfl, rfl⟩ := Prod.mk.inj (Option.some.inj h)
    simp only [List.cons_append, readHex?, hw, hx, hy, hz]
    rfl
  · cases h

theorem readHex?_eq_none {cs : List CodePoint} (h : cs.length ≤ 4) : readHex? cs = none := by
  rw [readHex?]
  rintro a b c d e rest rfl
  simp only [List.length_cons] at h
  omega

/-- An escape without another one behind it is a character of its own. -/
theorem readUnicodeEscape_alone {cs rest : List CodePoint} {code : Nat}
    (h : readHex? cs = some (code, rest)) (hrest : ∀ next, rest ≠ .char '\\' :: .char 'u' :: next) :
    readUnicodeEscape cs = .ok (.ofNat code, rest) := by
  rw [readUnicodeEscape, h]
  split
  · next hnone => cases hnone
  · next next hsome => exact absurd (Prod.mk.inj (Option.some.inj hsome)).2 (hrest next)
  · next hsome =>
    obtain ⟨rfl, rfl⟩ := Prod.mk.inj (Option.some.inj hsome)
    rfl

/-- Nor is one that is not the first half of a pair joined with the next one. -/
theorem readUnicodeEscape_unpaired {cs next : List CodePoint} {code : Nat}
    (h : readHex? cs = some (code, .char '\\' :: .char 'u' :: next))
    (hpair : ¬ (isHighSurrogate code = true ∧ 4 < next.length)) :
    readUnicodeEscape cs = .ok (.ofNat code, .char '\\' :: .char 'u' :: next) := by
  rw [readUnicodeEscape, h]
  simp only [Bool.and_eq_true, decide_eq_true_eq, if_neg hpair]

/-- A sign behind a text is no part of an escape that the text does not hold. -/
theorem append_ne_escape (hc : c ∈ scalarEnds) {cs : List CodePoint}
    (hcs : ∀ next, cs ≠ .char '\\' :: .char 'u' :: next) (tail : List CodePoint) :
    ∀ next, cs ++ c :: tail ≠ .char '\\' :: .char 'u' :: next := by
  intro next heq
  rcases cs with _ | ⟨d, _ | ⟨e, cs⟩⟩
  · have hslash := not_of_mem_ends (p := (· == .char '\\')) (by decide) hc
    obtain ⟨rfl, -⟩ := List.cons.inj heq
    cases hslash
  · have hletter := not_of_mem_ends (p := (· == .char 'u')) (by decide) hc
    obtain ⟨-, heq⟩ := List.cons.inj heq
    obtain ⟨rfl, -⟩ := List.cons.inj heq
    cases hletter
  · rw [List.cons_append, List.cons_append, List.cons.injEq, List.cons.injEq] at heq
    exact hcs cs (by rw [heq.1, heq.2.1])

/-- The first half of a pair goes on with an escape behind it that the text holds in full. -/
theorem goesOn_readUnicodeEscape_pair {cs next : List CodePoint} {code : Nat}
    (h : readHex? cs = some (code, .char '\\' :: .char 'u' :: next))
    (hhigh : isHighSurrogate code = true)
    (hfull : 4 < next.length) (more : List CodePoint) :
    GoesOn more (readUnicodeEscape cs) (readUnicodeEscape (cs ++ more)) := by
  have hmore := readHex?_append h more
  rw [List.cons_append, List.cons_append] at hmore
  have hlength : 4 < (next ++ more).length := by
    rw [List.length_append]
    omega
  rw [readUnicodeEscape, readUnicodeEscape, h, hmore]
  -- four digits and two signs more are there in both texts
  simp only [Bool.and_eq_true, decide_eq_true_eq, if_pos (And.intro hhigh hfull),
    if_pos (And.intro hhigh hlength)]
  cases hlow : readHex? next with
  | none => exact IsMalformed.goesOn ⟨_, _, rfl⟩
  | some low =>
    rw [readHex?_append hlow]
    dsimp only
    split
    · exact goesOn_ok _ _ _
    · exact goesOn_ok _ _ _

/-- An escape goes on, unless half of a pair stands before an escape that the text does not hold in
full. -/
theorem goesOn_readUnicodeEscape (hc : c ∈ scalarEnds) (cs tail : List CodePoint) :
    GoesOn (c :: tail) (readUnicodeEscape cs) (readUnicodeEscape (cs ++ c :: tail)) ∨
      ∃ decoded next, readUnicodeEscape cs = .ok (decoded, .char '\\' :: .char 'u' :: next) ∧
        next.length ≤ 4 := by
  cases hhex : readHex? cs with
  | none =>
    have hcs : IsMalformed (readUnicodeEscape cs) := by
      rw [readUnicodeEscape, hhex]
      exact ⟨_, _, rfl⟩
    exact Or.inl hcs.goesOn
  | some found =>
    obtain ⟨code, rest⟩ := found
    have hmore := readHex?_append hhex (c :: tail)
    by_cases hu : ∃ next, rest = .char '\\' :: .char 'u' :: next
    · obtain ⟨next, rfl⟩ := hu
      by_cases hhigh : isHighSurrogate code = true
      · by_cases hfull : 4 < next.length
        · exact Or.inl (goesOn_readUnicodeEscape_pair hhex hhigh hfull _)
        -- with more behind it the second escape may be complete, and then the two are a pair
        · right
          exact ⟨CodePoint.ofNat code, next, readUnicodeEscape_unpaired hhex (by tauto), by omega⟩
      · left
        rw [List.cons_append, List.cons_append] at hmore
        rw [readUnicodeEscape_unpaired hhex (by tauto), readUnicodeEscape_unpaired hmore (by tauto)]
        exact goesOn_ok _ _ _
    · left
      have hrest : ∀ next, rest ≠ .char '\\' :: .char 'u' :: next := fun next heq => hu ⟨next, heq⟩
      rw [readUnicodeEscape_alone hhex hrest,
        readUnicodeEscape_alone hmore (append_ne_escape hc hrest tail)]
      exact goesOn_ok _ _ _

/-- An escape that the text does not hold in full is malformed. -/
theorem isMalformed_readStringBody {start next : List CodePoint} (h : next.length ≤ 4)
    (fuel : Nat) :
    IsMalformed (readStringBody start fuel (.char '\\' :: .char 'u' :: next)) := by
  cases fuel with
  | zero => exact isMalformed_failAt
  | succ fuel =>
    have hescape : IsMalformed (readUnicodeEscape next) := by
      rw [readUnicodeEscape, readHex?_eq_none h]
      exact ⟨_, _, rfl⟩
    exact hescape.bind _

theorem readStringBody_letter {d decoded : CodePoint} (hu : d ≠ 'u')
    (hd : shortEscape? d = some decoded)
    (start : List CodePoint) (fuel : Nat) (cs : List CodePoint) :
    readStringBody start (fuel + 1) (.char '\\' :: d :: cs) =
      readStringBody start fuel cs >>= fun found => pure (decoded :: found.1, found.2) := by
  rw [readStringBody, if_neg (by decide), if_pos rfl, hd]
  exact hu

theorem isMalformed_readStringBody_letter {d : CodePoint} (hu : d ≠ 'u')
    (hd : shortEscape? d = none)
    (start : List CodePoint) (fuel : Nat) (cs : List CodePoint) :
    IsMalformed (readStringBody start (fuel + 1) (.char '\\' :: d :: cs)) := by
  rw [readStringBody, if_neg (by decide), if_pos rfl, hd]
  · exact isMalformed_failAt
  · exact hu

theorem isMalformed_readStringBody_control {d : CodePoint} (hquote : d ≠ '"') (hslash : d ≠ '\\')
    (hcontrol : d.toNat < 0x20) (start : List CodePoint) (fuel : Nat) (cs : List CodePoint) :
    IsMalformed (readStringBody start (fuel + 1) (d :: cs)) := by
  rw [readStringBody.eq_def]
  show IsMalformed (if d = '"' then _ else if d = '\\' then _ else if d.toNat < 0x20 then _ else _)
  rw [if_neg hquote, if_neg hslash, if_pos hcontrol]
  exact isMalformed_failAt

theorem readStringBody_plain {d : CodePoint} (hquote : d ≠ '"') (hslash : d ≠ '\\')
    (hcontrol : ¬ d.toNat < 0x20) (start : List CodePoint) (fuel : Nat) (cs : List CodePoint) :
    readStringBody start (fuel + 1) (d :: cs) =
      readStringBody start fuel cs >>= fun found => pure (d :: found.1, found.2) := by
  rw [readStringBody.eq_def]
  show (if d = '"' then _ else if d = '\\' then _ else if d.toNat < 0x20 then _ else _) = _
  rw [if_neg hquote, if_neg hslash, if_neg hcontrol]

/-- **The characters of a string go on.** -/
theorem goesOn_readStringBody (hc : c ∈ scalarEnds) (tail start start' : List CodePoint)
    (more : Nat) :
    ∀ (fuel : Nat) (cs : List CodePoint), GoesOn (c :: tail) (readStringBody start fuel cs)
      (readStringBody start' (fuel + more) (cs ++ c :: tail))
  | 0, cs => isMalformed_failAt.goesOn
  | fuel + 1, [] => isMalformed_failAt.goesOn
  | fuel + 1, d :: cs => by
    have ih := goesOn_readStringBody hc tail start start' more fuel
    -- a character in front of the characters of the rest
    have hnext : ∀ (decoded : CodePoint) (rest : List CodePoint), GoesOn (c :: tail)
        (readStringBody start fuel rest >>= fun found => pure (decoded :: found.1, found.2))
        (readStringBody start' (fuel + more) (rest ++ c :: tail) >>= fun found =>
          pure (decoded :: found.1, found.2)) :=
      fun decoded rest => (ih rest).bind fun found rest _ => goesOn_ok _ (decoded :: found) rest
    rw [Nat.add_right_comm, List.cons_append]
    by_cases hquote : d = '"'
    · rw [hquote]
      exact goesOn_ok (c :: tail) [] cs
    by_cases hslash : d = '\\'
    · rw [hslash]
      rcases cs with _ | ⟨e, cs⟩
      · exact isMalformed_failAt.goesOn
      by_cases hu : e = 'u'
      · rw [hu]
        show GoesOn (c :: tail)
          (readUnicodeEscape cs >>= fun found =>
            readStringBody start fuel found.2 >>= fun next => pure (found.1 :: next.1, next.2))
          (readUnicodeEscape (cs ++ c :: tail) >>= fun found =>
            readStringBody start' (fuel + more) found.2 >>= fun next =>
              pure (found.1 :: next.1, next.2))
        rcases goesOn_readUnicodeEscape hc cs tail with hescape | ⟨decoded, next, hescape, hlength⟩
        · exact hescape.bind fun decoded rest _ => hnext decoded rest
        · rw [hescape]
          exact ((isMalformed_readStringBody hlength fuel).bind _).goesOn
      · cases hd : shortEscape? e with
        | none => exact (isMalformed_readStringBody_letter hu hd start fuel cs).goesOn
        | some decoded =>
          rw [List.cons_append, readStringBody_letter hu hd, readStringBody_letter hu hd]
          exact hnext decoded cs
    by_cases hcontrol : d.toNat < 0x20
    · exact (isMalformed_readStringBody_control hquote hslash hcontrol start fuel cs).goesOn
    · rw [readStringBody_plain hquote hslash hcontrol, readStringBody_plain hquote hslash hcontrol]
      exact hnext d cs

theorem goesOn_readString (hc : c ∈ scalarEnds) (tail : List CodePoint) (fuel more : Nat)
    (cs : List CodePoint) : GoesOn (c :: tail) (readString fuel cs)
      (readString (fuel + more) (cs ++ c :: tail)) :=
  (goesOn_readStringBody hc tail (.char '"' :: cs) (.char '"' :: (cs ++ c :: tail)) more fuel
    cs).bind fun body rest _ => goesOn_ok _ (Text.ofList body) rest

/-! ### Numbers -/

theorem splitWhole?_append_cons (hc : c.isDigit = false) {cs digits rest : List CodePoint}
    (h : splitWhole? cs = some (digits, rest)) (tail : List CodePoint) :
    splitWhole? (cs ++ c :: tail) = some (digits, rest ++ c :: tail) := by
  rcases cs with _ | ⟨d, cs⟩
  · cases h
  rw [splitWhole?] at h
  rw [List.cons_append, splitWhole?]
  split at h
  · next hzero =>
    obtain ⟨rfl, rfl⟩ := Prod.mk.inj (Option.some.inj h)
    rw [if_pos hzero]
  · next hzero =>
    split at h
    · next hdigit =>
      obtain ⟨rfl, rfl⟩ := Prod.mk.inj (Option.some.inj h)
      rw [if_neg hzero, if_pos hdigit, takeWhile_append_cons hc, dropWhile_append_cons hc]
    · cases h

theorem splitFraction?_append_cons (hc : c.isDigit = false) (hpoint : c ≠ '.')
    (cs tail : List CodePoint) :
    splitFraction? (cs ++ c :: tail) =
      (splitFraction? cs).map fun found => (found.1, found.2 ++ c :: tail) := by
  rcases cs with _ | ⟨d, cs⟩
  · exact splitFraction?_of_head (by simpa using hpoint)
  by_cases hd : d = '.'
  · rw [hd, List.cons_append, splitFraction?, splitFraction?, takeWhile_append_cons hc,
      dropWhile_append_cons hc]
    split <;> rfl
  · rw [splitFraction?_of_head (by simpa using hd), splitFraction?_of_head (by simpa using hd)]
    rfl

theorem splitSign_append_cons (hminus : c ≠ '-') (hplus : c ≠ '+') (cs tail : List CodePoint) :
    Numeral.splitSign (cs ++ c :: tail) =
      ((Numeral.splitSign cs).1, (Numeral.splitSign cs).2 ++ c :: tail) := by
  have hother : ∀ (d : CodePoint) (rest : List CodePoint), d ≠ '-' → d ≠ '+' →
      Numeral.splitSign (d :: rest) = (false, d :: rest) := by
    intro d rest hm hp
    rw [Numeral.splitSign]
    · rintro _ ⟨⟩
      exact hm rfl
    · rintro _ ⟨⟩
      exact hp rfl
  rcases cs with _ | ⟨d, cs⟩
  · exact hother c tail hminus hplus
  by_cases hm : d = '-'
  · rw [hm]
    rfl
  by_cases hp : d = '+'
  · rw [hp]
    rfl
  · rw [List.cons_append, hother d _ hm hp, hother d _ hm hp, List.cons_append]

theorem splitExponent?_append_cons (hc : isNumeralPart c = false) (cs tail : List CodePoint) :
    splitExponent? (cs ++ c :: tail) =
      (splitExponent? cs).map fun found => (found.1, found.2 ++ c :: tail) := by
  simp only [isNumeralPart, Bool.or_eq_false_iff, beq_eq_false_iff_ne] at hc
  obtain ⟨⟨⟨⟨⟨hdigit, hminus⟩, hplus⟩, -⟩, he⟩, hE⟩ := hc
  rcases cs with _ | ⟨d, cs⟩
  · have hnone : splitExponent? (c :: tail) = none := by rw [splitExponent?, if_neg (by tauto)]
    exact hnone
  rw [List.cons_append, splitExponent?, splitExponent?]
  split
  · simp only [splitSign_append_cons hminus hplus, takeWhile_append_cons hdigit,
      dropWhile_append_cons hdigit]
    split <;> rfl
  · rfl

theorem goesOn_readUnsigned (hc : c ∈ scalarEnds) (negative : Bool)
    (start start' cs tail : List CodePoint) :
    GoesOn (c :: tail) (readUnsigned negative start cs)
      (readUnsigned negative start' (cs ++ c :: tail)) := by
  have hpart : isNumeralPart c = false := not_of_mem_ends (by decide) hc
  have hdigit : c.isDigit = false := not_of_mem_ends (by decide) hc
  have hpoint : c ≠ '.' := by
    simpa using not_of_mem_ends (p := (· == .char '.')) (by decide) hc
  cases hwhole : splitWhole? cs with
  | none =>
    -- no number begins here, whatever comes behind
    have hcs : IsMalformed (readUnsigned negative start cs) := by
      rw [readUnsigned, hwhole]
      exact isMalformed_failAt
    exact hcs.goesOn
  | some found =>
    obtain ⟨whole, rest⟩ := found
    have hinteger : ∀ rest : List CodePoint, GoesOn (c :: tail)
        (readWhole negative whole >>= fun n => pure (n, rest))
        (readWhole negative whole >>= fun n => pure (n, rest ++ c :: tail)) := by
      intro rest
      cases readWhole negative whole with
      | error fault => exact goesOn_error _ fault
      | ok n => exact goesOn_ok _ n rest
    -- each part of the number ends before `c`, which none of them is written with
    rw [readUnsigned, readUnsigned, hwhole, splitWhole?_append_cons hdigit hwhole tail]
    dsimp only
    rw [splitFraction?_append_cons hdigit hpoint]
    cases splitFraction? rest with
    | none =>
      simp only [Option.map_none, Option.getD_none, splitExponent?_append_cons hpart]
      cases splitExponent? rest with
      | none => exact hinteger rest
      | some exponent => exact goesOn_ok _ _ _
    | some fraction =>
      simp only [Option.map_some, Option.getD_some, splitExponent?_append_cons hpart]
      cases splitExponent? fraction.2 with
      | none => exact goesOn_ok _ _ _
      | some exponent => exact goesOn_ok _ _ _

/-- A text that begins as a number does: with a digit, or with a minus and a digit. -/
def StartsNumber (cs : List CodePoint) : Prop :=
  ∃ d rest, d.isDigit = true ∧ (cs = d :: rest ∨ cs = .char '-' :: d :: rest)

theorem readNumber_of_ne {d : CodePoint} (hd : d ≠ '-') (cs : List CodePoint) :
    readNumber (d :: cs) = readUnsigned false (d :: cs) (d :: cs) := by
  rw [readNumber]
  rintro _ ⟨⟩
  exact hd rfl

theorem goesOn_readNumber (hc : c ∈ scalarEnds) (cs tail : List CodePoint) :
    GoesOn (c :: tail) (readNumber cs) (readNumber (cs ++ c :: tail)) := by
  rcases cs with _ | ⟨d, cs⟩
  · exact isMalformed_failAt.goesOn
  by_cases hd : d = '-'
  · rw [hd]
    exact goesOn_readUnsigned hc true _ _ cs tail
  · rw [List.cons_append, readNumber_of_ne hd, readNumber_of_ne hd]
    exact goesOn_readUnsigned hc false _ _ (d :: cs) tail

theorem isMalformed_readUnsigned {cs : List CodePoint} (h : ∀ d ∈ cs.head?, d.isDigit = false)
    (negative : Bool) (start : List CodePoint) : IsMalformed (readUnsigned negative start cs) := by
  have hwhole : splitWhole? cs = none := by
    rcases cs with _ | ⟨d, cs⟩
    · rfl
    have hdigit : d.isDigit = false := h d rfl
    have hzero : d ≠ '0' := by
      rintro rfl
      cases hdigit
    rw [splitWhole?, if_neg hzero, if_neg (by simp [hdigit])]
  rw [readUnsigned, hwhole]
  exact isMalformed_failAt

/-- Only what begins as a number is read as one. -/
theorem isMalformed_readNumber {cs : List CodePoint} (h : ¬ StartsNumber cs) :
    IsMalformed (readNumber cs) := by
  rcases cs with _ | ⟨d, cs⟩
  · exact isMalformed_failAt
  by_cases hd : d = '-'
  · subst hd
    refine isMalformed_readUnsigned (fun e he => ?_) true _
    rw [Bool.eq_false_iff]
    intro hdigit
    obtain ⟨rest, rfl⟩ := List.head?_eq_some_iff.1 he
    exact h ⟨e, rest, hdigit, Or.inr rfl⟩
  · rw [readNumber_of_ne hd]
    refine isMalformed_readUnsigned (fun e he => ?_) false _
    rw [Bool.eq_false_iff]
    intro hdigit
    obtain rfl := Option.some.inj he
    exact h ⟨_, cs, hdigit, Or.inl rfl⟩

/-! ### Scalars -/

theorem afterWord?_eq_some_iff {word cs rest : List CodePoint} :
    afterWord? word cs = some rest ↔ cs = word ++ rest := by
  induction word generalizing cs with
  | nil => simp [afterWord?]
  | cons w word ih =>
    rcases cs with _ | ⟨d, cs⟩
    · simp [afterWord?]
    · by_cases hd : w = d
      · rw [afterWord?, if_pos hd, ih, hd]
        simp
      · rw [afterWord?, if_neg hd]
        simp [Ne.symm hd]

/-- The words that stand for a value, and those for values that are no numbers. -/
theorem readScalar_word {word : Text} (hword : word ∈ (["null", "true", "false"] : List Text)) :
    ∃ value, ∀ (fuel : Nat) (rest : List CodePoint),
      readScalar fuel (word.toList ++ rest) = .ok (value, rest) := by
  simp only [List.mem_cons, List.not_mem_nil, or_false] at hword
  rcases hword with rfl | rfl | rfl
  · exact ⟨.null, fun _ _ => rfl⟩
  · exact ⟨.bool true, fun _ _ => rfl⟩
  · exact ⟨.bool false, fun _ _ => rfl⟩

theorem readScalar_nonFinite {word : Text} (hword : word ∈ nonFiniteWords) (fuel : Nat)
    (rest : List CodePoint) : readScalar fuel (word.toList ++ rest) = .error (.nonFinite word) := by
  simp only [nonFiniteWords, List.mem_cons, List.not_mem_nil, or_false] at hword
  rcases hword with rfl | rfl | rfl
  · rfl
  · rfl
  · rfl

/-- **What a scalar begins with** decides how it is read. -/
theorem readScalar_cases (cs : List CodePoint) :
    (∃ rest, cs = .char '"' :: rest) ∨
      (∃ word ∈ (["null", "true", "false"] : List Text), ∃ rest, cs = word.toList ++ rest) ∨
      (∃ word ∈ nonFiniteWords, ∃ rest, cs = word.toList ++ rest) ∨
      ∀ fuel, readScalar fuel cs = readNumber cs := by
  by_cases hquote : ∃ rest, cs = .char '"' :: rest
  · exact Or.inl hquote
  refine Or.inr ?_
  cases hconstant : readConstant? cs with
  | some found =>
    -- one of the three words was found
    left
    cases hnull : afterWord? (Text.toList "null") cs with
    | some rest => exact ⟨"null", by simp, rest, afterWord?_eq_some_iff.1 hnull⟩
    | none =>
      cases htrue : afterWord? (Text.toList "true") cs with
      | some rest => exact ⟨"true", by simp, rest, afterWord?_eq_some_iff.1 htrue⟩
      | none =>
        cases hfalse : afterWord? (Text.toList "false") cs with
        | some rest => exact ⟨"false", by simp, rest, afterWord?_eq_some_iff.1 hfalse⟩
        | none =>
          rw [readConstant?, hnull, htrue, hfalse] at hconstant
          cases hconstant
  | none =>
    refine Or.inr ?_
    cases hword : nonFiniteWords.find? fun word => (afterWord? word.toList cs).isSome with
    | some word =>
      left
      have hsome := List.find?_some hword
      obtain ⟨rest, hrest⟩ := Option.isSome_iff_exists.1 hsome
      exact ⟨word, List.mem_of_find?_eq_some hword, rest, afterWord?_eq_some_iff.1 hrest⟩
    | none =>
      right
      -- nothing but a number is left to try
      intro fuel
      rw [readScalar]
      · rw [hconstant, hword]
      · rintro rest rfl
        exact hquote ⟨rest, rfl⟩

theorem StartsNumber.append {cs : List CodePoint} (h : StartsNumber cs) (more : List CodePoint) :
    StartsNumber (cs ++ more) := by
  obtain ⟨d, rest, hd, rfl | rfl⟩ := h
  · exact ⟨d, rest ++ more, hd, Or.inl rfl⟩
  · exact ⟨d, rest ++ more, hd, Or.inr rfl⟩

/-- What begins as a number is read as one. -/
theorem StartsNumber.readScalar_eq {cs : List CodePoint} (h : StartsNumber cs) (fuel : Nat) :
    readScalar fuel cs = readNumber cs := by
  have hother : ∀ (d : CodePoint) (rest : List CodePoint), d.isDigit = false → d ≠ '-' →
      ¬ StartsNumber (d :: rest) := by
    rintro d rest hd hminus ⟨e, _, he, h | h⟩
    · rw [(List.cons.inj h).1, he] at hd
      cases hd
    · exact hminus (List.cons.inj h).1
  rcases readScalar_cases cs with ⟨rest, rfl⟩ | ⟨word, hword, rest, rfl⟩ |
    ⟨word, hword, rest, rfl⟩ | hnumber
  · exact absurd h (hother _ _ (by decide) (by decide))
  · simp only [List.mem_cons, List.not_mem_nil, or_false] at hword
    rcases hword with rfl | rfl | rfl
    · exact absurd h (hother _ _ (by decide) (by decide))
    · exact absurd h (hother _ _ (by decide) (by decide))
    · exact absurd h (hother _ _ (by decide) (by decide))
  · simp only [nonFiniteWords, List.mem_cons, List.not_mem_nil, or_false] at hword
    rcases hword with rfl | rfl | rfl
    · exact absurd h (hother _ _ (by decide) (by decide))
    · exact absurd h (hother _ _ (by decide) (by decide))
    -- a minus may begin a number, but not with a letter behind it
    · obtain ⟨d, _, hd, heq | heq⟩ := h
      · rw [← (List.cons.inj heq).1] at hd
        cases hd
      · rw [← (List.cons.inj (List.cons.inj heq).2).1] at hd
        cases hd
  · exact hnumber fuel

theorem isMalformed_readScalar_nil (fuel : Nat) : IsMalformed (readScalar fuel []) :=
  isMalformed_failAt

/-- **A scalar goes on.** -/
theorem goesOn_readScalar (hc : c ∈ scalarEnds) (tail : List CodePoint) (fuel more : Nat)
    (cs : List CodePoint) : GoesOn (c :: tail) (readScalar fuel cs)
      (readScalar (fuel + more) (cs ++ c :: tail)) := by
  rcases readScalar_cases cs with ⟨rest, rfl⟩ | ⟨word, hword, rest, rfl⟩ |
    ⟨word, hword, rest, rfl⟩ | hnumber
  · exact (goesOn_readString hc tail fuel more rest).bind fun text rest _ =>
      goesOn_ok _ (Json.string text) rest
  · obtain ⟨value, hvalue⟩ := readScalar_word hword
    rw [List.append_assoc, hvalue, hvalue]
    exact goesOn_ok _ value rest
  · rw [List.append_assoc, readScalar_nonFinite hword, readScalar_nonFinite hword]
    exact goesOn_error _ _
  -- the longer text might begin with a word, but not where a number begins
  · rw [hnumber]
    by_cases hstarts : StartsNumber cs
    · rw [(hstarts.append _).readScalar_eq]
      exact goesOn_readNumber hc cs tail
    · exact (isMalformed_readNumber hstarts).goesOn

/-! ### Values -/

theorem goesOn_readKey (hc : c ∈ valueEnds) (tail : List CodePoint) (fuel more : Nat)
    (cs : List CodePoint) : GoesOn (c :: tail) (readKey fuel cs)
      (readKey (fuel + more) (cs ++ c :: tail)) := by
  by_cases hquote : ∃ rest, cs = .char '"' :: rest
  · obtain ⟨rest, rfl⟩ := hquote
    have hstring := goesOn_readString (List.mem_cons_of_mem _ hc) tail fuel more rest
    refine hstring.bind fun key rest _ => ?_
    dsimp only
    -- behind the key only a colon is taken
    rw [skipSpace_append hc]
    rcases skipSpace rest with _ | ⟨d, rest⟩
    · exact isMalformed_failAt.goesOn
    by_cases hd : d = ':'
    · subst hd
      show GoesOn (c :: tail) (pure (key, skipSpace rest))
        (pure (key, skipSpace (rest ++ c :: tail)))
      rw [skipSpace_append hc]
      exact goesOn_ok _ key (skipSpace rest)
    · split
      · next h => exact absurd (List.cons.inj h).1 hd
      · exact isMalformed_failAt.goesOn
  · have hcs : IsMalformed (readKey fuel cs) := by
      rw [readKey]
      · exact isMalformed_failAt
      · rintro rest rfl
        exact hquote ⟨rest, rfl⟩
    exact hcs.goesOn

theorem readValue_scalar {d : CodePoint} (hbracket : d ≠ '[') (hbrace : d ≠ '\x7b') (fuel : Nat)
    (cs : List CodePoint) : readValue (fuel + 1) (d :: cs) = readScalar fuel (d :: cs) := by
  rw [readValue]
  · rintro _ ⟨⟩
    exact hbracket rfl
  · rintro _ ⟨⟩
    exact hbrace rfl

theorem isMalformed_readValue_nil (fuel : Nat) : IsMalformed (readValue fuel []) := by
  cases fuel with
  | zero => exact isMalformed_failAt
  | succ fuel => exact isMalformed_readScalar_nil fuel

theorem isMalformed_readItems_nil (fuel : Nat) : IsMalformed (readItems fuel []) := by
  cases fuel with
  | zero => exact isMalformed_failAt
  | succ fuel =>
    rw [readItems]
    exact (isMalformed_readValue_nil fuel).bind _

theorem isMalformed_readMembers_nil (fuel : Nat) (members : List (Text × Json)) :
    IsMalformed (readMembers fuel members []) := by
  cases fuel with
  | zero => exact isMalformed_failAt
  | succ fuel =>
    rw [readMembers]
    exact IsMalformed.bind isMalformed_failAt _

/-- Values, items and members with a given amount of fuel go on. -/
structure GoOn (fuel : Nat) : Prop where
  value : ∀ {c : CodePoint}, c ∈ valueEnds →
    ∀ (tail : List CodePoint) (more : Nat) (cs : List CodePoint),
    GoesOn (c :: tail) (readValue fuel cs) (readValue (fuel + more) (cs ++ c :: tail))
  items : ∀ {c : CodePoint}, c ∈ valueEnds →
    ∀ (tail : List CodePoint) (more : Nat) (cs : List CodePoint),
    GoesOn (c :: tail) (readItems fuel cs) (readItems (fuel + more) (cs ++ c :: tail))
  members : ∀ {c : CodePoint}, c ∈ valueEnds → ∀ (tail : List CodePoint) (more : Nat)
    (members : List (Text × Json)) (cs : List CodePoint),
    GoesOn (c :: tail) (readMembers fuel members cs)
      (readMembers (fuel + more) members (cs ++ c :: tail))

variable {fuel : Nat}

/-- What follows an opening bracket is the closing one or the first item. -/
theorem GoOn.array (ih : GoOn fuel) (hc : c ∈ valueEnds) (tail : List CodePoint) (more : Nat)
    (cs : List CodePoint) : GoesOn (c :: tail) (readValue (fuel + 1) (.char '[' :: cs))
      (readValue (fuel + more + 1) (.char '[' :: cs ++ c :: tail)) := by
  rw [List.cons_append, readValue, readValue, skipSpace_append hc]
  rcases skipSpace cs with _ | ⟨d, rest⟩
  · exact ((isMalformed_readItems_nil fuel).bind _).goesOn
  by_cases hclose : d = ']'
  · subst hclose
    exact goesOn_ok _ (Json.array []) rest
  · rw [List.cons_append]
    split
    · next h => exact absurd (List.cons.inj h).1 hclose
    · split
      · next h => exact absurd (List.cons.inj h).1 hclose
      · exact (ih.items hc tail more (d :: rest)).bind fun items rest _ =>
          goesOn_ok _ (Json.array items) rest

/-- What follows an opening brace is the closing one or the first member. -/
theorem GoOn.object (ih : GoOn fuel) (hc : c ∈ valueEnds) (tail : List CodePoint) (more : Nat)
    (cs : List CodePoint) : GoesOn (c :: tail) (readValue (fuel + 1) (.char '\x7b' :: cs))
      (readValue (fuel + more + 1) (.char '\x7b' :: cs ++ c :: tail)) := by
  rw [List.cons_append, readValue, readValue, skipSpace_append hc]
  rcases skipSpace cs with _ | ⟨d, rest⟩
  · exact ((isMalformed_readMembers_nil fuel []).bind _).goesOn
  by_cases hclose : d = '\x7d'
  · subst hclose
    exact goesOn_ok _ (Json.object []) rest
  · rw [List.cons_append]
    split
    · next h => exact absurd (List.cons.inj h).1 hclose
    · split
      · next h => exact absurd (List.cons.inj h).1 hclose
      · exact (ih.members hc tail more [] (d :: rest)).bind fun members rest _ =>
          goesOn_ok _ (Json.object members) rest

theorem GoOn.value_succ (ih : GoOn fuel) (hc : c ∈ valueEnds) (tail : List CodePoint) (more : Nat)
    (cs : List CodePoint) : GoesOn (c :: tail) (readValue (fuel + 1) cs)
      (readValue (fuel + more + 1) (cs ++ c :: tail)) := by
  by_cases harray : ∃ rest, cs = .char '[' :: rest
  · obtain ⟨rest, rfl⟩ := harray
    exact ih.array hc tail more rest
  by_cases hobject : ∃ rest, cs = .char '\x7b' :: rest
  · obtain ⟨rest, rfl⟩ := hobject
    exact ih.object hc tail more rest
  rcases cs with _ | ⟨d, cs⟩
  · exact (isMalformed_readValue_nil _).goesOn
  have hbracket : d ≠ '[' := fun hd => harray ⟨cs, by rw [hd]⟩
  have hbrace : d ≠ '\x7b' := fun hd => hobject ⟨cs, by rw [hd]⟩
  rw [List.cons_append, readValue_scalar hbracket hbrace, readValue_scalar hbracket hbrace]
  exact goesOn_readScalar (List.mem_cons_of_mem _ hc) tail fuel more (d :: cs)

/-- What follows an item is the closing bracket or a comma and the next item. -/
theorem GoOn.items_succ (ih : GoOn fuel) (hc : c ∈ valueEnds) (tail : List CodePoint) (more : Nat)
    (cs : List CodePoint) : GoesOn (c :: tail) (readItems (fuel + 1) cs)
      (readItems (fuel + more + 1) (cs ++ c :: tail)) := by
  -- behind an item stands the closing bracket or a comma and the next item
  rw [readItems, readItems]
  refine (ih.value hc tail more cs).bind fun item rest _ => ?_
  dsimp only
  rw [skipSpace_append hc]
  rcases skipSpace rest with _ | ⟨d, rest⟩
  · exact isMalformed_failAt.goesOn
  by_cases hclose : d = ']'
  · subst hclose
    exact goesOn_ok _ [item] rest
  by_cases hcomma : d = ','
  · subst hcomma
    show GoesOn (c :: tail)
      (readItems fuel (skipSpace rest) >>= fun found => pure (item :: found.1, found.2))
      (readItems (fuel + more) (skipSpace (rest ++ c :: tail)) >>= fun found =>
        pure (item :: found.1, found.2))
    rw [skipSpace_append hc]
    exact (ih.items hc tail more (skipSpace rest)).bind fun items rest _ =>
      goesOn_ok _ (item :: items) rest
  · split
    · next h => exact absurd (List.cons.inj h).1 hclose
    · next h => exact absurd (List.cons.inj h).1 hcomma
    · exact isMalformed_failAt.goesOn

/-- What follows a member is the closing brace or a comma and the next member. -/
theorem GoOn.members_succ (ih : GoOn fuel) (hc : c ∈ valueEnds) (tail : List CodePoint) (more : Nat)
    (members : List (Text × Json)) (cs : List CodePoint) :
    GoesOn (c :: tail) (readMembers (fuel + 1) members cs)
      (readMembers (fuel + more + 1) members (cs ++ c :: tail)) := by
  rw [readMembers, readMembers]
  -- the key goes on, then its value, with the same fuel as in the shorter text
  refine (goesOn_readKey hc tail fuel more cs).bind fun key rest _ => ?_
  refine (ih.value hc tail more rest).bind fun value rest _ => ?_
  dsimp only
  rw [skipSpace_append hc]
  rcases skipSpace rest with _ | ⟨d, rest⟩
  · exact isMalformed_failAt.goesOn
  by_cases hclose : d = '\x7d'
  · subst hclose
    exact goesOn_ok _ _ rest
  by_cases hcomma : d = ','
  · subst hcomma
    show GoesOn (c :: tail)
      (readMembers fuel (Association.put key value members) (skipSpace rest))
      (readMembers (fuel + more) (Association.put key value members)
        (skipSpace (rest ++ c :: tail)))
    rw [skipSpace_append hc]
    exact ih.members hc tail more _ (skipSpace rest)
  · split
    · next h => exact absurd (List.cons.inj h).1 hclose
    · next h => exact absurd (List.cons.inj h).1 hcomma
    · exact isMalformed_failAt.goesOn

/-- **What is read at the head of a text goes on.**  The three readers call each other with less
fuel, and each of their steps goes on where the text ends with a sign of `valueEnds`. -/
theorem goOn (fuel : Nat) : GoOn fuel := by
  induction fuel with
  | zero =>
    refine ⟨fun _ _ _ _ => ?_, fun _ _ _ _ => ?_, fun _ _ _ _ _ => ?_⟩
    · exact isMalformed_failAt.goesOn
    · exact isMalformed_failAt.goesOn
    · exact isMalformed_failAt.goesOn
  | succ fuel ih =>
    refine ⟨fun hc tail more cs => ?_, fun hc tail more cs => ?_,
      fun hc tail more members cs => ?_⟩
    · rw [Nat.add_right_comm]
      exact ih.value_succ hc tail more cs
    · rw [Nat.add_right_comm]
      exact ih.items_succ hc tail more cs
    · rw [Nat.add_right_comm]
      exact ih.members_succ hc tail more members cs

end SchemaScribe.Json
