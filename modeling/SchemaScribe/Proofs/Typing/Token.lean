import SchemaScribe.Proofs.Json.Numeral
import SchemaScribe.Proofs.Json.Quoted
import SchemaScribe.Proofs.Typing.Lines

/-!
# The tokens of type expressions

Type expressions are written in words, string literals, numerals and signs, with blanks between
them that mean nothing.  `tokens?` takes a text apart into its tokens.

What a text is taken apart into depends on what follows only where a word or a numeral could go on.
So texts are put together as their tokens are (`Spells`), and string literals cannot disturb that,
whatever they hold (`spells_quote`).
-/

namespace SchemaScribe.Typing

/-! ### Tokens -/

/-- **A token of type expressions.** -/
inductive Token where
  | word (name : Text)
  /-- A string literal, by the text that it stands for. -/
  | text (value : Text)
  | numeral (spelling : Text)
  | sign (c : CodePoint)
  deriving DecidableEq, Repr

/-- The characters that are tokens by themselves. -/
def signs : List CodePoint :=
  ['\x7b', '\x7d', '[', ']', '(', ')', '<', '>', ',', ';', ':', '?', '|', '&']

/-- A character that is a token by itself. -/
def isSign (c : CodePoint) : Bool := signs.contains c

/-- The token at the head of a text, and what follows it.  A word and a numeral are as long as
possible. -/
def nextToken? : List CodePoint → Option (Token × List CodePoint)
  | [] => none
  | c :: cs =>
    if c = '"' then
      (Json.readString (cs.length + 1) cs).toOption.map fun read => (.text read.1, read.2)
    else if isSign c then some (.sign c, cs)
    else if isIdentifierStart c then
      some (.word (Text.ofList ((c :: cs).takeWhile isIdentifierPart)),
        (c :: cs).dropWhile isIdentifierPart)
    else
      let spelling := (c :: cs).takeWhile Json.isNumeralPart
      if Json.isNumeral spelling then
        some (.numeral (Text.ofList spelling), (c :: cs).dropWhile Json.isNumeralPart)
      else none

/-- The tokens of a text.  `fuel` bounds its characters. -/
def tokensWithin : Nat → List CodePoint → Option (List Token)
  | _, [] => some []
  | 0, _ :: _ => none
  | fuel + 1, c :: cs =>
    if Json.isSpace c then tokensWithin fuel cs
    else do
      let (token, rest) ← nextToken? (c :: cs)
      let more ← tokensWithin fuel rest
      pure (token :: more)

/-- **The tokens of a text**, if it is made up of tokens. -/
def tokens? (text : Text) : Option (List Token) :=
  tokensWithin text.toList.length text.toList

/-! ### Scanning -/

/-- **A text with its tokens**, told token by token.  Each takes up some of the text, so the text
is its own bound. -/
inductive Scan : List CodePoint → List Token → Prop
  | nil : Scan [] []
  | space {c : CodePoint} {cs : List CodePoint} {tokens : List Token} (hc : Json.isSpace c = true)
    (h : Scan cs tokens) : Scan (c :: cs) tokens
  | token {cs rest : List CodePoint} {token : Token} {tokens : List Token}
    (ht : nextToken? cs = some (token, rest)) (hlt : rest.length < cs.length)
    (h : Scan rest tokens) : Scan cs (token :: tokens)

/-- No token begins with a blank. -/
theorem nextToken?_of_isSpace {c : CodePoint} (hc : Json.isSpace c = true) (cs : List CodePoint) :
    nextToken? (c :: cs) = none := by
  simp only [Json.isSpace, Bool.or_eq_true, beq_iff_eq] at hc
  rcases hc with ((rfl | rfl) | rfl) | rfl <;> rfl

theorem tokensWithin_of_scan {cs : List CodePoint} {tokens : List Token} (h : Scan cs tokens)
    {fuel : Nat} (hf : cs.length ≤ fuel) : tokensWithin fuel cs = some tokens := by
  -- each token takes up some of the text, so what is left of the bound is enough for the rest
  induction h generalizing fuel with
  | nil => cases fuel <;> rfl
  | space hc _ ih =>
    rw [List.length_cons] at hf
    obtain ⟨fuel, rfl⟩ : ∃ n, fuel = n + 1 := ⟨fuel - 1, by omega⟩
    rw [tokensWithin, if_pos hc]
    exact ih (by omega)
  | @token cs rest token tokens ht hlt _ ih =>
    cases cs with
    | nil => cases ht
    | cons c cs =>
      have hc : ¬ Json.isSpace c = true := by
        intro hc
        rw [nextToken?_of_isSpace hc] at ht
        cases ht
      rw [List.length_cons] at hf hlt
      obtain ⟨fuel, rfl⟩ : ∃ n, fuel = n + 1 := ⟨fuel - 1, by omega⟩
      rw [tokensWithin, if_neg hc, ht]
      show ((tokensWithin fuel rest).bind fun more => some (token :: more)) = _
      rw [ih (by omega)]
      rfl

/-! ### Spelling -/

/-- The characters that a word or a numeral may go on with. -/
def isTokenPart (c : CodePoint) : Bool := isIdentifierPart c || Json.isNumeralPart c

theorem isTokenPart_of_isSign {c : CodePoint} (h : isSign c = true) : isTokenPart c = false := by
  have hall : (signs.all fun c => !isTokenPart c) = true := by decide
  have hc := List.all_eq_true.1 hall c (by simpa [isSign] using h)
  simpa using hc

/-- A text that no word and no numeral goes on with. -/
def Breaks (rest : List CodePoint) : Prop := ∀ c ∈ rest.head?, isTokenPart c = false

/-- **A text spells tokens**, whatever comes after it that goes on with none of them. -/
def Spells (text : Text) (tokens : List Token) : Prop :=
  ∀ rest more, Breaks rest → Scan rest more → Scan (text.toList ++ rest) (tokens ++ more)

/-- **What a text spells are its tokens.** -/
theorem Spells.tokens?_eq {text : Text} {tokens : List Token} (h : Spells text tokens) :
    tokens? text = some tokens := by
  have hscan : Scan text.toList tokens := by
    simpa using h [] [] (by simp [Breaks]) Scan.nil
  exact tokensWithin_of_scan hscan (le_refl _)

theorem Breaks.append {cs rest : List CodePoint} (h : Breaks cs) (hr : Breaks rest) :
    Breaks (cs ++ rest) := by
  cases cs with
  | nil => exact hr
  | cons c cs => exact h

/-- Texts are spelled one after the other, unless the second goes on with a token of the first. -/
theorem Spells.append {a b : Text} {tokens more : List Token} (ha : Spells a tokens)
    (hb : Spells b more) (hbreaks : Breaks b.toList) : Spells (a ++ b) (tokens ++ more) := by
  intro rest others hrest hscan
  rw [Text.toList_append, List.append_assoc, List.append_assoc]
  -- after the first text come the second one and the rest
  exact ha _ _ (hbreaks.append hrest) (hb rest others hrest hscan)

/-! ### Words, literals and numerals -/

/-- A word goes on as far as it can. -/
theorem spells_word {name : Text} (h : isPlainIdentifier name.toList = true) :
    Spells name [.word name] := by
  intro rest more hrest hscan
  have hpart := isIdentifierPart_of_isPlainIdentifier h
  have hstop : ∀ c ∈ rest.head?, isIdentifierPart c = false := by
    intro c hc
    exact (Bool.or_eq_false_iff.1 (hrest c hc)).1
  cases hname : name.toList with
  | nil => rw [hname] at h; cases h
  | cons c cs =>
    rw [hname, isPlainIdentifier, Bool.and_eq_true] at h
    -- what may start a word is neither a quote nor a sign
    have hquote : c ≠ '"' := by rintro rfl; exact absurd h.1 (by decide)
    have hsign : ¬ isSign c = true := by
      intro hc
      have hfalse : isTokenPart c = false := isTokenPart_of_isSign hc
      rw [isTokenPart, isIdentifierPart, h.1] at hfalse
      cases hfalse
    have hnext : nextToken? (name.toList ++ rest) = some (.word name, rest) := by
      rw [hname] at hpart ⊢
      rw [List.cons_append, nextToken?, if_neg hquote, if_neg hsign, if_pos h.1,
        ← List.cons_append, Json.takeWhile_append_of_head hpart hstop,
        Json.dropWhile_append_of_head hpart hstop, ← hname, Text.ofList_toList]
    have hshorter : rest.length < (name.toList ++ rest).length := by
      rw [hname, List.length_append, List.length_cons]
      omega
    rw [← hname]
    exact .token hnext hshorter hscan

/-- **A string literal is one token**, whatever it holds. -/
theorem spells_quote (text : Text) : Spells (Json.quote text) [.text text] := by
  intro rest more _ hscan
  have hlength := Json.length_le_length_escape text.toList
  rw [Json.toList_quote, List.cons_append, List.append_assoc]
  refine .token ?_ ?_ hscan
  · rw [nextToken?, if_pos rfl, List.singleton_append, Json.readString_escape]
    · rfl
    · rw [List.length_append, List.length_cons]
      omega
  · simp only [List.length_cons, List.length_append]
    omega

/-- A digit begins no string literal, is no sign and begins no word. -/
theorem other_of_isDigit {c : CodePoint} (h : c.isDigit = true) :
    c ≠ '"' ∧ isSign c = false ∧ isIdentifierStart c = false := by
  refine ⟨?_, ?_, ?_⟩
  · rintro rfl
    exact absurd h (by decide)
  · rw [Bool.eq_false_iff]
    intro hc
    have hfalse : isTokenPart c = false := isTokenPart_of_isSign hc
    rw [isTokenPart, isIdentifierPart, h, Bool.or_true, Bool.true_or] at hfalse
    cases hfalse
  · rw [CodePoint.isDigit_iff] at h
    have hunderscore : c ≠ '_' := by rintro rfl; exact absurd h.2 (by decide)
    have hdollar : c ≠ '$' := by rintro rfl; exact absurd h.1 (by decide)
    have halpha : c.isAlpha = false := by
      rw [CodePoint.isAlpha, Bool.or_eq_false_iff, Bool.eq_false_iff, Bool.eq_false_iff, Ne, Ne,
        CodePoint.isUpper_iff, CodePoint.isLower_iff]
      omega
    simp [isIdentifierStart, halpha, hunderscore, hdollar]

theorem spells_numeral {spelling : Text} (h : Json.isNumeral spelling.toList = true) :
    Spells spelling [.numeral spelling] := by
  intro rest more hrest hscan
  have hpart := Json.isNumeralPart_of_isNumeral h
  have hstop : ∀ c ∈ rest.head?, Json.isNumeralPart c = false := by
    intro c hc
    exact (Bool.or_eq_false_iff.1 (hrest c hc)).2
  cases hspelling : spelling.toList with
  | nil => rw [hspelling] at h; cases h
  | cons c cs =>
    rw [hspelling] at h
    -- neither a minus nor a digit begins another token
    have hfirst : c ≠ '"' ∧ isSign c = false ∧ isIdentifierStart c = false := by
      rcases Json.eq_minus_or_isDigit_of_isNumeral h with rfl | hdigit
      · decide
      · exact other_of_isDigit hdigit
    have hnext : nextToken? (spelling.toList ++ rest) = some (.numeral spelling, rest) := by
      rw [hspelling] at hpart ⊢
      rw [List.cons_append, nextToken?, if_neg hfirst.1, if_neg (by simp [hfirst.2.1]),
        if_neg (by simp [hfirst.2.2]), ← List.cons_append,
        Json.takeWhile_append_of_head hpart hstop, Json.dropWhile_append_of_head hpart hstop,
        ← hspelling]
      simp only [hspelling, h, if_true]
      rw [← hspelling, Text.ofList_toList]
    have hshorter : rest.length < (spelling.toList ++ rest).length := by
      rw [hspelling, List.length_append, List.length_cons]
      omega
    rw [← hspelling]
    exact .token hnext hshorter hscan

/-! ### Punctuation -/

/-- The characters of punctuation: signs, and the blank that sets them off. -/
def isPunctuation (c : CodePoint) : Bool := c == ' ' || isSign c

/-- The tokens of punctuation. -/
def signTokens (punctuation : Text) : List Token :=
  (punctuation.toList.filter isSign).map .sign

theorem scan_punctuation {cs : List CodePoint} (hp : cs.all isPunctuation = true)
    {rest : List CodePoint}
    {more : List Token} (hscan : Scan rest more) :
    Scan (cs ++ rest) ((cs.filter isSign).map .sign ++ more) := by
  induction cs with
  | nil => exact hscan
  | cons c cs ih =>
    rw [List.all_cons, Bool.and_eq_true] at hp
    have hrest := ih hp.2
    rw [List.cons_append, List.filter_cons]
    by_cases hc : isSign c = true
    · have hquote : c ≠ '"' := by rintro rfl; exact absurd hc (by decide)
      rw [if_pos hc, List.map_cons, List.cons_append]
      refine .token ?_ (by simp) hrest
      rw [nextToken?, if_neg hquote, if_pos hc]
    · obtain rfl : c = ' ' := by simpa [isPunctuation, hc] using hp.1
      rw [if_neg hc]
      exact .space (by decide) hrest

theorem breaks_of_punctuation {punctuation : Text}
    (hp : punctuation.toList.all isPunctuation = true) : Breaks punctuation.toList := by
  intro c hc
  have hmem : c ∈ punctuation.toList := List.mem_of_head? hc
  have hpart := List.all_eq_true.1 hp c hmem
  rw [isPunctuation, Bool.or_eq_true, beq_iff_eq] at hpart
  rcases hpart with rfl | hc
  · decide
  · exact isTokenPart_of_isSign hc

theorem spells_punctuation {punctuation : Text}
    (hp : punctuation.toList.all isPunctuation = true) :
    Spells punctuation (signTokens punctuation) :=
  fun _ _ _ hscan => scan_punctuation hp hscan

theorem Spells.after (punctuation : Text) (hp : punctuation.toList.all isPunctuation = true)
    {text : Text} {tokens : List Token} (h : Spells text tokens) :
    Spells (punctuation ++ text) (signTokens punctuation ++ tokens) := by
  intro rest more hrest hscan
  rw [Text.toList_append, List.append_assoc, List.append_assoc]
  exact scan_punctuation hp (h rest more hrest hscan)

theorem Spells.before (punctuation : Text) (hp : punctuation.toList.all isPunctuation = true)
    {text : Text} {tokens : List Token} (h : Spells text tokens) :
    Spells (text ++ punctuation) (tokens ++ signTokens punctuation) :=
  h.append (spells_punctuation hp) (breaks_of_punctuation hp)

/-- **Punctuation separates texts.** -/
theorem Spells.separated (punctuation : Text) (hne : punctuation ≠ "")
    (hp : punctuation.toList.all isPunctuation = true) {a b : Text} {tokens more : List Token}
    (ha : Spells a tokens) (hb : Spells b more) :
    Spells (a ++ punctuation ++ b) (tokens ++ signTokens punctuation ++ more) := by
  have hbreaks : Breaks (punctuation ++ b).toList := by
    have h := breaks_of_punctuation hp
    rw [Text.toList_append]
    cases hcs : punctuation.toList with
    | nil => exact absurd (Text.toList_eq_nil_iff.1 hcs) hne
    | cons c cs => rwa [hcs] at h
  rw [Text.append_assoc, List.append_assoc]
  exact ha.append (hb.after punctuation hp) hbreaks

end SchemaScribe.Typing
