import Mathlib.Tactic.FinCases
import SchemaScribe.Proofs.Typing.Expression

/-!
# Reading type expressions that are put together

What a text denotes follows from what the texts denote that it is put together from, as long as it
is known at which level of precedence each of them can be read (`Reads`).  An operand may take
brackets of a list behind it (`Reads.array`); a list of types joined by bars may not, and has to be
put in parentheses first (`Reads.parentheses`).
-/

namespace SchemaScribe.Typing

open TypeExpr (unite intersect)

/-! ### Pieces of texts -/

/-- Tokens are gathered into pieces, wherever they stand. -/
def Gathers (tokens : List Token) (pieces : List Piece) : Prop :=
  ∀ levels : Levels, tokens.foldlM Levels.next? levels =
    some ⟨levels.outer, levels.pieces ++ pieces⟩

/-- **A text is laid out as pieces.** -/
def Lays (text : Text) (pieces : List Piece) : Prop :=
  ∃ tokens, Spells text tokens ∧ Gathers tokens pieces

theorem Lays.pieces?_eq {text : Text} {pieces : List Piece} (h : Lays text pieces) :
    (tokens? text).bind pieces? = some pieces := by
  obtain ⟨tokens, hspells, hgathers⟩ := h
  rw [hspells.tokens?_eq, Option.bind_some, pieces?, hgathers]
  rfl

theorem Gathers.append {tokens more : List Token} {pieces others : List Piece}
    (h : Gathers tokens pieces) (hm : Gathers more others) :
    Gathers (tokens ++ more) (pieces ++ others) := by
  intro levels
  rw [List.foldlM_append, h]
  show more.foldlM Levels.next? _ = _
  rw [hm, List.append_assoc]

theorem gathers_singleton {token : Token} (h : ∀ levels : Levels,
    levels.next? token = some (levels.push (.token token))) : Gathers [token] [.token token] := by
  intro levels
  rw [List.foldlM_cons, h]
  rfl

/-- The signs that separate, apart from brackets. -/
def separators : List CodePoint :=
  [.char ',', .char ';', .char ':', .char '?', .char '|', .char '&']

theorem gathers_separator {c : CodePoint} (hc : c ∈ separators) :
    Gathers [.sign c] [.token (.sign c)] := by
  apply gathers_singleton
  have hopening : closing? c = none := by
    fin_cases hc <;> rfl
  have hclosing : ∀ opening, closing? opening ≠ some c := by
    intro opening
    rw [closing?.eq_def]
    fin_cases hc <;> split <;> simp
  rintro ⟨outer, pieces⟩
  rw [Levels.next?, hopening, if_neg (by simp)]
  cases outer with
  | nil => rfl
  | cons level outer => exact if_neg (hclosing level.1)

/-- **What stands between brackets is one piece.** -/
theorem Gathers.enclosed {tokens : List Token} {pieces : List Piece} {piece : Piece}
    (opening : CodePoint) {closing : CodePoint} (h : Gathers tokens pieces)
    (hpair : closing? opening = some closing)
    (hclose : close? pieces opening = some piece) :
    Gathers (.sign opening :: tokens ++ [.sign closing]) [piece] := by
  intro levels
  have hopen : levels.next? (.sign opening) =
      some ⟨(opening, levels.pieces) :: levels.outer, []⟩ := by
    rw [Levels.next?, hpair]
    exact if_pos rfl
  have hnone : closing? closing = none := by
    rw [closing?.eq_def] at hpair
    split at hpair <;> cases hpair <;> rfl
  -- the first sign opens a level, the tokens fill it, and the last sign closes it
  rw [List.cons_append, List.foldlM_cons, hopen]
  show (tokens ++ [Token.sign closing]).foldlM Levels.next? _ = _
  rw [List.foldlM_append, h]
  show [Token.sign closing].foldlM Levels.next? _ = _
  rw [List.foldlM_cons, Levels.next?, hnone, if_neg (by simp), List.nil_append]
  simp only [hpair, if_true, hclose]
  rfl

/-! ### Texts at a level of precedence -/

/-- **A text is read as a value** of a kind.  `signs` are the only ones that stand in it outside of
brackets. -/
def Reads {α : Type} (read : List Piece → Option α) (signs : List CodePoint) (text : Text)
    (value : α) : Prop :=
  ∃ pieces, Lays text pieces ∧ read pieces = some value ∧
    ∀ c, .token (.sign c) ∈ pieces → c ∈ signs

/-- **A text that is read as a type denotes it.** -/
theorem Reads.read?_eq {signs : List CodePoint} {text : Text} {type : TypeExpr}
    (h : Reads union? signs text type) : TypeExpr.read? text = some type := by
  obtain ⟨pieces, hlays, hread, -⟩ := h
  have hpieces := hlays.pieces?_eq
  rw [TypeExpr.read?]
  show (tokens? text).bind (fun tokens => (pieces? tokens).bind union?) = _
  rw [← Option.bind_assoc, hpieces]
  exact hread

/-- **Parts joined by separators.** -/
inductive Joined {α : Type} (separator : Text) (part : Text → α → Prop) :
    Text → List α → Prop
  | one {text : Text} {value : α} (h : part text value) : Joined separator part text [value]
  | more {text next : Text} {values : List α} {value : α} (h : Joined separator part text values)
    (hnext : part next value) :
    Joined separator part (text ++ separator ++ next) (values ++ [value])

variable {α : Type}

/-- Joined parts may be joined again. -/
theorem Joined.append {separator text next : Text} {part : Text → α → Prop}
    {values more : List α} (h : Joined separator part text values)
    (hnext : Joined separator part next more) :
    Joined separator part (text ++ separator ++ next) (values ++ more) := by
  induction hnext with
  | one hnext => exact Joined.more h hnext
  | @more before next others value _ hnext ih =>
    rw [← Text.append_assoc, ← Text.append_assoc, ← List.append_assoc]
    exact Joined.more ih hnext

/-- Parts may also be joined from the first one on. -/
theorem Joined.cons {separator text first : Text} {part : Text → α → Prop} {values : List α}
    {value : α} (hfirst : part first value) (h : Joined separator part text values) :
    Joined separator part (first ++ separator ++ text) (value :: values) :=
  Joined.append (.one hfirst) h

theorem Joined.imp {separator text : Text} {part part' : Text → α → Prop} {values : List α}
    (hpart : ∀ text value, part text value → part' text value)
    (h : Joined separator part text values) : Joined separator part' text values := by
  induction h with
  | one h => exact .one (hpart _ _ h)
  | more _ hnext ih => exact .more ih (hpart _ _ hnext)

theorem Joined.ne_nil {separator text : Text} {part : Text → α → Prop} {values : List α}
    (h : Joined separator part text values) : values ≠ [] := by
  cases h with
  | one _ => exact List.cons_ne_nil _ _
  | more _ _ => exact List.append_ne_nil_of_right_ne_nil _ (List.cons_ne_nil _ _)

/-- **The last part**: all there is, or behind a separator. -/
theorem Joined.last {separator text : Text} {part : Text → α → Prop} {values : List α}
    (h : Joined separator part text values) :
    (∃ value, values = [value] ∧ part text value) ∨
      ∃ before next others value, text = before ++ separator ++ next ∧
        values = others ++ [value] ∧ Joined separator part before others ∧ part next value := by
  cases h with
  | one h => exact Or.inl ⟨_, rfl, h⟩
  | more h hnext => exact Or.inr ⟨_, _, _, _, rfl, rfl, h, hnext⟩

/-- Texts that are read one by one are joined by `Text.intercalate`. -/
theorem joined_intercalate {separator : Text} {part : Text → α → Prop} {texts : List Text}
    {values : List α} (hne : texts ≠ []) (h : List.Forall₂ part texts values) :
    Joined separator part (Text.intercalate separator texts) values := by
  induction h with
  | nil => exact absurd rfl hne
  | cons hfirst hrest ih =>
    cases hrest with
    | nil =>
      rw [Text.intercalate_singleton]
      exact .one hfirst
    | cons hsecond hmore =>
      rw [Text.intercalate_cons_cons]
      exact Joined.cons hfirst (ih (List.cons_ne_nil _ _))

/-- **Texts joined by separators are read part by part.** -/
theorem Reads.separated {separator text : Text} (c : CodePoint) (cs : List CodePoint)
    {signs : List CodePoint} {read : List Piece → Option α} {values : List α}
    (hp : separator.toList.all isPunctuation = true) (hsign : signTokens separator = [.sign c])
    (hc : c ∈ separators) (hcs : c ∈ cs) (hsigns : ∀ d ∈ signs, d ∉ cs)
    (h : Joined separator (Reads read signs) text values) :
    Reads (separated? cs read) (c :: signs) text values := by
  have hne : separator ≠ "" := by rintro rfl; cases hsign
  -- a part holds none of the separators
  have hpart : ∀ {pieces : List Piece}, (∀ c, .token (.sign c) ∈ pieces → c ∈ signs) →
      pieces.splitOnP (·.isSignOf cs) = [pieces] := by
    intro pieces hpieces
    apply List.splitOnP_eq_singleton
    intro piece hpiece
    rw [Bool.eq_false_iff]
    intro hseparates
    rw [Piece.isSignOf.eq_def] at hseparates
    split at hseparates
    · exact hsigns _ (hpieces _ hpiece) (by simpa using hseparates)
    · cases hseparates
  -- the parts are split from the last one on: before it stand its separator and the others
  induction h with
  | one h =>
    obtain ⟨pieces, hlays, hread, hpieces⟩ := h
    refine ⟨pieces, hlays, ?_, fun d hd => List.mem_cons_of_mem _ (hpieces d hd)⟩
    rw [separated?, hpart hpieces, List.mapM_cons, hread]
    rfl
  | more _ hnext ih =>
    obtain ⟨before, ⟨tokens, hspells, hgathers⟩, hread, hbefore⟩ := ih
    obtain ⟨pieces, ⟨more, hmore, hothers⟩, hnext, hpieces⟩ := hnext
    refine ⟨before ++ .token (.sign c) :: pieces,
      ⟨_, hspells.separated separator hne hp hmore, ?_⟩, ?_, ?_⟩
    · rw [← List.singleton_append, ← List.append_assoc, hsign]
      exact (hgathers.append (gathers_separator hc)).append hothers
    · rw [separated?, List.splitOnP_append_cons _ _ (by simpa [Piece.isSignOf] using hcs),
        List.mapM_append, hpart hpieces, List.mapM_cons, hnext]
      show (separated? cs read before).bind _ = _
      rw [hread]
      rfl
    · intro d hd
      rw [List.mem_append, List.mem_cons] at hd
      rcases hd with hd | hd | hd
      · exact hbefore d hd
      · cases hd
        exact List.mem_cons_self
      · exact List.mem_cons_of_mem _ (hpieces d hd)

/-! ### Alternatives and operands -/

/-- Operands joined by ampersands are an alternative. -/
theorem reads_intersection {text : Text} {types : List TypeExpr}
    (h : Joined " & " (Reads operand? []) text types) :
    Reads intersection? [.char '&'] text (intersect types) := by
  obtain ⟨pieces, hlays, hread, hsigns⟩ := Reads.separated '&' [.char '&'] (by decide) (by decide)
    (by decide) (by decide) (by simp) h
  exact ⟨pieces, hlays, by rw [intersection?, hread]; rfl, hsigns⟩

theorem Reads.intersection {text : Text} {type : TypeExpr} (h : Reads operand? [] text type) :
    Reads intersection? [.char '&'] text type := by
  have h := reads_intersection (.one h)
  rwa [TypeExpr.intersect_singleton] at h

/-- **Alternatives joined by bars are a type.** -/
theorem reads_union {text : Text} {types : List TypeExpr}
    (h : Joined " | " (Reads intersection? [.char '&']) text types) :
    Reads union? [.char '|', .char '&'] text (unite types) := by
  obtain ⟨pieces, hlays, hread, hsigns⟩ := Reads.separated '|' [.char '|'] (by decide) (by decide)
    (by decide) (by decide) (by simp) h
  exact ⟨pieces, hlays, by rw [union?, hread]; rfl, hsigns⟩

theorem Reads.union {text : Text} {type : TypeExpr} (h : Reads operand? [] text type) :
    Reads union? [.char '|', .char '&'] text type := by
  have h := reads_union (.one h.intersection)
  rwa [TypeExpr.unite_singleton] at h

/-! ### Atoms -/

theorem lays_of_spells {text : Text} {token : Token} (h : Spells text [token])
    (hnext : ∀ levels : Levels, levels.next? token = some (levels.push (.token token))) :
    Lays text [.token token] := ⟨_, h, gathers_singleton hnext⟩

theorem lays_word {name : Text} (h : isPlainIdentifier name.toList = true) :
    Lays name [.token (.word name)] := lays_of_spells (spells_word h) fun _ => rfl

theorem lays_quote (text : Text) : Lays (Json.quote text) [.token (.text text)] :=
  lays_of_spells (spells_quote text) fun _ => rfl

/-- One piece that is no sign is an operand. -/
theorem Lays.reads {text : Text} {piece : Piece} {type : TypeExpr} (h : Lays text [piece])
    (hread : operand? [piece] = some type) (hsign : ∀ c, piece ≠ .token (.sign c)) :
    Reads operand? [] text type := by
  refine ⟨_, h, hread, ?_⟩
  intro c hc
  rw [List.mem_singleton] at hc
  exact absurd hc.symm (hsign c)

theorem reads_word {name : Text} (h : isPlainIdentifier name.toList = true) :
    Reads operand? [] name (wordType name) :=
  (lays_word h).reads rfl (by simp)

/-- **A string literal denotes its text.** -/
theorem reads_quote (text : Text) :
    Reads operand? [] (Json.quote text) (.literal (.text text)) :=
  (lays_quote text).reads rfl (by simp)

theorem reads_numeral {spelling : Text} (h : Json.isNumeral spelling.toList = true) :
    Reads operand? [] spelling (.literal (.numeral spelling)) :=
  (lays_of_spells (spells_numeral h) fun _ => rfl).reads rfl (by simp)

/-! ### Brackets -/

theorem Lays.enclosed {before after text : Text} {pieces : List Piece} {piece : Piece}
    {opening closing : CodePoint} (hbefore : before.toList.all isPunctuation = true)
    (hopening : signTokens before = [.sign opening])
    (hafter : after.toList.all isPunctuation = true)
    (hclosing : signTokens after = [.sign closing]) (hpair : closing? opening = some closing)
    (h : Lays text pieces) (hclose : close? pieces opening = some piece) :
    Lays (before ++ text ++ after) [piece] := by
  obtain ⟨tokens, hspells, hgathers⟩ := h
  have henclosed := (hspells.after before hbefore).before after hafter
  rw [hopening, hclosing] at henclosed
  exact ⟨_, henclosed, hgathers.enclosed opening hpair hclose⟩

/-- **Parentheses make a type an operand.** -/
theorem Reads.parentheses {signs : List CodePoint} {text : Text} {type : TypeExpr}
    (h : Reads union? signs text type) : Reads operand? [] ("(" ++ text ++ ")") type := by
  obtain ⟨pieces, hlays, hread, -⟩ := h
  have hclose : close? pieces '(' = some (.type type) := by
    rw [close?, hread]
    rfl
  exact (hlays.enclosed (by decide) (by decide) (by decide) (by decide) rfl hclose).reads rfl
    (by simp)

theorem suffixed?_concat_brackets {type found : TypeExpr} {pieces : List Piece}
    (h : suffixed? type pieces = some found) :
    suffixed? type (pieces ++ [.brackets]) = some (.array found) := by
  induction pieces generalizing type with
  | nil =>
    obtain rfl := Option.some.inj h
    rfl
  | cons piece rest ih =>
    cases piece with
    | brackets => exact ih h
    | _ => cases h

/-- What is behind an atom is no part of it. -/
theorem atom?_append {pieces rest more : List Piece} {type : TypeExpr}
    (h : atom? pieces = some (type, rest)) (hm : ∀ types, .arguments types ∉ more) :
    atom? (pieces ++ more) = some (type, rest ++ more) := by
  rw [atom?.eq_def] at h
  split at h
  · cases h
    rfl
  · next name _ hothers =>
    cases h
    rw [List.cons_append, atom?]
    -- a word is applied only to arguments right behind it
    intro types others heq
    cases rest with
    | nil =>
      rw [List.nil_append] at heq
      exact hm types (heq ▸ List.mem_cons_self)
    | cons piece rest => exact hothers types rest (by rw [(List.cons.inj heq).1])
  · cases h
    rfl
  · cases h
    rfl
  · cases h
    rfl
  · cases h

/-- **Brackets behind an operand make a list of it.** -/
theorem Reads.array {text : Text} {type : TypeExpr} (h : Reads operand? [] text type) :
    Reads operand? [] (text ++ "[]") (.array type) := by
  obtain ⟨pieces, ⟨tokens, hspells, hgathers⟩, hread, hsigns⟩ := h
  obtain ⟨found, hatom, hsuffixed⟩ := Option.bind_eq_some_iff.1 hread
  have hempty : Gathers [] [] := by
    intro levels
    rw [List.append_nil]
    rfl
  have hbrackets : Gathers (signTokens "[]") [.brackets] :=
    hempty.enclosed '[' rfl rfl
  refine ⟨_, ⟨_, hspells.before "[]" (by decide), hgathers.append hbrackets⟩, ?_, ?_⟩
  · rw [operand?, atom?_append hatom (by simp)]
    exact suffixed?_concat_brackets hsuffixed
  · intro c hc
    rw [List.mem_append, List.mem_singleton] at hc
    rcases hc with hc | hc
    · exact hsigns c hc
    · cases hc

theorem reads_types {text : Text} {types : List TypeExpr}
    (h : Joined ", " (Reads union? [.char '|', .char '&']) text types) :
    Reads (separated? [.char ','] union?) [.char ',', .char '|', .char '&'] text types :=
  Reads.separated ',' [.char ','] (by decide) (by decide) (by decide) (by decide) (by simp) h

theorem ne_nil_of_separated? {cs : List CodePoint} {read : List Piece → Option α}
    {pieces : List Piece} {values : List α} (hnil : read [] = none)
    (h : separated? cs read pieces = some values) : pieces.isEmpty = false := by
  cases pieces with
  | nil =>
    rw [separated?, List.splitOnP_nil, List.mapM_cons, hnil] at h
    cases h
  | cons piece rest => rfl

theorem reads_tuple {text : Text} {types : List TypeExpr}
    (h : Joined ", " (Reads union? [.char '|', .char '&']) text types) :
    Reads operand? [] ("[" ++ text ++ "]") (.tuple types) := by
  obtain ⟨pieces, hlays, hread, -⟩ := reads_types h
  have hclose : close? pieces '[' = some (.type (.tuple types)) := by
    rw [close?, ne_nil_of_separated? rfl hread, hread]
    rfl
  exact (hlays.enclosed (by decide) (by decide) (by decide) (by decide) rfl hclose).reads rfl
    (by simp)

theorem reads_applied {name text : Text} {types : List TypeExpr}
    (hname : isPlainIdentifier name.toList = true)
    (h : Joined ", " (Reads union? [.char '|', .char '&']) text types) :
    Reads operand? [] (name ++ "<" ++ text ++ ">") (.applied name types) := by
  obtain ⟨pieces, ⟨tokens, hspells, hgathers⟩, hread, -⟩ := reads_types h
  have hclose : close? pieces '<' = some (.arguments types) := by
    rw [close?, hread]
    rfl
  have hspells := ((spells_word hname).separated "<" (by decide) (by decide) hspells).before ">"
    (by decide)
  have hword : Gathers [.word name] [.token (.word name)] := gathers_singleton fun _ => rfl
  have hgathers := hword.append (hgathers.enclosed '<' rfl hclose)
  refine ⟨[.token (.word name)] ++ [.arguments types], ⟨_, hspells, ?_⟩, rfl, ?_⟩
  · simpa [signTokens, isSign, signs] using hgathers
  · intro c hc
    simp at hc

/-! ### Object types -/

/-- The name of a member, bare or in quotes. -/
theorem exists_lays_memberIdentifier (name : Text) :
    ∃ token, Lays (memberIdentifier name) [.token token] ∧
      (Piece.token token).name? = some name ∧ ∀ c, token ≠ .sign c := by
  rw [memberIdentifier]
  split
  · next h => exact ⟨_, lays_word h, rfl, by simp⟩
  · exact ⟨_, lays_quote name, rfl, by simp⟩

/-- **A member of an object type.** -/
theorem reads_objectMember (name : Text) (optional : Bool) {signs : List CodePoint} {text : Text}
    {type : TypeExpr} (h : Reads union? signs text type) :
    Reads objectMember? (.char '?' :: .char ':' :: signs)
      (memberIdentifier name ++ ((if optional then "?" else "") ++ ": ") ++ text)
      ⟨name, optional, type⟩ := by
  obtain ⟨token, ⟨key, hkey, hkeys⟩, hname, hsign⟩ := exists_lays_memberIdentifier name
  obtain ⟨pieces, ⟨tokens, hspells, hgathers⟩, hread, hsigns⟩ := h
  have hcolon := gathers_separator (c := ':') (by decide)
  have hmark := gathers_separator (c := '?') (by decide)
  -- the only signs outside of the type are the mark and the colon
  have hall : ∀ marks : List CodePoint, (∀ c ∈ marks, c ∈ [.char '?', .char ':']) → ∀ c,
      .token (.sign c) ∈ [.token token] ++ marks.map (fun c => .token (.sign c)) ++ pieces →
        c ∈ .char '?' :: .char ':' :: signs := by
    intro marks hmarks c hc
    simp only [List.mem_append, List.mem_singleton, List.mem_map, Piece.token.injEq,
      Token.sign.injEq, exists_eq_right] at hc
    rcases hc with (hc | hc) | hc
    · exact absurd hc.symm (hsign c)
    · exact List.mem_append_left signs (hmarks c hc)
    · exact List.mem_append_right [.char '?', .char ':'] (hsigns c hc)
  cases optional with
  | true =>
    refine ⟨_, ⟨_, hkey.separated _ (by decide) (by decide) hspells,
      (hkeys.append (hmark.append hcolon)).append hgathers⟩, ?_,
      hall [.char '?', .char ':'] (by simp)⟩
    show objectMember? (.token token :: .token (.sign '?') :: .token (.sign ':') :: pieces) = _
    rw [objectMember?, hname, hread]
    rfl
  | false =>
    refine ⟨_, ⟨_, hkey.separated _ (by decide) (by decide) hspells,
      (hkeys.append hcolon).append hgathers⟩, ?_, hall [.char ':'] (by simp)⟩
    show objectMember? (.token token :: .token (.sign ':') :: pieces) = _
    rw [objectMember?, hname, hread]
    rfl

/-- **An object type.** -/
theorem reads_object {separator text : Text} {c : CodePoint}
    {members : List (ObjectMember TypeExpr)}
    (hp : separator.toList.all isPunctuation = true) (hsign : signTokens separator = [.sign c])
    (hc : c ∈ [.char ';', .char ','])
    (h : Joined separator (Reads objectMember? [.char '?', .char ':', .char '|', .char '&']) text
      members) :
    Reads operand? [] ("\x7b " ++ text ++ " \x7d") (.object members) := by
  have hseparator : c ∈ separators := by
    fin_cases hc <;> decide
  obtain ⟨pieces, hlays, hread, -⟩ :=
    Reads.separated c [.char ';', .char ','] hp hsign hseparator hc (by simp) h
  have hclose : close? pieces '\x7b' = some (.type (.object members)) := by
    rw [close?, ne_nil_of_separated? rfl hread, hread]
    rfl
  exact (hlays.enclosed (by decide) (by decide) (by decide) (by decide) rfl hclose).reads rfl
    (by simp)

/-! ### Types written as alternatives -/

/-- **A text that is one alternative**: an operand that is no union. -/
def Single (text : Text) (type : TypeExpr) : Prop :=
  Reads operand? [] text type ∧ type.isUnion = false

/-- **A text writes a type** as its alternatives, joined by bars. -/
def Writes (text : Text) (type : TypeExpr) : Prop :=
  Joined " | " Single text type.alternatives

theorem Joined.forall_isUnion {text : Text} {types : List TypeExpr}
    (h : Joined " | " Single text types) : ∀ type ∈ types, type.isUnion = false := by
  induction h with
  | one h => simpa using h.2
  | more _ hnext ih =>
    rw [List.forall_mem_append, List.forall_mem_singleton]
    exact ⟨ih, hnext.2⟩

theorem writes_unite {text : Text} {types : List TypeExpr} (h : Joined " | " Single text types) :
    Writes text (unite types) := by
  rw [Writes, TypeExpr.alternatives_unite h.ne_nil h.forall_isUnion]
  exact h

theorem Single.writes {text : Text} {type : TypeExpr} (h : Single text type) :
    Writes text type := by
  rw [Writes, TypeExpr.alternatives_eq_singleton h.2]
  exact .one h

/-- **A text is read as the type that it writes.** -/
theorem Writes.reads {text : Text} {type : TypeExpr} (h : Writes text type) :
    Reads union? [.char '|', .char '&'] text type := by
  have hreads := reads_union (h.imp fun _ _ hpart => hpart.1.intersection)
  rwa [TypeExpr.unite_eq_ofAlternatives h.forall_isUnion,
    TypeExpr.ofAlternatives_alternatives] at hreads

theorem Writes.or {text next : Text} {type alternative : TypeExpr} (h : Writes text type)
    (hnext : Single next alternative) :
    Writes (text ++ " | " ++ next) (unite [type, alternative]) := by
  have hall : Joined " | " Single (text ++ " | " ++ next) (type.alternatives ++ [alternative]) :=
    h.more hnext
  have hunite : unite (type.alternatives ++ [alternative]) = unite [type, alternative] := by
    rw [TypeExpr.unite_eq_ofAlternatives hall.forall_isUnion, unite]
    simp [TypeExpr.alternatives_eq_singleton hnext.2]
  rw [← hunite]
  exact writes_unite hall

/-- A type that is no union is written as one operand. -/
theorem Writes.single {text : Text} {type : TypeExpr} (h : Writes text type)
    (htype : type.isUnion = false) : Single text type := by
  rw [Writes, TypeExpr.alternatives_eq_singleton htype] at h
  rcases h.last with ⟨value, hvalue, hpart⟩ | ⟨_, _, others, value, _, hvalues, hothers, _⟩
  · rwa [(List.cons.inj hvalue).1]
  · -- one alternative is not more than one
    have hlength := congrArg List.length hvalues
    rw [List.length_append, List.length_singleton, List.length_singleton] at hlength
    exact absurd (List.length_eq_zero_iff.1 (by omega)) hothers.ne_nil

/-- **A union shows a bar.** -/
theorem Writes.exists_bar {text : Text} {type : TypeExpr} (h : Writes text type)
    (htype : type.isUnion = true) : ∃ before after, text = before ++ " | " ++ after := by
  rcases Joined.last h with ⟨value, hvalue, -⟩ | ⟨before, next, _, _, htext, -⟩
  · cases type with
    | union first second more => cases hvalue
    | _ => cases htype
  · exact ⟨before, next, htext⟩

/-- **What is written behind a union belongs to its last alternative.** -/
theorem Writes.paste {text suffix : Text} {type : TypeExpr} {part : Text → TypeExpr → Prop}
    {f : TypeExpr → TypeExpr} (h : Writes text type)
    (hlast : ∀ text type, Single text type → part (text ++ suffix) (f type))
    (hothers : ∀ text type, Single text type → part text type) :
    Joined " | " part (text ++ suffix) (type.otherAlternatives ++ [f type.lastAlternative]) := by
  rw [Writes, TypeExpr.alternatives_eq_append] at h
  rcases h.last with ⟨value, hvalues, hpart⟩ | ⟨before, next, others, value, rfl, hvalues, h, hpart⟩
  · obtain ⟨hothers, hvalue⟩ := List.append_inj' (hvalues.trans (List.nil_append _).symm) rfl
    rw [hothers, (List.cons.inj hvalue).1]
    exact .one (hlast _ _ hpart)
  · obtain ⟨rfl, hvalue⟩ := List.append_inj' hvalues rfl
    rw [(List.cons.inj hvalue).1, Text.append_assoc]
    exact .more (h.imp hothers) (hlast _ _ hpart)

theorem Single.array {text : Text} {type : TypeExpr} (h : Single text type) :
    Single (text ++ "[]") (.array type) := ⟨h.1.array, rfl⟩

end SchemaScribe.Typing
