import SchemaScribe.Proofs.Typing.Token

/-!
# How type expressions are read

A reader of type expressions that knows nothing of what writes them.  The tokens are gathered into
pieces (`pieces?`): what stands between brackets becomes one piece when they close, so no operator
inside of them is seen from outside.  The pieces at one level are then read by precedence: a type is
a union of alternatives (`|`), an alternative an intersection of operands (`&`), and an operand an
atom with the brackets of lists behind it, which bind tightest.

Unions within unions and intersections within intersections are one (`unite`, `intersect`).
-/

namespace SchemaScribe.Typing

/-! ### Expressions -/

/-- A type with one value.  Numbers are told by how they are written. -/
inductive Literal where
  | null
  | bool (value : Bool)
  | numeral (spelling : Text)
  | text (value : Text)
  deriving DecidableEq, Repr

/-- A member of an object type. -/
structure ObjectMember (α : Type) where
  name : Text
  optional : Bool
  type : α

/-- **A type expression.**  Unions and intersections are of two types at least. -/
inductive TypeExpr where
  | named (name : Text)
  | applied (name : Text) (arguments : List TypeExpr)
  | literal (value : Literal)
  | array (element : TypeExpr)
  | tuple (items : List TypeExpr)
  | object (members : List (ObjectMember TypeExpr))
  | union (first second : TypeExpr) (more : List TypeExpr)
  | intersection (first second : TypeExpr) (more : List TypeExpr)

namespace TypeExpr

/-- The alternatives of a type: more than one only of a union. -/
def alternatives : TypeExpr → List TypeExpr
  | union first second more => first :: second :: more
  | type => [type]

/-- The operands of a type: more than one only of an intersection. -/
def operands : TypeExpr → List TypeExpr
  | intersection first second more => first :: second :: more
  | type => [type]

/-- A type with several alternatives. -/
def isUnion : TypeExpr → Bool
  | union .. => true
  | _ => false

/-- The last alternative of a type. -/
def lastAlternative : TypeExpr → TypeExpr
  | union _ second more => (second :: more).getLast (List.cons_ne_nil second more)
  | type => type

/-- The alternatives of a type before the last one. -/
def otherAlternatives : TypeExpr → List TypeExpr
  | union first second more => first :: (second :: more).dropLast
  | _ => []

/-- The type with the given alternatives. -/
def ofAlternatives : List TypeExpr → TypeExpr
  | [] => named "never"
  | [type] => type
  | first :: second :: more => union first second more

/-- The type with the given operands. -/
def ofOperands : List TypeExpr → TypeExpr
  | [] => named "unknown"
  | [type] => type
  | first :: second :: more => intersection first second more

/-- **The union of types.** -/
def unite (types : List TypeExpr) : TypeExpr := ofAlternatives (types.flatMap alternatives)

/-- **The intersection of types.** -/
def intersect (types : List TypeExpr) : TypeExpr := ofOperands (types.flatMap operands)

theorem ofAlternatives_alternatives (type : TypeExpr) :
    ofAlternatives type.alternatives = type := by
  cases type <;> rfl

theorem ofOperands_operands (type : TypeExpr) : ofOperands type.operands = type := by
  cases type <;> rfl

/-- A type alone is united with nothing. -/
@[simp] theorem unite_singleton (type : TypeExpr) : unite [type] = type := by
  rw [unite, List.flatMap_singleton, ofAlternatives_alternatives]

@[simp] theorem intersect_singleton (type : TypeExpr) : intersect [type] = type := by
  rw [intersect, List.flatMap_singleton, ofOperands_operands]

/-- A type that is no union is its own only alternative. -/
theorem alternatives_eq_singleton {type : TypeExpr} (h : type.isUnion = false) :
    type.alternatives = [type] := by
  cases type with
  | union first second more => cases h
  | _ => rfl

theorem alternatives_eq_append (type : TypeExpr) :
    type.alternatives = type.otherAlternatives ++ [type.lastAlternative] := by
  cases type with
  | union first second more =>
    rw [alternatives, otherAlternatives, lastAlternative, List.cons_append,
      List.dropLast_append_getLast]
  | _ => rfl

/-- Types that are no unions are united as they are. -/
theorem unite_eq_ofAlternatives {types : List TypeExpr} (h : ∀ type ∈ types, type.isUnion = false) :
    unite types = ofAlternatives types := by
  have hself : types.flatMap alternatives = types := by
    rw [List.flatMap_congr fun type htype => alternatives_eq_singleton (h type htype)]
    exact List.flatMap_singleton' types
  rw [unite, hself]

/-- **The alternatives of a union** of types that are none. -/
theorem alternatives_unite {types : List TypeExpr} (hne : types ≠ [])
    (h : ∀ type ∈ types, type.isUnion = false) : (unite types).alternatives = types := by
  rw [unite_eq_ofAlternatives h]
  cases types with
  | nil => exact absurd rfl hne
  | cons first rest =>
    cases rest with
    | nil => exact alternatives_eq_singleton (h first List.mem_cons_self)
    | cons second more => rfl

/-- **A function collects from within types**: a union gives what its alternatives do, one after the
other, a list what its elements do, and literals give nothing. -/
structure Collects {β : Type} (f : TypeExpr → List β) : Prop where
  union : ∀ first second more, f (union first second more) = (first :: second :: more).flatMap f
  array : ∀ element, f (array element) = f element
  literal : ∀ value, f (literal value) = []

variable {β : Type} {f : TypeExpr → List β} {types : List TypeExpr}

theorem Collects.flatMap_alternatives (hf : Collects f) (type : TypeExpr) :
    type.alternatives.flatMap f = f type := by
  cases type with
  | union first second more => exact (hf.union first second more).symm
  | _ => exact List.flatMap_singleton f _

theorem Collects.ofAlternatives (hf : Collects f) (hne : types ≠ []) :
    f (ofAlternatives types) = types.flatMap f := by
  cases types with
  | nil => exact absurd rfl hne
  | cons first rest =>
    cases rest with
    | nil => exact (List.flatMap_singleton f first).symm
    | cons second more => exact hf.union first second more

/-- What is collected from a union is what is collected from its parts. -/
theorem Collects.unite (hf : Collects f) (hne : types ≠ []) :
    f (unite types) = types.flatMap f := by
  have hall : (types.flatMap alternatives).flatMap f = types.flatMap f := by
    rw [List.flatMap_assoc]
    exact List.flatMap_congr fun type _ => hf.flatMap_alternatives type
  have hsome : types.flatMap alternatives ≠ [] := by
    cases types with
    | nil => exact absurd rfl hne
    | cons type rest =>
      rw [List.flatMap_cons, alternatives_eq_append]
      simp
  rw [TypeExpr.unite, hf.ofAlternatives hsome, hall]

end TypeExpr

open TypeExpr (unite intersect)

/-! ### Pieces -/

/-- **A piece of a type expression**: a token that is no bracket, or what stood between two. -/
inductive Piece where
  | token (token : Token)
  /-- A type in parentheses, a tuple or an object type. -/
  | type (type : TypeExpr)
  /-- Types between angle brackets. -/
  | arguments (types : List TypeExpr)
  /-- Square brackets with nothing between them. -/
  | brackets

/-- A piece that is one of the given signs. -/
def Piece.isSignOf (cs : List CodePoint) : Piece → Bool
  | .token (.sign c) => cs.contains c
  | _ => false

/-- The parts of pieces between separators, each of them read. -/
def separated? {α : Type} (separators : List CodePoint) (read : List Piece → Option α)
    (pieces : List Piece) : Option (List α) :=
  (pieces.splitOnP (·.isSignOf separators)).mapM read

/-! ### Precedence -/

/-- The type that a word stands for. -/
def wordType : Text → TypeExpr
  | "null" => .literal .null
  | "true" => .literal (.bool true)
  | "false" => .literal (.bool false)
  | name => .named name

/-- The type at the head of an operand, and the pieces behind it. -/
def atom? : List Piece → Option (TypeExpr × List Piece)
  | .token (.word name) :: .arguments types :: rest => some (.applied name types, rest)
  | .token (.word name) :: rest => some (wordType name, rest)
  | .token (.text value) :: rest => some (.literal (.text value), rest)
  | .token (.numeral spelling) :: rest => some (.literal (.numeral spelling), rest)
  | .type type :: rest => some (type, rest)
  | _ => none

/-- A type with brackets of lists behind it, and nothing else. -/
def suffixed? (type : TypeExpr) : List Piece → Option TypeExpr
  | [] => some type
  | .brackets :: rest => suffixed? (.array type) rest
  | _ => none

/-- An operand: an atom with brackets of lists behind it. -/
def operand? (pieces : List Piece) : Option TypeExpr :=
  (atom? pieces).bind fun found => suffixed? found.1 found.2

/-- An alternative: an intersection of operands. -/
def intersection? (pieces : List Piece) : Option TypeExpr :=
  (separated? [.char '&'] operand? pieces).map intersect

/-- **A type**: a union of alternatives. -/
def union? (pieces : List Piece) : Option TypeExpr :=
  (separated? [.char '|'] intersection? pieces).map unite

/-! ### Between brackets -/

/-- The name of a member: a word or a string literal. -/
def Piece.name? : Piece → Option Text
  | .token (.word name) => some name
  | .token (.text value) => some value
  | _ => none

/-- A member of an object type. -/
def objectMember? : List Piece → Option (ObjectMember TypeExpr)
  | key :: .token (.sign '?') :: .token (.sign ':') :: rest => do
    let name ← key.name?
    let type ← union? rest
    pure ⟨name, true, type⟩
  | key :: .token (.sign ':') :: rest => do
    let name ← key.name?
    let type ← union? rest
    pure ⟨name, false, type⟩
  | _ => none

/-- What stands between the brackets that are opened by a sign, as one piece. -/
def close? (pieces : List Piece) : CodePoint → Option Piece
  | '(' => (union? pieces).map .type
  | '[' =>
    if pieces.isEmpty then some .brackets
    else (separated? [.char ','] union? pieces).map fun items => .type (.tuple items)
  | '<' => (separated? [.char ','] union? pieces).map .arguments
  | '\x7b' =>
    if pieces.isEmpty then some (.type (.object []))
    else
      (separated? [.char ';', .char ','] objectMember? pieces).map fun members =>
        .type (.object members)
  | _ => none

/-- The sign that closes the brackets opened by a sign. -/
def closing? : CodePoint → Option CodePoint
  | '(' => some ')'
  | '[' => some ']'
  | '<' => some '>'
  | '\x7b' => some '\x7d'
  | _ => none

/-- **What is read so far**: the pieces at the innermost level, and for each pair of brackets that
is still open, from the inside out, its sign and the pieces before it. -/
structure Levels where
  outer : List (CodePoint × List Piece)
  pieces : List Piece

/-- The levels after one more piece. -/
def Levels.push (levels : Levels) (piece : Piece) : Levels :=
  { levels with pieces := levels.pieces ++ [piece] }

/-- The levels after one more token. -/
def Levels.next? (levels : Levels) : Token → Option Levels
  | .sign c =>
    if (closing? c).isSome then some ⟨(c, levels.pieces) :: levels.outer, []⟩
    else
      match levels.outer with
      | (opening, before) :: outer =>
        if closing? opening = some c then
          (close? levels.pieces opening).map fun piece => ⟨outer, before ++ [piece]⟩
        else some (levels.push (.token (.sign c)))
      | [] => some (levels.push (.token (.sign c)))
  | token => some (levels.push (.token token))

/-- The pieces of tokens in which all brackets are closed. -/
def pieces? (tokens : List Token) : Option (List Piece) :=
  (tokens.foldlM Levels.next? ⟨[], []⟩).bind fun levels =>
    if levels.outer.isEmpty then some levels.pieces else none

/-- **The type that a text denotes**, if all of it is read. -/
def TypeExpr.read? (text : Text) : Option TypeExpr := do
  let tokens ← tokens? text
  let pieces ← pieces? tokens
  union? pieces

end SchemaScribe.Typing
