import SchemaScribe.Json.Quoted
import SchemaScribe.Number.Layout
import SchemaScribe.Schema.Model

/-!
# Literal types

A choice is typed by the literal of its value, a list of choices by the union of their literals in
which each one stands once (`literalUnion`).
-/

namespace SchemaScribe.Typing

/-- The words for the numbers without digits in a literal. -/
def literalWords : Binary64.Words := ⟨"NaN", "Infinity", "-Infinity"⟩

/-- **The literal of a value.**  An integer is written out however many digits it has: the bound
`Numeral.digitLimit` is left to the reader of snapshots (`Json.readWhole`), which lets no choice
of more digits through. -/
def literal : ChoiceValue → Text
  | .null => "null"
  | .bool true => "true"
  | .bool false => "false"
  | .int value => toString value
  | .float value => value.text literalWords
  | .text value => Json.quote value

/-- A list with only the first of equal members. -/
def distinct {α : Type} [DecidableEq α] : List α → List α
  | [] => []
  | a :: rest => a :: (distinct rest).filter (· ≠ a)

/-- The separator of the members of a union. -/
def unionSeparator : Text := " | "

/-- Types joined to a union. -/
def union (types : List Text) : Text := Text.intercalate unionSeparator types

/-- **The union of the literals of values**, each once and in the order of its first value. -/
def literalUnion (values : List ChoiceValue) : Text := union (distinct (values.map literal))

@[simp] theorem mem_distinct {α : Type} [DecidableEq α] {a : α} {as : List α} :
    a ∈ distinct as ↔ a ∈ as := by
  induction as with
  | nil => simp [distinct]
  | cons b r ih => by_cases h : a = b <;> simp [distinct, ih, h]

theorem nodup_distinct {α : Type} [DecidableEq α] (as : List α) : (distinct as).Nodup := by
  induction as with
  | nil => simp [distinct]
  | cons b r ih =>
    rw [distinct, List.nodup_cons]
    exact ⟨by simp, ih.filter _⟩

end SchemaScribe.Typing
