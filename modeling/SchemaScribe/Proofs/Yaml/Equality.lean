import SchemaScribe.Yaml.Value

/-!
# Equality of values

Whether two values of documents are the same can be computed (`Value.same`), so that what a text
reads as can be checked.
-/

namespace SchemaScribe.Yaml.Value

mutual

/-- Two values are the same. -/
def same : Value → Value → Bool
  | .scalar a, .scalar b => a == b
  | .list as, .list bs => sameItems as bs
  | .mapping as, .mapping bs => samePairs as bs
  | .set as, .set bs => as == bs
  | _, _ => false

/-- Two lists of values are the same. -/
def sameItems : List Value → List Value → Bool
  | [], [] => true
  | a :: as, b :: bs => same a b && sameItems as bs
  | _, _ => false

/-- Two lists of pairs are the same. -/
def samePairs : List (Scalar × Value) → List (Scalar × Value) → Bool
  | [], [] => true
  | (key, a) :: as, (other, b) :: bs => key == other && same a b && samePairs as bs
  | _, _ => false

end

mutual

theorem same_iff (a b : Value) : same a b = true ↔ a = b := by
  cases a <;> cases b <;> simp [same, sameItems_iff, samePairs_iff]

theorem sameItems_iff (as bs : List Value) : sameItems as bs = true ↔ as = bs := by
  cases as <;> cases bs <;> simp [sameItems, same_iff, sameItems_iff]

theorem samePairs_iff (as bs : List (Scalar × Value)) : samePairs as bs = true ↔ as = bs := by
  cases as with
  | nil => cases bs <;> simp [samePairs]
  | cons a as =>
    cases bs with
    | nil => simp [samePairs]
    | cons b bs => simp [samePairs, same_iff, samePairs_iff, Prod.ext_iff, and_assoc]

end

instance : DecidableEq Value := fun a b => decidable_of_iff (same a b = true) (same_iff a b)

end SchemaScribe.Yaml.Value
