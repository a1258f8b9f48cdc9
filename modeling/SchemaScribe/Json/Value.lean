import SchemaScribe.Association
import SchemaScribe.Number.Binary64
import SchemaScribe.Text.CodePoint

/-!
# Decoded values

The values that a snapshot text decodes to.  Integers are unbounded and apart from floating-point
numbers; an object keeps its members in order and its keys are distinct.  `isTruthy` says which
values count as given where a missing part and an empty one mean the same.  Whether two values are
the same can be computed (`Json.same`).
-/

namespace SchemaScribe

/-- **A decoded value.** -/
inductive Json where
  | null
  | bool (value : Bool)
  | int (value : Int)
  | float (value : Binary64)
  | string (text : Text)
  | array (items : List Json)
  | object (members : List (Text × Json))
  deriving Repr, Inhabited

namespace Json

/-! ### Equality -/

mutual

/-- Two values are the same. -/
def same : Json → Json → Bool
  | .null, .null => true
  | .bool a, .bool b => a == b
  | .int a, .int b => a == b
  | .float a, .float b => a == b
  | .string a, .string b => a == b
  | .array as, .array bs => sameItems as bs
  | .object as, .object bs => sameMembers as bs
  | _, _ => false

/-- Two lists of values are the same. -/
def sameItems : List Json → List Json → Bool
  | [], [] => true
  | a :: as, b :: bs => same a b && sameItems as bs
  | _, _ => false

/-- Two lists of members are the same. -/
def sameMembers : List (Text × Json) → List (Text × Json) → Bool
  | [], [] => true
  | (key, a) :: as, (other, b) :: bs => key == other && same a b && sameMembers as bs
  | _, _ => false

end

mutual

theorem same_iff (a b : Json) : same a b = true ↔ a = b := by
  cases a <;> cases b <;> simp [same, sameItems_iff, sameMembers_iff]

theorem sameItems_iff (as bs : List Json) : sameItems as bs = true ↔ as = bs := by
  cases as <;> cases bs <;> simp [sameItems, same_iff, sameItems_iff]

theorem sameMembers_iff (as bs : List (Text × Json)) :
    sameMembers as bs = true ↔ as = bs := by
  cases as with
  | nil => cases bs <;> simp [sameMembers]
  | cons a as =>
    cases bs with
    | nil => simp [sameMembers]
    | cons b bs => simp [sameMembers, same_iff, sameMembers_iff, Prod.ext_iff, and_assoc]

end

instance : DecidableEq Json := fun a b => decidable_of_iff (same a b = true) (same_iff a b)

/-! ### Parts of a value -/

/-- The members of an object, and none of any other value. -/
def members? : Json → Option (List (Text × Json))
  | .object members => some members
  | _ => none

/-- The items of an array, and none of any other value. -/
def items? : Json → Option (List Json)
  | .array items => some items
  | _ => none

/-- The text of a string, and none of any other value. -/
def text? : Json → Option Text
  | .string text => some text
  | _ => none

/-- The value is `true`, and not merely something that counts as given. -/
def isTrue : Json → Bool
  | .bool true => true
  | _ => false

/-- **What counts as given**: everything but `null`, `false`, the zeros and what is empty. -/
def isTruthy : Json → Bool
  | .null => false
  | .bool value => value
  | .int value => value != 0
  | .float value => !value.sameAsInt 0
  | .string text => text != ""
  | .array items => !items.isEmpty
  | .object members => !members.isEmpty

end Json

/-- The member of an object under a key, `null` if there is none. -/
def memberOf (key : Text) (members : List (Text × Json)) : Json :=
  (Association.get? key members).getD .null

end SchemaScribe
