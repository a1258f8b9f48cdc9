import SchemaScribe.Schema.Model

/-!
# Equality of schemas

Two schemas are the same when they have the same collections, in whatever order.  Fields count in
order.  Choice values are compared as numbers where both are numbers, and a truth value counts as
the number one or zero, so `1`, `1.0` and `true` are the same.
-/

namespace SchemaScribe

/-! ### Choice values -/

/-- The integer that a value stands for. -/
def ChoiceValue.asInt? : ChoiceValue → Option Int
  | .bool value => some value.toNat
  | .int value => some value
  | _ => none

/-- **Equality of choice values** as numbers or as texts. -/
def ChoiceValue.same : ChoiceValue → ChoiceValue → Bool
  | .null, .null => true
  | .text a, .text b => a == b
  | .float x, .float y => x.sameNumber y
  | .float x, b => b.asInt?.any x.sameAsInt
  | a, .float y => a.asInt?.any y.sameAsInt
  | a, b => a.asInt?.any fun n => b.asInt? == some n

/-! ### Trees of choices and fields -/

mutual

/-- Equality of choices with all of their children. -/
def Choice.same : Choice → Choice → Bool
  | ⟨value, children⟩, ⟨value', children'⟩ =>
    value.same value' && Choice.sameList children children'

/-- Equality of lists of choices, one by one. -/
def Choice.sameList : List Choice → List Choice → Bool
  | [], [] => true
  | a :: as, b :: bs => a.same b && Choice.sameList as bs
  | _, _ => false

end

mutual

/-- Equality of fields in all of their parts. -/
def Field.same : Field → Field → Bool
  | ⟨name, type, nullable, required, primaryKey, interface, choices, allowOther, subFields,
      relation⟩, other =>
    name == other.name && type == other.type && nullable == other.nullable &&
      required == other.required && primaryKey == other.primaryKey &&
      interface == other.interface && Choice.sameList choices other.choices &&
      allowOther == other.allowOther && Field.sameList subFields other.subFields &&
      relation == other.relation

/-- Equality of lists of fields, one by one. -/
def Field.sameList : List Field → List Field → Bool
  | [], [] => true
  | a :: as, b :: bs => a.same b && Field.sameList as bs
  | _, _ => false

end

/-! ### Collections and schemas -/

/-- Equality of collections in all of their parts. -/
def Collection.same (a b : Collection) : Bool :=
  a.name == b.name && a.singleton == b.singleton && Field.sameList a.fields b.fields

/-- **Equality of schemas**: as many collections, and each one equal to its namesake. -/
def Schema.same (a b : Schema) : Bool :=
  a.size == b.size && a.collections.all fun c => (b.find? c.name).any c.same

/-- Equality of choice values does not depend on the order of the two. -/
theorem ChoiceValue.same_comm (a b : ChoiceValue) : a.same b = b.same a := by
  cases a <;> cases b <;>
    simp [ChoiceValue.same, ChoiceValue.asInt?, Bool.beq_comm]
  case float.float x y =>
    cases x <;> cases y <;> simp [Binary64.sameNumber, BEq.comm]

end SchemaScribe
