import SchemaScribe.Json.Value
import SchemaScribe.Number.Layout
import SchemaScribe.Text.Quoted

/-!
# Values in messages

How a message shows a decoded value: texts in message quotes, numbers in full, arrays and objects
in brackets with their parts separated by a comma and a space.
-/

namespace SchemaScribe.Json

mutual

/-- **A value as a message shows it.** -/
def display : Json → Text
  | .null => "None"
  | .bool true => "True"
  | .bool false => "False"
  | .int n => toString n
  | .float x => x.text .plain
  | .string text => Text.quoted text
  | .array items => "[" ++ Text.intercalate ", " (displayItems items) ++ "]"
  | .object members => "\x7b" ++ Text.intercalate ", " (displayMembers members) ++ "\x7d"

/-- The items of an array, each shown. -/
def displayItems : List Json → List Text
  | [] => []
  | item :: rest => display item :: displayItems rest

/-- The members of an object, each shown as its key and value. -/
def displayMembers : List (Text × Json) → List Text
  | [] => []
  | (key, value) :: rest => (Text.quoted key ++ ": " ++ display value) :: displayMembers rest

end

/-- A value as part of a sentence: a text stands without quotes. -/
def plainText : Json → Text
  | .string text => text
  | value => display value

end SchemaScribe.Json
