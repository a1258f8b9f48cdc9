import SchemaScribe.Typing.Literal
import SchemaScribe.Typing.Name

/-!
# Types of stored values

The type of the value that a field stores itself, relations aside: `primitiveType`.  Geometry has
types of its own; structured types are typed by their interface, which may offer choices or hold
lists of sub-fields; all other types are scalars, narrowed to literals by interfaces with a single
choice.  Lists within lists are followed up to `maxListDepth`.
-/

namespace SchemaScribe.Typing

/-! ### Tables -/

/-- The deepest list that is still typed by its sub-fields is the one before this depth. -/
def maxListDepth : Int := 8

/-- The type of values about which nothing is known. -/
def unknownType : Text := "unknown"

/-- The shapes of geometry, with how many levels of lists hold their points. -/
def geometryShapes : List (Text × Nat) := [
  ("Point", 0), ("MultiPoint", 1), ("LineString", 1), ("MultiLineString", 2), ("Polygon", 2),
  ("MultiPolygon", 3)]

/-- The type of a geometry whose points stand in `levels` levels of lists. -/
def geometryObject (shape : Text) (levels : Nat) : Text :=
  let lists := Text.join (List.replicate levels "[]")
  "\x7b type: \"" ++ shape ++ "\", coordinates: [number, number]" ++ lists ++ " \x7d"

/-- The type of a geometry field. -/
def geometryType? (type : Text) : Option Text :=
  (geometryShapes.find? fun entry => type == "geometry." ++ entry.1).map fun entry =>
    geometryObject entry.1 entry.2

/-- The types whose values have a structure that the interface describes. -/
def structuredTypes : List Text := ["json", "csv"]

/-- The types that are written as numbers. -/
def numberTypes : List Text := ["integer", "bigInteger", "float", "decimal"]

/-- The type of a scalar. -/
def scalarType (type : Text) : Text :=
  if numberTypes.contains type then "number"
  else if type = "boolean" then "boolean"
  else "string"

/-- The interfaces that take one of the choices. -/
def singleChoiceInterfaces : List Text := ["select-dropdown", "select-radio"]

/-- The interfaces that take some of the choices. -/
def multiChoiceInterfaces : List Text :=
  ["tags", "select-multiple-dropdown", "select-multiple-checkbox"]

/-- The interface that takes some of the choices of a tree. -/
def treeChoiceInterface : Text := "select-multiple-checkbox-tree"

/-- The interface that holds a list of items with sub-fields. -/
def listInterface : Text := "list"

/-! ### Choices -/

mutual

/-- The values of a choice and of all below it. -/
def flattenChoice : Choice → List ChoiceValue
  | ⟨value, children⟩ => value :: flattenChoices children

/-- The values of choices and of all below them, each choice before its children. -/
def flattenChoices : List Choice → List ChoiceValue
  | [] => []
  | choice :: rest => flattenChoice choice ++ flattenChoices rest

end

/-- The union of literals, or `fallback` if there are none or other values are allowed. -/
def literalsOr (values : List ChoiceValue) (allowOther : Bool) (fallback : Text) : Text :=
  if allowOther || values.isEmpty then fallback else literalUnion values

/-- A text that occurs in another one. -/
def occursIn (part : List CodePoint) : List CodePoint → Bool
  | [] => part.isEmpty
  | c :: rest => part.isPrefixOf (c :: rest) || occursIn part rest

/-- The type of lists of a type.  An element that shows a union separator is put in parentheses. -/
def arrayOf (element : Text) : Text :=
  if occursIn unionSeparator.toList element.toList then "(" ++ element ++ ")[]"
  else element ++ "[]"

/-- The type of a structured value whose interface is not the list. -/
def chosenType (interface : Option Text) (choices : List Choice) (allowOther : Bool) : Text :=
  match interface with
  | none => unknownType
  | some interface =>
    if multiChoiceInterfaces.contains interface then
      arrayOf (literalsOr (choices.map (·.value)) allowOther "string")
    else if interface = treeChoiceInterface then
      arrayOf (literalsOr (flattenChoices choices) allowOther "string")
    else unknownType

/-- The type of a scalar value. -/
def selectedType (type : Text) (interface : Option Text) (choices : List Choice)
    (allowOther : Bool) : Text :=
  if interface.any singleChoiceInterfaces.contains then
    literalsOr (choices.map (·.value)) allowOther (scalarType type)
  else scalarType type

/-! ### Lists -/

/-- One member of the items of a list.  A member that is not required may be left out. -/
def itemMember (field : Field) (type : Text) : Text :=
  memberIdentifier field.name ++ (if field.required then "" else "?") ++ ": " ++ type ++
    (if field.nullable then " | null" else "")

/-- The type of a list whose items have the given members. -/
def listType (members : List Text) : Text :=
  if members.isEmpty then "Record<string, unknown>[]"
  else "\x7b " ++ Text.intercalate "; " members ++ " \x7d[]"

mutual

/-- **The type of the value that a field stores**, within `depth` lists. -/
def primitiveType : Field → Int → Text
  | ⟨_, type, _, _, _, interface, choices, allowOther, subFields, _⟩, depth =>
    match geometryType? type with
    | some geometry => geometry
    | none =>
      if structuredTypes.contains type then
        if interface = some listInterface then
          if maxListDepth ≤ depth then unknownType
          else listType (itemMembers subFields (depth + 1))
        else chosenType interface choices allowOther
      else selectedType type interface choices allowOther

/-- The members of the items of a list, without the sub-fields that store nothing. -/
def itemMembers : List Field → Int → List Text
  | [], _ => []
  | field :: rest, depth =>
    if field.isPresentational then itemMembers rest depth
    else itemMember field (primitiveType field depth) :: itemMembers rest depth

end

end SchemaScribe.Typing
