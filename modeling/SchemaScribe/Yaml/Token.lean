import SchemaScribe.Yaml.Cursor

/-!
# Tokens

The tokens that a document is made of.  Indentation shows as tokens of its own: a block collection
has a start, and every one that a smaller indentation closes has an end.
-/

namespace SchemaScribe.Yaml

/-- **A token.** -/
inductive Token where
  | streamEnd
  /-- A directive that names the version of the language. -/
  | versionDirective (major : Nat)
  /-- A directive that gives a tag handle a meaning. -/
  | tagDirective (handle start : String)
  /-- A directive without meaning. -/
  | otherDirective
  | documentStart
  | documentEnd
  | blockSequenceStart
  | blockMappingStart
  | blockEnd
  | flowSequenceStart
  | flowSequenceEnd
  | flowMappingStart
  | flowMappingEnd
  | blockEntry
  | flowEntry
  | key
  | value
  | alias (name : String)
  | anchor (name : String)
  /-- A tag, whose handle is missing if it is given in full. -/
  | tag (handle : Option String) (suffix : String)
  /-- A scalar, which is plain if it stands without quotes or an indicator. -/
  | scalar (text : Text) (plain : Bool)
  deriving DecidableEq, Repr

/-- A token and where it starts. -/
structure Lexeme where
  token : Token
  mark : Mark
  deriving DecidableEq, Repr

end SchemaScribe.Yaml
