import SchemaScribe.Disk.Journal
import SchemaScribe.Main
import SchemaScribe.Proofs.Typing.Failure
import SchemaScribe.Schema.Equality
import SchemaScribe.Proofs.Typing.Members
import SchemaScribe.Proofs.Typing.References
import SchemaScribe.Proofs.Json.Quoted
import SchemaScribe.Proofs.Typing.Lines
import SchemaScribe.Proofs.Typing.Document
import SchemaScribe.Proofs.Typing.Grouping
import SchemaScribe.Proofs.Typing.Declared
import SchemaScribe.Proofs.Alike
import SchemaScribe.Proofs.Typing.TypeName
import SchemaScribe.Proofs.Typing.Keys
import SchemaScribe.Proofs.Typing.Flags
import SchemaScribe.Proofs.Typing.Lookup
import SchemaScribe.Proofs.Typing.Presentation
import SchemaScribe.Proofs.Snapshot.Written
import SchemaScribe.Proofs.Typing.Vocabulary
import SchemaScribe.Proofs.Snapshot.Forms
import SchemaScribe.Proofs.Run.Tree
import SchemaScribe.Proofs.Run.Unforeseen
import SchemaScribe.Proofs.Settings.Computed
import SchemaScribe.Proofs.Typing.Appended
import SchemaScribe.Proofs.Typing.Nullable
import SchemaScribe.Proofs.Typing.Items
import SchemaScribe.Proofs.Typing.Depth
import SchemaScribe.Proofs.Typing.Parentheses
import SchemaScribe.Proofs.Snapshot.Recognised
import SchemaScribe.Proofs.Typing.Literals
import SchemaScribe.Proofs.Typing.EqualSchemas
import SchemaScribe.Proofs.Settings.Spelling
import SchemaScribe.Proofs.Typing.MemberName
import SchemaScribe.Proofs.Typing.Segments
