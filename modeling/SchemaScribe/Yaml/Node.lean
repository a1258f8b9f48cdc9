import SchemaScribe.Association
import SchemaScribe.Yaml.Tag
import SchemaScribe.Yaml.Token.Stream

/-!
# Nodes

The nodes of a document, in a table.  Collections refer to their parts by numbers in the table,
since an alias makes a node part of several others, and even of itself.  `Document.ofStream?` builds
the table from tokens by following the grammar of block and flow collections.
-/

namespace SchemaScribe.Yaml

/-! ### Documents -/

/-- The number of a node in its table. -/
abbrev NodeId := Nat

/-- What a node is made of. -/
inductive Content where
  | scalar (text : Text)
  | sequence (items : List NodeId)
  | mapping (pairs : List (NodeId × NodeId))
  deriving DecidableEq, Repr

/-- **A node**: its tag, its content, and where it starts. -/
structure Node where
  tag : Tag
  content : Content
  mark : Mark
  deriving DecidableEq, Repr

/-- **A document**: its nodes and the number of the outermost one. -/
structure Document where
  nodes : Array Node
  root : NodeId
  deriving Repr

/-! ### Reading state -/

/-- How far a document is read: the tokens that remain and the fault after them, the meaning of tag
handles, the nodes so far, and the anchored ones by name. -/
structure Builder where
  lexemes : List Lexeme
  fault : Option Fault
  handles : Association String String := []
  nodes : Array Node := #[]
  anchors : Association String NodeId := []
  deriving Repr

namespace Builder

/-- The next token.  The fault of the stream shows when its tokens are used up. -/
def peek (c : Builder) : Except Fault Token :=
  match c.lexemes, c.fault with
  | lexeme :: _, _ => .ok lexeme.token
  | [], some fault => .error fault
  | [], none => .ok .streamEnd

/-- The place of the next token. -/
def mark (c : Builder) : Mark := (c.lexemes.head?.map (·.mark)).getD ⟨0, 0⟩

/-- The state after the next token. -/
def drop (c : Builder) : Builder := { c with lexemes := c.lexemes.drop 1 }

/-- A fault at the next token. -/
def fail {α : Type} (c : Builder) (problem : Text) : Except Fault α :=
  .error (.malformed problem c.mark)

/-- The next token is one of a list. -/
def at? (c : Builder) (tokens : List Token) : Except Fault Bool := do
  pure (tokens.contains (← c.peek))

/-- A new node. -/
def add (c : Builder) (node : Node) : NodeId × Builder :=
  (c.nodes.size, { c with nodes := c.nodes.push node })

/-- A name for a node. -/
def name (c : Builder) (anchor : Option String) (id : NodeId) : Builder :=
  match anchor with
  | none => c
  | some name => { c with anchors := Association.put name id c.anchors }

/-- The node with its content. -/
def fill (c : Builder) (id : NodeId) (content : Content) : Builder :=
  { c with nodes := c.nodes.modify id fun node => { node with content := content } }

/-- The node that stands where nothing is written. -/
def empty (c : Builder) : NodeId × Builder := c.add ⟨.null, .scalar "", c.mark⟩

/-! ### Properties -/

/-- What stands before the content of a node. -/
structure Properties where
  anchor : Option String := none
  tag : Option String := none
  deriving DecidableEq, Repr

/-- A tag as it is written: its handle, if it has one, and its suffix. -/
abbrev WrittenTag := Option String × String

/-- An anchor at the next token, if there is one. -/
def readAnchor? (c : Builder) : Except Fault (Option String × Builder) := do
  match ← c.peek with
  | .anchor name => pure (some name, c.drop)
  | _ => pure (none, c)

/-- A tag at the next token, if there is one. -/
def readTag? (c : Builder) : Except Fault (Option WrittenTag × Builder) := do
  match ← c.peek with
  | .tag handle suffix => pure (some (handle, suffix), c.drop)
  | _ => pure (none, c)

/-- The full name of a tag. -/
def tagName (c : Builder) : WrittenTag → Except Fault String
  | (none, suffix) => .ok suffix
  | (some handle, suffix) =>
    match Association.get? handle c.handles with
    | some start => .ok (start ++ suffix)
    | none => c.fail "found undefined tag handle"

/-- The properties of a node: an anchor and a tag in either order. -/
def readProperties (c : Builder) : Except Fault (Properties × Builder) := do
  let (first, c) ← c.readAnchor?
  let (tag, c) ← c.readTag?
  let (anchor, c) ← if first.isNone && tag.isSome then c.readAnchor? else pure (first, c)
  match tag with
  | none => pure (⟨anchor, none⟩, c)
  | some tag => pure (⟨anchor, some (← c.tagName tag)⟩, c)

/-- A name is given to one node only. -/
def checkAnchor (c : Builder) (anchor : Option String) : Except Fault Unit :=
  match anchor with
  | some name => if Association.has name c.anchors then c.fail "found duplicate anchor" else .ok ()
  | none => .ok ()

/-- A tag that leaves the meaning to the content. -/
def isOpen (tag : Option String) : Bool := tag == none || tag == some "!"

/-- The tag of a collection. -/
def collectionTag (tag : Option String) (fallback : Tag) : Tag :=
  match tag with
  | some name => if name == "!" then fallback else .ofName name
  | none => fallback

/-- The tag of a scalar.  Plain ones are told by their text if no tag is given. -/
def scalarTag (tag : Option String) (text : Text) (plain : Bool) : Tag :=
  match tag with
  | some name => if name == "!" then .ofPlain text else .ofName name
  | none => if plain then .ofPlain text else .text

/-! ### Grammar -/

mutual

/-- A node.  Block collections may stand only where `block` holds, and a sequence that is not
indented only where `indentless` does.  `fuel` bounds the tokens and the depth. -/
def readNode (block indentless : Bool) : Nat → Builder → Except Fault (NodeId × Builder)
  | 0, c => c.fail "nodes are nested too deeply"
  | fuel + 1, c => do
    match ← c.peek with
    | .alias name =>
      match Association.get? name c.anchors with
      | some id => pure (id, c.drop)
      | none => c.fail "found undefined alias"
    | _ =>
      let start := c.mark
      let (props, c) ← c.readProperties
      let token ← c.peek
      c.checkAnchor props.anchor
      let tagged : Tag → Builder → NodeId × Builder := fun fallback c =>
        let (id, c) := c.add ⟨collectionTag props.tag fallback, .sequence [], start⟩
        (id, c.name props.anchor id)
      if indentless && token == .blockEntry then
        let (id, c) := tagged .sequence c
        let (items, c) ← readIndentlessItems fuel c
        pure (id, c.fill id (.sequence items))
      else
        match token with
        | .scalar text plain =>
          let (id, c) := c.drop.add ⟨scalarTag props.tag text plain, .scalar text, start⟩
          pure (id, c.name props.anchor id)
        | .flowSequenceStart =>
          let (id, c) := tagged .sequence c.drop
          let (items, c) ← readFlowItems true fuel c
          pure (id, c.fill id (.sequence items))
        | .flowMappingStart =>
          let (id, c) := tagged .mapping c.drop
          let (pairs, c) ← readFlowPairs true fuel c
          pure (id, c.fill id (.mapping pairs))
        | .blockSequenceStart =>
          if block then
            let (id, c) := tagged .sequence c.drop
            let (items, c) ← readBlockItems fuel c
            pure (id, c.fill id (.sequence items))
          else c.fail "expected the node content"
        | .blockMappingStart =>
          if block then
            let (id, c) := tagged .mapping c.drop
            let (pairs, c) ← readBlockPairs fuel c
            pure (id, c.fill id (.mapping pairs))
          else c.fail "expected the node content"
        | _ =>
          if props.anchor.isSome || props.tag.isSome then
            let tag := if isOpen props.tag then Tag.null else scalarTag props.tag "" false
            let (id, c) := c.add ⟨tag, .scalar "", start⟩
            pure (id, c.name props.anchor id)
          else c.fail "expected the node content"

/-- A node, unless one of `stops` comes instead. -/
def readNodeOr (block indentless : Bool) (stops : List Token) :
    Nat → Builder → Except Fault (NodeId × Builder)
  | 0, c => c.fail "nodes are nested too deeply"
  | fuel + 1, c => do
    if ← c.at? stops then pure c.empty else readNode block indentless fuel c

/-- The items of a block sequence up to its end. -/
def readBlockItems : Nat → Builder → Except Fault (List NodeId × Builder)
  | 0, c => c.fail "nodes are nested too deeply"
  | fuel + 1, c => do
    match ← c.peek with
    | .blockEntry =>
      let (item, c) ← readNodeOr true false [.blockEntry, .blockEnd] fuel c.drop
      let (items, c) ← readBlockItems fuel c
      pure (item :: items, c)
    | .blockEnd => pure ([], c.drop)
    | _ => c.fail "expected the end of a block sequence"

/-- The items of a sequence that stands in a mapping without indentation. -/
def readIndentlessItems : Nat → Builder → Except Fault (List NodeId × Builder)
  | 0, c => c.fail "nodes are nested too deeply"
  | fuel + 1, c => do
    match ← c.peek with
    | .blockEntry =>
      let (item, c) ← readNodeOr true false [.blockEntry, .key, .value, .blockEnd] fuel c.drop
      let (items, c) ← readIndentlessItems fuel c
      pure (item :: items, c)
    | _ => pure ([], c)

/-- The value of a block mapping's key, if it has one. -/
def readBlockValue : Nat → Builder → Except Fault (NodeId × Builder)
  | 0, c => c.fail "nodes are nested too deeply"
  | fuel + 1, c => do
    match ← c.peek with
    | .value => readNodeOr true true [.key, .value, .blockEnd] fuel c.drop
    | _ => pure c.empty

/-- The pairs of a block mapping up to its end. -/
def readBlockPairs : Nat → Builder → Except Fault (List (NodeId × NodeId) × Builder)
  | 0, c => c.fail "nodes are nested too deeply"
  | fuel + 1, c => do
    match ← c.peek with
    | .key =>
      let (key, c) ← readNodeOr true true [.key, .value, .blockEnd] fuel c.drop
      let (value, c) ← readBlockValue fuel c
      let (pairs, c) ← readBlockPairs fuel c
      pure ((key, value) :: pairs, c)
    | .blockEnd => pure ([], c.drop)
    | _ => c.fail "expected the end of a block mapping"

/-- The value of a key in a flow collection that ends with `closing`, if it has one. -/
def readFlowValue (closing : Token) : Nat → Builder → Except Fault (NodeId × Builder)
  | 0, c => c.fail "nodes are nested too deeply"
  | fuel + 1, c => do
    match ← c.peek with
    | .value => readNodeOr false false [.flowEntry, closing] fuel c.drop
    | _ => pure c.empty

/-- The items of a flow sequence up to its end.  A key makes a mapping of one pair. -/
def readFlowItems (first : Bool) : Nat → Builder → Except Fault (List NodeId × Builder)
  | 0, c => c.fail "nodes are nested too deeply"
  | fuel + 1, c => do
    if ← c.at? [.flowSequenceEnd] then pure ([], c.drop)
    else
      let c ←
        if first then pure c
        else if ← c.at? [.flowEntry] then pure c.drop
        else c.fail "expected ',' or ']'"
      match ← c.peek with
      | .key =>
        let (id, c) := c.add ⟨.mapping, .mapping [], c.mark⟩
        let (key, c) ← readNodeOr false false [.value, .flowEntry, .flowSequenceEnd] fuel c.drop
        let (value, c) ← readFlowValue .flowSequenceEnd fuel c
        let (items, c) ← readFlowItems false fuel (c.fill id (.mapping [(key, value)]))
        pure (id :: items, c)
      | .flowSequenceEnd => pure ([], c.drop)
      | _ =>
        let (item, c) ← readNode false false fuel c
        let (items, c) ← readFlowItems false fuel c
        pure (item :: items, c)

/-- The pairs of a flow mapping up to its end.  A node without an indicator before it is a key
without a value. -/
def readFlowPairs (first : Bool) :
    Nat → Builder → Except Fault (List (NodeId × NodeId) × Builder)
  | 0, c => c.fail "nodes are nested too deeply"
  | fuel + 1, c => do
    if ← c.at? [.flowMappingEnd] then pure ([], c.drop)
    else
      let c ←
        if first then pure c
        else if ← c.at? [.flowEntry] then pure c.drop
        else c.fail "expected ',' or a closing brace"
      match ← c.peek with
      | .key =>
        let (key, c) ← readNodeOr false false [.value, .flowEntry, .flowMappingEnd] fuel c.drop
        let (value, c) ← readFlowValue .flowMappingEnd fuel c
        let (pairs, c) ← readFlowPairs false fuel c
        pure ((key, value) :: pairs, c)
      | .flowMappingEnd => pure ([], c.drop)
      | _ =>
        let (key, c) ← readNode false false fuel c
        let (value, c) := c.empty
        let (pairs, c) ← readFlowPairs false fuel c
        pure ((key, value) :: pairs, c)

end

/-! ### Documents -/

/-- The handles that have a meaning without a directive. -/
def commonHandles : Association String String := [("!", "!"), ("!!", Tag.commonStart)]

/-- The state after the directives of a document, with the handles that they define.  A handle has
one meaning, and only the first version of the language is known. -/
def readDirectives (c : Builder) (versioned : Bool) (handles : Association String String) :
    List Lexeme → Except Fault Builder
  | ⟨.versionDirective major, _⟩ :: rest =>
    if versioned then c.fail "found duplicate version directive"
    else if major ≠ 1 then c.fail "found incompatible version"
    else c.drop.readDirectives true handles rest
  | ⟨.tagDirective handle start, _⟩ :: rest =>
    if Association.has handle handles then c.fail "found duplicate tag handle"
    else c.drop.readDirectives versioned (Association.put handle start handles) rest
  | ⟨.otherDirective, _⟩ :: rest => c.drop.readDirectives versioned handles rest
  | _ =>
    .ok { c with handles := handles ++ commonHandles.filter (!Association.has ·.1 handles) }

/-- A token is a directive. -/
def isDirective : Token → Bool
  | .versionDirective _ | .tagDirective .. | .otherDirective => true
  | _ => false

/-- The state after all marks for the end of a document. -/
def skipDocumentEnds : List Lexeme → Builder → Builder
  | ⟨.documentEnd, _⟩ :: rest, c => skipDocumentEnds rest c.drop
  | _, c => c

/-- The state after the directives and the mark that begin a document. -/
def readDocumentStart (c : Builder) : Except Fault Builder := do
  let c ← c.readDirectives false [] c.lexemes
  if ← c.at? [.documentStart] then pure c.drop else c.fail "expected the start of a document"

/-- The first document of a stream: none if the stream is empty.  A document may begin without a
mark, but directives call for one. -/
def readDocument (c : Builder) : Except Fault (Option NodeId × Builder) := do
  let token ← c.peek
  let fuel := 2 * c.lexemes.length + 4
  if token == .streamEnd then pure (none, c)
  else if isDirective token || token == .documentStart then
    let c ← c.readDocumentStart
    let next ← c.peek
    if isDirective next || [.documentStart, .documentEnd, .streamEnd].contains next then
      let (id, c) := c.empty
      pure (some id, c)
    else
      let (id, c) ← readNode true false fuel c
      pure (some id, c)
  else
    let (id, c) ← readNode true false fuel { c with handles := commonHandles }
    pure (some id, c)

end Builder

/-- **The document of a stream**, which holds no more than one. -/
def Document.ofStream? (stream : Stream) : Except Fault (Option Document) := do
  let (root, c) ← Builder.readDocument { lexemes := stream.lexemes, fault := stream.fault }
  let c := Builder.skipDocumentEnds c.lexemes c
  if ← c.at? [.streamEnd] then pure (root.map fun id => ⟨c.nodes, id⟩)
  else do
    let c ← c.readDocumentStart
    c.fail "expected a single document in the stream"

end SchemaScribe.Yaml
