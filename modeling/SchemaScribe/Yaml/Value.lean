import SchemaScribe.Yaml.Node
import SchemaScribe.Yaml.Scalar

/-!
# Values of documents

A configuration is read as a tree of values (`Value`).  A document is a graph, though, since aliases
share nodes and may even form cycles, so its values are worked out in a table first (`Table`): each
node once, collections empty at first and filled in the order in which they are met.  Only a node
that cannot be given a value in this order is at fault.  `Document.toValue` then unfolds the table
down to a given depth, level by level, so that what is shared is unfolded only once.

Mappings merge others under the merge key: their own pairs come last and so win.
-/

namespace SchemaScribe.Yaml

/-! ### Values -/

/-- **The value of a document.** -/
inductive Value where
  | scalar (value : Scalar)
  | list (items : List Value)
  | mapping (pairs : List (Scalar × Value))
  | set (members : List Scalar)
  deriving Repr, Inhabited

namespace Value

/-- Nothing is given. -/
def null : Value := .scalar .null

/-- What counts as given: scalars that do, and collections that are not empty. -/
def isTruthy : Value → Bool
  | .scalar value => value.isTruthy
  | .list items => !items.isEmpty
  | .mapping pairs => !pairs.isEmpty
  | .set members => !members.isEmpty

/-- The value under a key that is a text, null if there is none. -/
def under (key : Text) (pairs : List (Scalar × Value)) : Value :=
  ((pairs.find? fun pair => pair.1 == .text key).map Prod.snd).getD null

end Value

/-! ### Tables -/

/-- A part of a list: a node, or two that belong together. -/
inductive Item where
  | single (id : NodeId)
  | pair (key value : NodeId)
  deriving DecidableEq, Repr

/-- The value of a node, with collections referring to their parts by number. -/
inductive Shape where
  | scalar (value : Scalar)
  | list (items : List Item)
  | mapping (pairs : List (Scalar × NodeId))
  | set (members : List Scalar)
  deriving DecidableEq, Repr

/-- **The values worked out so far**, by the numbers of their nodes, the collections that still have
to be filled, the last one met first, and a bound of the depth of merges. -/
structure Table where
  nodes : Array Node
  shapes : Array (Option Shape)
  pending : List NodeId := []
  mergeDepth : Nat
  deriving Repr

/-- Pairs with the value of a key: an equal key keeps its place and its form. -/
def putKey (key : Scalar) (id : NodeId) : List (Scalar × NodeId) → List (Scalar × NodeId)
  | [] => [(key, id)]
  | (other, old) :: rest =>
    if other.sameKey key then (other, id) :: rest else (other, old) :: putKey key id rest

namespace Table

/-- The node of a number. -/
def node (t : Table) (id : NodeId) : Node := (t.nodes[id]?).getD ⟨.null, .scalar "", ⟨0, 0⟩⟩

/-- The table with a changed node. -/
def setNode (t : Table) (id : NodeId) (node : Node) : Table :=
  { t with nodes := t.nodes.setIfInBounds id node }

/-- A fault at a node. -/
def fail {α : Type} (t : Table) (id : NodeId) (problem : Text) : Except Fault α :=
  .error (.malformed problem (t.node id).mark)

/-- The value of a node, if it has been worked out. -/
def shape? (t : Table) (id : NodeId) : Option Shape := (t.shapes[id]?).join

/-- The table with the value of a node. -/
def setShape (t : Table) (id : NodeId) (shape : Shape) : Table :=
  { t with shapes := t.shapes.setIfInBounds id (some shape) }

/-! ### Scalars -/

/-- The text of a node: that of a scalar, or that of the default value of a mapping.  `fuel` bounds
the number of mappings passed through, and only a default value that leads back to itself passes
through more of them than there are nodes. -/
def textOf (t : Table) : Nat → NodeId → Except Fault Text
  | 0, _ => .error .endless
  | fuel + 1, id =>
    match (t.node id).content with
    | .scalar text => .ok text
    | .sequence _ => t.fail id "expected a scalar node"
    | .mapping pairs =>
      match pairs.find? fun pair => (t.node pair.1).tag == .default with
      | some (_, value) => t.textOf fuel value
      | none => t.fail id "expected a scalar node"

/-- The scalar of a node with a tag of scalars. -/
def scalarOf (t : Table) (id : NodeId) : Except Fault Scalar := do
  let node := t.node id
  let text ← t.textOf (t.nodes.size + 1) id
  match node.tag, node.content with
  | .timestamp, .mapping _ => throw .timestampMapping
  | tag, _ => Scalar.ofText tag text node.mark

/-! ### Construction -/

/-- What a collection is before it is filled. -/
def emptyShape? : Tag → Option Shape
  | .sequence | .orderedMap | .pairs => some (.list [])
  | .mapping => some (.mapping [])
  | .set => some (.set [])
  | _ => none

/-- The value of a node.  A collection is left for later. -/
def construct (t : Table) (id : NodeId) : Except Fault (Shape × Table) :=
  match t.shape? id with
  | some shape => .ok (shape, t)
  | none =>
    let tag := (t.node id).tag
    if tag.isScalar then do
      let shape := .scalar (← t.scalarOf id)
      pure (shape, t.setShape id shape)
    else
      match emptyShape? tag with
      | some shape => .ok (shape, { t.setShape id shape with pending := id :: t.pending })
      | none => t.fail id "found an unknown tag"

/-- The values of nodes, one after the other. -/
def constructAll (t : Table) : List NodeId → Except Fault Table
  | [] => .ok t
  | id :: rest => do
    let (_, t) ← t.construct id
    t.constructAll rest

/-- The pairs of a mapping, one after the other.  Keys are scalars. -/
def constructPairs (t : Table) (made : List (Scalar × NodeId)) :
    List (NodeId × NodeId) → Except Fault (List (Scalar × NodeId) × Table)
  | [] => .ok (made, t)
  | (keyId, valueId) :: rest => do
    let (key, t) ← t.construct keyId
    match key with
    | .scalar key => do
      let (_, t) ← t.construct valueId
      t.constructPairs (putKey key valueId made) rest
    | _ => t.fail keyId "found unhashable key"

/-- The pairs of a list of mappings of one pair each. -/
def constructItems (t : Table) : List NodeId → Except Fault (List Item × Table)
  | [] => .ok ([], t)
  | id :: rest =>
    match (t.node id).content with
    | .mapping [(keyId, valueId)] => do
      let (_, t) ← t.construct keyId
      let (_, t) ← t.construct valueId
      let (items, t) ← t.constructItems rest
      pure (.pair keyId valueId :: items, t)
    | _ => t.fail id "expected a mapping of length 1"

/-! ### Merging -/

/-- The numbers of the mappings that a merge key refers to, in the order in which their pairs are
taken: of several mappings the last one comes first, so that earlier ones win. -/
def mergeSources (t : Table) (id : NodeId) : Except Fault (List NodeId) :=
  match (t.node id).content with
  | .mapping _ => .ok [id]
  | .sequence items =>
    match items.find? fun item => !(t.node item).content matches .mapping _ with
    | some item => t.fail item "expected a mapping for merging"
    | none => .ok items
  | .scalar _ => t.fail id "expected a mapping or list of mappings for merging"

/-- The pairs of a mapping node. -/
def pairsOf (t : Table) (id : NodeId) : List (NodeId × NodeId) :=
  match (t.node id).content with
  | .mapping pairs => pairs
  | _ => []

/-- The table with other pairs in a mapping node. -/
def setPairs (t : Table) (id : NodeId) (pairs : List (NodeId × NodeId)) : Table :=
  t.setNode id { t.node id with content := .mapping pairs }

/-- The table after the merge keys among the remaining pairs of a mapping node have been worked off,
given the pairs that stay, the last one first, and the merged ones so far.  `flatten` does the same
for a whole node. -/
def flattenPairs (flatten : NodeId → Table → Except Fault Table) (id : NodeId)
    (kept merged : List (NodeId × NodeId)) :
    List (NodeId × NodeId) → Table → Except Fault Table
  | [], t => .ok (if merged.isEmpty then t else t.setPairs id (merged ++ kept.reverse))
  | (key, value) :: rest, t =>
    match (t.node key).tag with
    | .merge => do
      let sources ← t.mergeSources value
      let t ← sources.foldlM (fun t source => flatten source t)
        (t.setPairs id (kept.reverse ++ rest))
      flattenPairs flatten id kept (merged ++ sources.reverse.flatMap t.pairsOf) rest t
    | .default =>
      flattenPairs flatten id ((key, value) :: kept) merged rest
        (t.setNode key { t.node key with tag := .text })
    | _ => flattenPairs flatten id ((key, value) :: kept) merged rest t

/-- The table in which a mapping node has no merge keys any more: the pairs that they refer to stand
in front of its own.  The key of a default value becomes a text.  `fuel` bounds the depth of
merges. -/
def flatten : Nat → NodeId → Table → Except Fault Table
  | 0, _, t => .ok t
  | fuel + 1, id, t => flattenPairs (flatten fuel) id [] [] (t.pairsOf id) t

/-! ### Filling -/

/-- The pairs of a mapping node, with those that it merges in. -/
def fillPairs (t : Table) (id : NodeId) : Except Fault (List (Scalar × NodeId) × Table) :=
  match (t.node id).content with
  | .mapping _ => do
    let t ← flatten t.mergeDepth id t
    t.constructPairs [] (t.pairsOf id)
  | _ => t.fail id "expected a mapping node"

/-- The table with a collection filled. -/
def fill (t : Table) (id : NodeId) : Except Fault Table := do
  match (t.node id).tag with
  | .mapping => do
    let (pairs, t) ← t.fillPairs id
    pure (t.setShape id (.mapping pairs))
  | .set => do
    let (pairs, t) ← t.fillPairs id
    pure (t.setShape id (.set (pairs.map Prod.fst)))
  | tag =>
    match (t.node id).content with
    | .sequence items =>
      if tag == .sequence then
        let t ← t.constructAll items
        pure (t.setShape id (.list (items.map .single)))
      else
        let (items, t) ← t.constructItems items
        pure (t.setShape id (.list items))
    | _ => t.fail id "expected a sequence node"

/-- The table with all collections filled.  Those that are met while others are filled come after
all of these.  Each node is filled once, so `fuel` is enough when it exceeds their number. -/
def fillAll : Nat → Table → Except Fault Table
  | 0, t => .ok t
  | fuel + 1, t =>
    if t.pending.isEmpty then .ok t
    else do
      let t ← t.pending.reverse.foldlM Table.fill { t with pending := [] }
      fillAll fuel t

/-! ### Unfolding -/

/-- The value of a node, given those of all nodes one level less deep. -/
def unfold (below : Array Value) : Option Shape → Value
  | none => .null
  | some (.scalar value) => .scalar value
  | some (.list items) =>
    .list (items.map fun
      | .single id => below.getD id .null
      | .pair key value => .list [below.getD key .null, below.getD value .null])
  | some (.mapping pairs) => .mapping (pairs.map fun (key, id) => (key, below.getD id .null))
  | some (.set members) => .set members

/-- The values of all nodes down to `depth` levels, below which they read as null. -/
def values (t : Table) : Nat → Array Value
  | 0 => t.shapes.map fun _ => .null
  | depth + 1 => let below := t.values depth; t.shapes.map (unfold below)

end Table

/-! ### Reading -/

/-- The number of pairs in all mappings of a document.  Each level of merges uses up one of them. -/
def Document.pairCount (document : Document) : Nat :=
  document.nodes.foldl (fun n node =>
    match node.content with
    | .mapping pairs => n + pairs.length
    | _ => n) 0

/-- The value of a document down to `depth` levels. -/
def Document.toValue (depth : Nat) (document : Document) : Except Fault Value := do
  let start : Table :=
    ⟨document.nodes, document.nodes.map fun _ => none, [], document.pairCount + 1⟩
  let (_, t) ← start.construct document.root
  let t ← Table.fillAll (document.nodes.size + 1) t
  pure ((t.values depth).getD document.root .null)

/-- **The value of a text** down to `depth` levels, null if it holds no document. -/
def Value.ofText (depth : Nat) (text : String) : Except Fault Value := do
  match ← Document.ofStream? (Stream.ofText text) with
  | none => pure .null
  | some document => document.toValue depth

end SchemaScribe.Yaml
