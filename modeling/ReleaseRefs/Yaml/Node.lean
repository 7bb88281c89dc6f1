import ReleaseRefs.Yaml.Cursor
import ReleaseRefs.Yaml.Tag

/-!
# `ReleaseRefs.Yaml.Node`: the nodes of a document

A node is a scalar, a sequence or a mapping, with its tag. Aliases make one node a part of several
others, or of itself, so nodes name their parts by their places in a row of all nodes.

- `Graph` is such a row; `Graph.add` puts a node at its end and `Graph.put` changes one.
- `Graph.scalarText` is the text of a scalar, or the one that a mapping has under its key `=`.
- `node_add` and `node_put`: what was put somewhere is found there.
-/

set_option autoImplicit false

namespace ReleaseRefs.Yaml

/-- The place of a node in the row of nodes. -/
abbrev NodeId := Nat

/-- What a node is made of. -/
inductive Shape where
  | scalar (text : String)
  | sequence (items : List NodeId)
  | mapping (entries : List (NodeId × NodeId))
  deriving DecidableEq, Repr

/-- A node of a document. -/
structure Node where
  tag : Tag
  shape : Shape
  deriving DecidableEq, Repr

/-- The node that stands where nothing is written. -/
def Node.absent : Node := ⟨.core "null", .scalar ""⟩

/-- The nodes of a document. -/
structure Graph where
  nodes : Array Node

namespace Graph

/-- No nodes. -/
def empty : Graph := ⟨#[]⟩

/-- The node at a place. -/
def node (g : Graph) (n : NodeId) : Node := (g.nodes[n]?).getD .absent

/-- Puts a node at the end; its place comes first. -/
def add (g : Graph) (x : Node) : NodeId × Graph := (g.nodes.size, ⟨g.nodes.push x⟩)

/-- Puts another node at a place. -/
def put (g : Graph) (n : NodeId) (x : Node) : Graph := ⟨g.nodes.setIfInBounds n x⟩

/-- The entries of a mapping. -/
def entries (g : Graph) (n : NodeId) : List (NodeId × NodeId) :=
  match (g.node n).shape with
  | .mapping es => es
  | _ => []

/-- Gives a mapping other entries. -/
def setEntries (g : Graph) (n : NodeId) (es : List (NodeId × NodeId)) : Graph :=
  g.put n ⟨(g.node n).tag, .mapping es⟩

/-- Gives a node another tag. -/
def setTag (g : Graph) (n : NodeId) (tag : Tag) : Graph := g.put n ⟨tag, (g.node n).shape⟩

/-- The tag of the key that stands for the text of a mapping. -/
def valueTag : Tag := .core "value"

/-- The value under the key `=` of a mapping. -/
def valueEntry? (g : Graph) (es : List (NodeId × NodeId)) : Option NodeId :=
  (es.find? fun e => (g.node e.1).tag = valueTag).map Prod.snd

/-- The text of a scalar; of a mapping, that under its key `=`. The mapping may be that value
itself, and then there is no end to it. -/
def scalarTextWithin (g : Graph) : (fuel : Nat) → NodeId → Except Failure String
  | 0, _ => .error (.fault .recursion "maximum recursion depth exceeded")
  | fuel + 1, n =>
    match (g.node n).shape with
    | .scalar x => .ok x
    | .sequence _ => .error (flaw "a scalar was expected")
    | .mapping es =>
      match g.valueEntry? es with
      | some v => g.scalarTextWithin fuel v
      | none => .error (flaw "a scalar was expected")

/-- The text of a scalar; of a mapping, that under its key `=`. -/
def scalarText (g : Graph) (n : NodeId) : Except Failure String :=
  g.scalarTextWithin (g.nodes.size + 1) n

/-- A node that is added is found at its place. -/
theorem node_add (g : Graph) (x : Node) : (g.add x).2.node (g.add x).1 = x := by
  simp [add, node]

/-- A node that is put at the place of another is found there. -/
theorem node_put {g : Graph} {n : NodeId} (h : n < g.nodes.size) (x : Node) :
    (g.put n x).node n = x := by
  simp [put, node, h]

end Graph

end ReleaseRefs.Yaml
