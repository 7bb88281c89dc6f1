import ReleaseRefs.Yaml.Node

/-!
# `ReleaseRefs.Yaml.Merge`: mappings that bring in the entries of others

A key `<<` brings in the entries of the mapping under it, or of each mapping of the sequence under
it. They go in front of the mapping's own entries, so that these win; of several mappings in a
sequence the first wins.

- `Graph.merge` does so for one mapping, and first for those that it brings in. The key goes away
  before its value is looked at, so a mapping may bring itself in.
- `stepCount_pos`: there is always a step to spare.
-/

set_option autoImplicit false

namespace ReleaseRefs.Yaml.Graph

/-- The tag of the key that brings in other entries. -/
def mergeTag : Tag := .core "merge"

/-- Puts entries in front of those of a mapping. -/
def prepend (g : Graph) (n : NodeId) (es : List (NodeId × NodeId)) : Graph :=
  if es.isEmpty then g else g.setEntries n (es ++ g.entries n)

mutual

/-- Goes through the entries of a mapping from a place on; `found` was brought in so far. The key
`=` becomes a text. -/
def mergeFrom (n : NodeId) (place : Nat) (found : List (NodeId × NodeId)) :
    (fuel : Nat) → Graph → Except Failure Graph
  | 0, _ => .error (flaw "a mapping brings in too many others")
  | fuel + 1, g =>
    match (g.entries n)[place]? with
    | none => .ok (g.prepend n found)
    | some (k, v) =>
      if (g.node k).tag = mergeTag then
        let g := g.setEntries n ((g.entries n).eraseIdx place)
        match (g.node v).shape with
        | .mapping _ => do
          let g ← mergeFrom v 0 [] fuel g
          mergeFrom n place (found ++ g.entries v) fuel g
        | .sequence items => do
          let (rows, g) ← mergeRows items fuel g
          mergeFrom n place (found ++ rows.reverse.flatten) fuel g
        | .scalar _ => .error (flaw "a mapping was expected for merging")
      else if (g.node k).tag = valueTag then
        mergeFrom n (place + 1) found fuel (g.setTag k (.core "str"))
      else mergeFrom n (place + 1) found fuel g

/-- The entries of each mapping of a row, after they have brought in theirs. -/
def mergeRows :
    List NodeId → (fuel : Nat) → Graph → Except Failure (List (List (NodeId × NodeId)) × Graph)
  | _, 0, _ => .error (flaw "a mapping brings in too many others")
  | [], _ + 1, g => .ok ([], g)
  | n :: ns, fuel + 1, g =>
    match (g.node n).shape with
    | .mapping _ => do
      let g ← mergeFrom n 0 [] fuel g
      let row := g.entries n
      let (rows, g) ← mergeRows ns fuel g
      .ok (row :: rows, g)
    | _ => .error (flaw "a mapping was expected for merging")

end

/-- How many parts the node has. -/
def partCount (x : Node) : Nat :=
  match x.shape with
  | .scalar _ => 0
  | .sequence items => items.length
  | .mapping es => es.length

/-- How many steps merging may take: one for each pair of parts of the document, and as many again
as a document can ask for by bringing entries in over and over. -/
def stepCount (g : Graph) : Nat :=
  let parts := (g.nodes.toList.map partCount).foldl (· + ·) 0 + g.nodes.size + 2
  parts * parts + Nat.pow 2 40

/-- Brings in the entries that a mapping asks for. -/
def merge (g : Graph) (n : NodeId) : Except Failure Graph := mergeFrom n 0 [] g.stepCount g

/-- There is always a step to spare. -/
theorem stepCount_pos (g : Graph) : 0 < g.stepCount :=
  Nat.lt_of_lt_of_le (Nat.two_pow_pos 40) (Nat.le_add_left ..)

end ReleaseRefs.Yaml.Graph
