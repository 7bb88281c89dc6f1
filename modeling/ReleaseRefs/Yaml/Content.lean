import ReleaseRefs.Yaml.Document
import ReleaseRefs.Yaml.Merge
import ReleaseRefs.Yaml.Scalar

/-!
# `ReleaseRefs.Yaml.Content`: the value of a document

Values are built from the outside to the inside: a collection is first there without its parts, and
is filled when all that lies as far out as itself has been built. So of two flaws the outer one
counts, and a collection may be a part of itself.

- `Builder.build` builds the datum of a node by its tag, `Builder.fill` fills a collection, and
  `Builder.finish` goes on until every collection is filled.
- `Builder.value` is the value of a datum once that is done.
- `Yaml.read` is the value of a text with one document; a text without one has no value.
-/

set_option autoImplicit false

namespace ReleaseRefs.Yaml

/-- What a node stands for: a value of its own, or the collection that is made from it. -/
inductive Datum where
  | plain (v : Value)
  | collection (n : NodeId)

/-- A key of a mapping. -/
structure Key where
  value : Value
  /-- The node of a key that is the same as no other one unless they come from one node. -/
  origin : Option NodeId

/-- Two keys are the same. -/
def Key.same (k l : Key) : Bool :=
  match k.value, l.value with
  | .float .nan, .float .nan => k.origin == l.origin
  | v, w => v.sameKey w

/-- What a collection is filled with. -/
inductive Filling where
  | list (xs : List Datum)
  | pairs (xs : List (Datum × Datum))
  | set (ks : List Key)
  | map (es : List (Key × Datum))

/-- The state of building. -/
structure Builder where
  graph : Graph
  /-- The data of the nodes so far. -/
  data : Array (Option Datum)
  fillings : Array (Option Filling)
  /-- The collections that wait to be filled. -/
  waiting : Array NodeId

/-- A step of building, which may fail. -/
abbrev Build (α : Type) := StateT Builder (Except Failure) α

namespace Builder

/-- Nothing is built yet. -/
def start (g : Graph) : Builder :=
  ⟨g, Array.replicate g.nodes.size none, Array.replicate g.nodes.size none, #[]⟩

/-- The name of a kind of the language. -/
def kindOf (tag : Tag) : Option String := Ref.dropStart? Tag.coreStart tag

def collectionKinds : List String := ["seq", "map", "set", "omap", "pairs"]

/-- A date or a time; its text has to be that of a scalar. -/
def readTime (g : Graph) (n : NodeId) : Except Failure Value := do
  let text ← g.scalarText n
  match (g.node n).shape with
  | .scalar _ => Scalar.time text
  | _ => Scalar.fault .type "expected string or bytes-like object, got 'list'"

def readScalar (g : Graph) (n : NodeId) (kind : String) : Except Failure Value :=
  match kind with
  | "null" => (g.scalarText n).map fun _ => .null
  | "bool" => (g.scalarText n).bind Scalar.truth
  | "int" => (g.scalarText n).bind Scalar.integer
  | "float" => (g.scalarText n).bind Scalar.float
  | "binary" => (g.scalarText n).bind Scalar.binary
  | "timestamp" => readTime g n
  | "str" => (g.scalarText n).map .text
  | _ => .error (flaw "a node has an unknown tag")

def keep (b : Builder) (n : NodeId) (d : Datum) : Builder :=
  { b with data := b.data.setIfInBounds n (some d) }

/-- Lets a collection wait to be filled. -/
def await (b : Builder) (n : NodeId) : Builder := { b with waiting := b.waiting.push n }

/-- The datum of a node, which is built once. -/
def build (n : NodeId) : Build Datum := fun b =>
  match b.data[n]? with
  | some (some d) => .ok (d, b)
  | _ =>
    match kindOf (b.graph.node n).tag with
    | none => .error (flaw "a node has an unknown tag")
    | some kind =>
      if collectionKinds.contains kind then
        .ok (.collection n, (b.keep n (.collection n)).await n)
      else
        (readScalar b.graph n kind).map fun v => (.plain v, b.keep n (.plain v))

/-- The key that a node stands for; a collection is none. -/
def buildKey (n : NodeId) : Build Key := do
  match ← build n with
  | .collection _ => throw (flaw "a key cannot be a collection")
  | .plain v =>
    let g := (← get).graph
    let shared := match g.scalarText n with
      | .ok text => Scalar.isNanWord text
      | .error _ => false
    return ⟨v, if shared then none else some n⟩

/-- Sets the datum under a key: a present key keeps its place and spelling, a new one goes last. -/
def insert (es : List (Key × Datum)) (k : Key) (d : Datum) : List (Key × Datum) :=
  match es with
  | [] => [(k, d)]
  | (l, e) :: r => if l.same k then (l, d) :: r else (l, e) :: insert r k d

/-- The entries of a mapping, after it has brought in those of others. -/
def buildEntries (n : NodeId) : Build (List (Key × Datum)) := do
  let b ← get
  match (b.graph.node n).shape with
  | .mapping _ =>
    let g ← b.graph.merge n
    set { b with graph := g }
    (g.entries n).foldlM (fun es (k, v) => do
      let key ← buildKey k
      let datum ← build v
      return insert es key datum) []
  | _ => throw (flaw "a mapping was expected")

/-- The items of a sequence. -/
def buildItems (n : NodeId) : Build (List Datum) := do
  match ((← get).graph.node n).shape with
  | .sequence items => items.mapM build
  | _ => throw (flaw "a sequence was expected")

/-- The pair that a mapping of one entry stands for. -/
def buildPair (n : NodeId) : Build (Datum × Datum) := do
  match ((← get).graph.node n).shape with
  | .mapping [(k, v)] =>
    let key ← build k
    let value ← build v
    return (key, value)
  | _ => throw (flaw "a mapping of one entry was expected")

/-- The items of a sequence of mappings of one entry each. -/
def buildPairs (n : NodeId) : Build (List (Datum × Datum)) := do
  match ((← get).graph.node n).shape with
  | .sequence items => items.mapM buildPair
  | _ => throw (flaw "a sequence was expected")

/-- What a collection is filled with. -/
def filling (n : NodeId) : Build Filling := do
  match kindOf ((← get).graph.node n).tag with
  | some "seq" => return .list (← buildItems n)
  | some "map" => return .map (← buildEntries n)
  | some "set" => return .set ((← buildEntries n).map Prod.fst)
  | _ => return .pairs (← buildPairs n)

/-- Fills a collection. -/
def fill (n : NodeId) : Build Unit := do
  let f ← filling n
  modify fun b => { b with fillings := b.fillings.setIfInBounds n (some f) }

/-- Fills the collections that wait, then those that these brought up, and so on. No node waits
twice. -/
def finish : (fuel : Nat) → Build Unit
  | 0 => return ()
  | fuel + 1 => do
    let b ← get
    if b.waiting.isEmpty then return ()
    else
      set { b with waiting := #[] }
      b.waiting.toList.forM fill
      finish fuel

/-! ### Values -/

/-- The values of the collections that are known, by node. -/
abbrev Known := Array (Option Value)

/-- A value that was found, and whether it is whole: no collection around it is a part of it. -/
structure Found where
  value : Value
  isWhole : Bool

mutual

/-- The value of a datum inside the collections `around` it. -/
def valueOf (b : Builder) (around : List NodeId) :
    (fuel : Nat) → Datum → Known → Found × Known
  | _, .plain v, known => (⟨v, true⟩, known)
  | 0, .collection _, known => (⟨.null, false⟩, known)
  | fuel + 1, .collection n, known =>
    match known[n]? with
    | some (some v) => (⟨v, true⟩, known)
    | _ =>
      let f := ((b.fillings[n]?).getD none).getD (.list [])
      if around.contains n then
        (⟨.again (match f with | .map _ => true | _ => false), false⟩, known)
      else
        let r : Found × Known := match f with
          | .set ks => (⟨.set (ks.map Key.value), true⟩, known)
          | .list xs =>
            let r := valuesOf b (n :: around) fuel xs known
            (⟨.list r.1, r.2.1⟩, r.2.2)
          | .pairs xs =>
            let keys := valuesOf b (n :: around) fuel (xs.map Prod.fst) known
            let values := valuesOf b (n :: around) fuel (xs.map Prod.snd) keys.2.2
            (⟨.list ((keys.1.zip values.1).map fun p => .tuple [p.1, p.2]),
              keys.2.1 && values.2.1⟩, values.2.2)
          | .map es =>
            let r := valuesOf b (n :: around) fuel (es.map Prod.snd) known
            (⟨.map ((es.map fun e => e.1.value).zip r.1), r.2.1⟩, r.2.2)
        if r.1.isWhole then (r.1, r.2.setIfInBounds n (some r.1.value)) else r

/-- The values of a row of data, and whether all of them are whole. -/
def valuesOf (b : Builder) (around : List NodeId) :
    (fuel : Nat) → List Datum → Known → List Value × Bool × Known
  | _, [], known => ([], true, known)
  | 0, _ :: _, known => ([], false, known)
  | fuel + 1, d :: ds, known =>
    let first := valueOf b around fuel d known
    let rest := valuesOf b around fuel ds first.2
    (first.1.value :: rest.1, first.1.isWhole && rest.2.1, rest.2.2)

end

/-- How deep values can lie: no deeper than through all parts of all collections. -/
def depth (b : Builder) : Nat :=
  let size : Option Filling → Nat := fun
    | some (.list xs) => xs.length
    | some (.pairs xs) => xs.length
    | some (.map es) => es.length
    | _ => 0
  (b.fillings.toList.map size).foldl (· + ·) 0 + 2 * b.fillings.size + 2

def value (b : Builder) (d : Datum) : Value :=
  (b.valueOf [] b.depth d (Array.replicate b.fillings.size none)).1.value

end Builder

def Document.content (d : Document) : Except Failure Value := do
  let (datum, b) ← (Builder.build d.root).run (.start d.graph)
  let (_, b) ← (Builder.finish (d.graph.nodes.size + 1)).run b
  .ok (b.value datum)

/-- The value of the one document of a text; without a document there is none. -/
def read (s : String) : Except Failure Value :=
  let cs := s.toList
  if !cs.all isAllowed then .error (flaw "a character that no document may hold")
  else
    let t := Token.stream cs
    match Document.ofTokens t.1 t.2 with
    | .error e => .error e
    | .ok none => .ok .null
    | .ok (some d) => d.content

end ReleaseRefs.Yaml
