import ReleaseRefs.Yaml.Node
import ReleaseRefs.Yaml.Token.Stream

/-!
# `ReleaseRefs.Yaml.Document`: a document as a graph of nodes

- `Document` is the nodes of a document and the place of the outermost one.
- `Document.ofTokens` reads the one document of a row of tokens; an alias is the place of the node
  that its anchor names. Nodes that lie more than `Document.maxDepth` deep inside each other are
  refused.
-/

set_option autoImplicit false

namespace ReleaseRefs.Yaml

structure Document where
  graph : Graph
  root : NodeId

namespace Document

/-- What is still to read, and what was read and declared so far. -/
structure Source where
  tokens : List Token
  /-- The flaw at which scanning stopped. -/
  stop : Option Failure
  graph : Graph
  /-- The places of the nodes with names. -/
  anchors : List (String × NodeId)
  /-- The short names for the start of tags. -/
  handles : List (String × String)
  /-- How many more nodes may lie inside each other. -/
  room : Nat

/-- How deep nodes may lie inside each other. -/
def maxDepth : Nat := 488

/-- The failure of nodes that lie too deep. -/
def tooDeep : Failure := .fault .recursion "maximum recursion depth exceeded"

namespace Source

/-- Goes into a node. -/
def enter (s : Source) : Source := { s with room := s.room - 1 }

/-- Comes out of a node. -/
def leave (s : Source) : Source := { s with room := s.room + 1 }

/-- The next token; behind the last one comes the flaw, or the end of the text. -/
def next (s : Source) : Except Failure (Option Token) :=
  match s.tokens, s.stop with
  | t :: _, _ => .ok (some t)
  | [], some e => .error e
  | [], none => .ok none

/-- What follows the next token. -/
def rest (s : Source) : Source := { s with tokens := s.tokens.drop 1 }

/-- The short names that need no declaration. -/
def defaultHandles : List (String × String) := [("!", "!"), ("!!", Tag.coreStart)]

/-- The tag behind a handle and a suffix. -/
def tagOf (s : Source) (handle : Option String) (suffix : String) : Except Failure Tag :=
  match handle with
  | none => .ok suffix
  | some h =>
    match s.handles.find? fun p => p.1 = h with
    | some p => .ok (p.2 ++ suffix)
    | none => .error (flaw "a tag handle is not declared")

/-- Refuses a name that is in use. -/
def checkAnchor (s : Source) (name : Option String) : Except Failure Unit :=
  match name with
  | some a =>
    if s.anchors.any fun p => p.1 = a then .error (flaw "an anchor is used twice") else .ok ()
  | none => .ok ()

/-- Adds a node under a name, if it has one. -/
def add (s : Source) (name : Option String) (x : Node) : NodeId × Source :=
  let r := s.graph.add x
  (r.1, { s with
    graph := r.2, anchors := (name.map fun a => (a, r.1)).toList ++ s.anchors })

/-- Gives a node other parts, once they are known. -/
def complete (s : Source) (n : NodeId) (shape : Shape) : Source :=
  { s with graph := s.graph.put n ⟨(s.graph.node n).tag, shape⟩ }

/-- The node that an alias stands for. -/
def resolve (s : Source) (name : String) : Except Failure NodeId :=
  match s.anchors.find? fun p => p.1 = name with
  | some (_, n) => .ok n
  | none => .error (flaw "an alias has no anchor")

/-- Adds the node that stands where nothing is written. -/
def addAbsent (s : Source) : NodeId × Source := s.add none .absent

end Source

/-- The anchor and tag in front of a node. -/
structure Properties where
  anchor : Option String
  tag : Option Tag

/-- Reads an anchor, if one is next. -/
def readAnchor (s : Source) : Except Failure ((Option String) × Source) :=
  s.next.map fun
    | some (.anchor a) => (some a, s.rest)
    | _ => (none, s)

/-- Reads the handle and suffix of a tag, if one is next. -/
def readTag (s : Source) : Except Failure ((Option (Option String × String)) × Source) :=
  s.next.map fun
    | some (.tag h x) => (some (h, x), s.rest)
    | _ => (none, s)

/-- Reads an anchor and a tag in either order, each at most once. -/
def readProperties (s : Source) : Except Failure (Properties × Source) := do
  let (a, s) ← readAnchor s
  let (t, s) ← readTag s
  let (b, s) ← if a.isNone && t.isSome then readAnchor s else pure (none, s)
  let tag ← t.mapM fun (h, x) => s.tagOf h x
  .ok (⟨a <|> b, tag⟩, s)

/-- The tag is missing or leaves the choice open. -/
def isOpenTag : Option Tag → Bool
  | none => true
  | some t => t == "!"

/-- The tag of a scalar: the written one, or one by form, or that of texts. -/
def scalarTag (tag : Option Tag) (text : String) (plain : Bool) : Tag :=
  match tag with
  | some t => if t = "!" then .ofPlain text else t
  | none => if plain then .ofPlain text else .core "str"

/-- The tag of a collection: the written one, or the usual one. -/
def collectionTag (tag : Option Tag) (usual : String) : Tag :=
  if isOpenTag tag then .core usual else tag.getD ""

/-- The next token is one of those that may stand in place of a node. -/
def nextIs (s : Source) (ts : List Token) : Except Failure Bool :=
  s.next.map fun
    | some t => ts.contains t
    | none => false

/-- Reads the comma in front of every item but the first. -/
def readComma (first : Bool) (s : Source) : Except Failure Source := do
  if first then .ok s
  else if ← nextIs s [.flowEntry] then .ok s.rest
  else .error (flaw "a comma or the end of brackets was expected")

mutual

/-- Reads a node. Blocks may start only where `block` allows them, and items without a block of
their own only where `bare` does. -/
def readNode (block bare : Bool) : (fuel : Nat) → Source → Except Failure (NodeId × Source)
  | 0, _ => .error (flaw "a document is nested too deeply")
  | fuel + 1, s => do
    if s.room = 0 then .error tooDeep
    else
      match ← s.next with
      | some (.alias a) => (s.resolve a).map fun n => (n, s.rest)
      | _ =>
        let (p, s) ← readProperties s
        let _ ← s.next
        s.checkAnchor p.anchor
        (readContent block bare p fuel s.enter).map fun (n, s) => (n, s.leave)

/-- Reads a node behind its anchor and tag. -/
def readContent (block bare : Bool) (p : Properties) :
    (fuel : Nat) → Source → Except Failure (NodeId × Source)
  | 0, _ => .error (flaw "a document is nested too deeply")
  | fuel + 1, s => do
    let sequence := s.add p.anchor ⟨collectionTag p.tag "seq", .sequence []⟩
    let mapping := s.add p.anchor ⟨collectionTag p.tag "map", .mapping []⟩
    let items (r : List NodeId × Source) := (sequence.1, r.2.complete sequence.1 (.sequence r.1))
    let entries (r : List (NodeId × NodeId) × Source) :=
      (mapping.1, r.2.complete mapping.1 (.mapping r.1))
    match ← s.next with
    | some (.scalar x plain) =>
      .ok (s.rest.add p.anchor ⟨scalarTag p.tag x plain, .scalar x⟩)
    | some .flowSequenceStart => (readFlowItems true fuel sequence.2.rest).map items
    | some .flowMappingStart => (readFlowEntries true fuel mapping.2.rest).map entries
    | t =>
      if bare ∧ t = some .blockEntry then (readBareItems fuel sequence.2).map items
      else if block ∧ t = some .blockSequenceStart then
        (readBlockItems fuel sequence.2.rest).map items
      else if block ∧ t = some .blockMappingStart then
        (readBlockEntries fuel mapping.2.rest).map entries
      else if p.anchor.isSome ∨ p.tag.isSome then
        .ok (s.add p.anchor ⟨scalarTag p.tag "" true, .scalar ""⟩)
      else .error (flaw "a node was expected")

/-- Reads a node unless one of the given tokens is next, in which case nothing is written. -/
def readOptional (block bare : Bool) (stops : List Token) :
    (fuel : Nat) → Source → Except Failure (NodeId × Source)
  | 0, _ => .error (flaw "a document is nested too deeply")
  | fuel + 1, s => do
    if ← nextIs s stops then .ok s.addAbsent else readNode block bare fuel s

/-- Reads the items of a block up to its end. -/
def readBlockItems : (fuel : Nat) → Source → Except Failure ((List NodeId) × Source)
  | 0, _ => .error (flaw "a document is nested too deeply")
  | fuel + 1, s => do
    match ← s.next with
    | some .blockEntry =>
      let (x, s) ← readOptional true false [.blockEntry, .blockEnd] fuel s.rest
      let (xs, s) ← readBlockItems fuel s
      .ok (x :: xs, s)
    | some .blockEnd => .ok ([], s.rest)
    | _ => .error (flaw "an item or the end of a block was expected")

/-- Reads items that stand in the block of the mapping around them. -/
def readBareItems : (fuel : Nat) → Source → Except Failure ((List NodeId) × Source)
  | 0, _ => .error (flaw "a document is nested too deeply")
  | fuel + 1, s => do
    match ← s.next with
    | some .blockEntry =>
      let (x, s) ← readOptional true false [.blockEntry, .key, .value, .blockEnd] fuel s.rest
      let (xs, s) ← readBareItems fuel s
      .ok (x :: xs, s)
    | _ => .ok ([], s)

/-- Reads the value behind a colon, if there is a colon. -/
def readValue (block : Bool) (stops : List Token) :
    (fuel : Nat) → Source → Except Failure (NodeId × Source)
  | 0, _ => .error (flaw "a document is nested too deeply")
  | fuel + 1, s => do
    match ← s.next with
    | some .value => readOptional block block stops fuel s.rest
    | _ => .ok s.addAbsent

/-- Reads the entries of a block up to its end. -/
def readBlockEntries : (fuel : Nat) → Source → Except Failure ((List (NodeId × NodeId)) × Source)
  | 0, _ => .error (flaw "a document is nested too deeply")
  | fuel + 1, s => do
    match ← s.next with
    | some .blockEnd => .ok ([], s.rest)
    | some .key =>
      let stops : List Token := [.key, .value, .blockEnd]
      let (k, s) ← readOptional true true stops fuel s.rest
      let (v, s) ← readValue true stops fuel s
      let (es, s) ← readBlockEntries fuel s
      .ok ((k, v) :: es, s)
    | _ => .error (flaw "a key or the end of a block was expected")

/-- Reads the items of brackets up to the closing one. An item with a colon is a mapping of one
entry. -/
def readFlowItems (first : Bool) :
    (fuel : Nat) → Source → Except Failure ((List NodeId) × Source)
  | 0, _ => .error (flaw "a document is nested too deeply")
  | fuel + 1, s => do
    if ← nextIs s [.flowSequenceEnd] then .ok ([], s.rest)
    else
      let s ← readComma first s
      match ← s.next with
      | some .flowSequenceEnd => .ok ([], s.rest)
      | some .key =>
        let (n, s) := s.rest.enter.add none ⟨.core "map", .mapping []⟩
        let (k, s) ← readOptional false false [.value, .flowEntry, .flowSequenceEnd] fuel s
        let (v, s) ← readValue false [.flowEntry, .flowSequenceEnd] fuel s
        let (xs, s) ← readFlowItems false fuel (s.complete n (.mapping [(k, v)])).leave
        .ok (n :: xs, s)
      | _ =>
        let (x, s) ← readNode false false fuel s
        let (xs, s) ← readFlowItems false fuel s
        .ok (x :: xs, s)

/-- Reads the entries of braces up to the closing one. An entry without a colon has no value. -/
def readFlowEntries (first : Bool) :
    (fuel : Nat) → Source → Except Failure ((List (NodeId × NodeId)) × Source)
  | 0, _ => .error (flaw "a document is nested too deeply")
  | fuel + 1, s => do
    if ← nextIs s [.flowMappingEnd] then .ok ([], s.rest)
    else
      let s ← readComma first s
      match ← s.next with
      | some .flowMappingEnd => .ok ([], s.rest)
      | some .key =>
        let (k, s) ← readOptional false false [.value, .flowEntry, .flowMappingEnd] fuel s.rest
        let (v, s) ← readValue false [.flowEntry, .flowMappingEnd] fuel s
        let (es, s) ← readFlowEntries false fuel s
        .ok ((k, v) :: es, s)
      | _ =>
        let (k, s) ← readNode false false fuel s
        let (v, s) := s.addAbsent
        let (es, s) ← readFlowEntries false fuel s
        .ok ((k, v) :: es, s)

end

/-- Reads the directives in front of a document. -/
def readDirectives : (fuel : Nat) → (versioned : Bool) → Source → Except Failure Source
  | 0, _, s => .ok s
  | fuel + 1, versioned, s => do
    match ← s.next with
    | some (.directive (.version major _)) =>
      if versioned then .error (flaw "the version is given twice")
      else if major ≠ 1 then .error (flaw "the version is not supported")
      else readDirectives fuel true s.rest
    | some (.directive (.handle name start)) =>
      if s.handles.any fun p => p.1 = name then .error (flaw "a tag handle is declared twice")
      else readDirectives fuel versioned { s.rest with handles := (name, start) :: s.handles }
    | some (.directive .other) => readDirectives fuel versioned s.rest
    | _ => .ok { s with handles := s.handles ++ Source.defaultHandles }

def dropEnds (s : Source) : Source :=
  { s with tokens := s.tokens.dropWhile (· == .documentEnd) }

/-- A place that was found, as an optional one. -/
def here (r : NodeId × Source) : (Option NodeId) × Source := (some r.1, r.2)

/-- Reads a document that starts with directives or a mark, if the text holds one. -/
def readMarked (fuel : Nat) (s : Source) : Except Failure ((Option NodeId) × Source) := do
  let s ← readDirectives fuel false s
  match ← s.next with
  | some .documentStart =>
    let s := s.rest
    match ← s.next with
    | some .documentStart => .ok (here s.addAbsent)
    | some .documentEnd => .ok (here s.addAbsent)
    | some (.directive _) => .ok (here s.addAbsent)
    | none => .ok (here s.addAbsent)
    | _ => (readNode true false fuel s).map here
  | _ => .error (flaw "a document has no start")

/-- Reads the first document, if the text holds one. -/
def readFirst (fuel : Nat) (s : Source) : Except Failure ((Option NodeId) × Source) := do
  match ← s.next with
  | none => .ok (none, s)
  | some .documentStart => readMarked fuel s
  | some (.directive _) => readMarked fuel s
  | _ => (readNode true false fuel { s with handles := Source.defaultHandles }).map here

/-- Fails unless the text ends behind its first document. -/
def checkEnd (fuel : Nat) (s : Source) : Except Failure Unit := do
  match ← s.next with
  | none => .ok ()
  | some (.directive _) =>
    let s ← readDirectives fuel false { s with handles := [] }
    let _ ← s.next
    .error (flaw "a second document follows")
  | some _ => .error (flaw "a second document follows")

/-- The one document of a row of tokens, behind which `stop` tells why there are no more. -/
def ofTokens (tokens : List Token) (stop : Option Failure) : Except Failure (Option Document) := do
  let fuel := 6 * tokens.length + 6
  let (n, s) ← readFirst fuel ⟨tokens, stop, .empty, [], [], maxDepth⟩
  checkEnd fuel (dropEnds s)
  .ok (n.map fun root => ⟨s.graph, root⟩)

end Document

end ReleaseRefs.Yaml
