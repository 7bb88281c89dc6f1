import ReleaseRefs.Yaml.Token.Block
import ReleaseRefs.Yaml.Token.Plain
import ReleaseRefs.Yaml.Token.Quoted

/-!
# `ReleaseRefs.Yaml.Token.Stream`: a document as a row of tokens

The scanner goes through the text once. Indentation opens and closes blocks, brackets switch it
off. A key without a mark of its own is known only when its colon comes, so the place of each
possible key is remembered, one for each depth of brackets, and the tokens for it are put there
later; such a key stays on one line and within 1024 characters.

- `Token.stream` gives the tokens of a text, and the flaw at which scanning stopped, if any. In
  front of a flaw only those tokens count that no colon to come could have moved.
-/

set_option autoImplicit false

namespace ReleaseRefs.Yaml

/-- A place where a key may have started. -/
structure PossibleKey where
  /-- The number of tokens in front of it. -/
  position : Nat
  /-- It starts a line of the block, so that it must turn out to be a key. -/
  required : Bool
  index : Nat
  line : Nat
  column : Nat

/-- The scanner between two tokens. -/
structure Scanner where
  place : Cursor
  /-- The tokens so far. -/
  tokens : Array Token
  /-- The depth of brackets. -/
  depth : Nat
  /-- The column of the current block; before the first one it is `-1`. -/
  indent : Int
  /-- The columns of the blocks around it. -/
  outer : List Int
  /-- A key without a mark may start here. -/
  keyAllowed : Bool
  /-- The possible keys by depth of brackets, the innermost first. -/
  keys : List (Nat × PossibleKey)
  /-- The text has ended. -/
  finished : Bool

namespace Scanner

/-- The scanner at the start of a text. -/
def ofChars (cs : List Char) : Scanner :=
  { place := .ofChars cs, tokens := #[], depth := 0, indent := -1, outer := [],
    keyAllowed := true, keys := [], finished := false }

/-- Brackets are open. -/
def inFlow (s : Scanner) : Bool := s.depth != 0

/-- Adds a token. -/
def push (s : Scanner) (t : Token) : Scanner := { s with tokens := s.tokens.push t }

/-- The greatest length of a key without a mark. -/
def maxKeyLength : Nat := 1024

/-- The possible key at the current depth. -/
def currentKey? (s : Scanner) : Option PossibleKey :=
  match s.keys with
  | (d, k) :: _ => if d = s.depth then some k else none
  | [] => none

/-- Forgets the possible key at the current depth. -/
def dropKey (s : Scanner) : Scanner :=
  match s.keys with
  | (d, _) :: r => if d = s.depth then { s with keys := r } else s
  | [] => s

/-- Gives the possible key at the current depth up; a required one must not get lost. -/
def giveKeyUp (s : Scanner) : Except Failure Scanner :=
  match s.currentKey? with
  | some k => if k.required then .error (flaw "a key has no colon") else .ok s.dropKey
  | none => .ok s

/-- A possible key that the scanner has left behind: on another line, or too far back. -/
def isStale (s : Scanner) (k : PossibleKey) : Bool :=
  k.line != s.place.line || maxKeyLength < s.place.index - k.index

/-- Forgets the possible keys that the scanner has left behind. -/
def dropStale (s : Scanner) : Except Failure Scanner :=
  if s.keys.any fun k => s.isStale k.2 && k.2.required then .error (flaw "a key has no colon")
  else .ok { s with keys := s.keys.filter fun k => !s.isStale k.2 }

/-- Remembers this place as one where a key may start, if it may. -/
def rememberKey (s : Scanner) : Except Failure Scanner :=
  if s.keyAllowed then
    s.giveKeyUp.map fun t =>
      let required := !s.inFlow && s.indent == s.place.column
      { t with keys := (s.depth, ⟨s.tokens.size, required, s.place.index, s.place.line,
          s.place.column⟩) :: t.keys }
  else .ok s

/-- Closes the blocks that are indented further than a column. -/
def closeBlocks (s : Scanner) (column : Int) : Scanner :=
  if s.inFlow then s
  else
    let rec go : List Int → Int → Array Token → List Int × Int × Array Token
      | [], indent, ts => ([], indent, ts)
      | o :: os, indent, ts =>
        if column < indent then go os o (ts.push .blockEnd) else (o :: os, indent, ts)
    let r := go s.outer s.indent s.tokens
    { s with outer := r.1, indent := r.2.1, tokens := r.2.2 }

/-- Opens a block at a column that lies further right; its first token goes to a position. -/
def openBlock (s : Scanner) (column : Nat) (position : Nat) (start : Token) : Scanner :=
  if s.indent < column then
    { s with outer := s.indent :: s.outer, indent := column,
             tokens := s.tokens.insertIdxIfInBounds position start }
  else s

/-- Drops blanks, comments and line breaks in front of a token. Outside brackets a new line allows
a key. -/
def skipToToken : (fuel : Nat) → Scanner → Scanner
  | 0, s => s
  | fuel + 1, s =>
    let c := s.place.skip (· == ' ')
    let d := if c.head? == some '#' then c.skip (!isBreak ·) else c
    if d.nextIs isBreak then
      skipToToken fuel
        { s with place := d.lineBreak.2, keyAllowed := s.keyAllowed || !s.inFlow }
    else { s with place := d }

/-- A byte order mark at the very start is dropped. -/
def skipOrderMark (s : Scanner) : Scanner :=
  if s.place.index = 0 ∧ s.place.head? = some '\uFEFF' then { s with place := s.place.step }
  else s

/-- Adds the token of a mark and goes past it. -/
def pushMark (s : Scanner) (t : Token) (length : Nat) : Scanner :=
  { s.push t with place := s.place.advance length }

/-- The end of the text closes everything. -/
def finish (s : Scanner) : Except Failure Scanner :=
  (s.closeBlocks (-1)).giveKeyUp.map fun t =>
    { t with keyAllowed := false, keys := [], finished := true }

/-- A line that starts or ends a document. -/
def scanEdge (s : Scanner) (t : Token) : Except Failure Scanner :=
  (s.closeBlocks (-1)).giveKeyUp.map fun u => { u.pushMark t 3 with keyAllowed := false }

/-- A directive in front of a document. -/
def scanDirectiveLine (s : Scanner) : Except Failure Scanner := do
  let t ← (s.closeBlocks (-1)).giveKeyUp
  let (d, c) ← scanDirective t.place
  .ok { t.push d with place := c, keyAllowed := false }

/-- An opening bracket. -/
def scanOpen (s : Scanner) (t : Token) : Except Failure Scanner :=
  s.rememberKey.map fun u => { u.pushMark t 1 with depth := u.depth + 1, keyAllowed := true }

/-- A closing bracket. -/
def scanClose (s : Scanner) (t : Token) : Except Failure Scanner :=
  if s.depth = 0 then .error (flaw "a bracket is closed that was not opened")
  else s.giveKeyUp.map fun u => { u.pushMark t 1 with depth := u.depth - 1, keyAllowed := false }

/-- A comma between the items of brackets. -/
def scanComma (s : Scanner) : Except Failure Scanner :=
  s.giveKeyUp.map fun u => { u.pushMark .flowEntry 1 with keyAllowed := true }

/-- The dash of an item of a block. -/
def scanDash (s : Scanner) : Except Failure Scanner :=
  if s.inFlow then
    s.giveKeyUp.map fun u => { u.pushMark .blockEntry 1 with keyAllowed := true }
  else if !s.keyAllowed then .error (flaw "an item of a block is not allowed here")
  else
    (s.openBlock s.place.column s.tokens.size .blockSequenceStart).giveKeyUp.map fun u =>
      { u.pushMark .blockEntry 1 with keyAllowed := true }

/-- The question mark in front of a key. -/
def scanKeyMark (s : Scanner) : Except Failure Scanner :=
  if s.inFlow then
    s.giveKeyUp.map fun u => { u.pushMark .key 1 with keyAllowed := false }
  else if !s.keyAllowed then .error (flaw "a key is not allowed here")
  else
    (s.openBlock s.place.column s.tokens.size .blockMappingStart).giveKeyUp.map fun u =>
      { u.pushMark .key 1 with keyAllowed := true }

/-- The colon in front of a value: it makes a key of what stands at the remembered place, or
belongs to a key with a mark. -/
def scanColon (s : Scanner) : Except Failure Scanner :=
  match s.currentKey? with
  | some k =>
    let t := s.dropKey
    let u := { t with tokens := t.tokens.insertIdxIfInBounds k.position .key }
    let v := if u.inFlow then u else u.openBlock k.column k.position .blockMappingStart
    .ok { v.pushMark .value 1 with keyAllowed := false }
  | none =>
    if s.inFlow then
      .ok { s.pushMark .value 1 with keyAllowed := false }
    else if !s.keyAllowed then .error (flaw "a value is not allowed here")
    else
      (s.openBlock s.place.column s.tokens.size .blockMappingStart).giveKeyUp.map fun u =>
        { u.pushMark .value 1 with keyAllowed := true }

/-- A token that may start a key, read by a function of its own. -/
def scanKeyStart (s : Scanner) (read : Cursor → Except Failure (Token × Cursor)) :
    Except Failure Scanner := do
  let t ← s.rememberKey
  let (token, c) ← read t.place
  .ok { t.push token with place := c, keyAllowed := false }

def scanBlockScalar (s : Scanner) (folded : Bool) : Except Failure Scanner := do
  let t ← s.giveKeyUp
  let (token, c) ← scanBlock folded t.indent t.place
  .ok { t.push token with place := c, keyAllowed := true }

def scanPlainScalar (s : Scanner) : Except Failure Scanner :=
  s.rememberKey.map fun t =>
    let r := scanPlain t.inFlow t.indent t.place
    { t.push (.scalar (String.ofList r.text) true) with place := r.place, keyAllowed := r.newLine }

/-- One token from its first character on. -/
def scanToken (s : Scanner) : Except Failure Scanner :=
  let c := s.place
  match c.head? with
  | none => s.finish
  | some x =>
    let spaceNext := c.endsAt isSpace 1
    if x = '%' ∧ c.column = 0 then s.scanDirectiveLine
    else if c.column = 0 ∧ c.atMarker '-' then s.scanEdge .documentStart
    else if c.column = 0 ∧ c.atMarker '.' then s.scanEdge .documentEnd
    else if x = '\x5b' then s.scanOpen .flowSequenceStart
    else if x = '\x7b' then s.scanOpen .flowMappingStart
    else if x = '\x5d' then s.scanClose .flowSequenceEnd
    else if x = '\x7d' then s.scanClose .flowMappingEnd
    else if x = ',' then s.scanComma
    else if x = '-' ∧ spaceNext then s.scanDash
    else if x = '?' ∧ (s.inFlow ∨ spaceNext) then s.scanKeyMark
    else if x = ':' ∧ (s.inFlow ∨ spaceNext) then s.scanColon
    else if x = '*' then s.scanKeyStart fun d => (scanName d).map fun (n, e) => (.alias n, e)
    else if x = '&' then s.scanKeyStart fun d => (scanName d).map fun (n, e) => (.anchor n, e)
    else if x = '!' then s.scanKeyStart scanTag
    else if x = '|' ∧ ¬ s.inFlow then s.scanBlockScalar false
    else if x = '>' ∧ ¬ s.inFlow then s.scanBlockScalar true
    else if x = '\'' then s.scanKeyStart (scanQuoted false)
    else if x = '"' then s.scanKeyStart (scanQuoted true)
    else if startsPlain s.inFlow c then s.scanPlainScalar
    else .error (flaw "a character that starts no token")

/-- What stands in front of the next token, and that token. -/
def scanNext (s : Scanner) : Except Failure Scanner := do
  let t ← (skipToToken (s.place.rest.length + 1) s.skipOrderMark).dropStale
  (t.closeBlocks t.place.column).scanToken

/-- The number of tokens in front of the first one that may still turn out to be a key. -/
def settled (s : Scanner) : Nat :=
  (s.keys.filter fun k => !s.isStale k.2).foldl (fun n k => min n k.2.position) s.tokens.size

/-- Tokens to the end of the text, or the settled ones in front of the first flaw. -/
def run : (fuel : Nat) → Scanner → List Token × Option Failure
  | 0, s => (s.tokens.toList, none)
  | fuel + 1, s =>
    if s.finished then (s.tokens.toList, none)
    else
      match s.scanNext with
      | .ok t => run fuel t
      | .error e => (s.tokens.toList.take s.settled, some e)

end Scanner

/-- The settled tokens of a text up to the first flaw, and that flaw. -/
def Token.stream (cs : List Char) : List Token × Option Failure :=
  Scanner.run (cs.length + 2) (.ofChars cs)

end ReleaseRefs.Yaml
