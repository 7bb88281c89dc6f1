import ReleaseRefs.Yaml.Cursor
import ReleaseRefs.Yaml.Token

/-!
# `ReleaseRefs.Yaml.Token.Plain`: scalars without quotes

A plain scalar ends before `: `, before ` #`, inside brackets also before one of their marks, and
before a line with less indentation. Line breaks inside fold as between quotes.

- `startsPlain` says where such a scalar may start, `scanPlain` reads it.
-/

set_option autoImplicit false

namespace ReleaseRefs.Yaml

/-- A mark that structures brackets. -/
def isFlowMark (c : Char) : Bool := ",\x5b\x5d\x7b\x7d".toList.contains c

/-- A character that no plain scalar starts with, whatever follows. -/
def isIndicator (c : Char) : Bool := "-?:,\x5b\x5d\x7b\x7d#&*!|>'\"%@\x60".toList.contains c

/-- A plain scalar starts here: with no indicator, or with a dash, or outside brackets with `?` or
`:`, if no space follows these. -/
def startsPlain (inFlow : Bool) (c : Cursor) : Bool :=
  match c.head? with
  | none => false
  | some x =>
    (!isSpace x && !isIndicator x) ||
      (!c.endsAt isSpace 1 && (x == '-' || (!inFlow && (x == '?' || x == ':'))))

/-- A plain scalar goes on no further at this place of the text. -/
def endsPlain (inFlow : Bool) : List Char → Bool
  | [] => true
  | x :: r =>
    isSpace x || (x == ':' && r.head?.all fun y => isSpace y || (inFlow && isFlowMark y)) ||
      (inFlow && (isFlowMark x || x == '?'))

/-- The number of characters of a plain scalar on its line. -/
def plainLength (inFlow : Bool) : List Char → Nat
  | [] => 0
  | x :: r => if endsPlain inFlow (x :: r) then 0 else plainLength inFlow r + 1

/-- The line breaks of blank lines, or nothing once a document ends. -/
def scanPlainBreaks : (fuel : Nat) → Cursor → Option (List Char) × Cursor
  | 0, c => (some [], c)
  | fuel + 1, c =>
    let d := c.skip (· == ' ')
    if d.nextIs isBreak then
      let b := d.lineBreak
      if b.2.atDocumentEdge then (none, b.2)
      else
        let r := scanPlainBreaks fuel b.2
        (r.1.map (b.1 ++ ·), r.2)
    else (some [], d)

/-- What lies between two parts of a plain scalar. -/
structure PlainGap where
  text : List Char
  /-- A line has ended. -/
  newLine : Bool
  place : Cursor

/-- The blanks or line breaks behind a part of a plain scalar. -/
def scanPlainGap (c : Cursor) : PlainGap :=
  let blanks := c.span (· == ' ')
  if blanks.2.nextIs isBreak then
    let b := blanks.2.lineBreak
    if b.2.atDocumentEdge then ⟨[], true, b.2⟩
    else
      match scanPlainBreaks (b.2.rest.length + 1) b.2 with
      | (none, d) => ⟨[], true, d⟩
      | (some breaks, d) =>
        ⟨if b.1 != ['\n'] then b.1 ++ breaks else if breaks.isEmpty then [' '] else breaks,
          true, d⟩
  else ⟨blanks.1, false, blanks.2⟩

/-- A plain scalar as it is read. -/
structure PlainScan where
  text : List Char
  /-- The gap behind the last part ended a line, so that a key may follow. -/
  newLine : Bool
  place : Cursor

/-- The parts of a plain scalar from a place on, `gap` standing before the first one. -/
def scanPlainParts (inFlow : Bool) (indent : Int) :
    (fuel : Nat) → (gap : List Char) → (newLine : Bool) → Cursor → PlainScan
  | 0, _, newLine, c => ⟨[], newLine, c⟩
  | fuel + 1, gap, newLine, c =>
    let n := if c.head? == some '#' then 0 else plainLength inFlow c.rest
    if n = 0 then ⟨[], newLine, c⟩
    else
      let part := gap ++ c.rest.take n
      let next := scanPlainGap (c.advance n)
      if next.text.isEmpty || next.place.head? == some '#' ||
          (!inFlow && next.place.column < indent) then
        ⟨part, next.newLine, next.place⟩
      else
        let r := scanPlainParts inFlow indent fuel next.text next.newLine next.place
        ⟨part ++ r.text, r.newLine, r.place⟩

/-- A plain scalar in a block that is indented by `outer`. -/
def scanPlain (inFlow : Bool) (outer : Int) (c : Cursor) : PlainScan :=
  scanPlainParts inFlow (outer + 1) (c.rest.length + 1) [] false c

end ReleaseRefs.Yaml
