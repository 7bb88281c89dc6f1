import ReleaseRefs.Yaml.Token.Property

/-!
# `ReleaseRefs.Yaml.Token.Block`: scalars in block form

A header (`|` or `>`, perhaps with a digit for the indentation and a sign for the end) is followed
by lines with a common indentation. In the folded form a single line break between two lines that
start without space becomes a blank.

- `scanBlock` reads such a scalar.
-/

set_option autoImplicit false

namespace ReleaseRefs.Yaml

/-- What happens to the line breaks at the end of a block scalar. -/
inductive Chomping where
  /-- One line break stays. -/
  | clip
  /-- None stays. -/
  | strip
  /-- All stay. -/
  | keep
  deriving DecidableEq, Repr

/-- The header of a block scalar: the end rule and the indentation, if it is given. -/
structure BlockHeader where
  chomping : Chomping
  indent : Option Nat

/-- The sign of the end rule. -/
def chompingOf? (c : Char) : Option Chomping :=
  if c = '+' then some .keep else if c = '-' then some .strip else none

/-- Reads the sign of the end rule, if it is there. -/
def scanChomping (c : Cursor) : Option Chomping × Cursor :=
  match c.head?.bind chompingOf? with
  | some ch => (some ch, c.step)
  | none => (none, c)

/-- Reads the digit of the indentation, if it is there. -/
def scanIndentDigit (c : Cursor) : Option Nat × Cursor :=
  match c.head?.bind Text.asciiDigitValue? with
  | some d => (some d, c.step)
  | none => (none, c)

/-- The header behind its first character, with the rest of its line. Sign and digit come in
either order. -/
def scanBlockHeader (c : Cursor) : Except Failure (BlockHeader × Cursor) :=
  let sign := scanChomping c
  let digit := scanIndentDigit sign.2
  let late := if sign.1.isNone && digit.1.isSome then scanChomping digit.2 else (none, digit.2)
  let chomping := (sign.1 <|> late.1).getD .clip
  if digit.1 = some 0 then .error (flaw "an indentation of zero is not possible")
  else if !late.2.endsAt isBlankOrBreak 0 then
    .error (flaw "the header of a block scalar holds an unexpected character")
  else (scanLineEnd late.2).map fun d => (⟨chomping, digit.1⟩, d)

/-- Blank lines at the start: their line breaks and the widest column reached by blanks. -/
def scanLeadingBlanks : (fuel : Nat) → (widest : Nat) → Cursor → List Char × Nat × Cursor
  | 0, widest, c => ([], widest, c)
  | fuel + 1, widest, c =>
    if c.head? == some ' ' then
      let d := c.step
      scanLeadingBlanks fuel (max widest d.column) d
    else if c.nextIs isBreak then
      let b := c.lineBreak
      let r := scanLeadingBlanks fuel widest b.2
      (b.1 ++ r.1, r.2)
    else ([], widest, c)

/-- Drops blanks up to a column. -/
def skipIndent : (fuel : Nat) → (indent : Nat) → Cursor → Cursor
  | 0, _, c => c
  | fuel + 1, indent, c =>
    if c.column < indent ∧ c.head? = some ' ' then skipIndent fuel indent c.step else c

/-- The line breaks of blank lines inside a block scalar. -/
def scanBlockBreaks : (fuel : Nat) → (indent : Nat) → Cursor → List Char × Cursor
  | 0, _, c => ([], c)
  | fuel + 1, indent, c =>
    let d := skipIndent indent indent c
    if d.nextIs isBreak then
      let b := d.lineBreak
      let r := scanBlockBreaks fuel indent b.2
      (b.1 ++ r.1, r.2)
    else ([], d)

/-- What stands for the line break between two lines of text: nothing but the blank lines in
between, or a blank, where lines are folded. -/
def joinLines (folded firstPlain : Bool) (lineBreak breaks : List Char) (next : Cursor) :
    List Char :=
  if folded && lineBreak == ['\n'] && firstPlain && !next.nextIs (fun x => x == ' ' || x == '\t')
  then if breaks.isEmpty then [' '] else []
  else lineBreak

/-- The lines of a block scalar from a place on, `breaks` standing before the first one. -/
def scanBlockLines (folded : Bool) (chomping : Chomping) (indent : Nat) :
    (fuel : Nat) → (breaks : List Char) → Cursor → List Char × Cursor
  | 0, _, c => ([], c)
  | fuel + 1, breaks, c =>
    let line := c.span (!isBreak ·)
    let firstPlain := !c.nextIs fun x => x == ' ' || x == '\t'
    let lineBreak := line.2.lineBreak
    let next := scanBlockBreaks (lineBreak.2.rest.length + 1) indent lineBreak.2
    if next.2.column = indent ∧ ¬ next.2.atEnd then
      let r := scanBlockLines folded chomping indent fuel next.1 next.2
      (breaks ++ line.1 ++ joinLines folded firstPlain lineBreak.1 next.1 next.2 ++ r.1, r.2)
    else
      let tail := match chomping with
        | .clip => lineBreak.1
        | .strip => []
        | .keep => lineBreak.1 ++ next.1
      (breaks ++ line.1 ++ tail, next.2)

/-- A block scalar in a block that is indented by `outer`. -/
def scanBlock (folded : Bool) (outer : Int) (c : Cursor) : Except Failure (Token × Cursor) :=
  match scanBlockHeader c.step with
  | .error e => .error e
  | .ok (header, d) =>
    let least := (max (outer + 1) 1).toNat
    let fuel := d.rest.length + 1
    let start : List Char × Nat × Cursor := match header.indent with
      | some n =>
        let indent := least + n - 1
        let r := scanBlockBreaks fuel indent d
        (r.1, indent, r.2)
      | none =>
        let r := scanLeadingBlanks fuel 0 d
        (r.1, max least r.2.1, r.2.2)
    let body :=
      if start.2.2.column = start.2.1 ∧ ¬ start.2.2.atEnd then
        scanBlockLines folded header.chomping start.2.1 fuel start.1 start.2.2
      else (if header.chomping = .keep then start.1 else [], start.2.2)
    .ok (.scalar (String.ofList body.1) false, body.2)

end ReleaseRefs.Yaml
