import ReleaseRefs.Yaml.Cursor
import ReleaseRefs.Yaml.Token

/-!
# `ReleaseRefs.Yaml.Token.Quoted`: scalars between quotes

A line break inside quotes becomes a blank, and further ones stay. Between single quotes only a
doubled quote is special; between double quotes a backslash starts an escape.

- `scanQuoted` reads such a scalar.
-/

set_option autoImplicit false

namespace ReleaseRefs.Yaml

/-- The character that one letter behind a backslash stands for. -/
def letterEscape? (c : Char) : Option Char :=
  ([('0', '\x00'), ('a', '\x07'), ('b', '\x08'), ('t', '\t'), ('\t', '\t'), ('n', '\n'),
    ('v', '\x0b'), ('f', '\x0c'), ('r', '\r'), ('e', '\x1b'), (' ', ' '), ('"', '"'),
    ('\\', '\\'), ('/', '/'), ('N', '\x85'), ('_', '\xa0'), ('L', '\u2028'),
    ('P', '\u2029')].find? fun p => p.1 == c).map Prod.snd

/-- The number of digits behind the letter of a numeric escape. -/
def escapeWidth? (c : Char) : Option Nat :=
  if c = 'x' then some 2 else if c = 'u' then some 4 else if c = 'U' then some 8 else none

/-- The characters that carry a code point, halves included; code points end at U+10FFFF. -/
def charsOfNumber (n : Nat) : Except Failure (List Char) :=
  if 0x7FFFFFFF < n then
    .error (.fault .overflow "Python int too large to convert to C int")
  else if 0x10FFFF < n then .error (.fault .value "chr() arg not in range(0x110000)")
  else .ok (Text.carry n)

/-- The line breaks of blank lines; a line that starts or ends a document must not come. -/
def scanQuotedBreaks : (fuel : Nat) → Cursor → Except Failure (List Char × Cursor)
  | 0, c => .ok ([], c)
  | fuel + 1, c =>
    if c.atDocumentEdge then .error (flaw "a document ends inside a quoted scalar")
    else
      let d := c.skip fun x => x == ' ' || x == '\t'
      if d.nextIs isBreak then
        let b := d.lineBreak
        (scanQuotedBreaks fuel b.2).map fun (more, e) => (b.1 ++ more, e)
      else .ok ([], d)

/-- The space between two words: it stays on one line, and folds where a line ends. -/
def scanQuotedSpace (c : Cursor) : Except Failure (List Char × Cursor) :=
  let space := c.span fun x => x == ' ' || x == '\t'
  if space.2.atEnd then .error (flaw "a quoted scalar is not closed")
  else if space.2.nextIs isBreak then
    let b := space.2.lineBreak
    (scanQuotedBreaks (b.2.rest.length + 1) b.2).map fun (breaks, d) =>
      (if b.1 != ['\n'] then b.1 ++ breaks else if breaks.isEmpty then [' '] else breaks, d)
  else .ok space

/-- What an escape stands for; the backslash is already read. -/
def scanEscape (c : Cursor) : Except Failure (List Char × Cursor) :=
  match c.head? with
  | none => .error (flaw "a quoted scalar ends in an escape")
  | some x =>
    match letterEscape? x with
    | some y => .ok ([y], c.step)
    | none =>
      match escapeWidth? x with
      | some width =>
        let ds := (c.step.rest.take width).filterMap Text.hexValue?
        if ds.length < width then .error (flaw "a numeric escape has too few digits")
        else (charsOfNumber (Text.ofDigits 16 ds)).map fun ys => (ys, c.advance (width + 1))
      | none =>
        if isBreak x then
          let b := c.lineBreak
          scanQuotedBreaks (b.2.rest.length + 1) b.2
        else .error (flaw "an unknown escape")

/-- A character that ends a run of ordinary ones. -/
def isQuotedSpecial (c : Char) : Bool := c == '\'' || c == '"' || c == '\\' || isSpace c

/-- The characters up to the closing quote, which is read too. -/
def scanQuotedBody (double : Bool) :
    (fuel : Nat) → Cursor → Except Failure (List Char × Cursor)
  | 0, _ => .error (flaw "a quoted scalar is not closed")
  | fuel + 1, c =>
    let quote := if double then '"' else '\''
    let more (part : List Char) (d : Cursor) : Except Failure (List Char × Cursor) :=
      (scanQuotedBody double fuel d).map fun (rest, e) => (part ++ rest, e)
    match c.head? with
    | none => .error (flaw "a quoted scalar is not closed")
    | some x =>
      if !isQuotedSpecial x then
        let run := c.span (!isQuotedSpecial ·)
        more run.1 run.2
      else if x = quote then
        if !double && c.peek 1 == some '\'' then more ['\''] (c.advance 2) else .ok ([], c.step)
      else if x = '\\' ∧ double then
        match scanEscape c.step with
        | .error e => .error e
        | .ok (part, d) => more part d
      else if isSpace x then
        match scanQuotedSpace c with
        | .error e => .error e
        | .ok (part, d) => more part d
      else more [x] c.step

/-- A scalar between quotes of the kind that stands here. -/
def scanQuoted (double : Bool) (c : Cursor) : Except Failure (Token × Cursor) :=
  (scanQuotedBody double (c.rest.length + 1) c.step).map fun (cs, d) =>
    (.scalar (String.ofList cs) false, d)

end ReleaseRefs.Yaml
