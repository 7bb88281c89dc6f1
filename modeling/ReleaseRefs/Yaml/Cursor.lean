import ReleaseRefs.Failure

/-!
# `ReleaseRefs.Yaml.Cursor`: a place in a document

- `Cursor` is the rest of the text with the line and column where it starts.
- `Cursor.span` reads the characters of a class, `Cursor.lineBreak` one line break.
- `Cursor.advance_rest`: reading `n` characters drops `n` characters of the rest.
-/

set_option autoImplicit false

namespace ReleaseRefs.Yaml

/-- The failure of a document that does not follow the rules. -/
def flaw (message : String) : Failure := .fault .yaml message

/-- The characters that end a line. -/
def isBreak (c : Char) : Bool :=
  c == '\n' || c == '\r' || c == '\x85' || c == '\u2028' || c == '\u2029'

/-- A blank or a line break. -/
def isBlankOrBreak (c : Char) : Bool := c == ' ' || isBreak c

/-- A blank, a tab or a line break. -/
def isSpace (c : Char) : Bool := c == ' ' || c == '\t' || isBreak c

/-- A character that may occur in a document. -/
def isAllowed (c : Char) : Bool :=
  let n := c.toNat
  n == 9 || n == 10 || n == 13 || (0x20 ≤ n && n ≤ 0x7E) || n == 0x85 ||
    (0xA0 ≤ n && n ≤ 0xD7FF) || (0xE000 ≤ n && n ≤ 0xFFFD) || 0x10000 ≤ n

/-- A character of the names of anchors, handles and directives. -/
def isNameChar (c : Char) : Bool := c.isAlphanum || c == '-' || c == '_'

/-- The rest of a text, and where it starts. -/
structure Cursor where
  rest : List Char
  index : Nat
  line : Nat
  column : Nat

namespace Cursor

/-- The start of a text. -/
def ofChars (cs : List Char) : Cursor := ⟨cs, 0, 0, 0⟩

/-- The character `k` places ahead. -/
def peek (c : Cursor) (k : Nat) : Option Char := c.rest[k]?

/-- The next character. -/
def head? (c : Cursor) : Option Char := c.rest.head?

/-- The place behind one character. A line feed right after a carriage return ends the same line,
and a byte order mark takes no column. The mark in front of a character does not count. -/
def step (c : Cursor) : Cursor :=
  match c.rest with
  | [] => c
  | x :: r =>
    if isBreak x && !(x == '\r' && r.head? == some '\n') then ⟨r, c.index + 1, c.line + 1, 0⟩
    else if x == '\uFEFF' then ⟨r, c.index + 1, c.line, c.column⟩
    else if x == Text.mark then ⟨r, c.index, c.line, c.column⟩
    else ⟨r, c.index + 1, c.line, c.column + 1⟩

/-- The place behind `n` characters. -/
def advance : Nat → Cursor → Cursor
  | 0, c => c
  | n + 1, c => advance n c.step

/-- The characters of a class at the front, and the place behind them. -/
def span (p : Char → Bool) (c : Cursor) : List Char × Cursor :=
  let xs := c.rest.takeWhile p
  (xs, c.advance xs.length)

/-- The place behind the characters of a class. -/
def skip (p : Char → Bool) (c : Cursor) : Cursor := (c.span p).2

/-- The next character satisfies `p`; the end of the text does not. -/
def nextIs (p : Char → Bool) (c : Cursor) : Bool := c.head?.any p

/-- The character `k` places ahead is of the class, or the text has ended there. -/
def endsAt (p : Char → Bool) (c : Cursor) (k : Nat) : Bool := (c.peek k).all p

/-- The text ends here. -/
def atEnd (c : Cursor) : Bool := c.rest.isEmpty

/-- The line break here, if there is one: most kinds count as a line feed. -/
def lineBreak (c : Cursor) : List Char × Cursor :=
  match c.rest with
  | '\r' :: '\n' :: _ => (['\n'], c.advance 2)
  | x :: _ =>
    if x == '\u2028' || x == '\u2029' then ([x], c.step)
    else if isBreak x then (['\n'], c.step)
    else ([], c)
  | [] => ([], c)

/-- A line that starts or ends a document starts here: three dashes or dots and then space. -/
def atMarker (mark : Char) (c : Cursor) : Bool :=
  [mark, mark, mark].isPrefixOf c.rest && c.endsAt isSpace 3

/-- A line that starts or ends a document starts here. -/
def atDocumentEdge (c : Cursor) : Bool := c.atMarker '-' || c.atMarker '.'

/-- One step drops one character. -/
theorem step_rest (c : Cursor) : c.step.rest = c.rest.drop 1 := by
  unfold step
  split
  · simp_all
  · simp_all only [List.drop_succ_cons, List.drop_zero]
    split
    · rfl
    · split
      · rfl
      · split <;> rfl

/-- Reading `n` characters drops `n` characters. -/
theorem advance_rest (n : Nat) (c : Cursor) : (c.advance n).rest = c.rest.drop n := by
  induction n generalizing c with
  | zero => simp [advance]
  | succ n ih => simp [advance, ih, step_rest]

end Cursor

end ReleaseRefs.Yaml
