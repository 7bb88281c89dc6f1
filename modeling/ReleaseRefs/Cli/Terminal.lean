import ReleaseRefs.Cli.Emoji

/-!
# `ReleaseRefs.Cli.Terminal`: text on its way to a stream that is no terminal

- `withoutColours` drops the sequences that set colours and move the cursor.
- `printed` is how the line about a result appears: with pictures for their names, without the
  control characters that move the cursor, and with blanks for tabs.
-/

set_option autoImplicit false

namespace ReleaseRefs.Cli

/-! ### Control sequences -/

/-- The character is in a range of ASCII. -/
def isBetween (lo hi c : Char) : Bool := lo ≤ c && c ≤ hi

/-- The text behind a control sequence, if one starts here: its arguments, what qualifies its final
character, and this character. -/
def dropSequence? : List Char → Option (List Char)
  | '\x1b' :: '\x5b' :: r =>
    match (r.dropWhile (isBetween '0' '?')).dropWhile (isBetween ' ' '/') with
    | c :: t => if isBetween '@' '~' c then some t else none
    | [] => none
  | _ => none

/-- Drops every control sequence. -/
def dropSequences : (fuel : Nat) → List Char → List Char
  | 0, cs => cs
  | _ + 1, [] => []
  | fuel + 1, c :: r =>
    match dropSequence? (c :: r) with
    | some t => dropSequences fuel t
    | none => c :: dropSequences fuel r

/-- The text without control sequences. -/
def withoutColours (s : String) : String :=
  let cs := s.toList
  String.ofList (dropSequences cs.length cs)

/-! ### Printed lines -/

/-- A control character that is never printed: bell, backspace, vertical tab, form feed and carriage
return. -/
def isCursorControl (c : Char) : Bool := [7, 8, 11, 12, 13].contains c.toNat

/-- The distance of tab stops. -/
def tabWidth : Nat := 8

/-- The columns from a column to the next tab stop, none if it is one. -/
def toNextStop (column : Nat) : Nat := (tabWidth - column % tabWidth) % tabWidth

/-- Blanks in place of tabs: one for each, and more up to the next tab stop. `part` has in reverse
what stands in front since the last tab or line feed, `column` where that starts. -/
def expandTabs : (column : Nat) → (part : List Char) → List Char → List Char
  | _, part, [] => part.reverse
  | column, part, c :: r =>
    if c = '\t' then
      let shown := part.reverse ++ [' ']
      let reached := column + Text.columns shown
      let gap := toNextStop reached
      shown ++ List.replicate gap ' ' ++ expandTabs (reached + gap) [] r
    else if c = '\n' then part.reverse ++ c :: expandTabs 0 [] r
    else expandTabs column (c :: part) r

/-- The text as it is printed. -/
def printed (s : String) : String :=
  String.ofList (expandTabs 0 [] ((withEmoji s).toList.filter fun c => !isCursorControl c))

end ReleaseRefs.Cli
