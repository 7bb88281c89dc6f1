import ReleaseRefs.Yaml.Cursor
import ReleaseRefs.Yaml.Token

/-!
# `ReleaseRefs.Yaml.Token.Property`: anchors, tags and directives

- `scanName` reads the name of an anchor or alias, `scanTag` a tag, `scanDirective` a directive.
- `decodeOctets` turns escaped octets into characters.
-/

set_option autoImplicit false

namespace ReleaseRefs.Yaml

/-- The name behind the mark of an anchor or alias. -/
def scanName (c : Cursor) : Except Failure (String × Cursor) :=
  let name := c.step.span isNameChar
  let follows := fun x => isSpace x || x == '?' || x == ':' || x == ',' || x == '\x5d' ||
    x == '\x7d' || x == '%' || x == '@' || x == '\x60'
  if name.1.isEmpty then .error (flaw "an anchor or alias has no name")
  else if name.2.endsAt follows 0 then .ok (String.ofList name.1, name.2)
  else .error (flaw "the name of an anchor or alias holds an unexpected character")

/-- A character that a tag may hold as it is. -/
def isTagChar (c : Char) : Bool :=
  c.isAlphanum || "-;/?:@&=+$,_.!~*'()\x5b\x5d".toList.contains c

def decodeOctets (octets : List UInt8) : Option (List Char) :=
  (String.fromUTF8? ⟨octets.toArray⟩).map fun s => (Text.carried s).toList

/-- The octets of a row of escapes `%hh`. -/
def scanEscapes : (fuel : Nat) → Cursor → Except Failure (List UInt8 × Cursor)
  | 0, c => .ok ([], c)
  | fuel + 1, c =>
    match c.rest with
    | '%' :: a :: b :: _ =>
      match Text.hexValue? a, Text.hexValue? b with
      | some x, some y =>
        (scanEscapes fuel (c.advance 3)).map fun (os, d) => (UInt8.ofNat (x * 16 + y) :: os, d)
      | _, _ => .error (flaw "a tag holds an escape without two digits")
    | '%' :: _ => .error (flaw "a tag holds an escape without two digits")
    | _ => .ok ([], c)

/-- The text of a tag: allowed characters and escapes. -/
def scanTagText : (fuel : Nat) → Cursor → Except Failure (List Char × Cursor)
  | 0, c => .ok ([], c)
  | fuel + 1, c =>
    let plain := c.span isTagChar
    if plain.2.head? == some '%' then
      match scanEscapes (plain.2.rest.length + 1) plain.2 with
      | .error e => .error e
      | .ok (octets, d) =>
        match decodeOctets octets with
        | none => .error (flaw "a tag holds escapes that are no text")
        | some cs => (scanTagText fuel d).map fun (more, e) => (plain.1 ++ cs ++ more, e)
    else .ok plain

/-- The text of a tag, which must not be empty. -/
def scanTagUri (c : Cursor) : Except Failure (String × Cursor) :=
  match scanTagText (c.rest.length + 1) c with
  | .error e => .error e
  | .ok (cs, d) =>
    if d.index = c.index then .error (flaw "a tag has no text") else .ok (String.ofList cs, d)

/-- A handle: an exclamation mark alone, or a name between two of them. -/
def scanHandle (c : Cursor) : Except Failure (String × Cursor) :=
  if c.head? != some '!' then .error (flaw "a tag handle does not start with a mark")
  else if c.peek 1 == some ' ' then .ok ("!", c.step)
  else
    let name := c.step.span isNameChar
    if name.2.head? == some '!' then
      .ok (String.ofList ('!' :: name.1 ++ ['!']), name.2.step)
    else .error (flaw "a tag handle does not end with a mark")

/-- Before the next blank or line break a second exclamation mark follows the first. -/
def hasHandle (c : Cursor) : Bool :=
  (c.step.rest.takeWhile fun x => !isBlankOrBreak x).contains '!'

def scanTagParts (c : Cursor) : Except Failure ((Option String × String) × Cursor) :=
  if c.peek 1 == some '<' then
    match scanTagUri (c.advance 2) with
    | .error e => .error e
    | .ok (uri, d) =>
      if d.head? == some '>' then .ok ((none, uri), d.step)
      else .error (flaw "a tag between angles is not closed")
  else if c.endsAt isSpace 1 then .ok ((none, "!"), c.step)
  else
    let handle : Except Failure (String × Cursor) :=
      if hasHandle c then scanHandle c else .ok ("!", c.step)
    match handle with
    | .error e => .error e
    | .ok (h, d) => (scanTagUri d).map fun (uri, e) => ((some h, uri), e)

/-- A tag and the space behind it. -/
def scanTag (c : Cursor) : Except Failure (Token × Cursor) :=
  match scanTagParts c with
  | .error e => .error e
  | .ok ((handle, suffix), d) =>
    if d.endsAt isBlankOrBreak 0 then .ok (.tag handle suffix, d)
    else .error (flaw "a tag is followed by an unexpected character")

def scanVersionNumber (c : Cursor) : Except Failure (Nat × Cursor) :=
  let ds := c.span Char.isDigit
  if ds.1.isEmpty then .error (flaw "a version has no number")
  else
    match Integer.read ds.1 with
    | .ok n => .ok (n.toNat, ds.2)
    | .error e => .error (.fault .value (e.message (String.ofList ds.1)))

/-- The version behind the name of its directive. -/
def scanVersion (c : Cursor) : Except Failure (Directive × Cursor) := do
  let (major, d) ← scanVersionNumber (c.skip (· == ' '))
  if d.head? != some '.' then .error (flaw "a version has no dot")
  else
    let (minor, e) ← scanVersionNumber d.step
    if e.endsAt isBlankOrBreak 0 then .ok (.version major minor, e)
    else .error (flaw "a version is followed by an unexpected character")

/-- Handle and start behind the name of their directive. -/
def scanTagDirective (c : Cursor) : Except Failure (Directive × Cursor) := do
  let (handle, d) ← scanHandle (c.skip (· == ' '))
  if d.head? != some ' ' then .error (flaw "a handle is followed by an unexpected character")
  else
    let (start, e) ← scanTagUri (d.skip (· == ' '))
    if e.endsAt isBlankOrBreak 0 then .ok (.handle handle start, e)
    else .error (flaw "a tag is followed by an unexpected character")

/-- The rest of a line that may only hold a comment, with its line break. -/
def scanLineEnd (c : Cursor) : Except Failure Cursor :=
  let d := c.skip (· == ' ')
  let e := if d.head? == some '#' then d.skip (!isBreak ·) else d
  if e.endsAt isBreak 0 then .ok e.lineBreak.2
  else .error (flaw "a comment or a line break was expected")

/-- A directive with its line. -/
def scanDirective (c : Cursor) : Except Failure (Token × Cursor) := do
  let name := c.step.span isNameChar
  if name.1.isEmpty || !name.2.endsAt isBlankOrBreak 0 then
    .error (flaw "a directive has no proper name")
  else
    let (d, e) ←
      if name.1 = "YAML".toList then scanVersion name.2
      else if name.1 = "TAG".toList then scanTagDirective name.2
      else pure (Directive.other, name.2.skip (!isBreak ·))
    let e ← scanLineEnd e
    .ok (.directive d, e)

end ReleaseRefs.Yaml
