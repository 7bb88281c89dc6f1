import ReleaseRefs.Cli.Emoji.Flag
import ReleaseRefs.Cli.Emoji.Names
import ReleaseRefs.Text.Blank
import ReleaseRefs.Text.Case
import ReleaseRefs.Text.Split
import ReleaseRefs.Text.Width

/-!
# `ReleaseRefs.Cli.Emoji`: names between colons that stand for a picture

- `pictureFor?` finds the picture with a name: one of its own, one that says a tone of skin, or the
  name of a flag.
- `withEmoji` puts pictures in place of known names between colons; other names stay, with both
  their colons.
-/

set_option autoImplicit false

namespace ReleaseRefs.Cli

/-- The tones of skin by the words for them. -/
def skinTones : List (String × Char) := [
  ("light", '🏻'), ("medium-light", '🏼'), ("medium", '🏽'),
  ("medium-dark", '🏾'), ("dark", '🏿')]

/-- What follows a name and a tone of skin. -/
def toneEnd (tone : String) : List Char := ('_' :: tone.toList) ++ "_skin_tone".toList

/-- A picture in a tone of skin, which goes behind its first character in place of the mark that
makes it a picture. -/
def inTone (tone : Char) (picture : String) : String :=
  match picture.toList with
  | [] => picture
  | c :: r =>
    let rest := match r with
      | d :: t => if d = Text.pictureMark then t else r
      | [] => []
    String.ofList (c :: tone :: rest)

/-- The picture with a name that says a tone of skin. -/
def tonedFor? (name : String) : Option String :=
  let cs := name.toList
  skinTones.findSome? fun t =>
    let ending := toneEnd t.1
    let base := String.ofList (cs.take (cs.length - ending.length))
    if ending.isSuffixOf cs && tonedNames.contains base then
      (emojiNames.lookup base).map (inTone t.2)
    else none

def pictureFor? (name : String) : Option String :=
  match emojiNames.lookup name with
  | some picture => some picture
  | none =>
    match tonedFor? name with
    | some picture => some picture
    | none => flagFor? name

/-- What may follow a name: it asks for the picture as text or in colour. -/
def emojiVariants : List (String × Char) := [("-text", '\ufe0e'), ("-emoji", '\ufe0f')]

/-- The picture for what stands between two colons. -/
def emojiFor? (inner : List Char) : Option String :=
  let named := fun cs : List Char => pictureFor? (Text.lower (String.ofList cs))
  let variant := emojiVariants.find? fun v => v.1.toList.isSuffixOf inner
  match variant with
  | some v => (named (inner.take (inner.length - v.1.length))).map fun e => e.push v.2
  | none => named inner

/-- A character of a name between colons. -/
def isEmojiNameChar (c : Char) : Bool := c != ':' && !Text.isBlank c

/-- Puts pictures in place of names between colons. A pair of colons is used once, whether its name
is known or not. -/
def replaceEmoji : (fuel : Nat) → List Char → List Char
  | 0, cs => cs
  | _ + 1, [] => []
  | fuel + 1, c :: r =>
    if c = ':' then
      let inner := r.takeWhile isEmojiNameChar
      match r.dropWhile isEmojiNameChar with
      | ':' :: rest =>
        (match emojiFor? inner with
          | some e => e.toList
          | none => ':' :: inner ++ [':']) ++ replaceEmoji fuel rest
      | _ => c :: replaceEmoji fuel r
    else c :: replaceEmoji fuel r

/-- The text with pictures in place of their names. -/
def withEmoji (s : String) : String :=
  let cs := s.toList
  String.ofList (replaceEmoji cs.length cs)

/-- Text without colons has no names of pictures. -/
theorem replaceEmoji_of_no_colon (fuel : Nat) (cs : List Char) (h : ':' ∉ cs) :
    replaceEmoji fuel cs = cs := by
  induction fuel generalizing cs with
  | zero => rfl
  | succ fuel ih =>
    cases cs with
    | nil => rfl
    | cons c r =>
      simp only [List.mem_cons, not_or] at h
      rw [replaceEmoji, if_neg (Ne.symm h.1), ih r h.2]

end ReleaseRefs.Cli
