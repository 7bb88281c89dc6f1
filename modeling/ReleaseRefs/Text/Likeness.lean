import ReleaseRefs.Text.CodePoint

/-!
# `ReleaseRefs.Text.Likeness`: words that look like a given word

Two words are alike as far as they share blocks of characters in the same order: the longest block
is found first, then the blocks on either side of it.

- `shared` counts the code points in such blocks.
- `closest` gives up to three words that are alike enough.
-/

set_option autoImplicit false

namespace ReleaseRefs.Text

/-- How many code points two rows have in common at their front. -/
def commonStart : List Nat → List Nat → Nat
  | a :: r, b :: s => if a = b then commonStart r s + 1 else 0
  | _, _ => 0

/-- A block that two rows share: where it starts in either, and its length. -/
structure Block where
  left : Nat
  right : Nat
  size : Nat
  deriving DecidableEq, Repr

/-- The longer of two blocks; the first if they are equally long. -/
def Block.longer (b c : Block) : Block := if b.size < c.size then c else b

/-- The longest block that two rows share; of equally long ones that which comes first. -/
def longestBlock (as bs : List Nat) : Block :=
  ((List.range as.length).flatMap fun i => (List.range bs.length).map fun j =>
    Block.mk i j (commonStart (as.drop i) (bs.drop j))).foldl Block.longer ⟨0, 0, 0⟩

/-- How many code points stand in shared blocks. -/
def shared : (fuel : Nat) → List Nat → List Nat → Nat
  | 0, _, _ => 0
  | fuel + 1, as, bs =>
    let b := longestBlock as bs
    if b.size = 0 then 0
    else
      shared fuel (as.take b.left) (bs.take b.right) + b.size +
        shared fuel (as.drop (b.left + b.size)) (bs.drop (b.right + b.size))

/-- A word with twice the code points it shares and the sum of the lengths. -/
structure Likeness where
  word : String
  twice : Nat
  total : Nat

/-- How much a word is like a wanted one. -/
def likeness (wanted word : String) : Likeness :=
  let as := codePoints word.toList
  let bs := codePoints wanted.toList
  ⟨word, 2 * shared (as.length + bs.length) as bs, as.length + bs.length⟩

/-- Six tenths of the code points are shared. -/
def Likeness.isClose (l : Likeness) : Bool := decide (6 * l.total ≤ 10 * l.twice)

/-- The first of two words comes before the second: it is more alike, or as alike and later in the
order of words. -/
def Likeness.before (l m : Likeness) : Bool :=
  let x := l.twice * m.total
  let y := m.twice * l.total
  decide (y < x) || (x == y && atMost m.word l.word)

/-- Up to three words that are most like the wanted one, in the order of words. -/
def closest (wanted : String) (words : List String) : List String :=
  let close := (words.map (likeness wanted)).filter Likeness.isClose
  (((close.mergeSort Likeness.before).take 3).map Likeness.word).mergeSort atMost

end ReleaseRefs.Text
