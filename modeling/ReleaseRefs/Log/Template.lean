import ReleaseRefs.Text.CodePoint

/-!
# `ReleaseRefs.Log.Template`: wordings with marks for arguments

A wording may hold marks: a percent sign, perhaps a key in parentheses, flags, a least width, a
precision, and the letter of a conversion.

- `pieces` cuts a wording into characters and marks; every text has pieces, and a mark that the
  text breaks off in has no letter.
- `pieces_literal`: a wording without percent signs is its own characters.
-/

set_option autoImplicit false

namespace ReleaseRefs.Log.Template

/-- How a mark names its argument. -/
inductive Key where
  /-- The mark takes the next argument. -/
  | next
  | named (name : String)
  /-- A key whose parenthesis is never closed. -/
  | unclosed
  deriving DecidableEq, Repr

/-- A width or precision. -/
inductive Amount where
  | absent
  | given (n : Nat)
  /-- The next argument gives it. -/
  | argument
  deriving DecidableEq, Repr

/-- A place of a wording that an argument fills. -/
structure Mark where
  key : Key
  flags : List Char
  width : Amount
  precision : Amount
  /-- The code point of the letter of the conversion, and how many follow it in the wording. -/
  letter : Option (Nat × Nat)
  deriving DecidableEq, Repr

/-- A part of a wording. -/
inductive Piece where
  | literal (c : Char)
  | mark (m : Mark)
  deriving DecidableEq, Repr

/-- How many parentheses are open behind a character of a key. -/
def depthAfter (depth : Nat) (c : Char) : Nat :=
  if c = '(' then depth + 1 else if c = ')' then depth - 1 else depth

/-- The characters of a key up to the parenthesis that closes `depth` open ones and itself, and
what follows; without such a parenthesis there is no key. -/
def takeKey : (depth : Nat) → List Char → Option (List Char) × List Char
  | _, [] => (none, [])
  | depth, c :: r =>
    if c = ')' ∧ depth = 0 then (some [], r)
    else
      let found := takeKey (depthAfter depth c) r
      (found.1.map (c :: ·), found.2)

/-- The key of a mark, if a parenthesis opens one. -/
def readKey : List Char → Key × List Char
  | '(' :: r =>
    let found := takeKey 0 r
    (match found.1 with
      | some name => .named (String.ofList name)
      | none => .unclosed, found.2)
  | r => (.next, r)

/-- A flag of a mark. -/
def isFlag (c : Char) : Bool := c == '-' || c == '+' || c == ' ' || c == '#' || c == '0'

/-- A width: a star, or a row of digits. -/
def readWidth : List Char → Amount × List Char
  | '*' :: r => (.argument, r)
  | r =>
    let digits := r.takeWhile Char.isDigit
    let amount := if digits.isEmpty then .absent else .given (Nat.ofDigitChars 10 digits 0)
    (amount, r.dropWhile Char.isDigit)

/-- A precision, if a point announces one; the point alone means zero. -/
def readPrecision : List Char → Amount × List Char
  | '.' :: r =>
    let found := readWidth r
    (if found.1 = .absent then .given 0 else found.1, found.2)
  | r => (.absent, r)

/-- Leaves out one letter that tells the size of a number, which means nothing. -/
def skipSize : List Char → List Char
  | c :: r => if c = 'h' ∨ c = 'l' ∨ c = 'L' then r else c :: r
  | [] => []

/-- The code point of the letter at the front and how many follow it, and what follows it. -/
def readLetter : List Char → Option (Nat × Nat) × List Char
  | [] => (none, [])
  | c :: r =>
    let rest := if c = Text.mark then r.tail else r
    ((Text.codePoints (c :: r)).head?.map fun n => (n, (Text.codePoints rest).length), rest)

/-- The mark behind a percent sign, and what follows it. -/
def readMark (cs : List Char) : Mark × List Char :=
  let key := readKey cs
  let width := readWidth (key.2.dropWhile isFlag)
  let precision := readPrecision width.2
  let letter := readLetter (skipSize precision.2)
  (⟨key.1, key.2.takeWhile isFlag, width.1, precision.1, letter.1⟩, letter.2)

/-! ### Reading a mark only goes forward -/

theorem takeKey_length_le (depth : Nat) (cs : List Char) :
    (takeKey depth cs).2.length ≤ cs.length := by
  induction cs generalizing depth with
  | nil => simp [takeKey]
  | cons c r ih =>
    unfold takeKey
    split
    · simp
    · exact Nat.le_succ_of_le (ih _)

theorem readKey_length_le (cs : List Char) : (readKey cs).2.length ≤ cs.length := by
  unfold readKey
  split
  · exact Nat.le_succ_of_le (takeKey_length_le 0 _)
  · exact Nat.le_refl _

theorem dropWhile_length_le (p : Char → Bool) (cs : List Char) :
    (cs.dropWhile p).length ≤ cs.length := (List.dropWhile_sublist p).length_le

theorem readWidth_length_le (cs : List Char) : (readWidth cs).2.length ≤ cs.length := by
  unfold readWidth
  split
  · simp
  · exact dropWhile_length_le _ _

theorem readPrecision_length_le (cs : List Char) : (readPrecision cs).2.length ≤ cs.length := by
  unfold readPrecision
  split
  · exact Nat.le_succ_of_le (readWidth_length_le _)
  · exact Nat.le_refl _

theorem skipSize_length_le (cs : List Char) : (skipSize cs).length ≤ cs.length := by
  unfold skipSize
  split
  · split <;> simp
  · exact Nat.le_refl _

theorem readLetter_length_le (cs : List Char) : (readLetter cs).2.length ≤ cs.length := by
  unfold readLetter
  split
  · simp
  · simp only
    split
    · simp only [List.length_tail, List.length_cons]
      omega
    · simp

theorem readMark_length_le (cs : List Char) : (readMark cs).2.length ≤ cs.length := by
  have key := readKey_length_le cs
  have flags := dropWhile_length_le isFlag (readKey cs).2
  have width := readWidth_length_le ((readKey cs).2.dropWhile isFlag)
  have precision := readPrecision_length_le (readWidth ((readKey cs).2.dropWhile isFlag)).2
  have size := skipSize_length_le
    (readPrecision (readWidth ((readKey cs).2.dropWhile isFlag)).2).2
  have letter := readLetter_length_le
    (skipSize (readPrecision (readWidth ((readKey cs).2.dropWhile isFlag)).2).2)
  simp only [readMark]
  omega

/-- The pieces of a wording. Two percent signs in a row stand for one. -/
def pieces : List Char → List Piece
  | [] => []
  | '%' :: '%' :: r => .literal '%' :: pieces r
  | '%' :: r => .mark (readMark r).1 :: pieces (readMark r).2
  | c :: r => .literal c :: pieces r
termination_by cs => cs.length
decreasing_by
  · simp only [List.length_cons]; omega
  · exact Nat.lt_succ_of_le (readMark_length_le r)
  · simp

/-- A wording without percent signs is its own characters. -/
theorem pieces_literal (cs : List Char) (h : '%' ∉ cs) : pieces cs = cs.map .literal := by
  induction cs with
  | nil => simp [pieces]
  | cons c r ih =>
    simp only [List.mem_cons, not_or] at h
    have first : c ≠ '%' := Ne.symm h.1
    rw [pieces, ih h.2, List.map_cons]
    · exact fun _ e _ => first e
    · exact first

end ReleaseRefs.Log.Template
