/-!
# `ReleaseRefs.Text.CodePoint`: the code points that a text stands for

A text stands for a row of code points up to U+10FFFF. Those from U+D800 to U+DFFF are halves of
characters. Documents may name them one by one, but no `Char` is one of them: a text carries a half
as the character 0x100000 places further up. A character that has its own place there is carried
behind a mark, and so is the mark.

- `codePoints` is the row that a text stands for, `ofCodePoints` a text for a row.
- `codePoints_ofCodePoints`: the row that goes into a text comes out again.
- `carried` and `plain` go between plain characters and texts; `codePoints_plain`: a text without
  characters at or above the mark is its own characters.
- `codePoints_append_lineFeed`: at a line feed the row can be cut in two.
- `size` counts the code points of a text, `cut` takes the first ones, `atMost` orders texts by
  them.
- `isWhole` says that a text holds no halves.
-/

set_option autoImplicit false

namespace ReleaseRefs.Text

/-- The code point is a half of a character. -/
def isHalf (n : Nat) : Bool := 0xD800 ≤ n && n < 0xE000

/-- How far the character for a half lies above it. -/
def halfDistance : Nat := 0x100000

/-- The code point of the mark, right before the characters for halves. -/
def markPoint : Nat := 0x10D7FF

/-- The character behind which the next one stands for itself. -/
def mark : Char := Char.ofNat markPoint

/-- The code point is carried behind a mark. -/
def needsMark (n : Nat) : Bool := markPoint ≤ n && n < 0x10E000

/-- The character for a code point, without the mark that it may need. -/
def carrier (n : Nat) : Char := Char.ofNat (if isHalf n then halfDistance + n else n)

def carry (n : Nat) : List Char := if needsMark n then [mark, carrier n] else [carrier n]

/-- The code point that a character carries without a mark. -/
def unmarkedPoint (c : Char) : Nat :=
  if isHalf (c.toNat - halfDistance) then c.toNat - halfDistance else c.toNat

/-- The code points that characters stand for. -/
def codePoints : List Char → List Nat
  | [] => []
  | [c] => [unmarkedPoint c]
  | c :: d :: r =>
    if c = mark then d.toNat :: codePoints r else unmarkedPoint c :: codePoints (d :: r)

/-- Characters that stand for code points. -/
def ofCodePoints (ns : List Nat) : List Char := ns.flatMap carry

/-- The text for plain characters. -/
def carried (s : String) : String := String.ofList (ofCodePoints (s.toList.map Char.toNat))

def plain (s : String) : String := String.ofList ((codePoints s.toList).map Char.ofNat)

/-- The text has no halves. -/
def isWhole (s : String) : Bool := (codePoints s.toList).all fun n => !isHalf n

/-- How many code points a text has. -/
def size (s : String) : Nat := (codePoints s.toList).length

/-- The first code points of a text, `n` at most. -/
def cut (n : Nat) (s : String) : String :=
  String.ofList (ofCodePoints ((codePoints s.toList).take n))

/-- A text that comes before another, or is it, in the order of code points. -/
def atMost (s t : String) : Bool := !decide (codePoints t.toList < codePoints s.toList)

/-! ### What goes in comes out -/

theorem isHalf_iff {n : Nat} : isHalf n = true ↔ 0xD800 ≤ n ∧ n < 0xE000 := by simp [isHalf]

theorem isHalf_eq_false {n : Nat} (h : n < 0xD800 ∨ 0xE000 ≤ n) : isHalf n = false := by
  rw [Bool.eq_false_iff, ne_eq, isHalf_iff]
  omega

theorem needsMark_iff {n : Nat} : needsMark n = true ↔ 0x10D7FF ≤ n ∧ n < 0x10E000 := by
  rw [needsMark, markPoint, Bool.and_eq_true, decide_eq_true_eq, decide_eq_true_eq]

/-- A character that is not the mark stands on its own. -/
theorem codePoints_cons {c : Char} (h : c ≠ mark) (r : List Char) :
    codePoints (c :: r) = unmarkedPoint c :: codePoints r := by
  cases r with
  | nil => simp [codePoints]
  | cons d r => rw [codePoints, if_neg h]

/-- A character behind the mark stands for itself. -/
theorem codePoints_mark (c : Char) (r : List Char) :
    codePoints (mark :: c :: r) = c.toNat :: codePoints r := by
  rw [codePoints, if_pos rfl]

/-- A number that is no half comes back from its character. -/
theorem toNat_ofNat {n : Nat} (limit : n < 0x110000) (whole : n < 0xD800 ∨ 0xE000 ≤ n) :
    (Char.ofNat n).toNat = n := by
  have valid : Nat.isValidChar n := by
    unfold Nat.isValidChar
    omega
  rw [Char.ofNat, dif_pos valid]
  rfl

/-- The number of the mark. -/
theorem toNat_mark : mark.toNat = 0x10D7FF := by
  rw [mark, markPoint]
  exact toNat_ofNat (by omega) (by omega)

/-- The character for a half lies further up. -/
theorem toNat_carrier_half {n : Nat} (h : isHalf n = true) :
    (carrier n).toNat = 0x100000 + n := by
  have bounds := isHalf_iff.1 h
  rw [carrier, if_pos h, halfDistance]
  exact toNat_ofNat (by omega) (by omega)

/-- The character for another code point is its own. -/
theorem toNat_carrier_whole {n : Nat} (limit : n < 0x110000) (h : isHalf n = false) :
    (carrier n).toNat = n := by
  have bounds : ¬ (0xD800 ≤ n ∧ n < 0xE000) := fun b => by simp [isHalf_iff.2 b] at h
  rw [carrier, if_neg (by simp [h])]
  exact toNat_ofNat limit (by omega)

/-- A code point that is carried is the first that comes out. -/
theorem codePoints_carry_append {n : Nat} (limit : n < 0x110000) (r : List Char) :
    codePoints (carry n ++ r) = n :: codePoints r := by
  unfold carry
  by_cases half : isHalf n = true
  · have bounds := isHalf_iff.1 half
    have number := toNat_carrier_half half
    have bare : needsMark n = false := by
      rw [Bool.eq_false_iff, ne_eq, needsMark_iff]
      omega
    have unlike : carrier n ≠ mark := fun same => by
      have equal := congrArg Char.toNat same
      rw [number, toNat_mark] at equal
      omega
    rw [bare, if_neg (by simp), List.singleton_append, codePoints_cons unlike, unmarkedPoint,
      number, halfDistance, Nat.add_sub_cancel_left, if_pos half]
  · have whole : isHalf n = false := by simpa using half
    have number := toNat_carrier_whole limit whole
    by_cases marked : needsMark n = true
    · rw [if_pos marked, List.cons_append, List.singleton_append, codePoints_mark, number]
    · have free : ¬ (0x10D7FF ≤ n ∧ n < 0x10E000) := fun b => marked (needsMark_iff.2 b)
      have unlike : carrier n ≠ mark := fun same => by
        have equal := congrArg Char.toNat same
        rw [number, toNat_mark] at equal
        omega
      have far : isHalf (n - 0x100000) = false := isHalf_eq_false (by omega)
      rw [if_neg marked, List.singleton_append, codePoints_cons unlike, unmarkedPoint, number,
        halfDistance, far, if_neg (by simp)]

/-- The row that goes into a text comes out again. -/
theorem codePoints_ofCodePoints (ns : List Nat) (h : ∀ n ∈ ns, n < 0x110000) :
    codePoints (ofCodePoints ns) = ns := by
  induction ns with
  | nil => simp [ofCodePoints, codePoints]
  | cons n r ih =>
    have rest := ih fun m hm => h m (by simp [hm])
    rw [ofCodePoints] at rest ⊢
    rw [List.flatMap_cons, codePoints_carry_append (h n (by simp)), rest]

/-- No character is a half. -/
theorem isHalf_toNat (c : Char) : isHalf c.toNat = false := by
  have valid : c.toNat < 0xD800 ∨ 0xDFFF < c.toNat ∧ c.toNat < 0x110000 := c.valid
  exact isHalf_eq_false (by omega)

/-- A character below the mark is carried by itself. -/
theorem carry_toNat {c : Char} (h : c.toNat < 0x10D7FF) : carry c.toNat = [c] := by
  have bare : ¬ needsMark c.toNat = true := fun m => by
    have bounds := needsMark_iff.1 m
    omega
  rw [carry, if_neg bare, carrier, isHalf_toNat, if_neg (by simp), Char.ofNat_toNat]

/-- A text of characters below the mark stands for their numbers. -/
theorem codePoints_plain (cs : List Char) (h : ∀ c ∈ cs, c.toNat < 0x10D7FF) :
    codePoints cs = cs.map Char.toNat := by
  induction cs with
  | nil => simp [codePoints]
  | cons c r ih =>
    have here := h c (by simp)
    have unlike : c ≠ mark := by
      rintro rfl
      rw [toNat_mark] at here
      exact Nat.lt_irrefl _ here
    have far : isHalf (c.toNat - 0x100000) = false := isHalf_eq_false (by omega)
    rw [codePoints_cons unlike, unmarkedPoint, halfDistance, far, if_neg (by simp),
      ih fun d hd => h d (by simp [hd]), List.map_cons]

/-- A line feed stands for itself, and what is behind it for the same as without what is in front. A
mark right in front of it counts for nothing. -/
theorem codePoints_append_lineFeed (xs ys : List Char) :
    ∃ front, (codePoints xs = front ∨ codePoints xs = front ++ [markPoint]) ∧
      codePoints (xs ++ '\n' :: ys) = front ++ 10 :: codePoints ys := by
  have lineFeed : codePoints ('\n' :: ys) = 10 :: codePoints ys := by
    rw [codePoints_cons (by decide), show unmarkedPoint '\n' = 10 by decide]
  fun_induction codePoints xs with
  | case1 => exact ⟨[], .inl rfl, lineFeed⟩
  | case2 c =>
    by_cases marked : c = mark
    · subst marked
      exact ⟨[], .inr (by decide), codePoints_mark '\n' ys⟩
    · refine ⟨[unmarkedPoint c], .inl rfl, ?_⟩
      rw [List.singleton_append, codePoints_cons marked, lineFeed, List.singleton_append]
  | case3 d r ih =>
    obtain ⟨front, same, behind⟩ := ih
    refine ⟨d.toNat :: front, by simpa using same, ?_⟩
    rw [List.cons_append, List.cons_append, codePoints_mark, behind, List.cons_append]
  | case4 c d r unmarked ih =>
    obtain ⟨front, same, behind⟩ := ih
    refine ⟨unmarkedPoint c :: front, by simpa using same, ?_⟩
    rw [List.cons_append, codePoints_cons unmarked, behind, List.cons_append]

end ReleaseRefs.Text
