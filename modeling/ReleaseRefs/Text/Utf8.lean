import ReleaseRefs.Text.Quoted

/-!
# `ReleaseRefs.Text.Utf8`: octets as text

- `Utf8.decode` turns octets into a text or says which octets do not fit; `Utf8.Misfit` words the
  complaint.
- `Utf8.unencodable?` finds the halves for which a text has no octets, `Utf8.unencodableName?` those
  for which the name of a file or a variable has none. `unencodable?_append_lineFeed`: lines that
  follow do not change what is found in a text.
-/

set_option autoImplicit false

namespace ReleaseRefs.Text.Utf8

/-- Why octets are no text. -/
inductive Reason where
  | startOctet
  | continuation
  | truncated
  deriving DecidableEq, Repr

/-- The octets that do not fit: the place of the first one, how many, and why. -/
structure Misfit where
  place : Nat
  octets : List UInt8
  reason : Reason
  deriving DecidableEq, Repr

/-- The octets that may follow a first octet: the range of the second one, and how many more follow
that may be any continuation; a first octet of ASCII has none. -/
def followers? (b : UInt8) : Option (Option ((UInt8 × UInt8) × Nat)) :=
  if b < 0x80 then some none
  else if 0xC2 ≤ b ∧ b ≤ 0xDF then some (some ((0x80, 0xBF), 0))
  else if b = 0xE0 then some (some ((0xA0, 0xBF), 1))
  else if b = 0xED then some (some ((0x80, 0x9F), 1))
  else if 0xE1 ≤ b ∧ b ≤ 0xEF then some (some ((0x80, 0xBF), 1))
  else if b = 0xF0 then some (some ((0x90, 0xBF), 2))
  else if 0xF1 ≤ b ∧ b ≤ 0xF3 then some (some ((0x80, 0xBF), 2))
  else if b = 0xF4 then some (some ((0x80, 0x8F), 2))
  else none

/-- An octet that continues a character. -/
def isContinuation (b : UInt8) : Bool := 0x80 ≤ b && b ≤ 0xBF

/-- How many of the wanted continuations stand at the front, and whether the octets end there. -/
def countContinuations : (wanted : Nat) → List UInt8 → Nat × Bool
  | 0, _ => (0, false)
  | _ + 1, [] => (0, true)
  | n + 1, b :: r =>
    if isContinuation b then
      let c := countContinuations n r
      (c.1 + 1, c.2)
    else (0, false)

/-- The bits that a first octet carries, by the number of octets behind it. -/
def leadBits (b : UInt8) (behind : Nat) : Nat :=
  b.toNat % (if behind = 1 then 32 else if behind = 2 then 16 else 8)

/-- The number that an octet and its continuations stand for. -/
def combine (lead : Nat) (more : List UInt8) : Nat :=
  more.foldl (fun n b => n * 64 + b.toNat % 64) lead

/-- One character at the front and how many octets it takes, or the octets that do not fit. -/
def decodeOne (place : Nat) : List UInt8 → Except Misfit (Char × Nat)
  | [] => .error ⟨place, [], .truncated⟩
  | b :: r =>
    match followers? b with
    | none => .error ⟨place, [b], .startOctet⟩
    | some none => .ok (Char.ofNat b.toNat, 1)
    | some (some ((low, high), more)) =>
      match r with
      | [] => .error ⟨place, [b], .truncated⟩
      | second :: rest =>
        if second < low ∨ high < second then .error ⟨place, [b], .continuation⟩
        else
          let c := countContinuations more rest
          if c.1 = more then
            .ok (Char.ofNat (combine (leadBits b (more + 1)) (second :: rest.take more)), more + 2)
          else
            .error ⟨place, b :: second :: rest.take c.1,
              if c.2 then .truncated else .continuation⟩

/-- The characters of the octets from a place on. -/
def decodeFrom : (fuel : Nat) → (place : Nat) → List UInt8 → Except Misfit (List Char)
  | 0, _, _ => .ok []
  | _ + 1, _, [] => .ok []
  | fuel + 1, place, b :: r =>
    match decodeOne place (b :: r) with
    | .error e => .error e
    | .ok (c, n) => (decodeFrom fuel (place + n) ((b :: r).drop n)).map (c :: ·)

/-- The text of the octets. -/
def decode (bs : List UInt8) : Except Misfit String :=
  (decodeFrom (bs.length + 1) 0 bs).map fun cs => carried (String.ofList cs)

/-- The wording of a reason. -/
def Reason.message : Reason → String
  | .startOctet => "invalid start byte"
  | .continuation => "invalid continuation byte"
  | .truncated => "unexpected end of data"

/-- The complaint about octets that do not fit, counted from `origin` on. -/
def Misfit.messageFrom (m : Misfit) (origin : Nat) : String :=
  let start := m.place - origin
  let which := match m.octets with
    | [b] => "byte 0x" ++ String.ofList (hexText 2 b.toNat) ++ " in position " ++ toString start
    | bs => "bytes in position " ++ toString start ++ "-" ++ toString (start + bs.length - 1)
  "'utf-8' codec can't decode " ++ which ++ ": " ++ m.reason.message

/-- How many octets are read at once where text is read piece by piece. -/
def pieceSize : Nat := 8192

/-- The start of the piece in which it shows that the octets do not fit. -/
def Misfit.piece (m : Misfit) : Nat :=
  let seen := if m.reason = .startOctet then m.place else m.place + m.octets.length
  seen / pieceSize * pieceSize

/-- Where the octets start that are decoded together with those at a place, if a piece starts
there: the character that reaches into the piece belongs to it. -/
def startOfPiece (bs : List UInt8) (piece : Nat) : Nat :=
  piece - ((bs.take (piece + 1)).reverse.takeWhile isContinuation).length

/-- The complaint where text is read piece by piece: places are counted in the piece, and octets
that are cut off at the end are looked at on their own. -/
def Misfit.streamMessage (m : Misfit) (bs : List UInt8) : String :=
  m.messageFrom
    (if m.reason = .truncated ∨ m.place ≤ m.piece then m.place else startOfPiece bs m.piece)

/-- Octets that do not fit in the first piece are counted from the start. -/
theorem startOfPiece_zero (bs : List UInt8) : startOfPiece bs 0 = 0 := Nat.zero_sub _

/-! ### Texts as octets -/

/-- Halves that have no octets: the first one, its place, and how many halves stand there. -/
structure Unencodable where
  half : Nat
  place : Nat
  count : Nat
  deriving DecidableEq, Repr

/-- The first halves from a place on that have no octets; some halves may be spared. -/
def unencodableFrom (spared : Nat → Bool) : (place : Nat) → List Nat → Option Unencodable
  | _, [] => none
  | place, n :: r =>
    if isHalf n && !spared n then some ⟨n, place, (r.takeWhile isHalf).length + 1⟩
    else unencodableFrom spared (place + 1) r

/-- The first halves of a text that have no octets. -/
def unencodable? (s : String) : Option Unencodable :=
  unencodableFrom (fun _ => false) 0 (codePoints s.toList)

/-- A half that stands for an octet outside ASCII in the name of a file or a variable. -/
def isOctetHalf (n : Nat) : Bool := 0xDC80 ≤ n && n ≤ 0xDCFF

/-- The first halves of the name of a file or a variable that have no octets. -/
def unencodableName? (s : String) : Option Unencodable :=
  unencodableFrom isOctetHalf 0 (codePoints s.toList)

/-- The complaint about halves that have no octets. -/
def Unencodable.message (u : Unencodable) : String :=
  let which :=
    if u.count = 1 then
      "character '\\u" ++ String.ofList (hexText 4 u.half) ++ "' in position " ++ toString u.place
    else
      "characters in position " ++ toString u.place ++ "-" ++ toString (u.place + u.count - 1)
  "'utf-8' codec can't encode " ++ which ++ ": surrogates not allowed"

/-- How many octets a code point takes in the name of a file. -/
def octetCount (n : Nat) : Nat :=
  if n < 0x80 ∨ isOctetHalf n then 1 else if n < 0x800 then 2 else if n < 0x10000 then 3 else 4

/-- How many octets the name of a file takes. -/
def octetSize (cs : List Char) : Nat := ((codePoints cs).map octetCount).foldl (· + ·) 0

/-- A text without halves has octets. -/
theorem unencodable?_of_isWhole (s : String) (h : isWhole s = true) : unencodable? s = none := by
  have none_from (place : Nat) (ns : List Nat) (whole : ns.all (fun n => !isHalf n) = true) :
      unencodableFrom (fun _ => false) place ns = none := by
    induction ns generalizing place with
    | nil => rfl
    | cons n r ih =>
      simp only [List.all_cons, Bool.and_eq_true, Bool.not_eq_true'] at whole
      simp [unencodableFrom, whole.1, ih (place + 1) whole.2]
  exact none_from 0 _ h

/-- Only a text without halves has octets. -/
theorem isWhole_of_unencodable? {s : String} (h : unencodable? s = none) : isWhole s = true := by
  have whole_from (place : Nat) (ns : List Nat)
      (none : unencodableFrom (fun _ => false) place ns = none) :
      ns.all (fun n => !isHalf n) = true := by
    induction ns generalizing place with
    | nil => rfl
    | cons n r ih =>
      rw [unencodableFrom] at none
      split at none
      · cases none
      · next whole =>
        rw [List.all_cons, ih (place + 1) none]
        simpa using whole
  exact whole_from 0 _ h

/-- A search goes on behind a code point that is no half, unless it has ended in front of it. -/
theorem unencodableFrom_append (spared : Nat → Bool) {n : Nat} (whole : isHalf n = false)
    (front rest : List Nat) (place : Nat) :
    unencodableFrom spared place (front ++ n :: rest) =
      (unencodableFrom spared place front).or
        (unencodableFrom spared (place + front.length + 1) rest) := by
  induction front generalizing place with
  | nil => simp [unencodableFrom, whole]
  | cons m front ih =>
    -- The halves that are counted end at the code point in between at the latest.
    have counted : (front ++ n :: rest).takeWhile isHalf = front.takeWhile isHalf := by
      rw [List.takeWhile_append, List.takeWhile_cons, whole]
      split
      · next all => simpa using (List.takeWhile_sublist (p := isHalf)).eq_of_length all |>.symm
      · rfl
    rw [List.cons_append, unencodableFrom, unencodableFrom, counted]
    split
    · rfl
    · rw [ih, List.length_cons]
      congr 2
      omega

/-- With a line feed and more text behind it, a text has the same first halves without octets. -/
theorem unencodable?_append_lineFeed {s : String} {u : Unencodable}
    (refused : unencodable? s = some u) (more : String) :
    unencodable? (s ++ "\n" ++ more) = some u := by
  obtain ⟨front, same, behind⟩ := codePoints_append_lineFeed s.toList more.toList
  have early : unencodableFrom (fun _ => false) 0 front = some u := by
    rcases same with same | same
    · rwa [unencodable?, same] at refused
    · rw [unencodable?, same, unencodableFrom_append _ (by decide)] at refused
      simpa [unencodableFrom] using refused
  have row : (s ++ "\n" ++ more).toList = s.toList ++ '\n' :: more.toList := by
    simp [String.toList_append]
  rw [unencodable?, row, behind, unencodableFrom_append _ (by decide), early, Option.some_or]

end ReleaseRefs.Text.Utf8
