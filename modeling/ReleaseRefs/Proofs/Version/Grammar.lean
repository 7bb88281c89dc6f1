import Mathlib.Data.List.Induction
import ReleaseRefs.Version

/-!
# `ReleaseRefs.Proofs.Version.Grammar`: the texts that are versions

The grammar of semantic versions is given here rule by rule, as a relation that knows nothing of how
a version is read.

- `Parts` has the five parts of a version, `Parts.Derived` says that each follows its rule, and
  `Parts.chars` puts them together.
- `parse?_eq_some_iff`: reading accepts exactly the texts of derived parts whose numerals are not
  too long, and gives the version that they stand for.
- `text_of_parse?`: writing a version that was read gives the text back, character for character.
-/

set_option autoImplicit false

namespace ReleaseRefs.Proofs.Version

open ReleaseRefs.Version

/-! ### The grammar -/

/-- One of the digits from `0` to `9`. -/
def IsDigit (c : Char) : Prop := '0' ≤ c ∧ c ≤ '9'

instance : DecidablePred IsDigit := fun c => inferInstanceAs (Decidable ('0' ≤ c ∧ c ≤ '9'))

/-- A digit other than `0`. -/
def IsPositive (c : Char) : Prop := '1' ≤ c ∧ c ≤ '9'

/-- A letter of ASCII. -/
def IsLetter (c : Char) : Prop := ('A' ≤ c ∧ c ≤ 'Z') ∨ ('a' ≤ c ∧ c ≤ 'z')

/-- A letter or a dash. -/
def IsNonDigit (c : Char) : Prop := IsLetter c ∨ c = '-'

/-- A character of identifiers. -/
def IsIdentifierCharacter (c : Char) : Prop := IsDigit c ∨ IsNonDigit c

/-- One or more characters of a class. -/
inductive Row (Member : Char → Prop) : List Char → Prop where
  | one {c : Char} : Member c → Row Member [c]
  | more {c : Char} {cs : List Char} : Member c → Row Member cs → Row Member (c :: cs)

/-- A numeral without leading zeros. -/
inductive Numeral : List Char → Prop where
  | zero : Numeral ['0']
  | digit {c : Char} : IsPositive c → Numeral [c]
  | digits {c : Char} {cs : List Char} : IsPositive c → Row IsDigit cs → Numeral (c :: cs)

/-- An identifier with a letter or a dash in it. -/
inductive Alphanumeric : List Char → Prop where
  | alone {c : Char} : IsNonDigit c → Alphanumeric [c]
  | first {c : Char} {r : List Char} :
      IsNonDigit c → Row IsIdentifierCharacter r → Alphanumeric (c :: r)
  | last {l : List Char} {c : Char} :
      Row IsIdentifierCharacter l → IsNonDigit c → Alphanumeric (l ++ [c])
  | within {l : List Char} {c : Char} {r : List Char} :
      Row IsIdentifierCharacter l → IsNonDigit c → Row IsIdentifierCharacter r →
        Alphanumeric (l ++ c :: r)

/-- An identifier of a prerelease. -/
inductive PrereleaseIdentifier (cs : List Char) : Prop where
  | alphanumeric : Alphanumeric cs → PrereleaseIdentifier cs
  | numeral : Numeral cs → PrereleaseIdentifier cs

/-- An identifier of build metadata. -/
inductive BuildIdentifier (cs : List Char) : Prop where
  | alphanumeric : Alphanumeric cs → BuildIdentifier cs
  | digits : Row IsDigit cs → BuildIdentifier cs

/-- One or more identifiers joined by dots. -/
inductive Dotted (Identifier : List Char → Prop) : List Char → Prop where
  | one {x : List Char} : Identifier x → Dotted Identifier x
  | more {x cs : List Char} :
      Identifier x → Dotted Identifier cs → Dotted Identifier (x ++ '.' :: cs)

/-- The parts of a version as they are written. -/
structure Parts where
  major : List Char
  minor : List Char
  patch : List Char
  prerelease : Option (List Char)
  build : Option (List Char)

namespace Parts

/-- A part behind its mark, if it is there. -/
def behind (mark : Char) (part : Option (List Char)) : List Char := (part.map (mark :: ·)).getD []

/-- The three numerals joined by dots. -/
def coreChars (p : Parts) : List Char := p.major ++ '.' :: (p.minor ++ '.' :: p.patch)

/-- The parts put together. -/
def chars (p : Parts) : List Char :=
  p.coreChars ++ behind '-' p.prerelease ++ behind '+' p.build

/-- Each part follows its rule. -/
structure Derived (p : Parts) : Prop where
  major : Numeral p.major
  minor : Numeral p.minor
  patch : Numeral p.patch
  prerelease : ∀ x ∈ p.prerelease, Dotted PrereleaseIdentifier x
  build : ∀ x ∈ p.build, Dotted BuildIdentifier x

/-- No numeral is longer than integers may be. -/
structure Short (p : Parts) : Prop where
  major : p.major.length ≤ Integer.maxDigits
  minor : p.minor.length ≤ Integer.maxDigits
  patch : p.patch.length ≤ Integer.maxDigits

/-- The number that digits stand for. -/
def number (ds : List Char) : Nat := Text.ofDigits 10 (ds.filterMap Text.asciiDigitValue?)

/-- The version that the parts stand for. -/
def version (p : Parts) : Version where
  major := number p.major
  minor := number p.minor
  patch := number p.patch
  prerelease := p.prerelease.map String.ofList
  build := p.build.map String.ofList

end Parts

/-- The characters of a version with numerals that are not too long. -/
def Readable (cs : List Char) : Prop := ∃ p : Parts, p.Derived ∧ p.Short ∧ p.chars = cs

/-! ### Classes of characters -/

theorem isDigit_iff {c : Char} : c.isDigit = true ↔ IsDigit c := by
  simp only [Char.isDigit, IsDigit, Char.le_def, Bool.and_eq_true, decide_eq_true_eq]

/-- A digit other than `0` is a digit that is not `0`. -/
theorem isPositive_iff {c : Char} : IsPositive c ↔ IsDigit c ∧ c ≠ '0' := by
  simp only [IsPositive, IsDigit, Char.le_def, UInt32.le_iff_toNat_le, ne_eq, ← Char.toNat_inj,
    Char.toNat]
  have zero : '0'.val.toNat = 48 := rfl
  have one : '1'.val.toNat = 49 := rfl
  omega

theorem isIdentifierChar_iff {c : Char} :
    isIdentifierChar c = true ↔ IsIdentifierCharacter c := by
  have upper : c.isUpper = true ↔ 'A' ≤ c ∧ c ≤ 'Z' := decide_eq_true_iff
  have lower : c.isLower = true ↔ 'a' ≤ c ∧ c ≤ 'z' :=
    (Bool.and_eq_true _ _).to_iff.trans (and_congr decide_eq_true_iff decide_eq_true_iff)
  have letter : c.isAlpha = true ↔ IsLetter c :=
    (Bool.or_eq_true _ _).to_iff.trans (or_congr upper lower)
  simp only [isIdentifierChar, Char.isAlphanum, Bool.or_eq_true, beq_iff_eq, letter, isDigit_iff,
    IsIdentifierCharacter, IsNonDigit]
  tauto

/-- Characters of a class are a row of it unless there are none. -/
theorem row_iff {Member : Char → Prop} {cs : List Char} :
    Row Member cs ↔ cs ≠ [] ∧ ∀ c ∈ cs, Member c := by
  constructor
  · intro row
    induction row with
    | one member => simpa using member
    | more member _ ih => simpa using ⟨member, ih.2⟩
  · rintro ⟨some, all⟩
    induction cs with
    | nil => exact absurd rfl some
    | cons c r ih =>
      have member := all c List.mem_cons_self
      cases r with
      | nil => exact .one member
      | cons d r =>
        exact .more member (ih (by simp) fun e later => all e (List.mem_cons_of_mem c later))

/-! ### Numerals and identifiers -/

theorem isNumeral_iff {cs : List Char} : isNumeral cs = true ↔ Numeral cs := by
  have digits {c : Char} {r : List Char} :
      Numeral (c :: r) ↔ (c :: r = ['0']) ∨ (IsPositive c ∧ ∀ d ∈ r, IsDigit d) := by
    constructor
    · rintro (_ | positive | ⟨positive, row⟩)
      · exact .inl rfl
      · exact .inr ⟨positive, by simp⟩
      · exact .inr ⟨positive, (row_iff.1 row).2⟩
    · rintro (zero | ⟨positive, all⟩)
      · exact zero ▸ .zero
      · cases r with
        | nil => exact .digit positive
        | cons d r => exact .digits positive (row_iff.2 ⟨by simp, all⟩)
  unfold isNumeral
  split
  · exact ⟨nofun, nofun⟩
  · exact ⟨fun _ => .zero, fun _ => rfl⟩
  · next c r notZero =>
    have other : ¬ c :: r = ['0'] := fun same => by
      obtain ⟨rfl, rfl⟩ := List.cons.inj same
      exact notZero rfl rfl
    rw [digits, or_iff_right other, isPositive_iff]
    simp only [bne_iff_ne, ne_eq, List.all_cons, Bool.and_eq_true, List.all_eq_true, isDigit_iff]
    exact and_assoc.symm.trans (and_congr_left fun _ => and_comm)

theorem isBuildIdentifier_iff_row {cs : List Char} :
    isBuildIdentifier cs = true ↔ Row IsIdentifierCharacter cs := by
  simp only [isBuildIdentifier, row_iff, Bool.and_eq_true, Bool.not_eq_true',
    List.isEmpty_eq_false_iff, List.all_eq_true, isIdentifierChar_iff]

/-- An identifier is alphanumeric if not all of its characters are digits. -/
theorem alphanumeric_iff {cs : List Char} :
    Alphanumeric cs ↔ Row IsIdentifierCharacter cs ∧ ∃ c ∈ cs, IsNonDigit c := by
  constructor
  · rintro (nonDigit | ⟨nonDigit, row⟩ | ⟨row, nonDigit⟩ | ⟨left, nonDigit, right⟩)
    · exact ⟨.one (.inr nonDigit), _, by simp, nonDigit⟩
    · exact ⟨.more (.inr nonDigit) row, _, by simp, nonDigit⟩
    · refine ⟨row_iff.2 ⟨by simp, ?_⟩, _, by simp, nonDigit⟩
      simpa [or_imp, forall_and] using ⟨(row_iff.1 row).2, .inr nonDigit⟩
    · refine ⟨row_iff.2 ⟨by simp, ?_⟩, _, by simp, nonDigit⟩
      simpa [or_imp, forall_and] using
        ⟨(row_iff.1 left).2, .inr nonDigit, (row_iff.1 right).2⟩
  · rintro ⟨row, c, member, nonDigit⟩
    obtain ⟨l, r, rfl⟩ := List.append_of_mem member
    have all := (row_iff.1 row).2
    have left (some : l ≠ []) : Row IsIdentifierCharacter l :=
      row_iff.2 ⟨some, fun d member => all d (List.mem_append_left _ member)⟩
    have right (some : r ≠ []) : Row IsIdentifierCharacter r :=
      row_iff.2 ⟨some, fun d member =>
        all d (List.mem_append_right _ (List.mem_cons_of_mem c member))⟩
    by_cases noLeft : l = [] <;> by_cases noRight : r = []
    · subst noLeft noRight
      exact .alone nonDigit
    · subst noLeft
      exact .first nonDigit (right noRight)
    · subst noRight
      exact .last (left noLeft) nonDigit
    · exact .within (left noLeft) nonDigit (right noRight)

/-- No digit is a letter or a dash. -/
theorem not_isNonDigit {c : Char} (digit : IsDigit c) : ¬ IsNonDigit c := by
  rintro (letter | rfl)
  · simp only [IsDigit, IsLetter, Char.le_def, UInt32.le_iff_toNat_le] at digit letter
    have nine : '9'.val.toNat = 57 := rfl
    have upper : 'A'.val.toNat = 65 := rfl
    have lower : 'a'.val.toNat = 97 := rfl
    omega
  · exact absurd digit (by decide)

/-- A row of identifier characters holds a letter or a dash, or it is a row of digits. -/
theorem alphanumeric_or_digits {cs : List Char} (row : Row IsIdentifierCharacter cs) :
    Alphanumeric cs ∨ Row IsDigit cs := by
  by_cases nonDigit : ∃ c ∈ cs, IsNonDigit c
  · exact .inl (alphanumeric_iff.2 ⟨row, nonDigit⟩)
  · obtain ⟨some, all⟩ := row_iff.1 row
    exact .inr (row_iff.2 ⟨some, fun c member =>
      (all c member).resolve_right fun other => nonDigit ⟨c, member, other⟩⟩)

/-- A row of digits is a row of identifier characters. -/
theorem row_of_digits {cs : List Char} (digits : Row IsDigit cs) : Row IsIdentifierCharacter cs :=
  row_iff.2 ⟨(row_iff.1 digits).1, fun c member => .inl ((row_iff.1 digits).2 c member)⟩

theorem isBuildIdentifier_iff {cs : List Char} :
    isBuildIdentifier cs = true ↔ BuildIdentifier cs := by
  rw [isBuildIdentifier_iff_row]
  constructor
  · intro row
    exact (alphanumeric_or_digits row).elim .alphanumeric .digits
  · rintro (alphanumeric | digits)
    · exact (alphanumeric_iff.1 alphanumeric).1
    · exact row_of_digits digits

/-- A numeral is a row of digits. -/
theorem row_of_numeral {cs : List Char} (numeral : Numeral cs) : Row IsDigit cs := by
  cases numeral with
  | zero => exact .one (by decide)
  | digit positive => exact .one (isPositive_iff.1 positive).1
  | digits positive row => exact .more (isPositive_iff.1 positive).1 row

theorem isPrereleaseIdentifier_iff {cs : List Char} :
    isPrereleaseIdentifier cs = true ↔ PrereleaseIdentifier cs := by
  simp only [isPrereleaseIdentifier, Bool.and_eq_true, Bool.or_eq_true, Bool.not_eq_true',
    List.all_eq_false, isBuildIdentifier_iff_row, isNumeral_iff, isDigit_iff]
  constructor
  · rintro ⟨row, ⟨c, member, other⟩ | numeral⟩
    · have nonDigit := ((row_iff.1 row).2 c member).resolve_left other
      exact .alphanumeric (alphanumeric_iff.2 ⟨row, c, member, nonDigit⟩)
    · exact .numeral numeral
  · rintro (alphanumeric | numeral)
    · obtain ⟨row, c, member, nonDigit⟩ := alphanumeric_iff.1 alphanumeric
      exact ⟨row, .inl ⟨c, member, fun digit => not_isNonDigit digit nonDigit⟩⟩
    · exact ⟨row_of_digits (row_of_numeral numeral), .inr numeral⟩

/-! ### Separators -/

/-- A character that is no identifier character is in no row of them. -/
theorem not_mem_of_row {cs : List Char} (row : Row IsIdentifierCharacter cs) {c : Char}
    (other : isIdentifierChar c = false) : c ∉ cs := by
  intro member
  rw [isIdentifierChar_iff.2 ((row_iff.1 row).2 c member)] at other
  cases other

/-- The identifiers of a dotted text have only identifier characters, so that nothing else but dots
is in the text. -/
theorem not_mem_of_dotted {Identifier : List Char → Prop}
    (row : ∀ {x}, Identifier x → Row IsIdentifierCharacter x) {cs : List Char}
    (dotted : Dotted Identifier cs) {c : Char} (other : isIdentifierChar c = false)
    (notDot : c ≠ '.') : c ∉ cs := by
  induction dotted with
  | one identifier => exact not_mem_of_row (row identifier) other
  | more identifier _ ih =>
    simp only [List.mem_append, List.mem_cons, not_or]
    exact ⟨not_mem_of_row (row identifier) other, notDot, ih⟩

/-- Cutting a text at its dots gives identifiers exactly if it is dotted identifiers. -/
theorem all_splitAt_iff {Identifier : List Char → Prop} {valid : List Char → Bool}
    (valid_iff : ∀ {x}, valid x = true ↔ Identifier x)
    (row : ∀ {x}, Identifier x → Row IsIdentifierCharacter x) {cs : List Char} :
    (Text.splitAt '.' cs).all valid = true ↔ Dotted Identifier cs := by
  have noDot {x : List Char} (identifier : Identifier x) : '.' ∉ x :=
    not_mem_of_row (row identifier) (by decide)
  constructor
  · -- Joining identifiers gives a dotted text, and joining the parts of a text gives the text.
    have joined (first : List Char) (others : List (List Char))
        (all : ∀ x ∈ first :: others, Identifier x) :
        Dotted Identifier (['.'].intercalate (first :: others)) := by
      induction others generalizing first with
      | nil => simpa using .one (all first List.mem_cons_self)
      | cons next others ih =>
        rw [List.intercalate_cons_cons, List.append_assoc]
        exact .more (all first List.mem_cons_self)
          (ih next fun x member => all x (List.mem_cons_of_mem first member))
    intro all
    cases parts : Text.splitAt '.' cs with
    | nil => exact absurd parts (Text.splitAt_ne_nil '.' cs)
    | cons first others =>
      rw [← Text.intercalate_splitAt '.' cs, parts]
      rw [parts, List.all_eq_true] at all
      exact joined first others fun x member => valid_iff.1 (all x member)
  · intro dotted
    induction dotted with
    | one identifier =>
      rw [Text.splitAt_of_not_mem (noDot identifier)]
      simpa using valid_iff.2 identifier
    | more identifier _ ih =>
      rw [Text.splitAt_append_cons (noDot identifier), List.all_cons, ih, valid_iff.2 identifier]
      rfl

theorem PrereleaseIdentifier.row {x : List Char} (identifier : PrereleaseIdentifier x) :
    Row IsIdentifierCharacter x := by
  rcases identifier with alphanumeric | numeral
  · exact (alphanumeric_iff.1 alphanumeric).1
  · exact row_of_digits (row_of_numeral numeral)

theorem BuildIdentifier.row {x : List Char} (identifier : BuildIdentifier x) :
    Row IsIdentifierCharacter x :=
  isBuildIdentifier_iff_row.1 (isBuildIdentifier_iff.2 identifier)

/-! ### Reading -/

open Parts (number behind)

theorem readNumeral?_eq_some_iff {cs : List Char} {n : Nat} :
    readNumeral? cs = some n ↔
      Numeral cs ∧ cs.length ≤ Integer.maxDigits ∧ number cs = n := by
  unfold readNumeral?
  split
  · next fits =>
    rw [isNumeral_iff] at fits
    simp [number, fits]
  · next unfit =>
    rw [isNumeral_iff] at unfit
    simp only [reduceCtorEq, false_iff]
    exact fun fits => unfit ⟨fits.1, fits.2.1⟩

/-- A part that is read is absent or dotted identifiers. -/
theorem readPart?_eq_some_iff {Identifier : List Char → Prop} {valid : List Char → Bool}
    (valid_iff : ∀ {x}, valid x = true ↔ Identifier x)
    (row : ∀ {x}, Identifier x → Row IsIdentifierCharacter x) {part : Option (List Char)}
    {r : Option String} :
    readPart? valid part = some r ↔
      (∀ x ∈ part, Dotted Identifier x) ∧ part.map String.ofList = r := by
  cases part with
  | none => simp [readPart?]
  | some cs =>
    rw [readPart?]
    split
    · next dotted =>
      rw [all_splitAt_iff valid_iff row] at dotted
      simp [dotted]
    · next other =>
      rw [all_splitAt_iff valid_iff row] at other
      simp [other]

/-- Text behind a mark that the text in front of it does not hold is cut off there. -/
theorem splitOnce_behind {mark : Char} {front : List Char} (free : mark ∉ front)
    (part : Option (List Char)) :
    Text.splitOnce mark (front ++ behind mark part) = (front, part) := by
  cases part with
  | none => simpa [behind] using Text.splitOnce_of_not_mem free
  | some cs => exact Text.splitOnce_append_cons free cs

/-- A numeral holds digits only. -/
theorem not_mem_of_numeral {cs : List Char} (numeral : Numeral cs) {c : Char}
    (other : ¬ IsDigit c) : c ∉ cs :=
  fun member => other ((row_iff.1 (row_of_numeral numeral)).2 c member)

section Derived

variable {p : Parts}

/-- Apart from dots, the core of a version holds digits only. -/
theorem Parts.Derived.not_mem_core (derived : p.Derived) {c : Char} (other : ¬ IsDigit c)
    (notDot : c ≠ '.') : c ∉ p.coreChars := by
  simp only [Parts.coreChars, List.mem_append, List.mem_cons, not_or]
  exact ⟨not_mem_of_numeral derived.major other, notDot,
    not_mem_of_numeral derived.minor other, notDot, not_mem_of_numeral derived.patch other⟩

/-- The first `+` of a version stands before its build metadata. -/
theorem Parts.Derived.splitOnce_build (derived : p.Derived) :
    Text.splitOnce '+' p.chars = (p.coreChars ++ behind '-' p.prerelease, p.build) := by
  refine splitOnce_behind ?_ p.build
  rw [List.mem_append, not_or]
  refine ⟨derived.not_mem_core (by decide) (by decide), ?_⟩
  cases part : p.prerelease with
  | none => simp [behind]
  | some x =>
    have free := not_mem_of_dotted PrereleaseIdentifier.row (derived.prerelease x part)
      (c := '+') (by decide) (by decide)
    simpa [behind] using free

/-- The first `-` before the build metadata stands before the prerelease. -/
theorem Parts.Derived.splitOnce_prerelease (derived : p.Derived) :
    Text.splitOnce '-' (p.coreChars ++ behind '-' p.prerelease) = (p.coreChars, p.prerelease) :=
  splitOnce_behind (derived.not_mem_core (by decide) (by decide)) p.prerelease

theorem Parts.Derived.splitAt_core (derived : p.Derived) :
    Text.splitAt '.' p.coreChars = [p.major, p.minor, p.patch] := by
  have noDot {cs : List Char} (numeral : Numeral cs) : '.' ∉ cs :=
    not_mem_of_numeral numeral (by decide)
  rw [Parts.coreChars, Text.splitAt_append_cons (noDot derived.major),
    Text.splitAt_append_cons (noDot derived.minor), Text.splitAt_of_not_mem (noDot derived.patch)]

end Derived

/-- What is read are the parts between the separators. -/
theorem parseChars?_eq_some_iff {cs : List Char} {v : ReleaseRefs.Version} :
    parseChars? cs = some v ↔
      ∃ p : Parts, p.Derived ∧ p.Short ∧ p.chars = cs ∧ p.version = v := by
  constructor
  · intro read
    have whole := Text.splitOnce_append '+' cs
    have front := Text.splitOnce_append '-' (Text.splitOnce '+' cs).1
    have core := Text.intercalate_splitAt '.' (Text.splitOnce '-' (Text.splitOnce '+' cs).1).1
    unfold parseChars? at read
    simp only at read
    split at read
    · next a b c parts =>
      simp only [Option.bind_eq_bind, Option.bind_eq_some_iff, readNumeral?_eq_some_iff,
        readPart?_eq_some_iff isPrereleaseIdentifier_iff PrereleaseIdentifier.row,
        readPart?_eq_some_iff isBuildIdentifier_iff BuildIdentifier.row] at read
      obtain ⟨_, ⟨major, majorShort, rfl⟩, _, ⟨minor, minorShort, rfl⟩, _,
        ⟨patch, patchShort, rfl⟩, _, ⟨prerelease, rfl⟩, _, ⟨build, rfl⟩, same⟩ := read
      refine ⟨⟨a, b, c, _, _⟩, ⟨major, minor, patch, prerelease, build⟩,
        ⟨majorShort, minorShort, patchShort⟩, ?_, Option.some.inj same⟩
      rw [parts] at core
      have core : a ++ '.' :: (b ++ '.' :: c) =
          (Text.splitOnce '-' (Text.splitOnce '+' cs).1).1 := by
        simpa [List.intercalate] using core
      rw [Parts.chars, Parts.coreChars, core]
      simp only [behind]
      rw [front, whole]
    · cases read
  · rintro ⟨p, derived, short, rfl, rfl⟩
    have numeral {ds : List Char} (numeral : Numeral ds)
        (fits : ds.length ≤ Integer.maxDigits) : readNumeral? ds = some (number ds) :=
      readNumeral?_eq_some_iff.2 ⟨numeral, fits, rfl⟩
    have prerelease : readPart? isPrereleaseIdentifier p.prerelease =
        some (p.prerelease.map String.ofList) :=
      (readPart?_eq_some_iff isPrereleaseIdentifier_iff PrereleaseIdentifier.row).2
        ⟨derived.prerelease, rfl⟩
    have build : readPart? isBuildIdentifier p.build = some (p.build.map String.ofList) :=
      (readPart?_eq_some_iff isBuildIdentifier_iff BuildIdentifier.row).2 ⟨derived.build, rfl⟩
    unfold parseChars?
    simp only [derived.splitOnce_build, derived.splitOnce_prerelease, derived.splitAt_core,
      numeral derived.major short.major, numeral derived.minor short.minor,
      numeral derived.patch short.patch, prerelease, build, Option.bind_eq_bind, Option.bind_some]
    rfl

/-- Reading accepts exactly the texts of derived parts with numerals that are not too long. -/
theorem parse?_eq_some_iff {s : String} {v : ReleaseRefs.Version} :
    parse? s = some v ↔
      ∃ p : Parts, p.Derived ∧ p.Short ∧ p.chars = s.toList ∧ p.version = v :=
  parseChars?_eq_some_iff

/-- A text is read if and only if the grammar has it and its numerals are not too long. -/
theorem parse?_isSome_iff {s : String} : (∃ v, parse? s = some v) ↔ Readable s.toList := by
  simp only [parse?_eq_some_iff, Readable]
  constructor
  · rintro ⟨v, p, derived, short, chars, -⟩
    exact ⟨p, derived, short, chars⟩
  · rintro ⟨p, derived, short, chars⟩
    exact ⟨p.version, p, derived, short, chars, rfl⟩

/-! ### Writing -/

/-- One more digit behind others. -/
theorem number_append_digit (ds : List Char) {d : Char} (digit : IsDigit d) :
    number (ds ++ [d]) = 10 * number ds + (d.toNat - 48) := by
  have value : Text.asciiDigitValue? d = some (d.toNat - 48) := if_pos digit
  simp [number, Text.ofDigits, List.filterMap_append, value, Nat.mul_comm]

/-- A digit is written for its own value. -/
theorem toDigits_digit {d : Char} (digit : IsDigit d) : Nat.toDigits 10 (d.toNat - 48) = [d] := by
  have written : ∀ n < 10, Nat.toDigits 10 n = [Char.ofNat (48 + n)] := by decide
  simp only [IsDigit, Char.le_def, UInt32.le_iff_toNat_le] at digit
  have low : 48 ≤ d.toNat := digit.1
  have high : d.toNat ≤ 57 := digit.2
  rw [written _ (by omega), Nat.add_sub_cancel' low, Char.ofNat_toNat]

/-- A numeral without leading zeros is how its number is written. -/
theorem toDigits_number {ds : List Char} (numeral : Numeral ds) :
    Nat.toDigits 10 (number ds) = ds := by
  -- Each further digit is written behind the ones before, because these stand for no zero.
  have positive {c : Char} (first : IsPositive c) (cs : List Char) (all : ∀ d ∈ cs, IsDigit d) :
      0 < number (c :: cs) ∧ Nat.toDigits 10 (number (c :: cs)) = c :: cs := by
    induction cs using List.reverseRecOn with
    | nil =>
      have digit := (isPositive_iff.1 first).1
      have alone : number [c] = c.toNat - 48 := by
        simpa [number, Text.ofDigits] using number_append_digit [] digit
      rw [alone, toDigits_digit digit]
      refine ⟨?_, rfl⟩
      simp only [IsPositive, Char.le_def, UInt32.le_iff_toNat_le] at first
      have low : 49 ≤ c.toNat := first.1
      omega
    | append_singleton cs d ih =>
      obtain ⟨some, written⟩ := ih fun e member => all e (List.mem_append_left _ member)
      have digit : IsDigit d := all d (by simp)
      have small : d.toNat - 48 < 10 := by
        simp only [IsDigit, Char.le_def, UInt32.le_iff_toNat_le] at digit
        have high : d.toNat ≤ 57 := digit.2
        omega
      rw [← List.cons_append, number_append_digit _ digit]
      refine ⟨by omega, ?_⟩
      rw [← Nat.toDigits_append_toDigits (by decide) some small, written, toDigits_digit digit]
  cases numeral with
  | zero => rfl
  | digit first => exact (positive first [] (by simp)).2
  | digits first row => exact (positive first _ (row_iff.1 row).2).2

theorem toString_number {ds : List Char} (numeral : Numeral ds) :
    toString (number ds) = String.ofList ds := by
  rw [Nat.toString_eq_repr, Nat.repr, toDigits_number numeral]

/-- The version that derived parts stand for is written as these parts. -/
theorem Parts.Derived.text_version {p : Parts} (derived : p.Derived) :
    p.version.text = String.ofList p.chars := by
  have core : p.version.core = String.ofList p.coreChars := by
    simp only [ReleaseRefs.Version.core, Parts.version, toString_number derived.major,
      toString_number derived.minor, toString_number derived.patch, Parts.coreChars]
    rw [← String.toList_inj]
    simp
  rw [ReleaseRefs.Version.text, core, ← String.toList_inj]
  simp only [Parts.version, Parts.chars, String.toList_append, String.toList_ofList]
  cases p.prerelease <;> cases p.build <;> simp [behind]

/-- Writing a version that was read gives the text back. -/
theorem text_of_parse? {s : String} {v : ReleaseRefs.Version} (read : parse? s = some v) :
    v.text = s := by
  obtain ⟨p, derived, -, chars, rfl⟩ := parse?_eq_some_iff.1 read
  rw [derived.text_version, chars, String.ofList_toList]

end ReleaseRefs.Proofs.Version
