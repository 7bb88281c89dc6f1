import ReleaseRefs.Yaml.Tag

/-!
# `ReleaseRefs.Yaml.Scalar`: the value of a scalar

The text of a scalar whose tag was written out may have any form, so every reader here refuses
texts as well.

- `Scalar.truth`, `Scalar.integer`, `Scalar.float`, `Scalar.time`, `Scalar.binary` read the kinds.
- `Scalar.isNanWord` tells the word for no number from the other texts that yield none.
-/

set_option autoImplicit false

namespace ReleaseRefs.Yaml.Scalar

/-- A failure of a reader that is none of the language. -/
def fault {α : Type} (kind : FaultKind) (message : String) : Except Failure α :=
  .error (.fault kind message)

def truth (s : String) : Except Failure Value :=
  let t := Text.lower s
  if t = "yes" ∨ t = "true" ∨ t = "on" then .ok (.bool true)
  else if t = "no" ∨ t = "false" ∨ t = "off" then .ok (.bool false)
  else fault .key t

def withoutUnderscores (s : String) : List Char := s.toList.filter (· != '_')

/-- The value of a digit in a base of at most sixteen, of any script. -/
def digitIn? (base : Nat) (c : Char) : Option Nat :=
  match Text.digitValue? c <|> Text.hexValue? c with
  | some d => if d < base then some d else none
  | none => none

/-- The letter that may stand behind a zero to name a base. -/
def baseLetter (base : Nat) : Char := if base = 2 then 'b' else if base = 8 then 'o' else 'x'

/-- Digits without the zero and letter that name their base. -/
def dropBaseMark (base : Nat) : List Char → List Char
  | '0' :: c :: r => if c.toLower = baseLetter base then r else '0' :: c :: r
  | r => r

/-- A whole number in a base; white space around it and a sign are allowed. -/
def inBase (base : Nat) (cs : List Char) : Except Failure Int :=
  let s := Decimal.takeSign (Text.stripWhere Text.isWhiteSpace cs)
  let body := dropBaseMark base s.2
  let ds := body.filterMap (digitIn? base)
  if ds.isEmpty ∨ ds.length < body.length then
    fault .value (Integer.malformedMessage base (String.ofList cs))
  else
    let n : Int := Text.ofDigits base ds
    .ok (if s.1 then -n else n)

/-- A whole number in base ten. -/
def inTen (cs : List Char) : Except Failure Int :=
  match Integer.read cs with
  | .ok n => .ok n
  | .error e => fault .value (e.message (String.ofList cs))

/-- Digits of base sixty, the last one first, as one number. -/
def sexagesimal (parts : List Int) : Int := parts.foldl (fun n d => n * 60 + d) 0

/-- A whole number without its sign. -/
def unsigned (cs : List Char) : Except Failure Int :=
  match cs with
  | [] => fault .index "string index out of range"
  | ['0'] => .ok 0
  | '0' :: 'b' :: r => inBase 2 r
  | '0' :: 'x' :: r => inBase 16 r
  | '0' :: _ => inBase 8 cs
  | _ =>
    if cs.contains ':' then ((Text.splitAt ':' cs).mapM inTen).map sexagesimal else inTen cs

/-- A whole number. -/
def integer (s : String) : Except Failure Value :=
  match withoutUnderscores s with
  | [] => fault .index "string index out of range"
  | cs =>
    let t := Decimal.takeSign cs
    (unsigned t.2).map fun n => .int (if t.1 then -n else n)

/-- A number with a point, by the rules for numbers in general. -/
def decimal (cs : List Char) : Except Failure Binary64 :=
  match Binary64.read? cs with
  | some x => .ok x
  | none => fault .value ("could not convert string to float: " ++
      Text.quoted (String.ofList cs))

/-- Digits of base sixty, the least first, added up from the least. -/
def floatSum : (base : Int) → (sum : Binary64) → List Binary64 → Except Failure Binary64
  | _, sum, [] => .ok sum
  | base, sum, d :: ds =>
    match Binary64.ofInt base with
    | .infinity _ => fault .overflow "int too large to convert to float"
    | b => floatSum (base * 60) (sum.add (d.mul b)) ds

/-- The word for no number. -/
def nanWord : List Char := ".nan".toList

/-- A number with a point, without its sign. -/
def unsignedFloat (cs : List Char) : Except Failure Binary64 :=
  if cs = ".inf".toList then .ok (.infinity false)
  else if cs = nanWord then .ok .nan
  else if cs.contains ':' then
    ((Text.splitAt ':' cs).mapM decimal).bind fun ds => floatSum 1 (.zero false) ds.reverse
  else decimal cs

/-- The text is the word for no number, perhaps behind a sign. -/
def isNanWord (s : String) : Bool :=
  (Decimal.takeSign (Text.lowerChars (withoutUnderscores s))).2 == nanWord

/-- A number with a point. -/
def float (s : String) : Except Failure Value :=
  match Text.lowerChars (withoutUnderscores s) with
  | [] => fault .index "string index out of range"
  | cs =>
    let t := Decimal.takeSign cs
    (unsignedFloat t.2).map fun x => .float (if t.1 then x.neg else x)

/-- A date or a time. -/
def time (s : String) : Except Failure Value :=
  match Timestamp.read? (Tag.dropFinalFeed s.toList) with
  | none => fault .attribute "'NoneType' object has no attribute 'groupdict'"
  | some t =>
    match t.value with
    | .error e => fault .value e
    | .ok (.inl d) => .ok (.date d)
    | .ok (.inr m) => .ok (.moment m)

/-- The value of a character in base sixty-four. -/
def base64Value? (c : Char) : Option Nat :=
  if 'A' ≤ c ∧ c ≤ 'Z' then some (c.toNat - 65)
  else if 'a' ≤ c ∧ c ≤ 'z' then some (c.toNat - 71)
  else if '0' ≤ c ∧ c ≤ '9' then some (c.toNat + 4)
  else if c = '+' then some 62
  else if c = '/' then some 63
  else none

/-- Octets from characters of base sixty-four: `filled` of each four are read, `left` is what the
last one left over, `pads` counts padding in a row. Other characters are passed over; the octets
end at the padding that completes four characters. -/
def octets : (filled left pads : Nat) → List Char → Option (List UInt8)
  | filled, _, _, [] => if filled = 0 then some [] else none
  | filled, left, pads, c :: r =>
    if c = '=' then
      if 2 ≤ filled ∧ 4 ≤ filled + pads + 1 then some []
      else octets filled left (if 2 ≤ filled then pads + 1 else pads) r
    else
      match base64Value? c with
      | none => octets filled left pads r
      | some v =>
        let emit (n next rest : Nat) := (octets next rest 0 r).map (UInt8.ofNat n :: ·)
        match filled with
        | 0 => octets 1 v 0 r
        | 1 => emit (left * 4 + v / 16) 2 (v % 16)
        | 2 => emit (left * 16 + v / 4) 3 (v % 4)
        | _ => emit (left * 64 + v) 0 0

/-- Octets in base sixty-four. -/
def binary (s : String) : Except Failure Value :=
  if s.toList.all fun c => c.toNat < 128 then
    match octets 0 0 0 s.toList with
    | some bs => .ok (.bytes bs)
    | none => .error (flaw "the characters do not make up whole octets")
  else .error (flaw "octets are written in ASCII")

end ReleaseRefs.Yaml.Scalar
