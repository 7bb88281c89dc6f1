import ReleaseRefs.Text.Likeness
import ReleaseRefs.Text.Split

/-!
# `ReleaseRefs.Cli.Switch`: reading the words of a command line

A word that starts with a dash and has more characters is a switch: by a long name, which may carry
its value behind an equals sign, or a row of short names. All other words are plain. Two dashes
alone end the switches.

- `Switch` has the switches, and `Grammar` which of them a command knows under which names.
- `Grammar.scan` reads the words: the uses of switches in order, and the plain words.
- `scan_plain`: words without dashes are all plain.
-/

set_option autoImplicit false

namespace ReleaseRefs.Cli

/-- The switches of the tool and of its commands. -/
inductive Switch where
  | version
  | config
  | verbose
  | quiet
  | help
  | repo
  | dryRun
  | maxRetries
  | remote
  deriving DecidableEq, Repr

/-- The switch needs a value. -/
def Switch.takesValue : Switch → Bool
  | .config => true
  | .repo => true
  | .maxRetries => true
  | .remote => true
  | _ => false

/-- A name of a switch with its dashes; the name may say no. -/
structure Spelling where
  name : String
  switch : Switch
  on : Bool
  deriving DecidableEq, Repr

/-- The switches that a command knows. -/
structure Grammar where
  long : List Spelling
  short : List Spelling
  /-- Switches may come after plain words. -/
  mixed : Bool

/-- One use of a switch: with its value, or as it stands. -/
structure Use where
  switch : Switch
  on : Bool
  value : Option String
  deriving DecidableEq, Repr

/-- What a row of words says. -/
structure Said where
  uses : List Use
  plain : List String
  deriving DecidableEq, Repr

/-- Why a row of words cannot be read. -/
inductive ScanError where
  /-- No switch has the name; others are like it. -/
  | unknown (name : String) (closest : List String)
  | needsValue (name : String)
  | takesNoValue (name : String)
  deriving DecidableEq, Repr

/-- What one word says: uses, and perhaps a switch whose value is the next word. -/
structure WordReading where
  uses : List Use
  awaiting : Option Spelling
  deriving DecidableEq, Repr

namespace Grammar

/-- A switch by its name, with what stands behind an equals sign. -/
def readLong (g : Grammar) (name : String) (value : Option String) :
    Except ScanError WordReading :=
  match g.long.find? fun s => s.name == name with
  | none => .error (.unknown name (Text.closest name (g.long.map Spelling.name)))
  | some s =>
    match s.switch.takesValue, value with
    | true, some v => .ok ⟨[⟨s.switch, s.on, some v⟩], none⟩
    | true, none => .ok ⟨[], some s⟩
    | false, some _ => .error (.takesNoValue name)
    | false, none => .ok ⟨[⟨s.switch, s.on, none⟩], none⟩

/-- A row of short names; what stands behind one that needs a value is the value. -/
def readShort (g : Grammar) : List Char → Except ScanError WordReading
  | [] => .ok ⟨[], none⟩
  | c :: r =>
    let name := String.ofList ['-', c]
    match g.short.find? fun s => s.name == name with
    | none => .error (.unknown name [])
    | some s =>
      if s.switch.takesValue then
        if r.isEmpty then .ok ⟨[], some s⟩
        else .ok ⟨[⟨s.switch, s.on, some (String.ofList r)⟩], none⟩
      else
        match readShort g r with
        | .ok w => .ok { w with uses := ⟨s.switch, s.on, none⟩ :: w.uses }
        | .error e => .error e

/-- A word with dashes: one long name, or failing that a row of short names unless the word starts
with two dashes. -/
def readWord (g : Grammar) (word : String) : Except ScanError WordReading :=
  let (name, value) := Text.splitOnce '=' word.toList
  match g.readLong (String.ofList name) (value.map String.ofList), word.toList with
  | .error (.unknown n close), '-' :: c :: r =>
    if c = '-' then .error (.unknown n close) else g.readShort (c :: r)
  | found, _ => found

/-- The word may be a switch. -/
def isSwitchWord (word : String) : Bool :=
  match word.toList with
  | '-' :: _ :: _ => true
  | _ => false

/-- Reads a row of words. -/
def scan (g : Grammar) : List String → Except ScanError Said
  | [] => .ok ⟨[], []⟩
  | word :: rest =>
    if word = "--" then .ok ⟨[], rest⟩
    else if isSwitchWord word then
      match g.readWord word with
      | .error e => .error e
      | .ok ⟨uses, none⟩ =>
        match scan g rest with
        | .ok said => .ok { said with uses := uses ++ said.uses }
        | .error e => .error e
      | .ok ⟨uses, some s⟩ =>
        match rest with
        | [] => .error (.needsValue s.name)
        | value :: others =>
          match scan g others with
          | .ok said =>
            .ok { said with uses := uses ++ ⟨s.switch, s.on, some value⟩ :: said.uses }
          | .error e => .error e
    else if g.mixed then
      match scan g rest with
      | .ok said => .ok { said with plain := word :: said.plain }
      | .error e => .error e
    else .ok ⟨[], word :: rest⟩

/-- Words without dashes at their front are all plain. -/
theorem scan_plain (g : Grammar) (words : List String)
    (h : ∀ w ∈ words, w.toList.head? ≠ some '-') : g.scan words = .ok ⟨[], words⟩ := by
  induction words with
  | nil => rfl
  | cons w ws ih =>
    have first := h w (by simp)
    have rest := ih fun v hv => h v (by simp [hv])
    have notEnd : w ≠ "--" := by
      rintro rfl
      exact first rfl
    have notSwitch : isSwitchWord w = false := by
      unfold isSwitchWord
      split
      · rename_i found
        rw [found] at first
        exact absurd rfl first
      · rfl
    rw [scan, if_neg notEnd, notSwitch, rest]
    simp

end Grammar

namespace Said

/-- The value that the last use of a switch gives. -/
def value? (s : Said) (switch : Switch) : Option String :=
  (s.uses.reverse.find? fun u => u.switch == switch).bind Use.value

/-- What the last use of a switch says, if there is one. -/
def flag? (s : Said) (switch : Switch) : Option Bool :=
  (s.uses.reverse.find? fun u => u.switch == switch).map Use.on

/-- How often a switch is used. -/
def count (s : Said) (switch : Switch) : Nat := (s.uses.filter fun u => u.switch == switch).length

end Said

end ReleaseRefs.Cli
