import ReleaseRefs.Calendar
import ReleaseRefs.Path

/-!
# `ReleaseRefs.Value`: what a configuration file or a variable holds

- `Value` is the type of all such data; mappings keep the order in which keys came.
- `Value.literal` writes a value so that its kind shows, `Value.display` as a message shows it.
- `Value.sameKey` says when two values are one key of a mapping; `Entries.get?` and
  `Entries.insert` look up and set by it.
-/

set_option autoImplicit false

namespace ReleaseRefs

/-- A datum of a configuration source. -/
inductive Value where
  | null
  | bool (b : Bool)
  | int (n : Int)
  | float (x : Binary64)
  | text (s : String)
  | path (p : Path)
  | bytes (bs : List UInt8)
  | date (d : Date)
  | moment (m : Moment)
  | list (xs : List Value)
  | tuple (xs : List Value)
  | set (xs : List Value)
  | map (entries : List (Value × Value))
  /-- A list, or a mapping, that the datum is itself a part of. -/
  | again (mapping : Bool)

instance : Inhabited Value := ⟨.null⟩

/-- The entries of a mapping in order. -/
abbrev Entries := List (Value × Value)

namespace Value

mutual

/-- The value written so that its kind can be told: texts in quotes, sequences in brackets. -/
def literal : Value → String
  | .null => "None"
  | .bool b => if b then "True" else "False"
  | .int n => toString n
  | .float x => x.text
  | .text s => Text.quoted s
  | .path p => "PosixPath(" ++ Text.quoted p.text ++ ")"
  | .bytes bs => Text.quotedBytes bs
  | .date d => d.shown
  | .moment m => m.shown
  | .list xs => "[" ++ ", ".intercalate (literals xs) ++ "]"
  | .tuple xs =>
    match literals xs with
    | [one] => "(" ++ one ++ ",)"
    | many => "(" ++ ", ".intercalate many ++ ")"
  | .set xs => if xs.isEmpty then "set()" else "\x7b" ++ ", ".intercalate (literals xs) ++ "\x7d"
  | .map es => "\x7b" ++ ", ".intercalate (entryLiterals es) ++ "\x7d"
  | .again mapping => if mapping then "\x7b...\x7d" else "[...]"

/-- Each value of a row as a literal. -/
def literals : List Value → List String
  | [] => []
  | x :: xs => x.literal :: literals xs

/-- Each entry of a mapping as two literals and a colon. -/
def entryLiterals : List (Value × Value) → List String
  | [] => []
  | (k, v) :: es => (k.literal ++ ": " ++ v.literal) :: entryLiterals es

end

/-- The value as part of a message: a text or path stands without quotes. -/
def display : Value → String
  | .text s => s
  | .path p => p.text
  | .date d => d.iso
  | .moment m => m.iso
  | v => v.literal

mutual

/-- Every integer in the value can be written. -/
def isWritable : Value → Bool
  | .int n => Integer.isWritable n
  | .list xs => areWritable xs
  | .tuple xs => areWritable xs
  | .set xs => areWritable xs
  | .map es => areEntriesWritable es
  | _ => true

/-- Every integer in a row of values can be written. -/
def areWritable : List Value → Bool
  | [] => true
  | x :: xs => isWritable x && areWritable xs

/-- Every integer in the entries of a mapping can be written. -/
def areEntriesWritable : List (Value × Value) → Bool
  | [] => true
  | (k, v) :: es => isWritable k && isWritable v && areEntriesWritable es

end

/-- The value counts as a number for comparison: truth values are zero and one. -/
inductive Magnitude where
  | whole (n : Int)
  | real (x : Binary64)

/-- The number that a value stands for. -/
def magnitude? : Value → Option Magnitude
  | .bool b => some (.whole (if b then 1 else 0))
  | .int n => some (.whole n)
  | .float x =>
    match x.toInt? with
    | some n => some (.whole n)
    | none => some (.real x)
  | _ => none

/-- The value is the number zero, whatever kind it has. -/
def isZero (v : Value) : Bool :=
  match v.magnitude? with
  | some (.whole n) => n == 0
  | _ => false

/-- The value is an infinite double. -/
def isInfinite : Value → Bool
  | .float (.infinity _) => true
  | _ => false

/-- Two numbers are equal, whatever kind they have. -/
def Magnitude.same : Magnitude → Magnitude → Bool
  | .whole m, .whole n => m == n
  | .real x, .real y => x.sameNumber y
  | _, _ => false

mutual

/-- Two values are the same key of a mapping: equal numbers are, whatever kind they have. -/
def sameKey : Value → Value → Bool
  | .null, .null => true
  | .text s, .text t => s == t
  | .path p, .path q => p == q
  | .bytes a, .bytes b => a == b
  | .date d, .date e => d == e
  | .moment m, .moment n => m.same n
  | .tuple xs, .tuple ys => sameKeys xs ys
  | v, w =>
    match v.magnitude?, w.magnitude? with
    | some m, some n => m.same n
    | _, _ => false

/-- Two rows of values are the same key, member by member. -/
def sameKeys : List Value → List Value → Bool
  | [], [] => true
  | x :: xs, y :: ys => sameKey x y && sameKeys xs ys
  | _, _ => false

end

mutual

/-- The value can be a key: lists, sets and mappings cannot. -/
def isKey : Value → Bool
  | .list _ => false
  | .set _ => false
  | .map _ => false
  | .again _ => false
  | .tuple xs => areKeys xs
  | _ => true

/-- Every value of a row can be a key. -/
def areKeys : List Value → Bool
  | [] => true
  | x :: xs => isKey x && areKeys xs

end

/-- The name of the value's kind, as messages give it. -/
def kindName : Value → String
  | .null => "NoneType"
  | .bool _ => "bool"
  | .int _ => "int"
  | .float _ => "float"
  | .text _ => "str"
  | .path _ => "PosixPath"
  | .bytes _ => "bytes"
  | .date _ => "datetime.date"
  | .moment _ => "datetime.datetime"
  | .list _ => "list"
  | .tuple _ => "tuple"
  | .set _ => "set"
  | .map _ => "dict"
  | .again mapping => if mapping then "dict" else "list"

end Value

namespace Entries

/-- The value under a key. -/
def get? (es : Entries) (key : Value) : Option Value :=
  match es with
  | [] => none
  | (k, v) :: r => if k.sameKey key then some v else get? r key

/-- The value under a text key. -/
def getText? (es : Entries) (key : String) : Option Value := get? es (.text key)

/-- Sets the value under a key: a present key keeps its place and spelling, a new one goes last. -/
def insert (es : Entries) (key value : Value) : Entries :=
  match es with
  | [] => [(key, value)]
  | (k, v) :: r => if k.sameKey key then (k, value) :: r else (k, v) :: insert r key value

/-- Sets all the entries of a second mapping, one after the other. -/
def insertAll (es fs : Entries) : Entries := fs.foldl (fun acc e => insert acc e.1 e.2) es

/-- A mapping from a row of entries, the last one of each key deciding. -/
def ofList (es : List (Value × Value)) : Entries := insertAll [] es

end Entries

end ReleaseRefs
