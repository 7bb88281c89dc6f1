import ReleaseRefs.Text.Blank
import ReleaseRefs.Text.Split

/-!
# `ReleaseRefs.Git.Safety`: remotes that would make git start another program

Git starts a helper program for an address `name::…`, and a program of the caller's choice for
`ext://…` and for some options of a listing. A remote that says one of these is refused before a
listing is asked for.

- `danger?` finds what is wrong with a remote, `Danger.message` words it.
- `helperName?_eq_some`: an address that is refused for its helper starts with the name and two
  colons.
-/

set_option autoImplicit false

namespace ReleaseRefs.Git

/-- A reason to refuse a remote. -/
inductive Danger where
  /-- The address names a helper program, in its first characters. -/
  | helper (start : String)
  /-- The remote reads as an option that names a program. -/
  | program (option : String)
  deriving DecidableEq, Repr

/-- The words for a refused remote. -/
def Danger.message : Danger → String
  | .helper start =>
    "The \x60" ++ start ++ "\x60 protocol looks suspicious, use " ++
      "\x60allow_unsafe_protocols=True\x60 to allow it."
  | .program option =>
    option ++ " is not allowed, use \x60allow_unsafe_options=True\x60 to allow it."

/-- A character that the name of a helper program may go on with. -/
def isHelperChar (c : Char) : Bool := c.isAlphanum || c == '+' || c == '.' || c == '-'

/-- A name of a helper program: none at all, or one that starts with a letter or digit of ASCII. -/
def isHelperName : List Char → Bool
  | [] => true
  | c :: r => c.isAlphanum && r.all isHelperChar

/-- The name of the helper program that an address starts with, up to two colons. -/
def helperName? (address : List Char) : Option (List Char) :=
  match Text.splitOnce ':' address with
  | (name, some (':' :: _)) => if isHelperName name then some name else none
  | _ => none

/-- The start of an address that is the command line of a program. -/
def commandScheme : String := "ext://"

/-- What makes an address name a helper program. -/
def helperStart? (address : List Char) : Option String :=
  if commandScheme.toList.isPrefixOf address then some commandScheme
  else (helperName? address).map fun name => String.ofList name ++ "::"

/-- The options of a listing that name a program to start. -/
def programOptions : List String := ["upload-pack", "exec"]

/-- The name of an option as it was given: without the dashes in front, up to a blank or an equals
sign, with dashes for underscores. -/
def optionName (word : List Char) : List Char :=
  let name := (Text.splitOnce '=' (word.dropWhile (· == '-'))).1
  ((name.dropWhile Text.isBlank).takeWhile fun c => !Text.isBlank c).map fun c =>
    if c == '_' then '-' else c

/-- The word is the option. Two dashes allow its name to be cut short. -/
def meansOption (word : List Char) (option : String) : Bool :=
  let name := optionName word
  name == option.toList ||
    ("--".toList.isPrefixOf word && !name.isEmpty && name.isPrefixOf option.toList)

/-- The option that a word means, of those that name a program. -/
def programOption? (word : List Char) : Option String :=
  if word.head? = some '-' then programOptions.find? (meansOption word) else none

/-- The reason to refuse a remote, if there is one. -/
def danger? (remote : String) : Option Danger :=
  match helperStart? remote.toList with
  | some start => some (.helper start)
  | none => (programOption? remote.toList).map fun option => .program ("--" ++ option)

/-- An address that is refused for its helper starts with the name and two colons. -/
theorem helperName?_eq_some {address name : List Char} (h : helperName? address = some name) :
    ∃ rest, address = name ++ ':' :: ':' :: rest ∧ isHelperName name = true := by
  have joined := Text.splitOnce_append ':' address
  unfold helperName? at h
  split at h
  · rename_i front rest hs
    split at h
    · obtain rfl := Option.some.inj h
      rw [hs] at joined
      exact ⟨rest, joined.symm, by assumption⟩
    · simp at h
  · simp at h

end ReleaseRefs.Git
