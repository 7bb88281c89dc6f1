/-!
# `ReleaseRefs.Yaml.Token`: the tokens of a document

Block structure, which documents show by indentation, is marked by tokens of its own: a start
where a block begins and `blockEnd` where it ends.
-/

set_option autoImplicit false

namespace ReleaseRefs.Yaml

/-- An instruction in front of a document. -/
inductive Directive where
  /-- The version of the language. -/
  | version (major minor : Nat)
  /-- A short name for the start of tags. -/
  | handle (name start : String)
  /-- Any other instruction; it has no effect. -/
  | other
  deriving DecidableEq, Repr

/-- A token of a document. -/
inductive Token where
  | directive (d : Directive)
  | documentStart
  | documentEnd
  | blockSequenceStart
  | blockMappingStart
  | blockEnd
  | flowSequenceStart
  | flowSequenceEnd
  | flowMappingStart
  | flowMappingEnd
  | flowEntry
  | blockEntry
  | key
  | value
  | alias (name : String)
  | anchor (name : String)
  | tag (handle : Option String) (suffix : String)
  /-- A scalar; it is plain if no quotes or block header surround it. -/
  | scalar (text : String) (plain : Bool)
  deriving DecidableEq, Repr

end ReleaseRefs.Yaml
