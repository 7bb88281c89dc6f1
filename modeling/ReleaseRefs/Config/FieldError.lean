import ReleaseRefs.Value

/-!
# `ReleaseRefs.Config.FieldError`: a value that an option does not accept

- `FieldError` tells which option, what is wrong and the offending value.
- `Complaint.word` is the short name of what is wrong, `Complaint.message` its wording.
-/

set_option autoImplicit false

namespace ReleaseRefs.Config

/-- What is wrong with a value. -/
inductive Complaint where
  | truthKind
  | truthText
  | integerKind
  | integerText
  | integerSize
  | integerFraction
  | integerFinite
  | negative
  | textKind
  | textEncoding
  | pathKind
  | blank
  | mappingKind
  | verbosityWord
  | frozen
  deriving DecidableEq, Repr

namespace Complaint

/-- The short name. -/
def word : Complaint → String
  | .truthKind => "bool_type"
  | .truthText => "bool_parsing"
  | .integerKind => "int_type"
  | .integerText => "int_parsing"
  | .integerSize => "int_parsing_size"
  | .integerFraction => "int_from_float"
  | .integerFinite => "finite_number"
  | .negative => "greater_than_equal"
  | .textKind => "string_type"
  | .textEncoding => "string_unicode"
  | .pathKind => "path_type"
  | .blank => "value_error"
  | .mappingKind => "model_type"
  | .verbosityWord => "literal_error"
  | .frozen => "frozen_instance"

/-- The wording. -/
def message : Complaint → String
  | .truthKind => "Input should be a valid boolean"
  | .truthText => "Input should be a valid boolean, unable to interpret input"
  | .integerKind => "Input should be a valid integer"
  | .integerText => "Input should be a valid integer, unable to parse string as an integer"
  | .integerSize => "Unable to parse input string as an integer, exceeded maximum size"
  | .integerFraction => "Input should be a valid integer, got a number with a fractional part"
  | .integerFinite => "Input should be a finite number"
  | .negative => "Input should be greater than or equal to 0"
  | .textKind => "Input should be a valid string"
  | .textEncoding => "Input should be a valid string, unable to parse raw data as a unicode string"
  | .pathKind => "Input is not a valid path for <class 'pathlib.Path'>"
  | .blank => "Value error, must not be empty"
  | .mappingKind => "Input should be a valid dictionary or instance of PublisherConfig"
  | .verbosityWord => "Input should be 'error', 'warning', 'info' or 'debug'"
  | .frozen => "Instance is frozen"

end Complaint

/-- One value that was refused, and where it stood. -/
structure FieldError where
  location : List String
  complaint : Complaint
  input : Value

end ReleaseRefs.Config
