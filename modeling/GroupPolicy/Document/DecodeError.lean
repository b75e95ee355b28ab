import GroupPolicy.Net.FormatError

namespace GroupPolicy

/-- The causes for refusing a document. -/
inductive DecodeError where
  /-- The text does not follow its notation. -/
  | syntaxFault
  /-- A required field is absent. -/
  | missingField (name : String)
  /-- A field is given twice. -/
  | duplicateField (name : String)
  /-- A name that is none of the expected ones. -/
  | unknownVariant (name : String) (expected : List String)
  /-- A value of another kind than expected. -/
  | mistyped (found expected : String)
  /-- A number outside the expected type. -/
  | outOfRange (found expected : String)
  /-- A list of another length than expected. -/
  | length (length : Nat) (expected : String)
  /-- A text that is no address, prefix or port range. -/
  | format (cause : FormatError)
  deriving DecidableEq, Repr

namespace DecodeError

/-- A choice between names, in words. -/
def oneOf : List String → String
  | [] => "there are no variants"
  | [a] => s!"expected `{a}`"
  | [a, b] => s!"expected `{a}` or `{b}`"
  | names => "expected one of " ++ ", ".intercalate (names.map fun a => s!"`{a}`")

/-- The wording of a refusal. -/
def message : DecodeError → String
  | .syntaxFault => "syntax"
  | .missingField name => s!"missing field `{name}`"
  | .duplicateField name => s!"duplicate field `{name}`"
  | .unknownVariant name expected => s!"unknown variant `{name}`, " ++ oneOf expected
  | .mistyped found expected => s!"invalid type: {found}, expected {expected}"
  | .outOfRange found expected => s!"invalid value: {found}, expected {expected}"
  | .length n expected => s!"invalid length {n}, expected {expected}"
  | .format cause => cause.message

end DecodeError

end GroupPolicy
