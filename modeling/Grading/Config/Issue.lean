/-!
# Issue — what is wrong with the values of a configuration

All issues of a configuration are told at once, each with its place.
-/

namespace Grading

inductive IssueKind where
  | missing
  | extra
  | invalidKey
  | modelType
  | listType
  | pathType
  | stringType
  | stringUnicode
  | stringTooShort
  | literal
  | intType
  | intParsing
  | intParsingSize
  | intFromFloat
  | finiteNumber
  | floatType
  | floatParsing
  | boolType
  | boolParsing
  | greaterThan
  | greaterThanEqual
  | lessThanEqual
  /-- A rule that concerns several values, with what it says. -/
  | value (text : String)
  deriving DecidableEq, Repr, Inhabited

def IssueKind.name : IssueKind → String
  | .missing => "missing"
  | .extra => "extra_forbidden"
  | .invalidKey => "invalid_key"
  | .modelType => "model_type"
  | .listType => "list_type"
  | .pathType => "path_type"
  | .stringType => "string_type"
  | .stringUnicode => "string_unicode"
  | .stringTooShort => "string_too_short"
  | .literal => "literal_error"
  | .intType => "int_type"
  | .intParsing => "int_parsing"
  | .intParsingSize => "int_parsing_size"
  | .intFromFloat => "int_from_float"
  | .finiteNumber => "finite_number"
  | .floatType => "float_type"
  | .floatParsing => "float_parsing"
  | .boolType => "bool_type"
  | .boolParsing => "bool_parsing"
  | .greaterThan => "greater_than"
  | .greaterThanEqual => "greater_than_equal"
  | .lessThanEqual => "less_than_equal"
  | .value _ => "value_error"

inductive PlaceStep where
  | key (name : String)
  | index (n : Int)
  deriving DecidableEq, Repr, Inhabited

structure Issue where
  place : List PlaceStep := []
  kind : IssueKind
  deriving DecidableEq, Repr, Inhabited

end Grading
