import SuiteAudit.Json.Parser
import SuiteAudit.Decimal.Rounded
import SuiteAudit.Vocabulary

/-!
# What is wrong with a configuration
-/

namespace SuiteAudit

/-- **The kinds of failure** that a caller can tell apart: a name that is not known, a bad value, a
value of a type that has no number, and a number out of range. -/
inductive FaultKind where
  | key
  | value
  | type
  | overflow
deriving Repr, DecidableEq

/-- The name of a kind of failure. -/
def FaultKind.name : FaultKind → Text
  | key => "KeyError"
  | value => "ValueError"
  | type => "TypeError"
  | overflow => "OverflowError"

/-- **Why a value is no number**: of the wrong kind, a text that is no numeral or too long a one, a
double without a whole part, or a whole number beyond the doubles. -/
inductive NumberError where
  | notWhole (kind : Text)
  | notDecimal (kind : Text)
  | notWholeNumeral (text : Text)
  | notDecimalNumeral (text : Text)
  | tooManyDigits (cause : Decimal.TooManyDigits)
  | noWholePart (cause : Decimal.NoWholePart)
  | beyondDoubles
deriving Repr, DecidableEq

namespace NumberError

/-- How much of a text a message on whole numerals quotes, the quotes included. -/
def quotedLimit : Nat := 200

/-- What is said of a value that is no number. -/
def message : NumberError → Text
  | notWhole kind =>
    "int() argument must be a string, a bytes-like object or a real number, not '" ++ kind ++ "'"
  | notDecimal kind => "float() argument must be a string or a real number, not '" ++ kind ++ "'"
  | notWholeNumeral text =>
    "invalid literal for int() with base 10: " ++ Text.take quotedLimit text.quoted
  | notDecimalNumeral text => "could not convert string to float: " ++ text.quoted
  | tooManyDigits cause => cause.message
  | noWholePart cause => cause.message
  | beyondDoubles => Decimal.beyondDoubles

/-- The kind of failure that a value is which is no number. -/
def faultKind : NumberError → FaultKind
  | notWhole _ | notDecimal _ => .type
  | noWholePart .infinite | beyondDoubles => .overflow
  | _ => .value

end NumberError

/-- **Why a configuration is refused.** -/
inductive ConfigError where
  | unknownKey (key : Text)
  | unknownRule (id : Text)
  | unknownCategory (name : Text)
  | unknownField (record key : Text)
  | wrongKind (expected key : Text) (value : Json)
  | invalidSeverity (rule : Text) (value : Json)
  | unknownName (cause : UnknownName)
  | weightsNotMapping (name : Text)
  | weightsIncomplete (testType : TestType)
  | weightsUnbalanced (testType : TestType)
  | badNumber (cause : NumberError)
  | badJson (cause : Json.ParseError)
  | notAnObject
deriving Repr

namespace ConfigError

/-- What is said of a refused configuration. -/
def message : ConfigError → Text
  | unknownKey key => "Unknown config key: " ++ key
  | unknownRule id => "Unknown rule: " ++ id
  | unknownCategory name => "Unknown category: " ++ name
  | unknownField record key => "Unknown " ++ record ++ " key: " ++ key
  | wrongKind expected key value =>
    "Expected " ++ expected ++ " for " ++ key ++ ", got: " ++ value.quoted
  | invalidSeverity rule value => "Invalid severity for " ++ rule ++ ": " ++ value.quoted
  | unknownName cause => cause.message
  | weightsNotMapping name => "Weights for " ++ name ++ " must be a mapping"
  | weightsIncomplete testType => "Weights for " ++ testType.name ++ " must name all six categories"
  | weightsUnbalanced testType =>
    "Weights for " ++ testType.name ++ " must be non-negative and sum to 100"
  | badNumber cause => cause.message
  | badJson .malformed => "invalid JSON"
  | badJson (.tooManyDigits cause) => cause.message
  | notAnObject => "config must be a JSON object"

/-- The kind of failure that a refused configuration is. -/
def faultKind : ConfigError → FaultKind
  | unknownKey _ | unknownRule _ | unknownCategory _ | unknownField _ _ => .key
  | badNumber cause => cause.faultKind
  | _ => .value

end ConfigError

end SuiteAudit
