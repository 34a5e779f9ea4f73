import SuiteAudit.Text.Basic

/-!
# Facts about the code under test

What can be read off the source file that a test file exercises. An unavailable model says that
nobody could look, which is not the same as having found nothing.
-/

namespace SuiteAudit

/-- A parameter of a function. -/
structure Param where
  name : Text
  typeText : Text := ""
  optional : Bool := false
deriving Repr, DecidableEq, Inhabited

/-- **A function of the source.** -/
structure FunctionSignature where
  name : Text
  params : List Param := []
  line : Int := 1
  exported : Bool := false
  isAsync : Bool := false
deriving Repr, DecidableEq, Inhabited

/-- **A place where a function fails**, and the condition for it. -/
structure ThrowSite where
  function : Text
  condition : Text
  line : Int
  errorType : Text := ""
  message : Text := ""
deriving Repr, DecidableEq, Inhabited

/-- **A comparison with a number.** -/
structure BoundaryComparison where
  function : Text
  operator : Text
  operand : Text
  value : Float
  line : Int
deriving Repr, Inhabited

/-- **A way out of a function**; `keys` are the properties of a returned object. -/
structure ReturnPath where
  function : Text
  condition : Text
  line : Int
  keys : List Text := []
deriving Repr, DecidableEq, Inhabited

/-- **A change that a function makes outside itself.** -/
structure SideEffect where
  function : Text
  target : Text
  line : Int
deriving Repr, DecidableEq, Inhabited

/-- **What is known of the code under test.** `recovered` tells that its syntax had errors. -/
structure SourceFacts where
  available : Bool := false
  functions : List FunctionSignature := []
  throws : List ThrowSite := []
  comparisons : List BoundaryComparison := []
  returns : List ReturnPath := []
  sideEffects : List SideEffect := []
  recovered : Bool := false
deriving Repr, Inhabited

namespace SourceFacts

/-- Nothing is known, because nobody could look. -/
def unavailable : SourceFacts := {}

/-- The function of a name. -/
def function? (f : SourceFacts) (name : Text) : Option FunctionSignature :=
  f.functions.find? (·.name == name)

end SourceFacts

end SuiteAudit
