/-!
# Smell limits

The trip points of the rules for generated-looking tests. Rules read them from here only, so tuning
touches no rule.
-/

namespace SuiteAudit

/-- **When a file smells.** -/
structure SmellLimits where
  overMockMinMocks : Int := 5
  overMockMaxTests : Int := 3
  mocksPerAssertion : Float := 2
  shallowMinTests : Int := 3
  shallowMaxDistinct : Int := 1
  happyPathMinTests : Int := 4
  boilerplateMinSetup : Int := 5
  boilerplateAssertionsPerTest : Float := 2
  boilerplateMinTests : Int := 2
  pointsPerSmell : Int := 4
deriving Repr, Inhabited

end SuiteAudit
