import SuiteAudit.Suite.Assertion
import SuiteAudit.Text.Chars

/-!
# Test cases

A test as the file declares it: where it stands, how it is marked, and what its body does.
-/

namespace SuiteAudit

/-- **One test of a file.** `describes` are the titles of the blocks around it, the outermost first;
`calls` are the functions that its body calls, by dotted name; `literalCalls` are the calls with
nothing but literals for arguments, as callee and argument text. -/
structure TestCase where
  name : Text
  span : Span := .of 1
  assertions : List Assertion := []
  isAsync : Bool := false
  describes : List Text := []
  marker : Text := "it"
  skipped : Bool := false
  focused : Bool := false
  todo : Bool := false
  parameterized : Bool := false
  statementCount : Int := 0
  awaitCount : Int := 0
  returnsPromise : Bool := false
  calls : List Text := []
  literalCalls : List (Text × Text) := []
  hasTryCatch : Bool := false
  hasAssertionGuard : Bool := false
  branchCount : Int := 0
  unreachable : List Span := []
deriving Repr, DecidableEq, Inhabited

namespace TestCase

/-- Whether the test runs: it is neither skipped nor still to be written. -/
def isActive (t : TestCase) : Bool :=
  !t.skipped && !t.todo

/-- Whether the body holds no statement. -/
def bodyEmpty (t : TestCase) : Bool :=
  t.statementCount == 0

/-- The titles around the test and its own. -/
def fullName (t : TestCase) : Text :=
  Text.join " > " (t.describes ++ [t.name])

/-- **Whether the test is about an error**: it asserts that one arises, or asserts in a catch
clause. -/
def isErrorTest (t : TestCase) : Bool :=
  t.assertions.any fun a => a.isErrorAssertion || a.inCatch

/-- **Whether the body calls the function** of that name, directly or as a method. -/
def callsFunction (t : TestCase) (name : Text) : Bool :=
  name != "" && t.calls.any fun call => call == name || Text.endsWith call ("." ++ name)

end TestCase

end SuiteAudit
