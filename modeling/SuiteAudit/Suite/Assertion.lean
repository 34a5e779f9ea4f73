import SuiteAudit.Suite.Span
import SuiteAudit.Text.Basic

/-!
# Assertions

One expectation of a test, in whatever style it is written. The matcher is normalised by style:
`toBe` in an expect chain, `equal` in a chai chain, `have.text` in a Cypress `should`,
`assert.strictEqual` in a call of an assert module, and `cy.get` or `cy.contains` where Cypress
checks existence on its own.
-/

namespace SuiteAudit

/-- **How an assertion is written.** -/
inductive AssertionStyle where
  | expect
  | chai
  | should
  | assertCall
  | cypress
  | custom
  /-- A style that the tables do not know. -/
  | other (name : Text)
deriving Repr, DecidableEq, Inhabited

namespace AssertionStyle

/-- The name of a style. -/
def name : AssertionStyle → Text
  | expect => "expect"
  | chai => "chai"
  | should => "should"
  | assertCall => "assert"
  | cypress => "cypress"
  | custom => "custom"
  | other name => name

/-- The style of a name. -/
def ofName (s : Text) : AssertionStyle :=
  ([expect, chai, should, assertCall, cypress, custom].find? (·.name == s)).getD (other s)

end AssertionStyle

/-- **One expectation.** -/
structure Assertion where
  matcher : Text
  style : AssertionStyle := .expect
  span : Span := .of 1
  subject : Text := ""
  args : List Text := []
  negated : Bool := false
  modifiers : List Text := []
  awaited : Bool := false
  inCatch : Bool := false
deriving Repr, DecidableEq, Inhabited

/-- Matchers of thrown errors and rejected promises. -/
def errorMatchers : List Text :=
  ["toThrow", "toThrowError", "toThrowErrorMatchingSnapshot",
    "toThrowErrorMatchingInlineSnapshot", "throw", "throws", "rejects", "rejectedWith",
    "assert.throws", "assert.rejects", "assert.throwsAsync"]

/-- Matchers that compare with a recorded snapshot. -/
def snapshotMatchers : List Text :=
  ["toMatchSnapshot", "toMatchInlineSnapshot", "toThrowErrorMatchingSnapshot",
    "toThrowErrorMatchingInlineSnapshot", "toHaveScreenshot", "toMatchAriaSnapshot",
    "matchSnapshot"]

/-- Matchers that check how a mock was called. -/
def callMatchers : List Text :=
  ["toHaveBeenCalled", "toHaveBeenCalledWith", "toHaveBeenCalledTimes", "toHaveBeenNthCalledWith",
    "toHaveBeenLastCalledWith", "toBeCalled", "toBeCalledWith", "toBeCalledTimes", "called",
    "calledWith", "calledOnce", "calledTwice", "calledOnceWith", "callCount", "have.been.called",
    "have.been.calledWith", "have.been.calledOnce", "assert.called", "assert.calledWith",
    "assert.calledOnce", "assert.callCount"]

namespace Assertion

/-- Whether the expectation is a recorded snapshot. -/
def isSnapshot (a : Assertion) : Bool :=
  snapshotMatchers.contains a.matcher

/-- **Whether the expectation is that an error arises.** -/
def isErrorAssertion (a : Assertion) : Bool :=
  !a.negated && (errorMatchers.contains a.matcher || a.modifiers.contains "rejects")

/-- Whether the expectation waits for a promise. -/
def isAsyncChain (a : Assertion) : Bool :=
  a.modifiers.contains "resolves" || a.modifiers.contains "rejects"

/-- Whether the expectation is on the calls of a mock. -/
def checksCalls (a : Assertion) : Bool :=
  callMatchers.contains a.matcher

end Assertion

end SuiteAudit
