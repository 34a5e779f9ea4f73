import SuiteAudit.Suite.Assertion
import SuiteAudit.Vocabulary
import SuiteAudit.Text.Chars

/-!
# Strength of assertions

How much an assertion pins down, by matcher, style and framework. Exact values are strong, partial
or structural checks moderate, existence, truthiness and snapshots weak. A matcher that no table
knows has no strength, and counts in no ratio.
-/

namespace SuiteAudit

/-- **How much an assertion pins down.** -/
inductive Strength where
  | weak
  | moderate
  | strong
deriving Repr, DecidableEq, Inhabited

/-- The name of a strength. -/
def Strength.name : Strength → Text
  | weak => "weak"
  | moderate => "moderate"
  | strong => "strong"

/-! ### Tables -/

/-- A table of matchers by strength. -/
structure StrengthTable where
  strong : List Text
  moderate : List Text
  weak : List Text

/-- The strength of a matcher in a table. -/
def StrengthTable.get? (t : StrengthTable) (matcher : Text) : Option Strength :=
  if t.strong.contains matcher then some .strong
  else if t.moderate.contains matcher then some .moderate
  else if t.weak.contains matcher then some .weak
  else none

/-- Matchers of expect chains. -/
def expectTable : StrengthTable where
  strong :=
    ["toBe", "toEqual", "toStrictEqual", "toThrow", "toThrowError", "toHaveProperty",
      "toBeGreaterThan", "toBeLessThan", "toBeGreaterThanOrEqual", "toBeLessThanOrEqual",
      "toBeCloseTo", "toHaveBeenCalledTimes", "toHaveBeenNthCalledWith",
      "toHaveBeenLastCalledWith", "toHaveReturnedWith", "toHaveText", "toHaveValue",
      "toHaveAttribute", "toHaveTextContent", "toHaveURL", "toHaveTitle", "toHaveCount"]
  moderate :=
    ["toContain", "toContainEqual", "toMatch", "toMatchObject", "toHaveLength",
      "toHaveBeenCalled", "toHaveBeenCalledWith", "toHaveReturned", "toBeInstanceOf",
      "toHaveClass", "toBeVisible", "toBeInTheDocument", "toBeDisabled", "toBeEnabled",
      "toBeChecked", "toHaveFocus", "toBeNaN", "toSatisfy"]
  weak :=
    ["toBeDefined", "toBeUndefined", "toBeNull", "toBeTruthy", "toBeFalsy", "toBeAttached",
      "toMatchSnapshot", "toMatchInlineSnapshot", "toThrowErrorMatchingSnapshot",
      "toThrowErrorMatchingInlineSnapshot", "toHaveScreenshot", "toMatchAriaSnapshot"]

/-- Last words of chai chains. -/
def chaiTable : StrengthTable where
  strong :=
    ["equal", "equals", "eq", "eql", "true", "false", "throw", "throws", "above", "below",
      "least", "most", "within", "closeTo", "calledOnce", "calledTwice", "callCount",
      "calledOnceWith", "rejectedWith"]
  moderate :=
    ["include", "includes", "contain", "contains", "match", "lengthOf", "length", "property",
      "keys", "instanceOf", "instanceof", "a", "an", "members", "called", "calledWith",
      "rejected", "fulfilled"]
  weak := ["ok", "exist", "null", "undefined", "empty", "matchSnapshot"]

/-- Chainers of Cypress `should`. -/
def shouldTable : StrengthTable where
  strong := ["have.text", "have.length", "eq", "equal", "have.attr", "have.value", "have.prop"]
  moderate :=
    ["contain", "contain.text", "include", "match", "have.class", "have.css", "be.visible",
      "be.disabled", "be.enabled", "be.checked", "be.selected", "be.focused"]
  weak := ["exist", "be.empty", "be.hidden", "not.exist"]

/-- Functions of assert modules. -/
def assertTable : StrengthTable where
  strong :=
    ["assert.equal", "assert.strictEqual", "assert.deepEqual", "assert.deepStrictEqual",
      "assert.throws", "assert.rejects", "assert.isTrue", "assert.isFalse", "assert.lengthOf",
      "assert.calledOnce", "assert.notCalled", "assert.callCount"]
  moderate :=
    ["assert.notEqual", "assert.notStrictEqual", "assert.include", "assert.match",
      "assert.instanceOf", "assert.property", "assert.calledWith", "assert.called"]
  weak :=
    ["assert.isNull", "assert.isDefined", "assert.isUndefined", "assert.isOk", "assert.ok",
      "assert.exists", "assert"]

/-- Checks that Cypress makes on its own. -/
def implicitTable : StrengthTable where
  strong := []
  moderate := ["cy.contains"]
  weak := ["cy.get", "cy.find"]

/-- Playwright waits for locators and checks what is rendered. -/
def playwrightTable : StrengthTable where
  strong := ["toHaveURL", "toHaveCount"]
  moderate := ["toBeVisible"]
  weak := ["toBeHidden", "toBeAttached"]

/-- What Cypress changes in the other tables. -/
def cypressTable : StrengthTable where
  strong := []
  moderate := ["be.visible"]
  weak := ["exist"]

/-- The table of a style; a style without one is read as an expect chain. -/
def AssertionStyle.table : AssertionStyle → StrengthTable
  | .chai => chaiTable
  | .should => shouldTable
  | .assertCall => assertTable
  | .cypress => implicitTable
  | .expect | .custom | .other _ => expectTable

/-- What a framework changes in the tables of the styles. -/
def Framework.adjustment? (framework : Framework) (matcher : Text) : Option Strength :=
  match framework with
  | .playwright => playwrightTable.get? matcher
  | .cypress => cypressTable.get? matcher
  | _ => none

/-! ### Strength -/

/-- **The strength of a matcher** that is not negated. The words of a `should` that its own table
does not know are looked up as chai words, the last one counting. -/
def baseStrength (matcher : Text) (style : AssertionStyle) (framework : Framework) :
    Option Strength :=
  match framework.adjustment? matcher with
  | some s => some s
  | none =>
    match style.table.get? matcher with
    | some s => some s
    | none => if style = .should then chaiTable.get? (Text.afterLast '.' matcher) else none

/-- Matchers whose negation pins down as much: that something was never called, or never threw. -/
def negationKeepsStrength : List Text :=
  ["toHaveBeenCalled", "toThrow", "called", "throw"]

/-- What negation leaves of a strength. -/
def Strength.negated : Strength → Strength
  | strong => moderate
  | _ => weak

/-- **The strength of an assertion.** -/
def strengthOf (a : Assertion) (framework : Framework := .unknown) : Option Strength :=
  (baseStrength a.matcher a.style framework).map fun s =>
    if a.negated && !negationKeepsStrength.contains a.matcher then s.negated else s

/-- Whether an assertion is known to be weak. -/
def isWeak (a : Assertion) (framework : Framework := .unknown) : Bool :=
  strengthOf a framework == some .weak

/-- Whether a matcher has the shape of an expect matcher: a known one, or `to` and a capital. -/
def isExpectMatcher (name : Text) : Bool :=
  (expectTable.get? name).isSome ||
    match name.points with
    | .char 't' :: .char 'o' :: c :: _ => Text.isUpper c
    | _ => false

end SuiteAudit
