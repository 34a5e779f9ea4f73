import SuiteAudit.Suite.TestCase
import SuiteAudit.Suite.Literal
import SuiteAudit.Text.Case
import SuiteAudit.Vocabulary

/-!
# Test suites

What the audit knows of one test file: its tests in document order, and beside them the hooks,
mocks, shared variables, literals, markers, imports and lines.
-/

namespace SuiteAudit

/-! ### Parts of a suite -/

/-- **When a hook runs.** -/
inductive HookKind where
  | beforeEach
  | afterEach
  | beforeAll
  | afterAll
  /-- A hook of a name that no framework has. -/
  | other (name : Text)
deriving Repr, DecidableEq, Inhabited

namespace HookKind

/-- The name of a kind of hook. -/
def name : HookKind → Text
  | beforeEach => "beforeEach"
  | afterEach => "afterEach"
  | beforeAll => "beforeAll"
  | afterAll => "afterAll"
  | other name => name

/-- The kind of hook of a name. -/
def ofName (s : Text) : HookKind :=
  ([beforeEach, afterEach, beforeAll, afterAll].find? (·.name == s)).getD (other s)

/-- Whether the hook runs around every single test. -/
def perTest : HookKind → Bool
  | beforeEach | afterEach => true
  | _ => false

/-- Whether the hook sets something up. -/
def setsUp : HookKind → Bool
  | beforeEach | beforeAll => true
  | _ => false

end HookKind

/-- **A hook**: code that runs before or after tests. `assigned` are the variables that it sets. -/
structure Hook where
  kind : HookKind
  span : Span := .of 1
  describes : List Text := []
  assigned : List Text := []
  calls : List Text := []
  statementCount : Int := 0
deriving Repr, DecidableEq, Inhabited

/-- **What a mock stands in for.** -/
inductive MockKind where
  | module
  | function
  | spy
  | timer
  | network
  /-- Something that the audit does not know. -/
  | other (name : Text)
deriving Repr, DecidableEq, Inhabited

namespace MockKind

/-- The kinds of mock that the audit knows. -/
def all : List MockKind := [module, function, spy, timer, network]

/-- The name of a kind of mock. -/
def name : MockKind → Text
  | module => "module"
  | function => "function"
  | spy => "spy"
  | timer => "timer"
  | network => "network"
  | other name => name

/-- The kind of mock of a name. -/
def ofName (s : Text) : MockKind :=
  (all.find? (·.name == s)).getD (other s)

end MockKind

/-- **Where a mock is set up.** -/
inductive MockScope where
  | module
  | hook
  | test
  /-- A place that the audit does not know. -/
  | other (name : Text)
deriving Repr, DecidableEq, Inhabited

namespace MockScope

/-- The scopes of mocks that the audit knows. -/
def all : List MockScope := [module, hook, test]

/-- The name of a scope. -/
def name : MockScope → Text
  | module => "module"
  | hook => "hook"
  | test => "test"
  | other name => name

/-- The scope of a name. -/
def ofName (s : Text) : MockScope :=
  (all.find? (·.name == s)).getD (other s)

end MockScope

/-- **A mock**: the call that makes it, and what it replaces. An index below zero counts the tests
from the last one, which is -1. -/
structure Mock where
  api : Text
  kind : MockKind
  span : Span := .of 1
  target : Text := ""
  scope : MockScope := .module
  testIndex : Option Int := none
deriving Repr, DecidableEq, Inhabited

/-- **A variable that tests share**: declared at the top of the file or of a describe block.
`resetBy` are the kinds of hook that assign it, `mutatedIn` the indices of the tests that change
it. -/
structure Binding where
  name : Text
  keyword : Text := "let"
  span : Span := .of 1
  describes : List Text := []
  mutableContainer : Bool := false
  resetBy : List HookKind := []
  mutatedIn : List Nat := []
deriving Repr, DecidableEq, Inhabited

/-- **What a marker marks.** -/
inductive MarkerBlock where
  | describe
  | test
  /-- A block of another name. -/
  | other (name : Text)
deriving Repr, DecidableEq, Inhabited

namespace MarkerBlock

/-- The name of a kind of block. -/
def name : MarkerBlock → Text
  | describe => "describe"
  | test => "test"
  | other name => name

/-- The kind of block of a name. -/
def ofName (s : Text) : MarkerBlock :=
  ([describe, test].find? (·.name == s)).getD (other s)

/-- The name of a kind of block at the start of a sentence. -/
def title (b : MarkerBlock) : Text :=
  Text.capitalize b.name

end MarkerBlock

/-- **A describe or test call as written**, with its focus and skip modifiers. -/
structure Marker where
  block : MarkerBlock
  name : Text
  callee : Text
  span : Span := .of 1
  focused : Bool := false
  skipped : Bool := false
deriving Repr, DecidableEq, Inhabited

/-- The root of a callee without the letter that focuses it. -/
def unfocusedRoot (root : Text) : Text :=
  if root.isOneOf ["fit", "fdescribe", "ftest"] then Text.drop 1 root else root

/-- **The callee without its focus**: no `only`, and no `f` in front. -/
def Marker.unfocusedCallee (m : Marker) : Text :=
  match (Text.splitAt '.' m.callee).filter fun (word : Text) => word != "only" with
  | [] => ""
  | root :: rest => Text.join "." (unfocusedRoot root :: rest)

/-- **An import**: its source, and the names that it binds. -/
structure Import where
  source : Text
  names : List Text := []
  line : Int := 1
deriving Repr, DecidableEq, Inhabited

/-! ### Suites -/

/-- **One test file.** `recovered` tells that its syntax had errors. -/
structure Suite where
  path : Text := ""
  framework : Framework := .unknown
  imports : List Import := []
  tests : List TestCase := []
  hooks : List Hook := []
  mocks : List Mock := []
  bindings : List Binding := []
  literals : List LiteralArg := []
  markers : List Marker := []
  lines : List Text := []
  recovered : Bool := false
deriving Repr, Inhabited

/-- **The innermost test at a line**: of the tests that contain it the one that starts last, and of
those that start together the last one. `best` is the answer for the tests before these, which
start at index `index`. -/
def testAtFrom (line : Int) : List TestCase → (index : Nat) → (best : Option (Nat × Int)) →
    Option (Nat × Int)
  | [], _, best => best
  | t :: rest, index, best =>
    if t.span.containsLine line && best.all (fun (_, start) => start ≤ t.span.line) then
      testAtFrom line rest (index + 1) (some (index, t.span.line))
    else testAtFrom line rest (index + 1) best

/-- The index of the innermost of the tests at a line. -/
def testAt? (tests : List TestCase) (line : Int) : Option Nat :=
  (testAtFrom line tests 0 none).map (·.1)

namespace Suite

/-- The assertions of all tests. -/
def assertions (s : Suite) : List Assertion :=
  s.tests.flatMap (·.assertions)

/-- The tests that run. -/
def activeTests (s : Suite) : List TestCase :=
  s.tests.filter (·.isActive)

/-- The active tests that are about an error. -/
def errorTests (s : Suite) : List TestCase :=
  s.activeTests.filter (·.isErrorTest)

/-- Whether the test at an index runs; below zero there is none. -/
def isActiveIndex (s : Suite) (index : Int) : Bool :=
  0 ≤ index && s.tests[index.toNat]?.any (·.isActive)

/-- The literals of active tests that feed the code under test. -/
def inputLiterals (s : Suite) : List LiteralArg :=
  s.literals.filter fun a => a.role.feedsCode && s.isActiveIndex a.testIndex

/-- How many assertions the active tests hold. -/
def activeAssertionCount (s : Suite) : Nat :=
  (s.activeTests.flatMap (·.assertions)).length

end Suite

end SuiteAudit
