import SuiteAudit.Suite.Basic
import SuiteAudit.Text.Path
import SuiteAudit.Text.Pattern

/-!
# Framework and type of a test file

Both are decided by lists in order of priority, and the first entry that applies wins. So every
file has exactly one framework and one type.
-/

namespace SuiteAudit

/-! ### Framework -/

/-- Packages that give a framework away. -/
def frameworkPackages : List (Text × Framework) :=
  [("vitest", .vitest), ("@playwright/test", .playwright), ("playwright", .playwright),
    ("cypress", .cypress), ("@jest/globals", .jest), ("jest", .jest), ("mocha", .mocha),
    ("chai", .mocha)]

open Text.Pattern in
/-- Code that gives a framework away where no import does. -/
def frameworkPatterns : List (Text.Pattern × Framework) :=
  let call := seq blanks (char '(')
  [(all [wordEdge, text "vi.", texts ["fn", "mock", "spyOn", "useFakeTimers"], call], .vitest),
    (all [wordEdge, text "cy.", wordChars, call], .cypress),
    (first [all [wordEdge, text "test.describe", call], all [wordEdge, text "page.goto", call]],
      .playwright),
    (all [wordEdge, text "jest.", wordChars, call], .jest),
    (first [all [wordEdge, text "sinon.", wordChars],
      all [text ".to.", texts ["be", "equal", "have", "deep"], wordEdge]], .mocha),
    (all [wordEdge, texts ["describe", "it", "test"], call], .jest)]

/-- Whether an import is of a package or of a module inside it. -/
def Import.isOf (i : Import) (package : Text) : Bool :=
  i.source == package || Text.startsWith i.source (package ++ "/")

/-- **The framework of a file**, by its imports and then by its code. -/
def detectFramework (imports : List Import) (content : Text := "") : Framework :=
  match frameworkPackages.find? fun (package, _) => imports.any (·.isOf package) with
  | some (_, framework) => framework
  | none =>
    match frameworkPatterns.find? fun (pattern, _) => pattern.occursIn content with
    | some (_, framework) => framework
    | none => .unknown

/-! ### Type -/

/-- The folders of a path, in lower case. -/
def pathFolders (path : Text) : List Text :=
  (Text.pathParts (Text.replaceChar '\\' '/' path)).dropLast.map Text.lower

/-- The file name of a path, in lower case. -/
def pathFileName (path : Text) : Text :=
  ((Text.pathParts (Text.replaceChar '\\' '/' path)).getLast?.map Text.lower).getD ""

/-- Packages that render components. -/
def componentPackages : List Text :=
  ["@testing-library/", "@vue/test-utils", "enzyme", "react-test-renderer",
    "@angular/core/testing", "@storybook/test"]

/-- Packages that bring up services. -/
def integrationPackages : List Text :=
  ["supertest", "testcontainers", "@testcontainers/"]

/-- **The type of a test file**: end-to-end before integration, component and unit. Folders and
file names come before imports, except that an end-to-end framework settles the matter. -/
def classify (path : Text) (imports : List Import) (framework : Framework) : TestType :=
  let folders := pathFolders path
  let name := pathFileName path
  let inFolder (names : List Text) : Bool := folders.any names.contains
  let named (marks : List Text) : Bool := marks.any (Text.contains name)
  let uses (packages : List Text) : Bool :=
    imports.any fun i => Text.startsWithAny i.source packages
  if inFolder ["e2e", "cypress", "playwright"] || named [".e2e.", ".cy."] then .e2e
  else if framework = .cypress || framework = .playwright then .e2e
  else if inFolder ["integration", "integration-tests", "integration_tests"] ||
      named [".integration.", ".int."] then .integration
  else if inFolder ["component", "components"] || named [".component."] then .component
  else if uses componentPackages then .component
  else if uses integrationPackages then .integration
  else .unit

end SuiteAudit
