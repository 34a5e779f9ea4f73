import SuiteAudit.Suite.Span
import SuiteAudit.Vocabulary

/-!
# Issues

What rules find, and how it is ordered. An issue either lowers the score of one category or costs
penalty points, never both: its category tag says which.
-/

namespace SuiteAudit

/-- **A mending edit**: the text of the span, up to but not including its last column, becomes
`replacement`. -/
structure Fix where
  span : Span
  replacement : Text
deriving Repr, DecidableEq, Inhabited

/-- **One finding of a rule.** `category` is the category whose score it lowers; without one the
issue costs penalty points. -/
structure Issue where
  rule : Text
  severity : Severity
  message : Text
  span : Span
  category : Option Category := none
  suggestion : Text := ""
  fix : Option Fix := none
deriving Repr, DecidableEq, Inhabited

namespace Issue

/-- Whether the issue costs penalty points only. -/
def isPenaltyOnly (i : Issue) : Bool :=
  i.category.isNone

/-- **The order of a report**: by line, column, rule and message. -/
def le (a b : Issue) : Bool :=
  if a.span.line != b.span.line then a.span.line < b.span.line
  else if a.span.column != b.span.column then a.span.column < b.span.column
  else if a.rule != b.rule then Text.lt a.rule b.rule
  else Text.le a.message b.message

/-- The issues in the order of a report; equal ones keep their order. -/
def sorted (issues : List Issue) : List Issue :=
  issues.mergeSort le

/-- The issues of one rule, in order. -/
def ofRule (issues : List Issue) (id : Text) : List Issue :=
  issues.filter (·.rule == id)

end Issue

end SuiteAudit
