import SuiteAudit.Syntax.Node
import SuiteAudit.Text.Path

/-!
# Grammars

Which grammar reads a file is decided by the suffix of its path. A parser is any function from a
grammar and a text to a tree: it always gives one, and tells whether it had to recover from errors.
-/

namespace SuiteAudit.Syntax

/-- **The grammars.** -/
inductive Grammar where
  | typescript
  | tsx
  | javascript
deriving Repr, DecidableEq, Inhabited

namespace Grammar

/-- The name of a grammar. -/
def name : Grammar → Text
  | typescript => "typescript"
  | tsx => "tsx"
  | javascript => "javascript"

/-- The suffixes that each grammar reads. -/
def suffixes : List (Text × Grammar) :=
  [(".ts", typescript), (".mts", typescript), (".cts", typescript), (".tsx", tsx),
    (".js", javascript), (".jsx", javascript), (".mjs", javascript), (".cjs", javascript)]

/-- The grammar of texts that come without a suffix. -/
def default : Grammar := tsx

/-- **The grammar of a path**, by its suffix in whatever case; none for other suffixes. -/
def ofPath? (path : Text) : Option Grammar :=
  let suffix := Text.lower (Text.pathSuffix path)
  if suffix == "" then some default else suffixes.lookup suffix

end Grammar

/-- **The tree of a file.** `recovered` tells that the file had syntax errors. -/
structure Tree where
  root : Node
  recovered : Bool := false
deriving Inhabited

/-- **A parser**: the tree of a text under a grammar. -/
abbrev Parser := Grammar → String → Tree

end SuiteAudit.Syntax
