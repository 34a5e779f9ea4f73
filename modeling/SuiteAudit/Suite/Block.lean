import SuiteAudit.Suite.Basic
import SuiteAudit.Syntax.Access

/-!
# Describe, test and hook calls

A call is a block if its callee is the name of one, with modifiers such as `only` or `skip` behind
it and perhaps a table: `it.only(...)`, `xdescribe(...)`, `test.each(table)(...)`.
-/

namespace SuiteAudit

open Syntax

/-- **What a block is.** -/
inductive BlockKind where
  | describe
  | test
  | hook (kind : HookKind)
deriving Repr, DecidableEq, Inhabited

/-- **A block as it is called.** `table` holds the rows of a block that is called for each of
them. -/
structure Block where
  kind : BlockKind
  title : Text
  callback : Option Node
  path : List Text
  calleeNode : Node
  skipped : Bool := false
  focused : Bool := false
  todo : Bool := false
  table : Option Node := none
deriving Inhabited

namespace Block

/-- The callee as written, as a dotted path. -/
def callee (b : Block) : Text :=
  Text.join "." b.path

/-- The body of the callback. -/
def body? (b : Block) : Option Node :=
  b.callback.bind Node.body?

/-! ### Names -/

/-- Names that open a describe block. -/
def describeRoots : List Text :=
  ["describe", "context", "suite", "fdescribe", "xdescribe"]

/-- Names that open a test. -/
def testRoots : List Text :=
  ["it", "test", "specify", "fit", "ftest", "xit", "xtest", "xspecify"]

/-- Names that focus what they open. -/
def focusRoots : List Text :=
  ["fit", "ftest", "fdescribe"]

/-- Modifiers of describe blocks and tests. -/
def modifiers : List Text :=
  ["skip", "only", "todo", "concurrent", "serial", "parallel", "sequential", "fixme", "failing",
    "each"]

/-- Names that open a hook. -/
def hookRoots : List (Text × HookKind) :=
  [("beforeEach", .beforeEach), ("afterEach", .afterEach), ("beforeAll", .beforeAll),
    ("afterAll", .afterAll), ("before", .beforeAll), ("after", .afterAll)]

/-- The hook of a name. -/
def hookOf? (name : Text) : Option HookKind :=
  hookRoots.lookup name

/-- **What a path opens, and the modifiers that follow it**; `test.describe` and `test.beforeEach`
open what their second name says. -/
def opening? : List Text → Option (BlockKind × List Text)
  | [] => none
  | root :: rest =>
    if root == "test" && rest.headD "" == "describe" then some (.describe, rest.tail)
    else
      match (if root == "test" then rest.head?.bind hookOf? else none) with
      | some hook => some (.hook hook, rest.tail)
      | none =>
        if describeRoots.contains root then some (.describe, rest)
        else if testRoots.contains root then some (.test, rest)
        else (hookOf? root).map fun hook => (.hook hook, rest)

/-! ### Recognising blocks -/

/-- What a call names before its arguments: the callee, its path, and a table. A callee that is
itself called must end in `each`, and one that is not must not mention it. -/
structure Naming where
  calleeNode : Node
  path : List Text
  table : Option Node := none

/-- The naming of a call. -/
def naming? (call : Node) : Option Naming := do
  let callee ← call.child? "function"
  if callee.kind == "call_expression" then
    let inner ← callee.child? "function"
    let path ← inner.path?
    if path.getLast? == some "each" then
      some { calleeNode := inner, path, table := callee.child? "arguments" }
    else none
  else
    let path ← callee.path?
    if path.isEmpty || path.contains "each" then none else some { calleeNode := callee, path }

/-- The last function among arguments. -/
def callbackOf (arguments : List Node) : Option Node :=
  (arguments.filter (·.isFunction)).getLast?

/-- The hook of a call. -/
def hook? (kind : HookKind) (naming : Naming) (rest : List Text) (call : Node) : Option Block :=
  if rest.isEmpty then
    some { kind := .hook kind, title := kind.name, callback := callbackOf call.arguments
           path := naming.path, calleeNode := naming.calleeNode }
  else none

/-- The describe block or test of a call. -/
def titled? (kind : BlockKind) (naming : Naming) (rest : List Text) (call : Node) :
    Option Block :=
  if rest.all modifiers.contains then
    let root := naming.path.headD ""
    some { kind
           title := (call.arguments.head?.map Node.title).getD ""
           callback := callbackOf call.arguments.tail
           path := naming.path
           calleeNode := naming.calleeNode
           skipped := Text.startsWith root "x" || rest.contains "skip" || rest.contains "fixme"
           focused := focusRoots.contains root || rest.contains "only"
           todo := rest.contains "todo"
           table := naming.table }
  else none

/-- **The block that a call opens**, if it is one. -/
def ofCall? (call : Node) : Option Block := do
  let naming ← naming? call
  match ← opening? naming.path with
  | (.hook kind, rest) => hook? kind naming rest call
  | (kind, rest) => titled? kind naming rest call

end Block

end SuiteAudit
