import SuiteAudit.Strength
import SuiteAudit.Syntax.Access
import SuiteAudit.Text.Pattern

/-!
# Assertions in chains

A chain is read for the assertions that it makes: an expect chain or an assert call makes one, a
Cypress chain one for each `should`, and an ordinary chain none. Reading also tells what the
argument lists of the chain hold: the subject, or the expected values.
-/

namespace SuiteAudit

open Syntax

/-- **What an argument list of a chain holds.** Those of an assert call start with the subject, and
expected values follow. -/
inductive ArgsRole where
  | subject
  | expected
  | subjectFirst
deriving Repr, DecidableEq, Inhabited

/-- The role of the literal at a position. -/
def ArgsRole.at (position : Nat) : ArgsRole → LiteralRole
  | subject => .subject
  | expected => .expected
  | subjectFirst => if position == 0 then .subject else .expected

/-- **What was read off a chain**: its assertions, and the roles of argument lists, by extent. -/
structure Reading where
  assertions : List Assertion := []
  roles : List ((Nat × Nat) × ArgsRole) := []
deriving Inhabited

namespace Reading

/-! ### Words of chains -/

/-- Words of chai that mean nothing by themselves. -/
def fillers : List Text :=
  ["to", "be", "been", "is", "that", "which", "and", "has", "have", "with", "at", "of", "same",
    "but", "does", "still", "also"]

/-- Words that say how to compare. -/
def flags : List Text :=
  ["deep", "nested", "own", "ordered", "any", "all", "itself"]

/-- Words that wait for a promise. -/
def waiters : List Text :=
  ["resolves", "rejects", "eventually"]

/-- The role of an argument list. -/
def roleOf (args : Node) (role : ArgsRole) : (Nat × Nat) × ArgsRole :=
  (args.extent, role)

/-- The texts of an argument list. -/
def texts (args : Node) : List Text :=
  args.operands.map Node.compact

/-- The texts of an argument list that may be missing. -/
def textsOf (args : Option Node) : List Text :=
  (args.map texts).getD []

/-- The names of links up to a place, as a dotted path. -/
def nameBefore (links : List Link) : Text :=
  Text.join "." ((links.map (·.name)).filter (· != ""))

/-! ### What follows the subject -/

/-- Whether a chain negates: an odd number of `not`. -/
def negates (links : List Link) : Bool :=
  (links.filter fun (link : Link) => link.name == "not").length % 2 == 1

/-- The words among links that modify an expectation. -/
def modifiersOf (links : List Link) : List Text :=
  (links.map (·.name)).filter fun name => waiters.contains name || flags.contains name

/-- **Reads what follows a subject**: the last link is the matcher, those before it negate and
modify. A chain that ends in `not` or in a filler asserts nothing yet. -/
def ofTail (style : AssertionStyle) (subject : Text) (modifiers : List Text)
    (links : List Link) : Reading :=
  match links.getLast? with
  | none => {}
  | some last =>
    if last.name == "not" || last.args.isNone && fillers.contains last.name then {}
    else
      let before := links.dropLast
      let chai := style == .expect && !isExpectMatcher last.name
      { assertions :=
          [{ matcher := last.name, style := if chai then .chai else style, subject
             args := textsOf last.args, negated := negates before
             modifiers := modifiers ++ modifiersOf before }]
        roles := last.args.toList.map (roleOf · .expected) }

/-! ### Kinds of chain -/

/-- The tail of an expect chain whose subject is among these arguments. -/
def ofExpected (args : Node) (modifiers : List Text) (rest : List Link) : Reading :=
  if rest.isEmpty then {}
  else
    let tail := ofTail .expect ((texts args).headD "") modifiers rest
    { tail with roles := roleOf args .subject :: tail.roles }

/-- **Reads an expect chain.** Without arguments of its own only `expect.soft` and `expect.poll`
expect something. -/
def ofExpect : List Link → Reading
  | { args := some args, .. } :: rest => ofExpected args [] rest
  | _ :: { name, args := some args } :: rest =>
    if name == "soft" || name == "poll" then ofExpected args [name] rest else {}
  | _ => {}

/-- The assertion of an assert call. -/
def ofAssertCall (matcher : Text) (args : Node) : Reading where
  assertions :=
    [{ matcher, style := .assertCall, subject := (texts args).headD "", args := (texts args).tail }]
  roles := [roleOf args .subjectFirst]

/-- **Reads a call of an assert module**, or of one of its functions. -/
def ofAssert : List Link → Reading
  | [{ args := some args, .. }] => ofAssertCall "assert" args
  | [_, { name, args := some args }] => ofAssertCall ("assert." ++ name) args
  | _ => {}

/-- The assertion of a `should` with arguments, if the first of them is a string. `before` are the
links in front of it. -/
def ofShouldCall (before : List Link) (args : Node) : Reading :=
  match args.operands.head?.bind Node.stringValue? with
  | none => {}
  | some chainer =>
    let negated := Text.startsWith chainer "not."
    { assertions :=
        [{ matcher := if negated then Text.drop 4 chainer else chainer, style := .should
           subject := nameBefore before, args := (texts args).tail, negated }]
      roles := [roleOf args .expected] }

/-- **Reads the `should` links of a chain** after the links `before`. A `should` that is not called
begins a chai chain, which takes the place of what was read so far. -/
def ofShouldFrom (soFar : Reading) (before : List Link) : List Link → Reading
  | [] => soFar
  | link :: rest =>
    match link.args with
    | none =>
      if link.name == "should" then
        let tail := ofTail .chai (nameBefore before) [] rest
        { tail with roles := soFar.roles ++ tail.roles }
      else ofShouldFrom soFar (before ++ [link]) rest
    | some args =>
      if link.name == "should" || link.name == "and" then
        let found := ofShouldCall before args
        ofShouldFrom
          { assertions := soFar.assertions ++ found.assertions
            roles := soFar.roles ++ found.roles }
          (before ++ [link]) rest
      else ofShouldFrom soFar (before ++ [link]) rest

/-- Reads the `should` links of a chain; its first link is no `should`. -/
def ofShould : List Link → Reading
  | [] => {}
  | root :: rest => ofShouldFrom {} [root] rest

/-- The first call in a chain by one of the names. -/
def calledAs (names : List Text) (links : List Link) : Option (Text × Node) :=
  links.findSome? fun link =>
    link.args.bind fun args => if names.contains link.name then some (link.name, args) else none

/-- An assertion that Cypress makes on its own. -/
def implicitAssertion (name : Text) (args : Node) : Assertion :=
  { matcher := "cy." ++ name, style := .cypress, subject := "cy", args := texts args }

/-- **Reads what Cypress checks on its own**: that something contains a text, or else that it is
there. -/
def ofCypress (links : List Link) : Reading :=
  match calledAs ["contains"] links with
  | some (name, args) =>
    { assertions := [implicitAssertion name args], roles := [roleOf args .expected] }
  | none =>
    match calledAs ["get", "find"] links with
    | some (name, args) => { assertions := [implicitAssertion name args] }
    | none => {}

open Text.Pattern in
/-- Names of functions that assert something of their own. -/
def customName : Text.Pattern :=
  Text.Pattern.all
    [Text.Pattern.texts ["expect", "assert", "verify", "check"],
      oneOf fun c => c.isIn Char.isUpper || c == '_', run Text.isWord, stop]

/-- **Reads a call of a function that asserts something of its own**, by its name. -/
def ofCustom : List Link → Reading
  | [{ name, args := some args }] =>
    if customName.matchesStart name then
      { assertions :=
          [{ matcher := "custom", style := .custom, subject := (texts args).headD ""
             args := texts args }] }
    else {}
  | _ => {}

/-! ### Reading a chain -/

/-- The links of a chain without the name of the chai module in front. -/
def withoutModule : List Link → List Link
  | root :: second :: rest =>
    if root.name == "chai" && (second.name == "expect" || second.name == "assert") then
      second :: rest
    else root :: second :: rest
  | links => links

/-- Reads a chain that begins with no word for an assertion. -/
def ofOther (root : Text) (links : List Link) : Reading :=
  let should := ofShould links
  if !should.assertions.isEmpty then should
  else
    let more := if root == "cy" then ofCypress links else ofCustom links
    { more with roles := should.roles ++ more.roles }

/-- **Reads a chain**, by its first words. -/
def ofLinks (links : List Link) : Reading :=
  match withoutModule links with
  | [] => {}
  | root :: rest =>
    if root.name == "expect" then ofExpect (root :: rest)
    else if root.name == "assert" then ofAssert (root :: rest)
    else if root.name == "sinon" && 1 < rest.length &&
        (rest.head?.map Link.name).getD "" == "assert" then
      ofAssert rest
    else ofOther root.name (root :: rest)

end Reading

end SuiteAudit
