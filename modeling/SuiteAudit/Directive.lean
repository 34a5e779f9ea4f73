import SuiteAudit.Issue
import SuiteAudit.Text.Pattern

/-!
# Directives in comments

A comment can silence rules: on its own line, on the next line, from here to an `enable`, or in the
whole file. A directive names the rules it is about; one that names none is about all of them. Words
that name no rule do not count, and what follows `--` is a reason for the reader.

At most one directive a line is read. `Silence` is what the directives of a file come to.
-/

namespace SuiteAudit

/-! ### Reading a directive -/

/-- **What a directive does.** -/
inductive DirectiveKind where
  | ignore
  | ignoreNextLine
  | disable
  | enable
  | disableFile
deriving Repr, DecidableEq, Inhabited

/-- **What a directive is about**: one rule, or all of them. -/
inductive Channel where
  | all
  | rule (id : Text)
deriving Repr, DecidableEq, Inhabited

namespace Channel

/-- The name of a channel. -/
def name : Channel → Text
  | all => "*"
  | rule id => id

/-- Whether the channel is about a rule. -/
def covers (c : Channel) (id : Text) : Bool :=
  match c with
  | all => true
  | rule r => r == id

end Channel

/-- Whether some channel is about a rule. -/
def covered (channels : List Channel) (id : Text) : Bool :=
  channels.any (·.covers id)

/-- **A directive**: what it does, and what it is about. -/
structure Directive where
  kind : DirectiveKind
  channels : List Channel
deriving Repr, DecidableEq, Inhabited

namespace Directive

/-- The words of the directives, a longer one before those it starts with. -/
def words : List (Text × DirectiveKind) :=
  [("ignore-next-line", .ignoreNextLine), ("ignore", .ignore), ("disable-file", .disableFile),
    ("disable", .disable), ("enable", .enable)]

open Text.Pattern in
/-- The head of a directive: the start of a comment, and its word. -/
def pattern : Text.Pattern :=
  Text.Pattern.all
    [texts ["//", "/*"], blanks, text "testgrade-", group (texts (words.map (·.1))), wordEdge]

/-- What follows the head of a directive on its line, where the head ends at `index`. -/
def tailFrom (index : Nat) (line : Text) : Text :=
  Text.through (fun cs => Chars.beforeFirst '\n' (cs.drop index)) line

/-- The registered rules that the rest of a directive names, each once: up to the end of the
comment or the reason, words between blanks and commas. -/
def namedRules (known : Text → Bool) (tail : Text) : List Text :=
  let text := Chars.beforeText ['-', '-'] (Chars.beforeText ['*', '/'] tail.points)
  let words := (Chars.split (fun c => Text.isBlank c || c == ',') text).map Text.mk
  (words.filter known).eraseDups

/-- The channels of a directive: the rules it names, or all. -/
def channelsOf (known : Text → Bool) (tail : Text) : List Channel :=
  match namedRules known tail with
  | [] => [.all]
  | ids => ids.map .rule

/-- **The directive of a line**: the first one, if there is any. `known` tells the registered
rules. -/
def ofLine? (known : Text → Bool) (line : Text) : Option Directive :=
  match pattern.search line with
  | some { last, groups := [word], .. } =>
    (words.lookup word).map fun kind => { kind, channels := channelsOf known (tailFrom last line) }
  | _ => none

end Directive

/-! ### Silence -/

/-- A stretch of lines on which a channel is silent, both ends included. -/
structure SilentRange where
  first : Nat
  last : Nat
  channel : Channel
deriving Repr, DecidableEq, Inhabited

/-- **Which rules are silent where.** -/
structure Silence where
  /-- Channels that are silent on single lines. -/
  lines : List (Nat × Channel) := []
  ranges : List SilentRange := []
  /-- Channels that are silent in the whole file. -/
  file : List Channel := []
deriving Repr, DecidableEq, Inhabited

/-- What has been read of a file so far; `opened` are the channels that a `disable` has silenced and
no `enable` has closed, with the line of that `disable`. -/
structure SilenceReader where
  silence : Silence := {}
  opened : List (Channel × Nat) := []
deriving Repr, DecidableEq, Inhabited

namespace SilenceReader

/-- Opens a channel, unless it is open already. -/
def openAt (number : Nat) (opened : List (Channel × Nat)) (c : Channel) : List (Channel × Nat) :=
  if opened.any (·.1 == c) then opened else opened ++ [(c, number)]

/-- The ranges of opened channels that end at a line. -/
def rangesTo (last : Nat) (opened : List (Channel × Nat)) : List SilentRange :=
  opened.map fun (channel, first) => { first, last := max last first, channel }

/-- Whether an `enable` about these channels closes a channel: it names it, or names no rule. -/
def closes (channels : List Channel) (c : Channel) : Bool :=
  channels.contains .all || channels.contains c

/-- Reads the directive of a line. -/
def read (r : SilenceReader) (number : Nat) (d : Directive) : SilenceReader :=
  let s := r.silence
  match d.kind with
  | .ignore =>
    { r with silence := { s with lines := s.lines ++ d.channels.map fun c => (number, c) } }
  | .ignoreNextLine =>
    { r with silence := { s with lines := s.lines ++ d.channels.map fun c => (number + 1, c) } }
  | .disableFile => { r with silence := { s with file := s.file ++ d.channels } }
  | .disable => { r with opened := d.channels.foldl (openAt number) r.opened }
  | .enable =>
    let (closed, opened) := r.opened.partition fun (c, _) => closes d.channels c
    { silence := { s with ranges := s.ranges ++ rangesTo number closed }, opened }

/-- Reads the lines of a file from `number` on. -/
def readLines (known : Text → Bool) (r : SilenceReader) (number : Nat) :
    List Text → SilenceReader
  | [] => r
  | line :: rest =>
    match Directive.ofLine? known line with
    | some d => readLines known (r.read number d) (number + 1) rest
    | none => readLines known r (number + 1) rest

end SilenceReader

namespace Silence

/-- **What the directives of a file come to.** A channel that is still open at the end is silent to
the last line. -/
def ofLines (known : Text → Bool) (lines : List Text) : Silence :=
  let r := SilenceReader.readLines known {} 1 lines
  { r.silence with
    ranges := r.silence.ranges ++ SilenceReader.rangesTo lines.length r.opened }

/-- Whether nothing is silent. -/
def isEmpty (s : Silence) : Bool :=
  s.lines.isEmpty && s.ranges.isEmpty && s.file.isEmpty

/-- **Whether a rule is silent on a line.** -/
def isIgnored (s : Silence) (line : Int) (rule : Text) : Bool :=
  covered s.file rule ||
    s.lines.any (fun (number, c) => number == line && c.covers rule) ||
    s.ranges.any fun r => r.first ≤ line && line ≤ r.last && r.channel.covers rule

/-- **The issues that are not silenced**, in order. -/
def filter (s : Silence) (issues : List Issue) : List Issue :=
  issues.filter fun i => !s.isIgnored i.span.line i.rule

end Silence

end SuiteAudit
