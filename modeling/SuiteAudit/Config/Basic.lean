import SuiteAudit.Json.Printer
import SuiteAudit.Policy.Weights
import SuiteAudit.Policy.Penalties
import SuiteAudit.Policy.SmellLimits

/-!
# Configuration

What a user can set, as a plain value: the settings of rules, weights, penalties and smell limits,
and a few switches. The fingerprint is one text for everything that can change a result.
-/

namespace SuiteAudit

/-- **A configuration.** The threshold and the ignored paths are for callers; the audit itself does
not look at them. -/
structure Config where
  rules : List (Text × RuleSetting) := []
  threshold : Int := 70
  ignore : List Json := []
  weights : WeightTable := []
  penalties : PenaltyPolicy := {}
  smells : SmellLimits := {}
  perTest : Bool := true
  skipSourceAnalysis : Bool := false
  framework : Option Framework := none
deriving Inhabited, Repr

/-! ### Records of numbers -/

/-- **A number in a record**: a whole one or a double, with its name and how to get and set it. -/
inductive NumberField (σ : Type) where
  | whole (name : Text) (get : σ → Int) (set : Int → σ → σ)
  | decimal (name : Text) (get : σ → Float) (set : Float → σ → σ)

namespace NumberField

variable {σ : Type}

/-- The name of a field. -/
def name : NumberField σ → Text
  | whole name _ _ => name
  | decimal name _ _ => name

/-- The field of a record as text. -/
def text (f : NumberField σ) (s : σ) : Text :=
  match f with
  | whole name get _ => name ++ "=" ++ toString (get s)
  | decimal name get _ => name ++ "=" ++ Decimal.floatText (get s)

/-- The field of a record as a value. -/
def value (f : NumberField σ) (s : σ) : Json :=
  match f with
  | whole _ get _ => .int (get s)
  | decimal _ get _ => .float (get s)

end NumberField

/-- A record as text: its title, and its fields in order. -/
def recordText {σ : Type} (title : Text) (fields : List (NumberField σ)) (s : σ) : Text :=
  title ++ "(" ++ Text.join ", " (fields.map (·.text s)) ++ ")"

namespace PenaltyPolicy

/-- The title of the record in messages and fingerprints. -/
def title : Text := "PenaltyPolicy"

/-- The numbers of a penalty policy. -/
def fields : List (NumberField PenaltyPolicy) :=
  [.whole "per_error" (·.perError) fun n p => { p with perError := n },
    .whole "per_warning" (·.perWarning) fun n p => { p with perWarning := n },
    .whole "per_info" (·.perInfo) fun n p => { p with perInfo := n },
    .whole "cap_error" (·.capError) fun n p => { p with capError := n },
    .whole "cap_warning" (·.capWarning) fun n p => { p with capWarning := n },
    .whole "cap_info" (·.capInfo) fun n p => { p with capInfo := n }]

end PenaltyPolicy

namespace SmellLimits

/-- The title of the record in messages and fingerprints. -/
def title : Text := "SmellThresholds"

/-- The numbers of the smell limits. -/
def fields : List (NumberField SmellLimits) :=
  [.whole "over_mock_min_mocks" (·.overMockMinMocks) fun n s => { s with overMockMinMocks := n },
    .whole "over_mock_max_tests" (·.overMockMaxTests) fun n s => { s with overMockMaxTests := n },
    .decimal "mocks_per_assertion" (·.mocksPerAssertion) fun x s =>
      { s with mocksPerAssertion := x },
    .whole "shallow_min_tests" (·.shallowMinTests) fun n s => { s with shallowMinTests := n },
    .whole "shallow_max_distinct" (·.shallowMaxDistinct) fun n s =>
      { s with shallowMaxDistinct := n },
    .whole "happy_path_min_tests" (·.happyPathMinTests) fun n s =>
      { s with happyPathMinTests := n },
    .whole "boilerplate_min_setup" (·.boilerplateMinSetup) fun n s =>
      { s with boilerplateMinSetup := n },
    .decimal "boilerplate_assertions_per_test" (·.boilerplateAssertionsPerTest) fun x s =>
      { s with boilerplateAssertionsPerTest := x },
    .whole "boilerplate_min_tests" (·.boilerplateMinTests) fun n s =>
      { s with boilerplateMinTests := n },
    .whole "points_per_smell" (·.pointsPerSmell) fun n s => { s with pointsPerSmell := n }]

end SmellLimits

/-! ### Fingerprint -/

namespace Config

/-- A row of weights as a value. -/
def rowValue (row : WeightRow) : Json :=
  .object (Category.all.map fun c => (c.name, .int (row.get c)))

/-- **Everything that can change a result, as one value.** -/
def essence (c : Config) : Json :=
  .object
    [("rules", .object (c.rules.map fun (id, setting) => (id, .string setting.name))),
      ("weights", .object (c.weights.map fun (t, row) => (t.name, rowValue row))),
      ("penalties", .string (recordText PenaltyPolicy.title PenaltyPolicy.fields c.penalties)),
      ("smells", .string (recordText SmellLimits.title SmellLimits.fields c.smells)),
      ("per_test", .bool c.perTest),
      ("skip_source_analysis", .bool c.skipSourceAnalysis),
      ("framework", .string ((c.framework.map Framework.name).getD ""))]

/-- **The fingerprint of a configuration.** -/
def fingerprint (c : Config) : Text :=
  c.essence.text

end Config

end SuiteAudit
