import SuiteAudit.Config.Basic
import SuiteAudit.Config.Error
import SuiteAudit.Rule.Registry

/-!
# Reading a configuration

A configuration comes as a JSON object. Its keys are checked first, then the kinds of their values
in the order of the schema, then the contents. Numbers may be written as numbers, switches or
numerals; names of test types, categories, severities and frameworks in any case.
-/

namespace SuiteAudit

/-! ### Schema -/

/-- **The kinds of value that keys take.** -/
inductive ValueKind where
  | object
  | whole
  | array
  | switch
  | text
deriving Repr, DecidableEq

namespace ValueKind

/-- The word for a kind in messages. -/
def word : ValueKind → Text
  | object => "dict"
  | whole => "int"
  | array => "list"
  | switch => "bool"
  | text => "str"

/-- Whether a value is of the kind. A switch is no whole number. -/
def accepts : ValueKind → Json → Bool
  | object, .object _ => true
  | whole, .int _ => true
  | array, .array _ => true
  | switch, .bool _ => true
  | text, .string _ => true
  | _, _ => false

end ValueKind

/-- **A key of a configuration.** -/
structure ConfigKey where
  key : Text
  kind : ValueKind
  default : Json
  description : Text

/-- **The keys in the order in which they are checked.** -/
def configSchema : List ConfigKey :=
  [{ key := "rules", kind := .object, default := .object []
     description := "Per-rule severity override \x7brule_id: error|warning|info|off\x7d" },
    { key := "threshold", kind := .whole, default := .int 70
      description := "Pass/fail score threshold for callers (not used by the analyzer)" },
    { key := "ignore", kind := .array, default := .array []
      description := "Path patterns callers skip before analysis" },
    { key := "weights", kind := .object, default := .object []
      description :=
        "Category weight overrides \x7btest_type: \x7bcategory: weight\x7d\x7d; " ++
          "each row sums to 100" },
    { key := "penalties", kind := .object, default := .object []
      description :=
        "Penalty overrides (per_error, per_warning, per_info, cap_error, cap_warning, cap_info)" },
    { key := "smells", kind := .object, default := .object []
      description := "AI-smell threshold overrides (SmellThresholds field names)" },
    { key := "per_test", kind := .switch, default := .bool true
      description := "Compute per-test scores" },
    { key := "skip_source_analysis", kind := .switch, default := .bool false
      description := "Treat the source file as unavailable even when one is supplied" },
    { key := "framework", kind := .text, default := .string ""
      description := "Force a test framework instead of detecting it (empty = detect)" }]

/-- The configuration that sets every key to its default. -/
def defaultConfigValue : Json :=
  .object (configSchema.map fun k => (k.key, k.default))

/-! ### Numbers -/

/-- **A value as a whole number**; doubles lose their fractional part. -/
def Json.toWhole : Json → Except NumberError Int
  | .bool b => .ok (if b then 1 else 0)
  | .int n => .ok n
  | .float x => (Decimal.wholePart x).mapError .noWholePart
  | .string s =>
    match Decimal.readWhole s with
    | .ok n => .ok n
    | .error .noNumeral => .error (.notWholeNumeral s)
    | .error (.tooLong e) => .error (.tooManyDigits e)
  | value => .error (.notWhole value.kindWord)

/-- **A value as a double.** -/
def Json.toDecimal : Json → Except NumberError Float
  | .bool b => .ok (if b then 1 else 0)
  | .int n =>
    match Decimal.ofInt? n with
    | some x => .ok x
    | none => .error .beyondDoubles
  | .float x => .ok x
  | .string s =>
    match Decimal.readFloat? s with
    | some x => .ok x
    | none => .error (.notDecimalNumeral s)
  | value => .error (.notDecimal value.kindWord)

/-- The record with one field set from a value. -/
def NumberField.assign {σ : Type} (f : NumberField σ) (value : Json) (s : σ) :
    Except NumberError σ :=
  match f with
  | whole _ _ set => value.toWhole.map fun n => set n s
  | decimal _ _ set => value.toDecimal.map fun x => set x s

/-- The record with one named field set from a value. -/
def setNumber {σ : Type} (title : Text) (fields : List (NumberField σ)) (s : σ)
    (entry : Text × Json) : Except ConfigError σ :=
  match fields.find? (·.name == entry.1) with
  | none => .error (.unknownField title entry.1)
  | some f => (f.assign entry.2 s).mapError .badNumber

/-- **The record with the named fields set**, in the order in which they come. -/
def setNumbers {σ : Type} (title : Text) (fields : List (NumberField σ)) (s : σ)
    (raw : List (Text × Json)) : Except ConfigError σ :=
  raw.foldlM (setNumber title fields) s

/-- A penalty policy from the numbers that differ from the default. -/
def PenaltyPolicy.ofFields (raw : List (Text × Json)) : Except ConfigError PenaltyPolicy :=
  setNumbers title fields {} raw

/-- Smell limits from the numbers that differ from the default. -/
def SmellLimits.ofFields (raw : List (Text × Json)) : Except ConfigError SmellLimits :=
  setNumbers title fields {} raw

/-! ### Rules and weights -/

/-- The setting of one rule. -/
def readSetting (g : Registry) (entry : Text × Json) :
    Except ConfigError (Text × RuleSetting) :=
  let (id, value) := entry
  if g.contains id then
    match RuleSetting.read value.plain.lower with
    | .ok setting => .ok (id, setting)
    | .error _ => .error (.invalidSeverity id value)
  else .error (.unknownRule id)

/-- The category of a name in a row of weights: its key or its title, in any case. -/
def categoryNamed? (name : Text) : Option Category :=
  let name := Text.lower name
  Category.all.find? fun c => c.key == name || Text.lower c.name == name

/-- The entries with one weight set. -/
def WeightEntries.put (c : Category) (weight : Int) : WeightEntries → WeightEntries
  | [] => [(c, weight)]
  | (d, w) :: rest => if d == c then (d, weight) :: rest else (d, w) :: put c weight rest

/-- The entries with one weight of a row. -/
def readWeight (entries : WeightEntries) (entry : Text × Json) :
    Except ConfigError WeightEntries :=
  match categoryNamed? entry.1 with
  | none => .error (.unknownCategory entry.1)
  | some c =>
    match entry.2.toWhole with
    | .ok weight => .ok (entries.put c weight)
    | .error e => .error (.badNumber e)

/-- **A row of weights**: all six categories, none negative, and a hundred in sum. -/
def readRow (testType : TestType) (raw : List (Text × Json)) :
    Except ConfigError WeightRow := do
  let entries ← raw.foldlM readWeight []
  if Category.all.any fun c => (entries.lookup c).isNone then
    .error (.weightsIncomplete testType)
  else
    let row := WeightRow.ofEntries entries
    if row.total != 100 || row.toList.any (· < 0) then .error (.weightsUnbalanced testType)
    else .ok row

/-- The table with the row of one type of test set. -/
def WeightTable.put (testType : TestType) (row : WeightRow) : WeightTable → WeightTable
  | [] => [(testType, row)]
  | (t, r) :: rest =>
    if t == testType then (t, row) :: rest else (t, r) :: put testType row rest

/-- The table with one row of a configuration. -/
def readTableRow (table : WeightTable) (entry : Text × Json) :
    Except ConfigError WeightTable :=
  match TestType.read entry.1.lower with
  | .error e => .error (.unknownName e)
  | .ok testType =>
    match entry.2 with
    | .object raw => (readRow testType raw).map fun row => WeightTable.put testType row table
    | _ => .error (.weightsNotMapping entry.1)

/-- A framework that is forced; the empty text forces none. -/
def readFramework (name : Text) : Except ConfigError (Option Framework) :=
  if name == "" then .ok none
  else
    match Framework.read name.lower with
    | .ok framework => .ok (some framework)
    | .error e => .error (.unknownName e)

/-! ### Configurations -/

/-- The fields of a value that is an object. -/
def Json.fields : Json → List (Text × Json)
  | .object fields => fields
  | _ => []

/-- The elements of a value that is an array. -/
def Json.elements : Json → List Json
  | .array elements => elements
  | _ => []

/-- The value of a key, or its default. -/
def configValue (raw : List (Text × Json)) (k : ConfigKey) : Json :=
  (raw.lookup k.key).getD k.default

/-- Checks that all keys are known and their values of the right kind. -/
def checkSchema (raw : List (Text × Json)) : Except ConfigError Unit :=
  match raw.find? fun (key, _) => !configSchema.any (·.key == key) with
  | some (key, _) => .error (.unknownKey key)
  | none =>
    match configSchema.find? fun k => !k.kind.accepts (configValue raw k) with
    | some k => .error (.wrongKind k.kind.word k.key (configValue raw k))
    | none => .ok ()

namespace Config

/-- **The configuration of an object.** -/
def ofFields (g : Registry) (raw : List (Text × Json)) : Except ConfigError Config := do
  checkSchema raw
  let value (key : Text) : Json := (raw.lookup key).getD .null
  let rules ← (value "rules").fields.mapM (readSetting g)
  let weights ← (value "weights").fields.foldlM readTableRow []
  let penalties ← PenaltyPolicy.ofFields (value "penalties").fields
  let smells ← SmellLimits.ofFields (value "smells").fields
  let framework ← readFramework (match value "framework" with | .string s => s | _ => "")
  .ok
    { rules, weights, penalties, smells, framework
      threshold := match value "threshold" with | .int n => n | _ => 70
      ignore := (value "ignore").elements
      perTest := match value "per_test" with | .bool b => b | _ => true
      skipSourceAnalysis := match value "skip_source_analysis" with | .bool b => b | _ => false }

/-- **The configuration that a file holds.** -/
def ofText (g : Registry) (text : String) : Except ConfigError Config :=
  match Json.parse text with
  | .error e => .error (.badJson e)
  | .ok (.object raw) => ofFields g raw
  | .ok _ => .error .notAnObject

end Config

end SuiteAudit
