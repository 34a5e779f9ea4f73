import SuiteAudit.Audit.Analysis
import SuiteAudit.Proofs.Accepted
import SuiteAudit.Proofs.Breakdowns
import SuiteAudit.Proofs.Records

/-!
# What a fingerprint tells

The fingerprint of a configuration is the canonical text of all that an audit reads of it. Accepted
configurations have the same fingerprint if and only if they agree on that (`fingerprint_exact`),
and then they give the same audits (`analyze_of_agree`). Threshold and ignored paths are not read.
-/

namespace SuiteAudit

namespace Config

/-- **Configurations that agree** on all that can change a result. Rules and weights agree as
mappings, whatever their order. -/
structure Agree (a b : Config) : Prop where
  rules : ∀ id, a.rules.lookup id = b.rules.lookup id
  weights : ∀ t, a.weights.lookup t = b.weights.lookup t
  penalties : a.penalties = b.penalties
  smells : a.smells = b.smells
  perTest : a.perTest = b.perTest
  skipSourceAnalysis : a.skipSourceAnalysis = b.skipSourceAnalysis
  framework : a.framework = b.framework

/-- **What an accepted configuration satisfies**: its rules are registered, and none of them, nor a
type of test, comes twice. -/
structure Keyed (c : Config) : Prop where
  registered : ∀ e ∈ c.rules, registry.contains e.1 = true
  rules : (c.rules.map (·.1)).Nodup
  weights : (c.weights.map (·.1)).Nodup

end Config

/-! ### Audits -/

section

variable {settings others : List (Text × RuleSetting)}

theorem activeRules_congr (h : ∀ id, settings.lookup id = others.lookup id) (pool : List Rule) :
    activeRules settings pool = activeRules others pool := by
  simp only [activeRules, h]

theorem applySettings_congr (h : ∀ id, settings.lookup id = others.lookup id)
    (issues : List Issue) : applySettings settings issues = applySettings others issues := by
  simp only [applySettings, h]

theorem find?_eq_lookup (table : WeightTable) (t : TestType) :
    (table.find? (·.1 == t)).map (·.2) = table.lookup t := by
  induction table with
  | nil => rfl
  | cons e rest ih =>
    rw [List.find?_cons, List.lookup_cons, Bool.beq_comm]
    split <;> simp_all

theorem weightsFor_congr {table other : WeightTable} (h : ∀ t, table.lookup t = other.lookup t)
    (t : TestType) : weightsFor t table = weightsFor t other := by
  rw [weightsFor, weightsFor, find?_eq_lookup, find?_eq_lookup, h]

end

section

variable {a b : Config}

/-- **Configurations that agree give the same audit** of every suite. -/
theorem audit_of_agree (h : a.Agree b) (α : Type) [ScoreNumber α] (pool : List Rule) (s : Suite)
    (facts : SourceFacts) : audit α a pool s facts = audit α b pool s facts := by
  have context : contextFor a s facts = contextFor b s facts := by
    rw [contextFor, contextFor, h.smells]
  have counted (found : List Issue) : countedIssues a s found = countedIssues b s found := by
    rw [countedIssues, countedIssues, applySettings_congr h.rules]
  unfold audit analysisFault? analysisOf
  simp only [context, counted, activeRules_congr h.rules, weightsFor_congr h.weights, h.penalties,
    h.perTest]

/-- **Configurations that agree give the same audits.** -/
theorem analyze_of_agree (h : a.Agree b) (α : Type) [ScoreNumber α] (parse : Syntax.Parser)
    (job : Job) (pool : List Rule) : analyze α parse a job pool = analyze α parse b job pool := by
  have facts (s : Suite) : factsFor parse a job s = factsFor parse b job s := by
    rw [factsFor, factsFor, h.skipSourceAnalysis]
  unfold analyze
  simp only [h.framework, facts, audit_of_agree h]

end

/-! ### Accepted configurations -/

/-- **A value of a configuration that is a mapping**: no key comes twice, in it or in an object in
it. -/
structure IsMapping (raw : List (Text × Json)) : Prop where
  keys : (raw.map (·.1)).Nodup
  fields : ∀ e ∈ raw, (e.2.fields.map (·.1)).Nodup

/-- A setting is read under its key, and its rule is registered. -/
theorem of_readSetting {g : Registry} {entry : Text × Json} {setting : Text × RuleSetting}
    (h : readSetting g entry = .ok setting) :
    setting.1 = entry.1 ∧ g.contains setting.1 = true := by
  simp only [readSetting] at h
  split at h
  · next known =>
    split at h
    · obtain rfl := Except.ok.inj h
      exact ⟨rfl, known⟩
    · cases h
  · cases h

/-- The settings that are read are those of the keys, and their rules are registered. -/
theorem mapM_readSetting {g : Registry} {entries : List (Text × Json)}
    {rules : List (Text × RuleSetting)} (h : entries.mapM (readSetting g) = .ok rules) :
    rules.map (·.1) = entries.map (·.1) ∧ ∀ e ∈ rules, g.contains e.1 = true := by
  constructor
  · rw [← List.forall₂_eq_eq_eq, List.forall₂_map_left_iff, List.forall₂_map_right_iff]
    exact (forall₂_of_mapM h).flip.imp fun _ _ hSetting => (of_readSetting hSetting).1
  · intro e he
    obtain ⟨_, -, hSetting⟩ := exists_of_mem_mapM h he
    exact (of_readSetting hSetting).2

theorem mem_keys_put {t u : TestType} {row : WeightRow} : ∀ {table : WeightTable},
    u ∈ (WeightTable.put t row table).map (·.1) → u = t ∨ u ∈ table.map (·.1)
  | [], h => .inl (by simpa [WeightTable.put] using h)
  | (v, r) :: rest, h => by
    rw [WeightTable.put] at h
    split at h
    · exact .inr h
    · rcases List.mem_cons.mp h with rfl | h
      · exact .inr List.mem_cons_self
      · exact (mem_keys_put h).imp_right (List.mem_cons_of_mem _)

/-- Setting a row keeps each type of test once. -/
theorem nodup_put {t : TestType} {row : WeightRow} : ∀ {table : WeightTable},
    (table.map (·.1)).Nodup → ((WeightTable.put t row table).map (·.1)).Nodup
  | [], _ => List.nodup_singleton _
  | (u, r) :: rest, h => by
    rw [WeightTable.put]
    split
    · exact h
    · next other =>
      obtain ⟨hFirst, hRest⟩ := List.nodup_cons.mp h
      refine List.nodup_cons.mpr ⟨fun again => ?_, nodup_put hRest⟩
      rcases mem_keys_put again with same | old
      · exact other (beq_iff_eq.mpr same)
      · exact hFirst old

/-- **An accepted configuration has its keys in order.** -/
theorem keyed_of_ofFields {raw : List (Text × Json)} {c : Config} (mapping : IsMapping raw)
    (h : Config.ofFields registry raw = .ok c) : c.Keyed := by
  simp only [Config.ofFields, bind_eq_ok] at h
  obtain ⟨-, -, rules, hRules, weights, hWeights, penalties, -, smells, -, framework, -, h⟩ := h
  obtain rfl := Except.ok.inj h
  obtain ⟨keys, registered⟩ := mapM_readSetting hRules
  refine ⟨registered, ?_, ?_⟩
  · rw [keys]
    cases hFound : raw.lookup ("rules" : Text) with
    | none => exact List.nodup_nil
    | some value =>
      obtain ⟨before, after, rfl, -⟩ := List.lookup_eq_some_iff.mp hFound
      exact mapping.fields ("rules", value) (by simp)
  · -- The rows are read one by one into a table that starts empty.
    refine foldlM_invariant (fun table : WeightTable => (table.map (·.1)).Nodup) ?_ _ ?_ hWeights
    · intro table entry next distinct hStep
      unfold readTableRow at hStep
      split at hStep
      · cases hStep
      · split at hStep
        · obtain ⟨row, -, rfl⟩ := map_eq_ok.mp hStep
          exact nodup_put distinct
        · cases hStep
    · exact List.nodup_nil

/-! ### Fingerprints -/

open Json

theorem isPlain_id : ∀ r ∈ allRules, r.id.isPlain = true := by
  decide +kernel

theorem isPlain_of_contains {id : Text} (h : registry.contains id = true) : id.isPlain = true := by
  obtain ⟨r, hr, same⟩ := List.any_eq_true.mp h
  rw [← beq_iff_eq.mp same]
  exact isPlain_id r hr

/-- A function that tells apart the elements of a list of all values tells apart all values. -/
theorem injective_of_nodup_map {κ β : Type} {f : κ → β} {all : List κ} (complete : ∀ x, x ∈ all)
    (distinct : (all.map f).Nodup) : Function.Injective f :=
  fun x y => List.inj_on_of_nodup_map distinct (complete x) (complete y)

theorem Category.nodup_names : (Category.all.map Category.name).Nodup := by
  decide

theorem Category.name_injective : Function.Injective Category.name :=
  injective_of_nodup_map mem_all nodup_names

theorem TestType.mem_all (t : TestType) : t ∈ TestType.all := by
  cases t <;> decide

theorem TestType.name_injective : Function.Injective TestType.name :=
  injective_of_nodup_map mem_all (by decide)

theorem RuleSetting.mem_all : ∀ setting : RuleSetting, setting ∈ RuleSetting.all
  | .off => by decide
  | .on severity => by cases severity <;> decide

theorem RuleSetting.name_injective : Function.Injective RuleSetting.name :=
  injective_of_nodup_map mem_all (by decide)

/-- A framework that may be forced is known by its word; no framework has the empty one. -/
theorem forced_name_injective :
    Function.Injective fun f : Option Framework => (f.map Framework.name).getD "" := by
  have mem_all : ∀ f : Option Framework, f ∈ none :: Framework.all.map some
    | none => by decide
    | some f => by cases f <;> decide
  exact injective_of_nodup_map mem_all (by decide)

theorem plain_rowValue (row : WeightRow) : Plain (Config.rowValue row) := by
  refine .object ?_ ?_ ?_
  · simp only [Category.all, List.map_cons, List.map_nil, List.forall_mem_cons]
    decide
  · exact Category.nodup_names
  · intro e he
    obtain ⟨c, -, rfl⟩ := List.mem_map.mp he
    exact .int _

namespace Config

variable {a b c : Config}

theorem plain_rules (h : c.Keyed) :
    Plain (.object (c.rules.map fun e => (e.1, .string e.2.name))) := by
  refine .object ?_ ?_ ?_
  · intro e he
    obtain ⟨entry, hEntry, rfl⟩ := List.mem_map.mp he
    exact isPlain_of_contains (h.registered entry hEntry)
  · simpa [Function.comp_def] using h.rules
  · intro e he
    obtain ⟨⟨id, setting⟩, -, rfl⟩ := List.mem_map.mp he
    refine .string ?_
    cases setting with
    | off => rfl
    | on severity => cases severity <;> rfl

theorem plain_weights (h : c.Keyed) :
    Plain (.object (c.weights.map fun e => (e.1.name, rowValue e.2))) := by
  refine .object ?_ ?_ ?_
  · intro e he
    obtain ⟨⟨t, row⟩, -, rfl⟩ := List.mem_map.mp he
    cases t <;> rfl
  · have := h.weights.map TestType.name_injective
    simpa [Function.comp_def] using this
  · intro e he
    obtain ⟨entry, -, rfl⟩ := List.mem_map.mp he
    exact plain_rowValue entry.2

theorem nodup_essence : (c.essence.fields.map (·.1)).Nodup := by
  show (["rules", "weights", "penalties", "smells", "per_test", "skip_source_analysis",
    "framework"] : List Text).Nodup
  decide

/-- **All that can change a result is plain.** -/
theorem plain_essence (h : c.Keyed) : Plain c.essence := by
  refine .object ?_ ?_ ?_
  · simp only [List.forall_mem_cons]
    decide
  · exact nodup_essence
  · simp only [List.forall_mem_cons]
    refine ⟨plain_rules h, plain_weights h, .string ?_, .string ?_, .bool _, .bool _, .string ?_,
      by simp⟩
    · exact isPlain_recordText rfl all_name_penalties _
    · exact isPlain_recordText rfl all_name_smells _
    · cases c.framework with
      | none => rfl
      | some f => cases f <;> rfl

/-- A row of weights is known by its value. -/
theorem eq_of_alike_rowValue (r s : WeightRow) (h : Alike (rowValue r) (rowValue s)) : r = s := by
  have distinct (row : WeightRow) : (row.entries.map (·.1)).Nodup :=
    show Category.all.Nodup by decide
  have weights : ∀ c, r.entries.lookup c = s.entries.lookup c :=
    (alike_table_iff Category.name_injective (fun _ _ => Alike.eq_of_int) (distinct r)
      (distinct s)).mp h
  rw [← r.ofEntries_entries, ← s.ofEntries_entries, WeightRow.ofEntries, WeightRow.ofEntries]
  simp only [weights]

/-- **All that can change a result is equal as mappings** if and only if the configurations
agree. -/
theorem alike_essence_iff (ha : a.Keyed) (hb : b.Keyed) :
    Alike a.essence b.essence ↔ a.Agree b := by
  have distinct : (a.essence.fields.map (·.1)).Nodup := nodup_essence
  have fields_iff : Alike a.essence b.essence ↔
      List.Forall₂ FieldAlike a.essence.fields b.essence.fields :=
    alike_iff_forall₂ rfl distinct
  have rules_iff : Alike (.object (a.rules.map fun e => (e.1, .string e.2.name)))
      (.object (b.rules.map fun e => (e.1, .string e.2.name))) ↔
        ∀ id, a.rules.lookup id = b.rules.lookup id :=
    alike_table_iff Function.injective_id (fun _ _ h => RuleSetting.name_injective h.eq_of_string)
      ha.rules hb.rules
  have weights_iff := alike_table_iff TestType.name_injective eq_of_alike_rowValue ha.weights
    hb.weights
  rw [fields_iff]
  constructor
  · intro h
    simp only [essence, fields, List.forall₂_cons, FieldAlike] at h
    obtain ⟨⟨-, rules⟩, ⟨-, weights⟩, ⟨-, penalties⟩, ⟨-, smells⟩, ⟨-, perTest⟩, ⟨-, skip⟩,
      ⟨-, framework⟩, -⟩ := h
    exact
      { rules := rules_iff.mp rules
        weights := weights_iff.mp weights
        penalties := penalties_eq_of_recordText_eq penalties.eq_of_string
        smells := smells_eq_of_recordText_eq smells.eq_of_string
        perTest := perTest.eq_of_bool
        skipSourceAnalysis := skip.eq_of_bool
        framework := forced_name_injective framework.eq_of_string }
  · intro h
    rw [essence, essence, h.penalties, h.smells, h.perTest, h.skipSourceAnalysis, h.framework]
    exact .cons ⟨rfl, rules_iff.mpr h.rules⟩ <| .cons ⟨rfl, weights_iff.mpr h.weights⟩ <|
      .cons ⟨rfl, .refl _⟩ <| .cons ⟨rfl, .refl _⟩ <| .cons ⟨rfl, .refl _⟩ <|
      .cons ⟨rfl, .refl _⟩ <| .cons ⟨rfl, .refl _⟩ .nil

/-- **Keyed configurations have the same fingerprint** if and only if they agree. -/
theorem fingerprint_eq_iff (ha : a.Keyed) (hb : b.Keyed) :
    a.fingerprint = b.fingerprint ↔ a.Agree b := by
  rw [← alike_essence_iff ha hb, ← text_eq_iff (plain_essence ha) (plain_essence hb)]
  exact ⟨Text.ofString_injective, congrArg Text.ofString⟩

end Config

/-- **The fingerprint is exact**: accepted configurations have the same one if and only if they
agree on all that can change a result, and then every audit comes out the same. Doubles that are
written differently are different here, so a zero differs from a negative zero. -/
theorem fingerprint_exact {raw other : List (Text × Json)} (mapping : IsMapping raw)
    (mapping_too : IsMapping other) {a b : Config} (accepted : Config.ofFields registry raw = .ok a)
    (accepted_too : Config.ofFields registry other = .ok b) :
    (a.fingerprint = b.fingerprint ↔ a.Agree b) ∧
      (a.fingerprint = b.fingerprint → ∀ (α : Type) [ScoreNumber α] (parse : Syntax.Parser)
        (job : Job) (pool : List Rule), analyze α parse a job pool = analyze α parse b job pool) :=
  have exact_iff := Config.fingerprint_eq_iff (keyed_of_ofFields mapping accepted)
    (keyed_of_ofFields mapping_too accepted_too)
  ⟨exact_iff, fun same α _ parse job pool => analyze_of_agree (exact_iff.mp same) α parse job pool⟩

/-- A configuration of two rules with a threshold. -/
def strictTitles : List (Text × Json) :=
  [("rules", .object [("focused-test", .string "off"), ("vague-test-name", .string "error")]),
    ("threshold", .int 90)]

/-- The same rules in the other order, with another spelling and paths to ignore. -/
def titlesStrict : List (Text × Json) :=
  [("ignore", .array [.string "vendor"]),
    ("rules", .object [("vague-test-name", .string "ERROR"), ("focused-test", .string "off")])]

/-- The order of rules, the threshold and the ignored paths change neither the fingerprint nor an
audit. -/
theorem fingerprint_exact_reordered :
    let a : Config :=
      { rules := [("focused-test", .off), ("vague-test-name", .on .error)], threshold := 90 }
    let b : Config :=
      { rules := [("vague-test-name", .on .error), ("focused-test", .off)]
        ignore := [.string "vendor"] }
    IsMapping strictTitles ∧ IsMapping titlesStrict ∧
      Config.ofFields registry strictTitles = .ok a ∧
      Config.ofFields registry titlesStrict = .ok b ∧ a.fingerprint = b.fingerprint ∧
      ∀ (α : Type) [ScoreNumber α] (parse : Syntax.Parser) (job : Job) (pool : List Rule),
        analyze α parse a job pool = analyze α parse b job pool := by
  intro a b
  have mapping : IsMapping strictTitles := ⟨by decide, by decide⟩
  have mapping_too : IsMapping titlesStrict := ⟨by decide, by decide⟩
  have accepted : Config.ofFields registry strictTitles = .ok a := rfl
  have accepted_too : Config.ofFields registry titlesStrict = .ok b := rfl
  have agree : a.Agree b :=
    { rules := fun id => Option.ext fun setting =>
        (lookup_eq_some_iff_mem (by decide)).trans <|
          (List.Perm.swap _ _ []).mem_iff.trans (lookup_eq_some_iff_mem (by decide)).symm
      weights := fun _ => rfl
      penalties := rfl
      smells := rfl
      perTest := rfl
      skipSourceAnalysis := rfl
      framework := rfl }
  obtain ⟨exact_iff, analyses⟩ := fingerprint_exact mapping mapping_too accepted accepted_too
  have same := exact_iff.mpr agree
  exact ⟨mapping, mapping_too, accepted, accepted_too, same, analyses same⟩

end SuiteAudit
