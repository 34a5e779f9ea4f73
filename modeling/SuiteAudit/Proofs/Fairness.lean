import SuiteAudit.Proofs.Findings

/-!
# Fairness to files without a source

Error coverage and boundary conditions are measured against the source. The rules of theirs that
look at the tests only are `Blind`: they find the same whatever the source is. So the same file,
audited without its source, keeps its test-only signal, and `unmeasured_fair` bounds what it loses:
never less than with the source, never above fifteen, and no more than ten points lost where the
source has nothing to hold against the tests.
-/

namespace SuiteAudit

open Rules ScoreNumber

/-! ### Rules that do not look at the source -/

/-- **A rule that takes so many points an issue, and finds the same whatever the source.** -/
structure Rule.Blind (r : Rule) : Prop where
  capped : ∃ each cap : Nat, r.contribute = some (cappedDelta each cap)
  run_eq : ∀ (ctx : RuleContext) (facts : SourceFacts), r.run { ctx with facts } = r.run ctx

/-- The test-only rules of the categories that are measured against the source. -/
theorem testOnly_rules :
    allRules.filter (fun r => !r.requiresSource && r.category.any (·.needsSource)) =
      [errorAssertionMissing, asyncErrorMishandling, incompleteMockVerification,
        singleValueBoundary] :=
  rfl

theorem blind_of_mem {r : Rule} (h : r ∈ allRules) {c : Category} (hCategory : r.category = some c)
    (hNeeds : c.needsSource = true) (hTests : r.requiresSource = false) : r.Blind := by
  have hMem : r ∈ allRules.filter fun r => !r.requiresSource && r.category.any (·.needsSource) :=
    List.mem_filter.mpr ⟨h, by simp [hTests, hCategory, hNeeds]⟩
  rw [testOnly_rules] at hMem
  simp only [List.mem_cons, List.not_mem_nil, or_false] at hMem
  rcases hMem with rfl | rfl | rfl | rfl
  · exact ⟨⟨2, 10, rfl⟩, fun _ _ => rfl⟩
  · exact ⟨⟨3, 9, rfl⟩, fun _ _ => rfl⟩
  · exact ⟨⟨3, 15, rfl⟩, fun _ _ => rfl⟩
  · exact ⟨⟨3, 15, rfl⟩, fun _ _ => rfl⟩

/-! ### Rules that look at the source -/

/-- How many facts a category is measured against: failures for error coverage, limits for boundary
conditions. -/
def watchedCount (facts : SourceFacts) : Category → Nat
  | .errorCoverage => facts.throws.length
  | .boundaryConditions => facts.comparisons.length
  | _ => 0

/-- The source rules of the categories that are measured against the source. -/
theorem source_rules :
    allRules.filter (fun r => r.requiresSource && r.category.any (·.needsSource)) =
      [missingErrorTest, returnPathCoverage, missingBoundaryTest] :=
  rfl

/-- **A source rule is quiet** where it has no issues and its category watches no facts. -/
theorem quiet_of_mem {r : Rule} (h : r ∈ allRules) {c : Category} (hCategory : r.category = some c)
    (hNeeds : c.needsSource = true) (hSource : r.requiresSource = true) {ctx : RuleContext}
    (hFacts : watchedCount ctx.facts c = 0) {issues : List Issue}
    (hNone : Issue.ofRule issues r.id = []) :
    ((r.delta issues ctx).points.value : Rat) = 0 ∧ (r.delta issues ctx).total = 0 := by
  have hMem : r ∈ allRules.filter fun r => r.requiresSource && r.category.any (·.needsSource) :=
    List.mem_filter.mpr ⟨h, by simp [hSource, hCategory, hNeeds]⟩
  rw [source_rules] at hMem
  simp only [List.mem_cons, List.not_mem_nil, or_false] at hMem
  rcases hMem with rfl | rfl | rfl
  · obtain rfl : Category.errorCoverage = c := Option.some.inj hCategory
    have no_throws : ctx.facts.throws.length = 0 := hFacts
    have answer : missingErrorTest.deltaOf issues ctx = .ok (coverageDelta
        (if ctx.facts.available then ctx.facts.throws.length else 0)
        (Issue.ofRule issues missingErrorTest.id)) := rfl
    rw [delta_of_deltaOf answer, no_throws, ite_self]
    exact ⟨Int.cast_zero, rfl⟩
  · rw [delta_of_deltaOf (deltaOf_capped issues ctx rfl), hNone]
    exact ⟨by norm_num [cappedPoints], rfl⟩
  · obtain rfl : Category.boundaryConditions = c := Option.some.inj hCategory
    have no_limits : ctx.facts.comparisons.length = 0 := hFacts
    have answer : missingBoundaryTest.deltaOf issues ctx = .ok (coverageDelta
        (if ctx.facts.available then ctx.facts.comparisons.length else 0)
        (Issue.ofRule issues missingBoundaryTest.id)) := rfl
    rw [delta_of_deltaOf answer, no_limits, ite_self]
    exact ⟨Int.cast_zero, rfl⟩

/-! ### Two audits of one suite -/

section

variable (config : Config) (s : Suite)

/-- What the rules in force do to a category in the audit of a suite. -/
def effectIn (facts : SourceFacts) (c : Category) : Effect :=
  let ctx := contextFor config s facts
  let rules := activeRules config.rules allRules
  Effect.ofRules (scoringRules c rules (runRules rules ctx).failed)
    (issuesIn config allRules s facts) ctx

variable {config s} {r : Rule}

theorem Rule.Blind.found_eq (blind : r.Blind) (facts others : SourceFacts) :
    r.found (contextFor config s facts) = r.found (contextFor config s others) := by
  have run_eq := blind.run_eq (contextFor config s others) facts
  unfold Rule.found
  rw [← run_eq]
  rfl

theorem Rule.Blind.fails_eq (blind : r.Blind) (facts others : SourceFacts) :
    r.fails (contextFor config s facts) = r.fails (contextFor config s others) := by
  have run_eq := blind.run_eq (contextFor config s others) facts
  unfold Rule.fails
  rw [← run_eq]
  rfl

/-- A registered rule is among those that gave no answer where it gives none. -/
theorem contains_failed {rules : List Rule} (known : ∀ q ∈ rules, q ∈ allRules) (h : r ∈ rules)
    (ctx : RuleContext) : (runRules rules ctx).failed.contains r.id = r.fails ctx := by
  rw [Bool.eq_iff_iff, List.contains_iff_mem, runRules_eq, List.mem_map]
  constructor
  · rintro ⟨q, hq, hId⟩
    obtain ⟨hMem, hFails⟩ := List.mem_filter.mp hq
    rw [← eq_of_id_eq (known q hMem) (known r h) hId]
    exact hFails
  · intro hFails
    exact ⟨r, List.mem_filter.mpr ⟨h, hFails⟩, rfl⟩

/-- A blind rule has equally many issues that count, whatever the source. -/
theorem Rule.Blind.length_ofRule (blind : r.Blind) (h : r ∈ allRules) (facts others : SourceFacts) :
    (Issue.ofRule (issuesIn config allRules s facts) r.id).length =
      (Issue.ofRule (issuesIn config allRules s others) r.id).length := by
  apply length_ofRule_countedIssues
  rw [ofRule_runRules, ofRule_runRules]
  apply List.flatMap_congr
  intro q hq
  obtain ⟨hActive, hId⟩ := List.mem_filter.mp hq
  obtain rfl : q = r := eq_of_id_eq (mem_pool_of_mem_activeRules hActive) h (by simpa using hId)
  exact blind.found_eq facts others

/-- The test-only rules that score are the same whatever the source: whether a blind rule fails does
not depend on it either. -/
theorem testOnly_scoringRules_eq {c : Category} (hNeeds : c.needsSource = true)
    (facts others : SourceFacts) :
    let rules := activeRules config.rules allRules
    (scoringRules c rules (runRules rules (contextFor config s facts)).failed).filter
        (!·.requiresSource) =
      (scoringRules c rules (runRules rules (contextFor config s others)).failed).filter
        (!·.requiresSource) := by
  intro rules
  have known : ∀ r ∈ rules, r ∈ allRules := fun _ hr => mem_pool_of_mem_activeRules hr
  rw [scoringRules, scoringRules, List.filter_filter, List.filter_filter]
  apply List.filter_congr
  intro r hr
  rw [contains_failed known hr, contains_failed known hr]
  cases hTests : r.requiresSource with
  | true => rfl
  | false =>
    cases hScores : r.scoresIn c with
    | false => rfl
    | true =>
      have blind := blind_of_mem (known r hr) (category_of_scoresIn hScores) hNeeds hTests
      rw [blind.fails_eq facts others]

/-- **The points of blind rules do not depend on the source.** -/
theorem testPoints_eq {c : Category} (hNeeds : c.needsSource = true) (facts others : SourceFacts) :
    (effectIn config s facts c).testPoints = (effectIn config s others c).testPoints := by
  simp only [effectIn, Effect.ofRules]
  rw [testOnly_scoringRules_eq hNeeds facts others]
  apply List.map_congr_left
  intro r hr
  obtain ⟨hScoring, hTests⟩ := List.mem_filter.mp hr
  obtain ⟨hActive, hScores⟩ := List.mem_filter.mp hScoring
  have known : r ∈ allRules := mem_pool_of_mem_activeRules hActive
  have hCategory : r.category = some c := category_of_scoresIn (Bool.and_eq_true_iff.mp hScores).1
  have blind := blind_of_mem known hCategory hNeeds (by simpa using hTests)
  obtain ⟨each, cap, hCapped⟩ := blind.capped
  rw [delta_of_deltaOf (deltaOf_capped _ _ hCapped), delta_of_deltaOf (deltaOf_capped _ _ hCapped),
    blind.length_ofRule known facts others]

/-- **Quiet rules on the source do nothing**: they take no points, and watch no facts. -/
theorem effectIn_of_quiet {c : Category} (hNeeds : c.needsSource = true) {facts : SourceFacts}
    (hWatched : watchedCount facts c = 0)
    (hQuiet : ∀ r ∈ allRules, r.category = some c → r.requiresSource = true →
      Issue.ofRule (issuesIn config allRules s facts) r.id = []) :
    (pointSum (effectIn config s facts c).sourcePoints : Rat) = 0 ∧
      (effectIn config s facts c).total = 0 := by
  have quiet {r : Rule} (hr : r ∈ (scoringRules c (activeRules config.rules allRules)
      (runRules (activeRules config.rules allRules)
        (contextFor config s facts)).failed).filter (·.requiresSource)) :
      ((r.delta (issuesIn config allRules s facts) (contextFor config s facts)).points.value : Rat)
          = 0 ∧
        (r.delta (issuesIn config allRules s facts) (contextFor config s facts)).total = 0 := by
    obtain ⟨hScoring, hSource⟩ := List.mem_filter.mp hr
    obtain ⟨hActive, hScores⟩ := List.mem_filter.mp hScoring
    have known : r ∈ allRules := mem_pool_of_mem_activeRules hActive
    have hCategory : r.category = some c := category_of_scoresIn (Bool.and_eq_true_iff.mp hScores).1
    exact quiet_of_mem known hCategory hNeeds hSource hWatched (hQuiet r known hCategory hSource)
  constructor
  · rw [pointSum_rat]
    simp only [effectIn, Effect.ofRules, List.map_map]
    apply List.sum_eq_zero
    intro x hx
    obtain ⟨r, hr, rfl⟩ := List.mem_map.mp hx
    exact (quiet hr).1
  · simp only [effectIn, Effect.ofRules, wholeSum_eq_sum]
    apply List.sum_eq_zero
    intro n hn
    obtain ⟨r, hr, rfl⟩ := List.mem_map.mp hn
    exact (quiet hr).2

/-! ### The raw scores -/

/-- The raw score of a category in the audit of a suite by the registered rules. -/
def rawOfAudit (config : Config) (s : Suite) (facts : SourceFacts) (c : Category) : CategoryRaw :=
  let ctx := contextFor config s facts
  let rules := activeRules config.rules allRules
  rawIn Rat rules (issuesIn config allRules s facts) ctx (runRules rules ctx).failed c

/-- The test-only signal of a category. -/
def testOnlySignal (config : Config) (s : Suite) (facts : SourceFacts) (c : Category) : Rat :=
  clampRaw (ofInt (startScore s c) + pointSum (effectIn config s facts c).testPoints)

theorem testOnlySignal_eq {c : Category} (hNeeds : c.needsSource = true)
    (facts others : SourceFacts) :
    testOnlySignal config s facts c = testOnlySignal config s others c := by
  rw [testOnlySignal, testOnlySignal, testPoints_eq hNeeds facts others]

/-- **The row of a category** in the breakdown of an audit. -/
theorem row?_analysisIn (facts : SourceFacts) (c : Category) :
    ∃ row, (analysisIn Rat config allRules s facts).breakdown.row? c = some row ∧
      row.raw = (rawOfAudit config s facts c).raw ∧
      row.evidence = (rawOfAudit config s facts c).evidence := by
  have raws_eq : (scoredIn Rat config allRules s facts).raws =
      Category.all.map (rawOfAudit config s facts) :=
    (categoryRaws_eq (fun _ hr => mem_pool_of_mem_activeRules hr) _ _ _).1
  have category_eq (d : Category) : (rawOfAudit config s facts d).category = d :=
    rawIn_category _ _ _ _ d
  obtain ⟨hLow, hHigh⟩ : 0 ≤ (rawOfAudit config s facts c).raw ∧
      (rawOfAudit config s facts c).raw ≤ 25 := rawIn_mem_range _ _ _ _ c
  have row_eq := find?_rowsOf (α := Rat) category_eq
    (weightsFor (contextFor config s facts).testType config.weights) c
  rw [← raws_eq] at row_eq
  refine ⟨_, row_eq, ?_, rfl⟩
  show max 0 (min 25 (rawOfAudit config s facts c).raw) = _
  rw [min_eq_right hHigh, max_eq_right hLow]

theorem rawOfAudit_eq (hTests : s.tests ≠ []) (facts : SourceFacts) (c : Category) :
    rawOfAudit config s facts c =
      rawFrom (α := Rat) c (contextFor config s facts) (effectIn config s facts c) := by
  have some_test : (contextFor config s facts).suite.tests.isEmpty = false := by
    simpa [contextFor] using hTests
  unfold rawOfAudit rawIn
  dsimp only
  rw [some_test]
  rfl

theorem raw_of_no_tests (hTests : s.tests = []) (facts : SourceFacts) (c : Category) :
    (rawOfAudit config s facts c).raw = 0 := by
  have no_test : (contextFor config s facts).suite.tests.isEmpty = true := by
    simpa [contextFor] using hTests
  unfold rawOfAudit rawIn
  dsimp only
  rw [no_test]
  rfl

section

variable {c : Category} (hNeeds : c.needsSource = true) (hTests : s.tests ≠ [])

include hNeeds hTests

theorem raw_unmeasured {facts : SourceFacts} (hFacts : facts.available = false) :
    (rawOfAudit config s facts c).raw = unknownValue (testOnlySignal config s facts c) := by
  have hFacts : (contextFor config s facts).facts.available = false := hFacts
  rw [rawOfAudit_eq hTests]
  unfold rawFrom
  rw [hNeeds, hFacts]
  rfl

theorem evidence_unmeasured {facts : SourceFacts} (hFacts : facts.available = false) :
    (rawOfAudit config s facts c).evidence = .unknown := by
  have hFacts : (contextFor config s facts).facts.available = false := hFacts
  rw [rawOfAudit_eq hTests]
  unfold rawFrom
  rw [hNeeds, hFacts]
  rfl

theorem raw_measured {facts : SourceFacts} (hFacts : facts.available = true) :
    unknownValue (testOnlySignal config s facts c) ≤ (rawOfAudit config s facts c).raw := by
  have hFacts : (contextFor config s facts).facts.available = true := hFacts
  rw [rawOfAudit_eq hTests]
  unfold rawFrom
  rw [hNeeds, hFacts]
  exact le_max_right _ _

theorem raw_measured_of_quiet {facts : SourceFacts} (hFacts : facts.available = true)
    (hWatched : watchedCount facts c = 0)
    (hQuiet : ∀ r ∈ allRules, r.category = some c → r.requiresSource = true →
      Issue.ofRule (issuesIn config allRules s facts) r.id = []) :
    (rawOfAudit config s facts c).raw ≤ unknownValue (testOnlySignal config s facts c) + 10 := by
  have hFacts : (contextFor config s facts).facts.available = true := hFacts
  obtain ⟨no_points, no_total⟩ := effectIn_of_quiet hNeeds hWatched hQuiet
  rw [rawOfAudit_eq hTests]
  unfold rawFrom
  rw [hNeeds, hFacts, no_total, no_points]
  -- What is left of the measured score is the test-only signal, rounded.
  show max (roundHalfUp (clampRaw (testOnlySignal config s facts c + 0)))
    (unknownValue (testOnlySignal config s facts c)) ≤ _
  rw [add_zero, testOnlySignal, clampRaw_clampRaw]
  exact max_le (roundHalfUp_le_unknownValue_add _) (by omega)

end

end

/-! ### The audit of a test file -/

/-- A missing source gives no facts. -/
theorem factsFor_none (parse : Syntax.Parser) (config : Config) (job : Job) (s : Suite) :
    factsFor parse config { job with source := none } s = .unavailable := by
  unfold factsFor
  split <;> rfl

/-- **A file is not punished for a source that could not be read.** Of the two categories that are
measured against the source, neither scores higher without it; without it neither scores above
fifteen, and both say that they are unknown. Where the source has no facts to watch and no source
rule has an issue, no more than ten points are lost. -/
theorem unmeasured_fair {parse : Syntax.Parser} {config : Config} {job : Job} {s : Suite}
    (hRead : Suite.read parse job.path job.test config.framework = .ok s)
    (hFacts : (factsFor parse config job s).available = true) :
    ∃ a b, analyze Rat parse config job = .ok a ∧
      analyze Rat parse config { job with source := none } = .ok b ∧
      ∀ c ∈ [Category.errorCoverage, .boundaryConditions],
        ∃ measured unmeasured, a.breakdown.row? c = some measured ∧
          b.breakdown.row? c = some unmeasured ∧
          unmeasured.raw ≤ measured.raw ∧ unmeasured.raw ≤ 15 ∧
          (s.tests ≠ [] → unmeasured.evidence = .unknown) ∧
          (watchedCount (factsFor parse config job s) c = 0 →
            (∀ r ∈ allRules, r.category = some c → r.requiresSource = true →
              Issue.ofRule a.issues r.id = []) →
            measured.raw - unmeasured.raw ≤ 10) := by
  have without : analyze Rat parse config { job with source := none } =
      .ok (analysisIn Rat config allRules s .unavailable) := by
    rw [← factsFor_none parse config job s]
    exact @analyze_rat parse config { job with source := none } s hRead allRules
  refine ⟨_, _, analyze_rat hRead allRules, without, ?_⟩
  intro c hc
  have hNeeds : c.needsSource = true := by
    simp only [List.mem_cons, List.not_mem_nil, or_false] at hc
    rcases hc with rfl | rfl <;> rfl
  obtain ⟨measured, hMeasured, hRaw, -⟩ := row?_analysisIn (factsFor parse config job s) c
  obtain ⟨unmeasured, hUnmeasured, hRawNone, hEvidence⟩ :
      ∃ row, (analysisIn Rat config allRules s .unavailable).breakdown.row? c = some row ∧ _ :=
    row?_analysisIn .unavailable c
  refine ⟨measured, unmeasured, hMeasured, hUnmeasured, ?_⟩
  rw [hRaw, hRawNone, hEvidence]
  -- Without tests both scores are zero; with tests both come from the same test-only signal.
  by_cases hTests : s.tests = []
  · rw [raw_of_no_tests hTests, raw_of_no_tests hTests]
    exact ⟨le_rfl, by decide, fun hSome => absurd hTests hSome, fun _ _ => by decide⟩
  · rw [raw_unmeasured hNeeds hTests rfl,
      testOnlySignal_eq hNeeds .unavailable (factsFor parse config job s)]
    refine ⟨raw_measured hNeeds hTests hFacts, unknownValue_clampRaw_le _, fun _ => ?_,
      fun hWatched hQuiet => ?_⟩
    · exact evidence_unmeasured hNeeds hTests rfl
    · have := raw_measured_of_quiet hNeeds hTests hFacts hWatched hQuiet
      omega

open Syntax in
/-- A parser that reads the empty text, and takes every other for one empty test. -/
def oneTestParser : Parser := fun _ text =>
  let node (kind field text : String) (children : List Node) : Node :=
    .mk { kind, field, text } children
  let callback := node "arrow_function" "" "() => {}"
    [node "formal_parameters" "parameters" "()" [], node "statement_block" "body" "{}" []]
  let title := node "string" "" "'adds'" [node "string_fragment" "" "adds" []]
  let call := node "call_expression" "" "it('adds', () => {})"
    [node "identifier" "function" "it" [],
      node "arguments" "arguments" "('adds', () => {})" [title, callback]]
  let statements := [node "expression_statement" "" "it('adds', () => {})" [call]]
  { root := node "program" "" text (if text == "" then [] else statements) }

/-- One empty test, with an empty source and without it. -/
theorem unmeasured_fair_one_test :
    let job : Job :=
      { path := "add.test.ts", test := .text "it('adds', () => {})", source := some (.text "") }
    ∃ s, Suite.read oneTestParser job.path job.test none = .ok s ∧ s.tests ≠ [] ∧
      (factsFor oneTestParser {} job s).available = true ∧
      ∃ a b, analyze Rat oneTestParser {} job = .ok a ∧
        analyze Rat oneTestParser {} { job with source := none } = .ok b ∧
        ∀ c ∈ [Category.errorCoverage, .boundaryConditions],
          ∃ measured unmeasured, a.breakdown.row? c = some measured ∧
            b.breakdown.row? c = some unmeasured ∧ unmeasured.raw ≤ measured.raw ∧
            unmeasured.raw ≤ 15 ∧ unmeasured.evidence = .unknown := by
  intro job
  have checked : (match Suite.read oneTestParser job.path job.test none with
      | .ok s => !s.tests.isEmpty && (factsFor oneTestParser {} job s).available
      | .error _ => false) = true := by decide +kernel
  cases hRead : Suite.read oneTestParser job.path job.test none with
  | error e => simp [hRead] at checked
  | ok s =>
    rw [hRead] at checked
    obtain ⟨hTests, hFacts⟩ : s.tests ≠ [] ∧
        (factsFor oneTestParser {} job s).available = true := by simpa using checked
    obtain ⟨a, b, ha, hb, rows⟩ := @unmeasured_fair oneTestParser {} job s hRead hFacts
    refine ⟨s, rfl, hTests, hFacts, a, b, ha, hb, fun c hc => ?_⟩
    obtain ⟨measured, unmeasured, hm, hu, hLess, hBound, hUnknown, -⟩ := rows c hc
    exact ⟨measured, unmeasured, hm, hu, hLess, hBound, hUnknown hTests⟩

end SuiteAudit
