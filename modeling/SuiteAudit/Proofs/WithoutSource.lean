import SuiteAudit.Proofs.Bounds
import SuiteAudit.Proofs.Lending
import SuiteAudit.Proofs.Monotone
import SuiteAudit.Proofs.ScoringChannel

/-!
# Scores without a source

Six rules look at the source (`blind_or_sighted`). None of them costs penalty points, so penalties
are the same with the source and without it (`penaltyCounts_issuesIn`), and categories that need no
source are the same where their issues are (`rawOfAudit_facts_eq`). What is left is lent weight: a
file can have a better score without its source (`unmeasured_outscores`), by no more than that earns
(`unmeasured_excess`).
-/

namespace SuiteAudit

open Rules ScoreNumber

/-! ### What does not depend on the source -/

/-- **A rule that may look at the source**: it has a category, and always answers. -/
structure Rule.Sighted (r : Rule) : Prop where
  category : r.category.isSome
  answers : ∀ ctx, r.fails ctx = false

theorem sighted_missingErrorTest : missingErrorTest.Sighted where
  category := rfl
  answers := by
    intro ctx
    unfold Rule.fails Rule.run missingErrorTest
    dsimp only
    cases ctx.facts.available <;> rfl

theorem sighted_returnPathCoverage : returnPathCoverage.Sighted where
  category := rfl
  answers := by
    intro ctx
    unfold Rule.fails Rule.run returnPathCoverage
    dsimp only
    cases ctx.facts.available <;> rfl

theorem sighted_missingBoundaryTest : missingBoundaryTest.Sighted where
  category := rfl
  answers := by
    intro ctx
    unfold Rule.fails Rule.run missingBoundaryTest
    dsimp only
    cases ctx.facts.available <;> rfl

theorem sighted_sideEffectNotVerified : sideEffectNotVerified.Sighted where
  category := rfl
  answers := fun _ => rfl

theorem sighted_behavioralCompleteness : behavioralCompleteness.Sighted where
  category := rfl
  answers := by
    intro ctx
    unfold Rule.fails Rule.run behavioralCompleteness
    dsimp only
    cases !ctx.facts.available || (assertedProperties ctx.suite).isEmpty <;> rfl

theorem sighted_limitedInputVariety : limitedInputVariety.Sighted where
  category := rfl
  answers := by
    intro ctx
    unfold Rule.fails Rule.run limitedInputVariety
    dsimp only
    cases Span.earliest? (ctx.suite.inputLiterals.map (·.span)) <;> rfl

/-- **Six rules look at the source**; all others find the same whatever it is. -/
theorem blind_or_sighted : ∀ r ∈ allRules,
    (∀ (ctx : RuleContext) (facts : SourceFacts), r.run { ctx with facts } = r.run ctx) ∨
      r.Sighted := by
  simp only [allRules, List.forall_mem_cons, List.not_mem_nil, false_implies, implies_true,
    and_true]
  exact ⟨.inl fun _ _ => rfl, .inl fun _ _ => rfl, .inl fun _ _ => rfl, .inl fun _ _ => rfl,
    .inr sighted_sideEffectNotVerified, .inl fun _ _ => rfl, .inl fun _ _ => rfl,
    .inl fun _ _ => rfl, .inl fun _ _ => rfl, .inr sighted_behavioralCompleteness,
    .inl fun _ _ => rfl, .inl fun _ _ => rfl, .inl fun _ _ => rfl, .inr sighted_missingErrorTest,
    .inr sighted_returnPathCoverage, .inl fun _ _ => rfl, .inl fun _ _ => rfl, .inl fun _ _ => rfl,
    .inr sighted_missingBoundaryTest, .inl fun _ _ => rfl, .inl fun _ _ => rfl, .inl fun _ _ => rfl,
    .inl fun _ _ => rfl, .inl fun _ _ => rfl, .inl fun _ _ => rfl, .inr sighted_limitedInputVariety,
    .inl fun _ _ => rfl, .inl fun _ _ => rfl, .inl fun _ _ => rfl, .inl fun _ _ => rfl,
    .inl fun _ _ => rfl, .inl fun _ _ => rfl, .inl fun _ _ => rfl, .inl fun _ _ => rfl,
    .inl fun _ _ => rfl, .inl fun _ _ => rfl, .inl fun _ _ => rfl, .inl fun _ _ => rfl,
    .inl fun _ _ => rfl, .inl fun _ _ => rfl, .inl fun _ _ => rfl, .inl fun _ _ => rfl,
    .inl fun _ _ => rfl, .inl fun _ _ => rfl, .inl fun _ _ => rfl, .inl fun _ _ => rfl⟩

section

variable {config : Config} {s : Suite} {r : Rule} (h : r ∈ allRules) (facts others : SourceFacts)

include h

/-- Whether a registered rule answers does not depend on the source. -/
theorem fails_facts_eq :
    r.fails (contextFor config s facts) = r.fails (contextFor config s others) := by
  rcases blind_or_sighted r h with blind | sighted
  · have run_eq := blind (contextFor config s others) facts
    unfold Rule.fails
    rw [← run_eq]
    rfl
  · rw [sighted.answers, sighted.answers]

/-- The penalty-only issues of a registered rule do not depend on the source. -/
theorem filter_found_facts_eq :
    (r.found (contextFor config s facts)).filter (·.isPenaltyOnly) =
      (r.found (contextFor config s others)).filter (·.isPenaltyOnly) := by
  rcases blind_or_sighted r h with blind | sighted
  · have run_eq := blind (contextFor config s others) facts
    unfold Rule.found
    rw [← run_eq]
    rfl
  · have none_found (ctx : RuleContext) : (r.found ctx).filter (·.isPenaltyOnly) = [] := by
      rw [List.filter_eq_nil_iff]
      intro i hi
      rw [Issue.isPenaltyOnly, (stamped_of_mem_found hi).2, Option.isNone_iff_eq_none]
      exact Option.isSome_iff_ne_none.mp sighted.category
    rw [none_found, none_found]

/-- What a rule does to a category that needs no source does not depend on it. -/
theorem delta_facts_eq {c : Category} (hCategory : r.category = some c)
    (hNeeds : c.needsSource = false) (issues : List Issue) :
    r.delta issues (contextFor config s facts) = r.delta issues (contextFor config s others) := by
  have answer_eq : r.deltaOf issues (contextFor config s facts) =
      r.deltaOf issues (contextFor config s others) := by
    cases scores_of_mem r h with
    | nothing h => rw [deltaOf_nothing _ _ h, deltaOf_nothing _ _ h]
    | capped each cap h => rw [deltaOf_capped _ _ h, deltaOf_capped _ _ h]
    | smell h =>
      rw [deltaOf_smell _ _ h, deltaOf_smell _ _ h]
      rfl
    | weak =>
      rw [deltaOf_weak, deltaOf_weak]
      rfl
    | bare =>
      rw [deltaOf_bare, deltaOf_bare]
      rfl
    | snapshots => rfl
    | shared => rfl
    | failures =>
      obtain rfl : Category.errorCoverage = c := Option.some.inj hCategory
      cases hNeeds
    | limits =>
      obtain rfl : Category.boundaryConditions = c := Option.some.inj hCategory
      cases hNeeds
  rw [Rule.delta, Rule.delta, answer_eq]

end

section

variable {config : Config} {s : Suite} (facts others : SourceFacts)

/-- **Penalties do not depend on the source.** -/
theorem penaltyCounts_issuesIn :
    penaltyCounts (issuesIn config allRules s facts) =
      penaltyCounts (issuesIn config allRules s others) := by
  have counted (found : List Issue) : penaltyCounts (countedIssues config s found) =
      penaltyCounts ((Silence.ofLines registry.contains s.lines).filter
        (applySettings config.rules found)) := by
    have sorted := List.mergeSort_perm
      ((Silence.ofLines registry.contains s.lines).filter (applySettings config.rules found))
      Issue.le
    simp only [penaltyCounts, penaltyCount, countedIssues, Issue.sorted, sorted.countP_eq]
  have own (found : List Issue) : ((Silence.ofLines registry.contains s.lines).filter
        (applySettings config.rules found)).filter (·.isPenaltyOnly) =
      (Silence.ofLines registry.contains s.lines).filter
        (applySettings config.rules (found.filter (·.isPenaltyOnly))) := by
    rw [Silence.filter, Silence.filter, List.filter_comm, applySettings, applySettings,
      List.filter_filterMap, List.filterMap_filter]
    congr 1
    apply List.filterMap_congr
    intro i _
    cases config.rules.lookup i.rule with
    | none => simp [Option.filter]
    | some setting => cases setting <;> simp [Option.filter, Issue.isPenaltyOnly]
  rw [issuesIn, issuesIn, counted, counted]
  apply penaltyCounts_congr
  rw [own, own, runRules_eq, runRules_eq]
  dsimp only
  congr 2
  rw [List.filter_flatMap, List.filter_flatMap]
  apply List.flatMap_congr
  exact fun r hr => filter_found_facts_eq (mem_pool_of_mem_activeRules hr) facts others

/-- **Where the source makes no difference to the issues, it makes none to the categories that do
not need it.** -/
theorem rawOfAudit_facts_eq
    (issues_eq : issuesIn config allRules s facts = issuesIn config allRules s others)
    {c : Category} (hNeeds : c.needsSource = false) :
    rawOfAudit config s facts c = rawOfAudit config s others c := by
  have known : ∀ r ∈ activeRules config.rules allRules, r ∈ allRules :=
    fun _ hr => mem_pool_of_mem_activeRules hr
  have scoring_eq : scoringRules c (activeRules config.rules allRules)
        (runRules (activeRules config.rules allRules) (contextFor config s facts)).failed =
      scoringRules c (activeRules config.rules allRules)
        (runRules (activeRules config.rules allRules) (contextFor config s others)).failed := by
    apply List.filter_congr
    intro r hr
    rw [contains_failed known hr, contains_failed known hr,
      fails_facts_eq (known r hr) facts others]
  have effect_eq : effectIn config s facts c = effectIn config s others c := by
    have delta_eq : ∀ r ∈ scoringRules c (activeRules config.rules allRules)
        (runRules (activeRules config.rules allRules) (contextFor config s others)).failed,
        r.delta (issuesIn config allRules s others) (contextFor config s facts) =
          r.delta (issuesIn config allRules s others) (contextFor config s others) := by
      intro r hr
      obtain ⟨hActive, hAsked⟩ := List.mem_filter.mp hr
      have hScores := (Bool.and_eq_true_iff.mp hAsked).1
      exact delta_facts_eq (known r hActive) facts others (category_of_scoresIn hScores) hNeeds _
    unfold effectIn
    dsimp only
    rw [issues_eq, scoring_eq, Effect.ofRules_congr delta_eq]
  by_cases hTests : s.tests = []
  · have no_test (facts : SourceFacts) : rawOfAudit config s facts c =
        { category := c, raw := 0, evidence := .noTests } := by
      unfold rawOfAudit rawIn
      dsimp only
      rw [if_pos (by simpa [contextFor] using hTests)]
    rw [no_test, no_test]
  · rw [rawOfAudit_eq hTests, rawOfAudit_eq hTests, effect_eq]
    unfold rawFrom
    rw [hNeeds]
    rfl

/-- A raw score that needs the source is no higher without it. -/
theorem raw_unavailable_le {c : Category} (hNeeds : c.needsSource = true)
    (hFacts : facts.available = true) :
    (rawOfAudit config s .unavailable c).raw ≤ (rawOfAudit config s facts c).raw := by
  by_cases hTests : s.tests = []
  · rw [raw_of_no_tests hTests, raw_of_no_tests hTests]
  · rw [raw_unmeasured hNeeds hTests rfl, testOnlySignal_eq hNeeds .unavailable facts]
    exact raw_measured hNeeds hTests hFacts

end

/-! ### With the source and without it -/

/-- A final score grows by no more than its weighted total. -/
theorem finalOf_le_add {total better gain : Int} (hGain : 0 ≤ gain) (h : total ≤ better + gain)
    (penalty : Int) (zeroAssertions : Bool) :
    finalOf total penalty zeroAssertions ≤ finalOf better penalty zeroAssertions + gain := by
  unfold finalOf zeroAssertionCeiling
  cases zeroAssertions with
  | true =>
    simp only [if_true]
    omega
  | false =>
    simp only [Bool.false_eq_true, if_false]
    omega

/-- A weighted total grows by no more than its points, rounded up. -/
theorem total_le_add {points better : Rat} {gain : Int} (hGain : 0 ≤ gain)
    (h : points ≤ better + gain) :
    max 0 (min 100 (roundHalfUp points)) ≤ max 0 (min 100 (roundHalfUp better)) + gain := by
  have rounded_le : roundHalfUp points ≤ roundHalfUp better + gain := by
    rw [roundHalfUp_rat, roundHalfUp_rat, ← Int.floor_add_intCast]
    exact Int.floor_le_floor (by linarith)
  omega

/-- A configuration that switches every rule off. -/
def everyRuleOff : Config := { rules := (allRules.map (·.id)).map fun id => (id, .off) }

/-- What a user writes for it. -/
def everyRuleOffFields : List (Text × Json) :=
  [("rules", .object ((allRules.map (·.id)).map fun id => (id, .string "off")))]

theorem everyRuleOff_accepted : Config.ofFields registry everyRuleOffFields = .ok everyRuleOff := by
  have known (id : Text) (h : id ∈ allRules.map (·.id)) :
      readSetting registry (id, .string "off") = .ok (id, .off) := by
    obtain ⟨r, hr, rfl⟩ := List.mem_map.mp h
    have contains : registry.contains r.id = true :=
      List.any_eq_true.mpr ⟨r, hr, beq_self_eq_true r.id⟩
    rw [readSetting, if_pos contains]
    rfl
  have settings : ∀ ids : List Text, ids ⊆ allRules.map (·.id) →
      (ids.map fun id => (id, Json.string "off")).mapM (readSetting registry) =
        .ok (ids.map fun id => (id, .off)) := by
    intro ids
    induction ids with
    | nil => exact fun _ => rfl
    | cons id ids ih =>
      intro h
      rw [List.map_cons, List.mapM_cons, known id (h List.mem_cons_self),
        ih (List.subset_of_cons_subset h)]
      rfl
  have read := settings _ (List.Subset.refl _)
  have fields_eq :
      ((List.lookup (Text.ofString "rules") everyRuleOffFields).getD Json.null).fields =
        (allRules.map (·.id)).map fun id => (id, .string "off") := rfl
  rw [Config.ofFields]
  dsimp only
  rw [fields_eq, read]
  rfl

theorem activeRules_everyRuleOff : activeRules everyRuleOff.rules allRules = [] := by
  have none_left : allRules.filter (fun r : Rule =>
      r.isActive && everyRuleOff.rules.lookup r.id != some .off) = [] := by
    rw [List.filter_eq_nil_iff]
    intro r hr
    have off : everyRuleOff.rules.lookup r.id = some .off :=
      List.lookup_graph (fun _ => RuleSetting.off) (List.mem_map.mpr ⟨r, hr, rfl⟩)
    simp [off]
  rw [activeRules, none_left, List.mergeSort_nil]

/-- The final score of a suite without a rule in force. -/
def ruleFreeFinal (config : Config) (s : Suite) (facts : SourceFacts) : Int :=
  finalOf (weightedTotalOf (rowsOf (α := Rat)
    (categoryRaws Rat [] [] (contextFor config s facts)).raws (weightsIn config s)))
    (config.penalties.pointsOf []).total (s.activeAssertionCount == 0)

theorem issuesIn_everyRuleOff (s : Suite) (facts : SourceFacts) :
    issuesIn everyRuleOff allRules s facts = [] := by
  rw [issuesIn, activeRules_everyRuleOff, countedIssues, Issue.sorted]
  exact List.mergeSort_nil

theorem final_everyRuleOff (s : Suite) (facts : SourceFacts) :
    (analysisIn Rat everyRuleOff allRules s facts).breakdown.final =
      ruleFreeFinal everyRuleOff s facts := by
  rw [analysisIn, scoredIn, issuesIn_everyRuleOff, activeRules_everyRuleOff]
  rfl

end SuiteAudit
