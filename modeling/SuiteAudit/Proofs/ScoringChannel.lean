import SuiteAudit.Proofs.Findings

/-!
# One channel for each issue

An issue moves a score through its category or through penalty points, never through both. The
category reads the spans of the issues of its rules and nothing else of them (`deltaOf_congr`), so
penalty-only issues and severities do not reach it. Penalties read the severities of the issues
without a category and nothing else (`penaltyCounts_congr`). `Issue.asScored` is what is left of an
issue for both, and a severity that is set for a rule with a category does not change it.
-/

namespace SuiteAudit

open Rules

/-! ### Tags -/

/-- **An issue with the tag of its rule**: it has the category of the registered rule of its id. -/
def Issue.Tagged (i : Issue) : Prop :=
  ∀ r ∈ allRules, r.id = i.rule → i.category = r.category

/-- An issue with the id and the category of a registered rule carries its tag. -/
theorem tagged_of_stamped {r : Rule} (h : r ∈ allRules) {i : Issue}
    (stamped : i.rule = r.id ∧ i.category = r.category) : i.Tagged := by
  intro q hq hId
  rw [eq_of_id_eq hq h (hId.trans stamped.1), stamped.2]

/-! ### What a category sees -/

/-- The variables that flagged lines name do not depend on the order of the lines. -/
theorem sharedStatePoints_perm (bindings : List Binding) {lines others : List Int}
    (h : lines.Perm others) : sharedStatePoints bindings lines = sharedStatePoints bindings others :=
  le_antisymm (sharedStatePoints_mono h.subset) (sharedStatePoints_mono h.symm.subset)

/-- **A contribution of a registered rule looks at nothing but the spans of its issues**, in
whatever order. -/
theorem deltaOf_congr {r : Rule} (h : r ∈ allRules) {issues others : List Issue}
    (spans : ((Issue.ofRule issues r.id).map (·.span)).Perm
      ((Issue.ofRule others r.id).map (·.span)))
    (ctx : RuleContext) : r.deltaOf issues ctx = r.deltaOf others ctx := by
  have length_eq : (Issue.ofRule issues r.id).length = (Issue.ofRule others r.id).length := by
    simpa using spans.length_eq
  cases scores_of_mem r h with
  | nothing h => rw [deltaOf_nothing _ _ h, deltaOf_nothing _ _ h]
  | capped each cap h => rw [deltaOf_capped _ _ h, deltaOf_capped _ _ h, length_eq]
  | smell h => rw [deltaOf_smell _ _ h, deltaOf_smell _ _ h, length_eq]
  | weak => rw [deltaOf_weak, deltaOf_weak, length_eq]
  | bare => rw [deltaOf_bare, deltaOf_bare, length_eq]
  | snapshots =>
    have answer (found : List Issue) : snapshotOveruse.deltaOf found ctx =
        .ok { points := .whole
                (if (Issue.ofRule found snapshotOveruse.id).isEmpty then 0 else -5) } := rfl
    have isEmpty_eq : (Issue.ofRule issues snapshotOveruse.id).isEmpty =
        (Issue.ofRule others snapshotOveruse.id).isEmpty := by
      rw [Bool.eq_iff_iff, List.isEmpty_iff_length_eq_zero, List.isEmpty_iff_length_eq_zero,
        length_eq]
    rw [answer, answer, isEmpty_eq]
  | shared =>
    have answer (found : List Issue) : sharedState.deltaOf found ctx =
        .ok { points := .whole (-min (sharedStatePoints ctx.suite.bindings
                (((Issue.ofRule found sharedState.id).map (·.span)).map (·.line))) 25) } := by
      rw [List.map_map]
      rfl
    rw [answer, answer, sharedStatePoints_perm _ (spans.map (·.line))]
  | failures =>
    have answer (found : List Issue) : missingErrorTest.deltaOf found ctx =
        .ok (coverageDelta (if ctx.facts.available then ctx.facts.throws.length else 0)
          (Issue.ofRule found missingErrorTest.id)) := rfl
    rw [answer, answer, coverageDelta, coverageDelta, length_eq]
  | limits =>
    have answer (found : List Issue) : missingBoundaryTest.deltaOf found ctx =
        .ok (coverageDelta (if ctx.facts.available then ctx.facts.comparisons.length else 0)
          (Issue.ofRule found missingBoundaryTest.id)) := rfl
    rw [answer, answer, coverageDelta, coverageDelta, length_eq]

/-- Raw scores depend on issues only through the contributions of the rules that score. -/
theorem categoryRaws_congr {α : Type} [ScoreNumber α] {rules : List Rule} {ctx : RuleContext}
    {issues others : List Issue}
    (h : ∀ r ∈ rules, ∀ c, r.category = some c → r.deltaOf issues ctx = r.deltaOf others ctx)
    (failed : List Text) :
    categoryRaws α rules issues ctx failed = categoryRaws α rules others ctx failed := by
  have deltas_eq (c : Category) (failed : List Text) :
      deltasOf c rules issues ctx failed = deltasOf c rules others ctx failed := by
    apply List.foldl_ext
    intro report r hr
    unfold DeltaReport.add
    cases hScores : r.scoresIn c with
    | false => rfl
    | true => rw [h r hr c (category_of_scoresIn hScores)]
  apply List.foldl_ext
  intro report c _
  unfold RawReport.add
  rw [deltas_eq]

/-- **Penalty-only issues do not reach a raw score**: lists of tagged issues that agree on the
others have the same raw scores. -/
theorem categoryRaws_of_agree {α : Type} [ScoreNumber α] {rules : List Rule}
    (known : ∀ r ∈ rules, r ∈ allRules) {issues others : List Issue}
    (tagged : ∀ i ∈ issues, i.Tagged) (taggedOthers : ∀ i ∈ others, i.Tagged)
    (agree : issues.filter (!·.isPenaltyOnly) = others.filter (!·.isPenaltyOnly))
    (ctx : RuleContext) (failed : List Text) :
    categoryRaws α rules issues ctx failed = categoryRaws α rules others ctx failed := by
  apply categoryRaws_congr
  intro r hr c hCategory
  -- The issues of a rule with a category all have one.
  have own {found : List Issue} (hFound : ∀ i ∈ found, i.Tagged) :
      Issue.ofRule (found.filter (!·.isPenaltyOnly)) r.id = Issue.ofRule found r.id := by
    rw [Issue.ofRule, Issue.ofRule, List.filter_filter]
    apply List.filter_congr
    intro i hi
    cases hRule : i.rule == r.id with
    | false => rfl
    | true =>
      have hTag := hFound i hi r (known r hr) (by simpa using (beq_iff_eq.mp hRule).symm)
      simp [Issue.isPenaltyOnly, hTag, hCategory]
  apply deltaOf_congr (known r hr)
  rw [← own tagged, ← own taggedOthers, agree]

/-! ### What penalties see -/

/-- **Issues with a category cost no penalty points**: lists that agree on the penalty-only issues
have the same counts. -/
theorem penaltyCounts_congr {issues others : List Issue}
    (agree : issues.filter (·.isPenaltyOnly) = others.filter (·.isPenaltyOnly)) :
    penaltyCounts issues = penaltyCounts others := by
  have count_eq (severity : Severity) :
      penaltyCount severity issues = penaltyCount severity others := by
    have own (found : List Issue) : penaltyCount severity found =
        (found.filter (·.isPenaltyOnly)).countP (·.severity == severity) := by
      rw [penaltyCount, List.countP_filter]
      exact List.countP_congr fun i _ => by rw [Bool.and_comm]
    rw [own, own, agree]
  rw [penaltyCounts, penaltyCounts, count_eq, count_eq, count_eq]

theorem pointsOf_congr {issues others : List Issue}
    (h : penaltyCounts issues = penaltyCounts others) (policy : PenaltyPolicy) :
    policy.pointsOf issues = policy.pointsOf others := by
  rw [PenaltyPolicy.pointsOf, PenaltyPolicy.pointsOf, h]

/-! ### Issues as scored -/

/-- **What a score sees of an issue**: the severity counts only without a category. -/
def Issue.asScored (i : Issue) : Issue :=
  if i.isPenaltyOnly then i else { i with severity := .info }

namespace Issue

@[simp] theorem asScored_rule (i : Issue) : i.asScored.rule = i.rule := by
  unfold asScored
  split <;> rfl

@[simp] theorem asScored_span (i : Issue) : i.asScored.span = i.span := by
  unfold asScored
  split <;> rfl

@[simp] theorem asScored_message (i : Issue) : i.asScored.message = i.message := by
  unfold asScored
  split <;> rfl

@[simp] theorem asScored_isPenaltyOnly (i : Issue) :
    i.asScored.isPenaltyOnly = i.isPenaltyOnly := by
  unfold asScored
  split <;> rfl

theorem asScored_of_penaltyOnly {i : Issue} (h : i.isPenaltyOnly = true) : i.asScored = i := by
  rw [asScored, if_pos h]

/-- No severity of an issue with a category shows in its score. -/
theorem asScored_withSeverity {i : Issue} (h : i.category.isSome) (severity : Severity) :
    asScored { i with severity } = i.asScored := by
  have tagged : i.isPenaltyOnly = false := by simpa [isPenaltyOnly] using h
  have tagged' : isPenaltyOnly { i with severity } = false := tagged
  rw [asScored, asScored, tagged, tagged']
  rfl

theorem ofRule_map_asScored (issues : List Issue) (id : Text) :
    ofRule (issues.map asScored) id = (ofRule issues id).map asScored := by
  rw [ofRule, ofRule, List.filter_map]
  congr 1
  exact List.filter_congr fun i _ => by simp

end Issue

section

variable {issues others : List Issue} (same : issues.map Issue.asScored = others.map Issue.asScored)

include same

/-- Issues that a score sees alike have the same raw scores. -/
theorem categoryRaws_of_same {α : Type} [ScoreNumber α] {rules : List Rule}
    (known : ∀ r ∈ rules, r ∈ allRules) (ctx : RuleContext) (failed : List Text) :
    categoryRaws α rules issues ctx failed = categoryRaws α rules others ctx failed := by
  apply categoryRaws_congr
  intro r hr _ _
  apply deltaOf_congr (known r hr)
  have spans (found : List Issue) : (Issue.ofRule found r.id).map (·.span) =
      (Issue.ofRule (found.map Issue.asScored) r.id).map (·.span) := by
    rw [Issue.ofRule_map_asScored, List.map_map]
    exact List.map_congr_left fun i _ => i.asScored_span.symm
  rw [spans issues, spans others, same]

/-- Issues that a score sees alike have the same penalties. -/
theorem penaltyCounts_of_same : penaltyCounts issues = penaltyCounts others := by
  apply penaltyCounts_congr
  have own (found : List Issue) :
      found.filter (·.isPenaltyOnly) = (found.map Issue.asScored).filter (·.isPenaltyOnly) := by
    rw [List.filter_map]
    calc
      found.filter (·.isPenaltyOnly)
          = (found.filter (·.isPenaltyOnly)).map id := (List.map_id _).symm
      _ = (found.filter (·.isPenaltyOnly)).map Issue.asScored :=
          List.map_congr_left fun i hi =>
            (Issue.asScored_of_penaltyOnly (List.mem_filter.mp hi).2).symm
      _ = _ := by
          congr 1
          exact List.filter_congr fun i _ => by simp
  rw [own issues, same, ← own others]

end

/-! ### Severities of one's own -/

/-- **Settings that differ in severities of rules with a category only**: what is off stays off, and
rules without a category are set alike. -/
def SameButSeverity (before after : List (Text × RuleSetting)) : Prop :=
  ∀ r ∈ allRules, after.lookup r.id = before.lookup r.id ∨
    (r.category.isSome ∧ before.lookup r.id ≠ some .off ∧ after.lookup r.id ≠ some .off)

/-- Setting the severity of one rule with a category, which is not off. -/
theorem sameButSeverity_cons {settings : List (Text × RuleSetting)} {r : Rule} (h : r ∈ allRules)
    (hCategory : r.category.isSome) (hOn : settings.lookup r.id ≠ some .off) (severity : Severity) :
    SameButSeverity settings ((r.id, .on severity) :: settings) := by
  intro q hq
  by_cases hId : q.id = r.id
  · obtain rfl : q = r := eq_of_id_eq hq h hId
    exact .inr ⟨hCategory, hOn, by simp⟩
  · exact .inl (by rw [List.lookup_cons, beq_eq_false_iff_ne.mpr hId])

/-- What the setting of its rule leaves of an issue. -/
def settled (i : Issue) : Option RuleSetting → Option Issue
  | none => some i
  | some .off => none
  | some (.on severity) => some { i with severity }

theorem applySettings_eq (settings : List (Text × RuleSetting)) (issues : List Issue) :
    applySettings settings issues =
      issues.filterMap fun i => settled i (settings.lookup i.rule) :=
  rfl

/-- A score does not see which severity a rule is on with, if the rule has a category. -/
theorem settled_map_asScored {i : Issue} (hSome : i.category.isSome) {setting : Option RuleSetting}
    (hOn : setting ≠ some .off) : (settled i setting).map Issue.asScored = some i.asScored := by
  rcases setting with _ | severity | _
  · rfl
  · exact congrArg some (Issue.asScored_withSeverity hSome severity)
  · exact absurd rfl hOn

section

variable {before after : List (Text × RuleSetting)} (same : SameButSeverity before after)

include same

/-- The same rules are in force. -/
theorem activeRules_of_same : activeRules after allRules = activeRules before allRules := by
  rw [activeRules, activeRules]
  congr 1
  apply List.filter_congr
  intro r hr
  rcases same r hr with hEq | ⟨-, hBefore, hAfter⟩
  · rw [hEq]
  · rw [bne_iff_ne.mpr hBefore, bne_iff_ne.mpr hAfter]

/-- The settings leave issues that a score sees alike. -/
theorem applySettings_of_same {found : List Issue}
    (known : ∀ i ∈ found, ∃ r ∈ allRules, i.rule = r.id ∧ i.category = r.category) :
    (applySettings after found).map Issue.asScored =
      (applySettings before found).map Issue.asScored := by
  rw [applySettings_eq, applySettings_eq, List.map_filterMap, List.map_filterMap]
  apply List.filterMap_congr
  intro i hi
  obtain ⟨r, hr, hRule, hCategory⟩ := known i hi
  have hSame := same r hr
  rw [← hRule, ← hCategory] at hSame
  rcases hSame with hEq | ⟨hSome, hBefore, hAfter⟩
  · rw [hEq]
  · exact (settled_map_asScored hSome hAfter).trans (settled_map_asScored hSome hBefore).symm

end

/-- What directives leave, in the order of a report, looks the same to a score as what goes in. -/
theorem countedIssues_map_asScored (config : Config) (s : Suite) (found : List Issue) :
    (countedIssues config s found).map Issue.asScored =
      Issue.sorted ((Silence.ofLines registry.contains s.lines).filter
        ((applySettings config.rules found).map Issue.asScored)) := by
  have filter_eq (silence : Silence) (issues : List Issue) :
      (silence.filter issues).map Issue.asScored = silence.filter (issues.map Issue.asScored) := by
    rw [Silence.filter, Silence.filter, List.filter_map]
    congr 1
    exact List.filter_congr fun i _ => by simp
  rw [countedIssues, Issue.sorted, Issue.sorted, ← filter_eq]
  -- A report is ordered by what a score leaves of an issue.
  apply List.map_mergeSort
  intro i _ j _
  simp [Issue.le]

/-- Every issue of a run of registered rules is of one of them, and has its category. -/
theorem known_of_mem_runRules {rules : List Rule} (known : ∀ r ∈ rules, r ∈ allRules)
    {ctx : RuleContext} {i : Issue} (hi : i ∈ (runRules rules ctx).issues) :
    ∃ r ∈ allRules, i.rule = r.id ∧ i.category = r.category := by
  rw [runRules_eq, List.mem_flatMap] at hi
  obtain ⟨r, hr, hFound⟩ := hi
  exact ⟨r, known r hr, stamped_of_mem_found hFound⟩

/-! ### The breakdown -/

section

variable {config : Config} {after : List (Text × RuleSetting)}
  (same : SameButSeverity config.rules after) (s : Suite) (facts : SourceFacts)

include same

/-- Both settings leave issues of a suite that a score sees alike. -/
theorem issuesIn_of_same :
    (issuesIn { config with rules := after } allRules s facts).map Issue.asScored =
      (issuesIn config allRules s facts).map Issue.asScored := by
  have known : ∀ i ∈ (runRules (activeRules config.rules allRules)
      (contextFor config s facts)).issues, ∃ r ∈ allRules, i.rule = r.id ∧
        i.category = r.category :=
    fun _ hi => known_of_mem_runRules (fun _ hr => mem_pool_of_mem_activeRules hr) hi
  rw [issuesIn, issuesIn, countedIssues_map_asScored, countedIssues_map_asScored]
  dsimp only
  rw [activeRules_of_same same]
  congr 2
  exact applySettings_of_same same known

variable {α : Type} [ScoreNumber α]

/-- Both settings give the same raw scores. -/
theorem scoredIn_of_same :
    scoredIn α { config with rules := after } allRules s facts =
      scoredIn α config allRules s facts := by
  rw [scoredIn, scoredIn]
  dsimp only
  rw [activeRules_of_same same]
  exact categoryRaws_of_same (issuesIn_of_same same s facts)
    (fun _ hr => mem_pool_of_mem_activeRules hr) _ _

/-- **The severities of rules with a category leave the breakdown as it is.** -/
theorem breakdown_of_same :
    (analysisIn α { config with rules := after } allRules s facts).breakdown =
      (analysisIn α config allRules s facts).breakdown := by
  have counts_eq := penaltyCounts_of_same (issuesIn_of_same same s facts)
  rw [analysisIn, analysisIn, scoredIn_of_same same]
  unfold analysisOf breakdownOf
  dsimp only
  rw [counts_eq, pointsOf_congr counts_eq]
  rfl

/-- Where tests are not ranked, nothing else looks at severities, so faults are the same too. -/
theorem map_breakdown_audit_of_same (noRanking : config.perTest = false) :
    (audit α { config with rules := after } allRules s facts).map (·.breakdown) =
      (audit α config allRules s facts).map (·.breakdown) := by
  have fault_eq (issues others : List Issue) (scored : RawReport) :
      analysisFault? α { config with rules := after }
          (contextFor { config with rules := after } s facts) issues scored =
        analysisFault? α config (contextFor config s facts) others scored := by
    unfold analysisFault?
    dsimp only
    rw [noRanking]
    rfl
  rw [audit_eq, audit_eq, scoredIn_of_same same,
    fault_eq _ (issuesIn config allRules s facts)]
  have breakdown_eq := breakdown_of_same same s facts (α := α)
  unfold ScoreFault.guard
  split
  · rfl
  · exact congrArg Except.ok breakdown_eq

end

open Syntax in
/-- A parser that takes every text for one test that only looks at whether something is defined. -/
def oneWeakParser : Parser := fun _ _ =>
  let node (kind field text : String) (children : List Node) : Node :=
    .mk { kind, field, text } children
  let expect := node "call_expression" "object" "expect(x)"
    [node "identifier" "function" "expect" [],
      node "arguments" "arguments" "(x)" [node "identifier" "" "x" []]]
  let matcher := node "member_expression" "function" "expect(x).toBeDefined"
    [expect, node "property_identifier" "property" "toBeDefined" []]
  let callback := node "arrow_function" "" "() => expect(x).toBeDefined()"
    [node "formal_parameters" "parameters" "()" [],
      node "call_expression" "body" "expect(x).toBeDefined()"
        [matcher, node "arguments" "arguments" "()" []]]
  let title := node "string" "" "'is there'" [node "string_fragment" "" "is there" []]
  let call := node "call_expression" "" "it('is there', () => expect(x).toBeDefined())"
    [node "identifier" "function" "it" [],
      node "arguments" "arguments" "('is there', () => expect(x).toBeDefined())"
        [title, callback]]
  { root := node "program" "" "" [node "expression_statement" "" "" [call]] }

end SuiteAudit
