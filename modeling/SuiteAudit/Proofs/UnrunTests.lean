import SuiteAudit.Proofs.FailedRules

/-!
# Tests that do not run

A skipped test, or one that is only planned, asserts nothing. `Suite.asRun` is a suite with what
those tests would assert left out, and every registered rule but two finds the same in it
(`heedsRun_or`). `snapshotOveruse` counts the snapshots of all tests, and `behavioralCompleteness`
takes a property for looked at where any test names it. Both score assertion quality, so what is
written into a test that does not run leaves the other raw scores as they are, and moves this one by
at most seventeen points (`unrun_raws`).
-/

namespace SuiteAudit

open Rules

/-! ### Suites as they run -/

/-- **A test as it runs**: nothing is asserted in one that does not. -/
def TestCase.asRun (t : TestCase) : TestCase :=
  { t with assertions := if t.isActive then t.assertions else [] }

@[simp] theorem TestCase.isActive_asRun (t : TestCase) : t.asRun.isActive = t.isActive := rfl

theorem TestCase.asRun_of_isActive {t : TestCase} (h : t.isActive = true) : t.asRun = t := by
  rw [asRun, if_pos h]

theorem TestCase.asRun_of_not_isActive {t : TestCase} (h : t.isActive = false) :
    t.asRun = { t with assertions := [] } := by
  rw [asRun, h, if_neg Bool.false_ne_true]

namespace Suite

/-- **A suite as it runs.** -/
def asRun (s : Suite) : Suite :=
  { s with tests := s.tests.map TestCase.asRun }

/-- The suite with the assertions of one test replaced. -/
def withAssertions (s : Suite) (index : Nat) (assertions : List Assertion) : Suite :=
  { s with tests := s.tests.modify index fun t => { t with assertions } }

/-- **What stands in a test that does not run** is not seen in the suite as it runs. -/
theorem asRun_withAssertions {s : Suite} {index : Nat}
    (unrun : ∀ t, s.tests[index]? = some t → t.isActive = false) (assertions : List Assertion) :
    (s.withAssertions index assertions).asRun = s.asRun := by
  have tests_eq : (s.tests.modify index fun t => { t with assertions }).map TestCase.asRun =
      s.tests.map TestCase.asRun := by
    apply List.ext_getElem?
    intro i
    rw [List.getElem?_map, List.getElem?_map, List.getElem?_modify]
    by_cases h : index = i
    · subst h
      cases hTest : s.tests[index]? with
      | none => rfl
      | some t =>
        have inactive := unrun t hTest
        have inactive' : TestCase.isActive { t with assertions } = false := inactive
        simp only [if_true, Option.map_eq_map, Option.map_some,
          TestCase.asRun_of_not_isActive inactive, TestCase.asRun_of_not_isActive inactive']
    · simp [h]
  rw [asRun, asRun, withAssertions, tests_eq]

variable (s : Suite)

@[simp] theorem framework_asRun : s.asRun.framework = s.framework := rfl
@[simp] theorem bindings_asRun : s.asRun.bindings = s.bindings := rfl
@[simp] theorem literals_asRun : s.asRun.literals = s.literals := rfl
@[simp] theorem tests_asRun : s.asRun.tests = s.tests.map TestCase.asRun := rfl

@[simp] theorem activeTests_asRun : s.asRun.activeTests = s.activeTests := by
  rw [activeTests, activeTests, tests_asRun, List.filter_map]
  refine (List.map_congr_left fun t ht => ?_).trans (List.map_id _)
  exact TestCase.asRun_of_isActive (List.mem_filter.mp ht).2

@[simp] theorem isActiveIndex_asRun (index : Int) :
    s.asRun.isActiveIndex index = s.isActiveIndex index := by
  rw [isActiveIndex, isActiveIndex, tests_asRun, List.getElem?_map, Option.any_map]
  rfl

@[simp] theorem inputLiterals_asRun : s.asRun.inputLiterals = s.inputLiterals := by
  simp only [inputLiterals, isActiveIndex_asRun]
  rfl

@[simp] theorem errorTests_asRun : s.asRun.errorTests = s.errorTests := by
  rw [errorTests, activeTests_asRun, errorTests]

@[simp] theorem activeAssertionCount_asRun :
    s.asRun.activeAssertionCount = s.activeAssertionCount := by
  rw [activeAssertionCount, activeTests_asRun, activeAssertionCount]

end Suite

/-! ### What rules look at -/

section

variable (s : Suite) (ctx : RuleContext)

@[simp] theorem activeAssertions_asRun : activeAssertions s.asRun = activeAssertions s := by
  rw [activeAssertions, Suite.activeTests_asRun, activeAssertions]

@[simp] theorem numericInputs_asRun : numericInputs s.asRun = numericInputs s := by
  rw [numericInputs, Suite.inputLiterals_asRun, numericInputs]

@[simp] theorem testFindings_asRun (check : TestCase → Bool) (message : TestCase → Text) :
    testFindings { ctx with suite := ctx.suite.asRun } check message =
      testFindings ctx check message := by
  rw [testFindings, Suite.activeTests_asRun, testFindings]

@[simp] theorem returnPathFinding?_asRun (function : Text) :
    returnPathFinding? { ctx with suite := ctx.suite.asRun } function =
      returnPathFinding? ctx function := by
  rw [returnPathFinding?, Suite.activeTests_asRun, returnPathFinding?]

@[simp] theorem sideEffectFindings_asRun (seen : List Text) (effects : List SideEffect) :
    sideEffectFindings s.asRun seen effects = sideEffectFindings s seen effects := by
  have own (effect : SideEffect) :
      sideEffectFinding? s.asRun effect = sideEffectFinding? s effect := by
    rw [sideEffectFinding?, Suite.activeTests_asRun, sideEffectFinding?]
  induction effects generalizing seen with
  | nil => rfl
  | cons effect rest ih => simp only [sideEffectFindings, own, ih]

@[simp] theorem relevantEdges_asRun (args : List LiteralArg) :
    relevantEdges { ctx with suite := ctx.suite.asRun } args = relevantEdges ctx args := by
  simp only [relevantEdges, calledParams, Suite.activeTests_asRun]

/-- A mock is verified in a test that runs, or not at all. -/
theorem unverifiedFindings_asRun (tests : List TestCase) (m : Mock) :
    unverifiedFindings (tests.map TestCase.asRun) m = unverifiedFindings tests m := by
  have found (index : Int) : testAtIndex? (tests.map TestCase.asRun) index =
      (testAtIndex? tests index).map TestCase.asRun := by
    simp only [testAtIndex?, List.length_map, List.getElem?_map]
    generalize (if index < 0 then index + (tests.length : Int) else index) = place
    by_cases h : place < 0 <;> simp [h]
  unfold unverifiedFindings
  cases verifyingTest? m with
  | none => rfl
  | some index =>
    simp only [found]
    cases testAtIndex? tests index with
    | none => rfl
    | some t =>
      rw [Option.map_some]
      by_cases h : t.isActive = true
      · rw [TestCase.asRun_of_isActive h]
      · simp [h]

/-- The calls of a test are the same whatever it asserts. -/
@[simp] theorem repetition_asRun (tests : List TestCase) :
    (tests.map TestCase.asRun).zipIdx.foldl (RepetitionState.test (tests.map TestCase.asRun)) {} =
      tests.zipIdx.foldl (RepetitionState.test tests) {} := by
  have call_eq (index : Nat) (t : TestCase) (state : RepetitionState) (call : Text × Text) :
      state.call (tests.map TestCase.asRun) index t.asRun call = state.call tests index t call := by
    simp only [RepetitionState.call, List.getElem?_map, Option.map_map]
    rfl
  rw [List.zipIdx_map, List.foldl_map]
  apply List.foldl_ext
  rintro state ⟨t, index⟩ -
  have calls_eq : t.literalCalls.eraseDups.foldl
      (RepetitionState.call (tests.map TestCase.asRun) index t.asRun) state =
        t.literalCalls.eraseDups.foldl (RepetitionState.call tests index t) state :=
    List.foldl_ext _ _ _ fun state call _ => call_eq index t state call
  show (if (t.isActive && !t.parameterized) = true then _ else _) = _
  rw [RepetitionState.test, ← calls_eq]
  rfl

theorem duplicateFindings_asRun (group : List TestCase) :
    duplicateFindings (group.map TestCase.asRun) = duplicateFindings group := by
  cases group with
  | nil => rfl
  | cons first rest =>
    rw [List.map_cons, duplicateFindings, duplicateFindings, List.map_map]
    rfl

end

/-! ### Rules that heed what runs -/

/-- What rules see of a suite as it runs. -/
def RuleContext.asRun (ctx : RuleContext) : RuleContext :=
  { ctx with suite := ctx.suite.asRun }

/-- **A rule that heeds only what runs**: it finds the same in a suite as it runs. -/
def Rule.HeedsRun (r : Rule) : Prop :=
  ∀ ctx : RuleContext, r.run ctx.asRun = r.run ctx

theorem heedsRun_of_detect {r : Rule} {detect : Detector} (h : r.detect = some detect)
    (same : ∀ ctx : RuleContext, detect { ctx with suite := ctx.suite.asRun } = detect ctx) :
    r.HeedsRun := by
  intro ctx
  rw [RuleContext.asRun, Rule.run, Rule.run, h]
  dsimp only
  rw [same]

theorem heedsRun_missingCleanup : missingCleanup.HeedsRun := by
  refine heedsRun_of_detect rfl fun ctx => ?_
  have calls_eq : ctx.suite.asRun.tests.flatMap (·.calls) = ctx.suite.tests.flatMap (·.calls) :=
    List.flatMap_map ..
  dsimp only
  rw [calls_eq]
  rfl

theorem heedsRun_duplicateTestName : duplicateTestName.HeedsRun := by
  refine heedsRun_of_detect rfl fun ctx => ?_
  have name_eq : nameKey ∘ TestCase.asRun = nameKey := rfl
  have named_eq (key : List Text × Text) :
      (fun t => nameKey t == key) ∘ TestCase.asRun = fun t => nameKey t == key := rfl
  have fixed_eq : (fun t : TestCase => !t.parameterized) ∘ TestCase.asRun =
      fun t => !t.parameterized := rfl
  dsimp only
  simp only [Suite.tests_asRun, List.filter_map, List.map_map, name_eq, named_eq, fixed_eq,
    duplicateFindings_asRun]

theorem heedsRun_vagueTestName : vagueTestName.HeedsRun := by
  refine heedsRun_of_detect rfl fun ctx => ?_
  dsimp only
  rw [Suite.tests_asRun, List.filter_map, List.filterMap_map]
  rfl

theorem heedsRun_incompleteMockVerification : incompleteMockVerification.HeedsRun := by
  refine heedsRun_of_detect rfl fun ctx => ?_
  have found_eq : unverifiedFindings (ctx.suite.tests.map TestCase.asRun) =
      unverifiedFindings ctx.suite.tests :=
    funext (unverifiedFindings_asRun ctx.suite.tests)
  dsimp only
  rw [Suite.tests_asRun, found_eq]
  rfl

theorem heedsRun_overMocking : overMocking.HeedsRun := by
  refine heedsRun_of_detect rfl fun ctx => ?_
  dsimp only
  rw [Suite.activeTests_asRun, Suite.activeAssertionCount_asRun]
  rfl

theorem heedsRun_boilerplatePadding : boilerplatePadding.HeedsRun := by
  refine heedsRun_of_detect rfl fun ctx => ?_
  dsimp only
  rw [Suite.activeTests_asRun, Suite.activeAssertionCount_asRun]
  rfl

/-- **Two rules look at tests that do not run**; all others heed what runs. -/
theorem heedsRun_or : ∀ r ∈ allRules,
    r.HeedsRun ∨ r = snapshotOveruse ∨ r = behavioralCompleteness := by
  simp only [allRules, List.forall_mem_cons, List.not_mem_nil, false_implies, implies_true,
    and_true]
  refine ⟨?_, ?_, .inr (.inl trivial), ?_, ?_, ?_, ?_, ?_, ?_, .inr (.inr trivial), ?_, ?_,
    .inl fun _ => rfl, ?_, ?_, ?_, ?_, .inl heedsRun_incompleteMockVerification, ?_, ?_,
    .inl fun _ => rfl, ?_, .inl heedsRun_missingCleanup, ?_, ?_, ?_, .inl fun _ => rfl, ?_,
    .inl heedsRun_overMocking, ?_, ?_, ?_, .inl heedsRun_boilerplatePadding, ?_,
    .inl heedsRun_duplicateTestName, .inl heedsRun_vagueTestName, .inl fun _ => rfl,
    .inl fun _ => rfl, .inl fun _ => rfl, ?_, .inl fun _ => rfl, ?_, .inl fun _ => rfl,
    .inl fun _ => rfl, .inl fun _ => rfl, .inl fun _ => rfl⟩
  -- What is left looks at the suite through what is the same in it as it runs.
  all_goals exact .inl (heedsRun_of_detect rfl fun ctx => by simp)

theorem Rule.HeedsRun.run_eq {r : Rule} (heeds : r.HeedsRun) {ctx other : RuleContext}
    (alike : ctx.asRun = other.asRun) : r.run ctx = r.run other := by
  rw [← heeds ctx, alike, heeds other]

theorem found_eq_of_run_eq {r : Rule} {ctx other : RuleContext} (h : r.run ctx = r.run other) :
    r.found ctx = r.found other := by
  rw [Rule.found, h, Rule.found]

/-- Both rules that look at tests that do not run always answer, so no rule answers for one of two
suites that run alike and not for the other. -/
theorem fails_of_alike {r : Rule} (h : r ∈ allRules) {ctx other : RuleContext}
    (alike : ctx.asRun = other.asRun) : r.fails ctx = r.fails other := by
  rcases heedsRun_or r h with heeds | rfl | rfl
  · rw [Rule.fails, heeds.run_eq alike, Rule.fails]
  · rw [snapshotOveruse_answers, snapshotOveruse_answers]
  · rw [sighted_behavioralCompleteness.answers, sighted_behavioralCompleteness.answers]

/-! ### Scores of suites that run alike -/

theorem delta_asRun {r : Rule} (h : r ∈ allRules) (issues : List Issue) (ctx : RuleContext) :
    r.delta issues ctx.asRun = r.delta issues ctx := by
  have answer_eq : r.deltaOf issues ctx.asRun = r.deltaOf issues ctx := by
    cases scores_of_mem r h with
    | nothing h => rw [deltaOf_nothing _ _ h, deltaOf_nothing _ _ h]
    | capped each cap h => rw [deltaOf_capped _ _ h, deltaOf_capped _ _ h]
    | smell h =>
      rw [deltaOf_smell _ _ h, deltaOf_smell _ _ h]
      rfl
    | weak => rw [deltaOf_weak, deltaOf_weak, RuleContext.asRun, Suite.activeAssertionCount_asRun]
    | bare => rw [deltaOf_bare, deltaOf_bare, RuleContext.asRun, Suite.activeTests_asRun]
    | snapshots => rfl
    | shared => rfl
    | failures => rfl
    | limits => rfl
  rw [Rule.delta, Rule.delta, answer_eq]

theorem startScore_asRun (s : Suite) (c : Category) : startScore s.asRun c = startScore s c := by
  cases c <;> simp [startScore, boundarySignal]

theorem rawFrom_asRun {α : Type} [ScoreNumber α] (c : Category) (ctx : RuleContext)
    (effect : Effect) : rawFrom (α := α) c ctx.asRun effect = rawFrom (α := α) c ctx effect := by
  unfold rawFrom
  rw [RuleContext.asRun, startScore_asRun]

/-- The issues that count where registered rules see `ctx`. -/
def countedIn (config : Config) (ctx : RuleContext) : List Issue :=
  countedIssues config ctx.suite (runRules (activeRules config.rules allRules) ctx).issues

/-- **What the registered rules make of a suite**: the raw scores of the categories. -/
def registeredRaws (α : Type) [ScoreNumber α] (config : Config) (ctx : RuleContext) :
    List CategoryRaw :=
  let rules := activeRules config.rules allRules
  (categoryRaws α rules (countedIn config ctx) ctx (runRules rules ctx).failed).raws

/-- The raw scores of an audit are those of what its rules see. -/
theorem registeredRaws_contextFor (α : Type) [ScoreNumber α] (config : Config) (s : Suite)
    (facts : SourceFacts) :
    registeredRaws α config (contextFor config s facts) =
      (scoredIn α config allRules s facts).raws :=
  rfl

theorem registeredRaws_eq (α : Type) [ScoreNumber α] (config : Config) (ctx : RuleContext) :
    registeredRaws α config ctx =
      Category.all.map (rawIn α (activeRules config.rules allRules) (countedIn config ctx) ctx
        (runRules (activeRules config.rules allRules) ctx).failed) :=
  (categoryRaws_eq (fun _ hr => mem_pool_of_mem_activeRules hr) _ _ _).1

theorem rawOf?_registeredRaws (α : Type) [ScoreNumber α] (config : Config) (ctx : RuleContext)
    (c : Category) :
    rawOf? (registeredRaws α config ctx) c =
      some (rawIn α (activeRules config.rules allRules) (countedIn config ctx) ctx
        (runRules (activeRules config.rules allRules) ctx).failed c) := by
  have nodup : ((registeredRaws α config ctx).map (·.category)).Nodup := by
    rw [registeredRaws, categoryRaws_category]
    decide
  rw [registeredRaws_eq] at nodup ⊢
  have found := rawOf?_of_mem nodup (List.mem_map_of_mem (Category.mem_all c))
  rwa [rawIn_category] at found

section

variable {config : Config} {ctx other : RuleContext} (alike : ctx.asRun = other.asRun)

include alike

theorem failed_of_alike :
    (runRules (activeRules config.rules allRules) ctx).failed =
      (runRules (activeRules config.rules allRules) other).failed := by
  rw [runRules_eq, runRules_eq]
  dsimp only
  congr 1
  exact List.filter_congr fun r hr => fails_of_alike (mem_pool_of_mem_activeRules hr) alike

/-- A rule that finds the same in both suites does the same to its category. -/
theorem delta_of_alike {r : Rule} (h : r ∈ allRules) (run_eq : r.run ctx = r.run other) :
    r.delta (countedIn config ctx) ctx = r.delta (countedIn config other) other := by
  have found_eq : Issue.ofRule (runRules (activeRules config.rules allRules) ctx).issues r.id =
      Issue.ofRule (runRules (activeRules config.rules allRules) other).issues r.id := by
    rw [ofRule_runRules, ofRule_runRules]
    apply List.flatMap_congr
    intro q hq
    obtain ⟨hActive, hId⟩ := List.mem_filter.mp hq
    obtain rfl : q = r := eq_of_id_eq (mem_pool_of_mem_activeRules hActive) h (by simpa using hId)
    exact found_eq_of_run_eq run_eq
  have lines_eq : ctx.suite.lines = other.suite.lines := congrArg (·.suite.lines) alike
  have counted_perm : (Issue.ofRule (countedIn config ctx) r.id).Perm
      (Issue.ofRule (countedIn config other) r.id) := by
    refine (perm_ofRule_countedIssues config _ _ _).trans ?_
    rw [found_eq, lines_eq]
    exact (perm_ofRule_countedIssues config _ _ _).symm
  have answer_eq : r.delta (countedIn config ctx) ctx.asRun =
      r.delta (countedIn config other) ctx.asRun := by
    rw [Rule.delta, Rule.delta, deltaOf_congr h (counted_perm.map _)]
  rw [← delta_asRun h, answer_eq, alike, delta_asRun h]

theorem rawIn_of_alike (α : Type) [ScoreNumber α] {c : Category}
    (run_eq : ∀ r ∈ activeRules config.rules allRules, r.category = some c →
      r.run ctx = r.run other) :
    rawIn α (activeRules config.rules allRules) (countedIn config ctx) ctx
        (runRules (activeRules config.rules allRules) ctx).failed c =
      rawIn α (activeRules config.rules allRules) (countedIn config other) other
        (runRules (activeRules config.rules allRules) other).failed c := by
  have delta_eq : ∀ r ∈ scoringRules c (activeRules config.rules allRules)
      (runRules (activeRules config.rules allRules) other).failed,
      r.delta (countedIn config ctx) ctx = r.delta (countedIn config other) other := by
    intro r hr
    obtain ⟨hActive, hScores⟩ := List.mem_filter.mp hr
    rw [Bool.and_eq_true] at hScores
    exact delta_of_alike alike (mem_pool_of_mem_activeRules hActive)
      (run_eq r hActive (category_of_scoresIn hScores.1))
  have empty_eq : ctx.suite.tests.isEmpty = other.suite.tests.isEmpty := by
    have tests_eq := congrArg (·.suite.tests.isEmpty) alike
    simpa [RuleContext.asRun] using tests_eq
  rw [rawIn, rawIn, empty_eq, failed_of_alike alike, Effect.ofRules_congr delta_eq,
    ← rawFrom_asRun c ctx, alike, rawFrom_asRun]

end

/-! ### What one rule can move -/

/-- Sums that differ in one place differ by what that place does. -/
theorem sum_map_le_add {β : Type} {xs : List β} (nodup : xs.Nodup) {f g : β → Rat} {b : β} {d : Rat}
    (hd : 0 ≤ d) (place : f b ≤ g b + d) (h : ∀ x ∈ xs, x ≠ b → f x ≤ g x) :
    (xs.map f).sum ≤ (xs.map g).sum + d := by
  induction xs with
  | nil => simpa using hd
  | cons x xs ih =>
    obtain ⟨fresh, nodup⟩ := List.nodup_cons.mp nodup
    have rest : ∀ y ∈ xs, y ≠ b → f y ≤ g y := fun y hy => h y (List.mem_cons_of_mem x hy)
    rw [List.map_cons, List.map_cons, List.sum_cons, List.sum_cons]
    by_cases hx : x = b
    · subst hx
      have rest_le : (xs.map f).sum ≤ (xs.map g).sum :=
        List.sum_le_sum fun y hy => rest y hy (ne_of_mem_of_not_mem hy fresh)
      linarith
    · linarith [h x List.mem_cons_self hx, ih nodup rest]

/-- A rule that takes at most `cap` points moves a sum of points by no more, where the other rules
do the same. -/
theorem pointSum_le_add {rules : List Rule} (nodup : rules.Nodup) {f g : Rule → Points} {r : Rule}
    {cap : Nat} (above : ((f r).value : Rat) ≤ 0) (below : -(cap : Rat) ≤ (g r).value)
    (h : ∀ q ∈ rules, q ≠ r → f q = g q) :
    (pointSum (rules.map f) : Rat) ≤ pointSum (rules.map g) + cap := by
  rw [pointSum_rat, pointSum_rat, List.map_map, List.map_map]
  refine sum_map_le_add (b := r) nodup (Nat.cast_nonneg cap) ?_ fun q hq hNe => ?_
  · rw [Function.comp_apply, Function.comp_apply]
    linarith
  · rw [Function.comp_apply, Function.comp_apply, h q hq hNe]

open ScoreNumber in
/-- A category without source facts moves by no more than the points that its rules take. -/
theorem rawFrom_le_add {c : Category} (hNeeds : c.needsSource = false) (ctx : RuleContext)
    {d e : Effect} {m n : Nat}
    (test : (pointSum d.testPoints : Rat) ≤ pointSum e.testPoints + m)
    (source : (pointSum d.sourcePoints : Rat) ≤ pointSum e.sourcePoints + n) :
    (rawFrom (α := Rat) c ctx d).raw ≤ (rawFrom (α := Rat) c ctx e).raw + (m + n) := by
  have raw_eq (effect : Effect) : (rawFrom (α := Rat) c ctx effect).raw =
      roundHalfUp (clampRaw (clampRaw (ofInt (startScore ctx.suite c) +
        pointSum effect.testPoints) + pointSum effect.sourcePoints) : Rat) := by
    simp [rawFrom, hNeeds]
  rw [raw_eq, raw_eq]
  apply roundHalfUp_le_add
  have testOnly_le := clampRaw_le_add (Nat.cast_nonneg m)
    (show (ofInt (startScore ctx.suite c) + pointSum d.testPoints : Rat) ≤
      ofInt (startScore ctx.suite c) + pointSum e.testPoints + m by linarith)
  push_cast
  exact clampRaw_le_add (by positivity) (by linarith)

theorem cappedPoints_mem_range (count each cap : Nat) :
    -(cap : Rat) ≤ (cappedPoints count each cap).value ∧
      ((cappedPoints count each cap).value : Rat) ≤ 0 := by
  have cost_nonneg : 0 ≤ (count : Int) * each := by positivity
  have taken : -(cap : Int) ≤ -min ((count : Int) * each) cap ∧
      -min ((count : Int) * each) (cap : Int) ≤ 0 := by omega
  rw [cappedPoints, Points.value_whole, Int.ofNat_eq_natCast]
  exact ⟨by exact_mod_cast taken.1, by exact_mod_cast taken.2⟩

theorem delta_snapshotOveruse (issues : List Issue) (ctx : RuleContext) :
    snapshotOveruse.delta issues ctx =
      { points := .whole (if (Issue.ofRule issues snapshotOveruse.id).isEmpty then 0 else -5) } :=
  rfl

theorem delta_behavioralCompleteness (issues : List Issue) (ctx : RuleContext) :
    behavioralCompleteness.delta issues ctx =
      { points := cappedPoints (Issue.ofRule issues behavioralCompleteness.id).length 4 12 } :=
  rfl

theorem nodup_activeRules (settings : List (Text × RuleSetting)) :
    (activeRules settings allRules).Nodup := by
  have nodup : allRules.Nodup := nodup_ids.of_map
  exact (List.mergeSort_perm _ _).nodup_iff.mpr (nodup.filter _)

/-- **What does not run takes at most seventeen points from assertion quality**: five for snapshots,
twelve for properties that are not looked at. -/
theorem assertionQuality_le_add (config : Config) {ctx other : RuleContext}
    (alike : ctx.asRun = other.asRun) :
    (rawIn Rat (activeRules config.rules allRules) (countedIn config ctx) ctx
        (runRules (activeRules config.rules allRules) ctx).failed .assertionQuality).raw ≤
      (rawIn Rat (activeRules config.rules allRules) (countedIn config other) other
        (runRules (activeRules config.rules allRules) other).failed .assertionQuality).raw +
          17 := by
  have empty_eq : ctx.suite.tests.isEmpty = other.suite.tests.isEmpty := by
    have tests_eq := congrArg (·.suite.tests.isEmpty) alike
    simpa [RuleContext.asRun] using tests_eq
  rw [rawIn, rawIn, empty_eq]
  split
  · decide
  · rw [failed_of_alike alike, ← rawFrom_asRun _ ctx, alike, rawFrom_asRun]
    generalize (runRules (activeRules config.rules allRules) other).failed = failed
    have nodup :
        (scoringRules .assertionQuality (activeRules config.rules allRules) failed).Nodup :=
      (nodup_activeRules _).filter _
    have known : ∀ r ∈ scoringRules .assertionQuality (activeRules config.rules allRules) failed,
        r ∈ allRules :=
      fun r hr => mem_pool_of_mem_activeRules (List.mem_of_mem_filter hr)
    refine rawFrom_le_add rfl other (m := 5) (n := 12) ?_ ?_
    · refine pointSum_le_add (r := snapshotOveruse) (nodup.filter _) ?_ ?_ ?_
      · rw [delta_snapshotOveruse, Points.value_whole]
        split <;> decide
      · rw [delta_snapshotOveruse, Points.value_whole]
        split <;> decide
      · intro q hq hNe
        obtain ⟨hMem, hPlain⟩ := List.mem_filter.mp hq
        rcases heedsRun_or q (known q hMem) with heeds | rfl | rfl
        · rw [delta_of_alike alike (known q hMem) (heeds.run_eq alike)]
        · exact absurd rfl hNe
        · cases hPlain
    · refine pointSum_le_add (r := behavioralCompleteness) (nodup.filter _) ?_ ?_ ?_
      · rw [delta_behavioralCompleteness]
        exact (cappedPoints_mem_range _ 4 12).2
      · rw [delta_behavioralCompleteness]
        exact (cappedPoints_mem_range _ 4 12).1
      · intro q hq hNe
        obtain ⟨hMem, hSourced⟩ := List.mem_filter.mp hq
        rcases heedsRun_or q (known q hMem) with heeds | rfl | rfl
        · rw [delta_of_alike alike (known q hMem) (heeds.run_eq alike)]
        · cases hSourced
        · exact absurd rfl hNe

/-! ### Raw scores -/

/-- **What is written into a test that does not run** is not seen by the zero-assertion flag, nor by
any registered rule but `snapshotOveruse` and `behavioralCompleteness`. The raw scores of all
categories but assertion quality stay as they are, and so does that of assertion quality where these
two rules find the same or are switched off. At worst it moves by seventeen points. -/
theorem unrun_raws (α : Type) [ScoreNumber α] (config : Config) (ctx : RuleContext) (index : Nat)
    (assertions : List Assertion)
    (unrun : ∀ t, ctx.suite.tests[index]? = some t → t.isActive = false) :
    let other : RuleContext := { ctx with suite := ctx.suite.withAssertions index assertions }
    (other.suite.activeAssertionCount == 0) = (ctx.suite.activeAssertionCount == 0) ∧
      (∀ r ∈ allRules, r ≠ snapshotOveruse → r ≠ behavioralCompleteness →
        r.run other = r.run ctx) ∧
      (∀ c, c ≠ .assertionQuality →
        rawOf? (registeredRaws α config other) c = rawOf? (registeredRaws α config ctx) c) ∧
      ((∀ r ∈ activeRules config.rules allRules,
          r = snapshotOveruse ∨ r = behavioralCompleteness → r.run other = r.run ctx) →
        registeredRaws α config other = registeredRaws α config ctx) ∧
      ∀ before ∈ registeredRaws Rat config ctx, ∀ after ∈ registeredRaws Rat config other,
        after.category = before.category → |after.raw - before.raw| ≤ 17 := by
  intro other
  have alike : other.asRun = ctx.asRun := by
    rw [RuleContext.asRun, RuleContext.asRun, Suite.asRun_withAssertions unrun]
  have run_eq : ∀ r ∈ allRules, r ≠ snapshotOveruse → r ≠ behavioralCompleteness →
      r.run other = r.run ctx := by
    intro r hr hSnapshots hResults
    rcases heedsRun_or r hr with heeds | hEq | hEq
    · exact heeds.run_eq alike
    · exact absurd hEq hSnapshots
    · exact absurd hEq hResults
  -- The two rules score assertion quality, so another category has none of them.
  have others_eq (β : Type) [ScoreNumber β] {c : Category} (hc : c ≠ .assertionQuality) :
      rawIn β (activeRules config.rules allRules) (countedIn config other) other
          (runRules (activeRules config.rules allRules) other).failed c =
        rawIn β (activeRules config.rules allRules) (countedIn config ctx) ctx
          (runRules (activeRules config.rules allRules) ctx).failed c := by
    refine rawIn_of_alike alike β fun r hr hCategory => ?_
    refine run_eq r (mem_pool_of_mem_activeRules hr) ?_ ?_
    · rintro rfl
      exact hc (Option.some.inj hCategory).symm
    · rintro rfl
      exact hc (Option.some.inj hCategory).symm
  refine ⟨?_, run_eq, fun c hc => ?_, fun same => ?_, ?_⟩
  · have count_eq := congrArg (·.suite.activeAssertionCount) alike
    simp only [RuleContext.asRun, Suite.activeAssertionCount_asRun] at count_eq
    rw [count_eq]
  · rw [rawOf?_registeredRaws, rawOf?_registeredRaws, others_eq α hc]
  · rw [registeredRaws_eq, registeredRaws_eq]
    refine List.map_congr_left fun c _ => rawIn_of_alike alike α fun r hr _ => ?_
    by_cases hTwo : r = snapshotOveruse ∨ r = behavioralCompleteness
    · exact same r hr hTwo
    · exact run_eq r (mem_pool_of_mem_activeRules hr) (fun h => hTwo (.inl h))
        fun h => hTwo (.inr h)
  · intro before hBefore after hAfter hCategory
    rw [registeredRaws_eq] at hBefore hAfter
    obtain ⟨c, -, rfl⟩ := List.mem_map.mp hBefore
    obtain ⟨d, -, rfl⟩ := List.mem_map.mp hAfter
    rw [rawIn_category, rawIn_category] at hCategory
    subst hCategory
    by_cases hc : d = .assertionQuality
    · subst hc
      have lower := assertionQuality_le_add config alike
      have upper := assertionQuality_le_add config alike.symm
      rw [abs_le]
      omega
    · rw [others_eq Rat hc, sub_self, abs_zero]
      decide

/-- Two snapshots that are written into a skipped test: they are counted as overuse, no other rule
sees them, and assertion quality moves by seventeen points at most. -/
theorem unrun_raws_snapshots :
    let adds : TestCase :=
      { name := "adds", assertions := [{ matcher := "toBe", subject := "f(1)", args := ["2"] }] }
    let ctx : RuleContext := { suite := { tests := [adds, { name := "draws", skipped := true }] } }
    let snapshots : List Assertion :=
      [{ matcher := "toMatchSnapshot" }, { matcher := "toMatchSnapshot" }]
    let other : RuleContext := { ctx with suite := ctx.suite.withAssertions 1 snapshots }
    (∀ t, ctx.suite.tests[1]? = some t → t.isActive = false) ∧
      snapshotOveruse.found ctx = [] ∧ (snapshotOveruse.found other).length = 1 ∧
      (other.suite.activeAssertionCount == 0) = false ∧
      ∀ before ∈ registeredRaws Rat {} ctx, ∀ after ∈ registeredRaws Rat {} other,
        after.category = before.category → |after.raw - before.raw| ≤ 17 := by
  intro adds ctx snapshots other
  have unrun : ∀ t, ctx.suite.tests[1]? = some t → t.isActive = false := by
    rintro t ⟨⟩
    rfl
  obtain ⟨flag_eq, -, -, -, raws_le⟩ := unrun_raws Rat {} ctx 1 snapshots unrun
  exact ⟨unrun, by decide +kernel, by decide +kernel, flag_eq, raws_le⟩

end SuiteAudit
