import SuiteAudit.Proofs.Bounds
import SuiteAudit.Proofs.Contributions
import SuiteAudit.Proofs.Findings
import SuiteAudit.Proofs.Outcomes
import SuiteAudit.Proofs.TestScores

/-!
# Findings about a file

Three rules look at a file as a whole, and what they find stands on its first line
(`span_of_mem_issuesIn`). Attribution goes by lines, so such a finding belongs to no test only where
no test starts there. Otherwise the last test that does has all of them, and no other test has any
(`file_findings_on_first_line`).
-/

namespace SuiteAudit

open Rules

/-! ### Rules about files -/

/-- **The rules that look at a file as a whole.** -/
def fileRules : List Rule :=
  [missingErrorTest, missingBoundaryTest, happyPathOnly]

example :
    fileRules.map (·.id) = ["missing-error-test", "missing-boundary-test", "ai-happy-path-only"] :=
  rfl

/-- **Whether an issue is about the file as a whole.** -/
def Issue.isAboutFile (i : Issue) : Bool :=
  fileRules.any (·.id == i.rule)

theorem mem_allRules_of_mem_fileRules {r : Rule} (h : r ∈ fileRules) : r ∈ allRules := by
  simp only [fileRules, List.mem_cons, List.not_mem_nil, or_false] at h
  rcases h with rfl | rfl | rfl <;> simp [allRules]

/-- A detector with nothing to find under a condition. -/
theorem mem_of_answer {c : Prop} [Decidable c] {fs findings : List Finding} {f : Finding}
    (h : (if c then .ok [] else .ok fs) = (.ok findings : Except RuleFault (List Finding)))
    (hf : f ∈ findings) : f ∈ fs := by
  split at h
  · obtain rfl := Except.ok.inj h
    cases hf
  · obtain rfl := Except.ok.inj h
    exact hf

/-- What is found about a file stands on its first line. -/
theorem span_of_mem_found {r : Rule} (hr : r ∈ fileRules) {ctx : RuleContext} {i : Issue}
    (h : i ∈ r.found ctx) : i.span = .of 1 := by
  obtain ⟨detect, findings, hDetect, hFindings, f, hf, rfl⟩ := exists_of_mem_found h
  show f.span = .of 1
  simp only [fileRules, List.mem_cons, List.not_mem_nil, or_false] at hr
  rcases hr with rfl | rfl | rfl <;> obtain rfl := Option.some.inj hDetect
  · obtain ⟨_, -, rfl⟩ := List.mem_map.mp (mem_of_answer hFindings hf)
    rfl
  · obtain ⟨_, -, rfl⟩ := List.mem_map.mp (mem_of_answer hFindings hf)
    rfl
  · obtain rfl := List.mem_singleton.mp (mem_of_answer hFindings hf)
    rfl

/-- What counts was found by a rule, at the same place. -/
theorem exists_found_of_mem_issuesIn {config : Config} {pool : List Rule} {s : Suite}
    {facts : SourceFacts} {i : Issue} (h : i ∈ issuesIn config pool s facts) :
    ∃ r ∈ pool, ∃ j ∈ r.found (contextFor config s facts), i.rule = r.id ∧ i.span = j.span := by
  rw [issuesIn, countedIssues, Issue.sorted, List.mem_mergeSort, Silence.filter, List.mem_filter,
    runRules_eq] at h
  obtain ⟨j, hj, hSet⟩ := List.mem_filterMap.mp h.1
  obtain ⟨r, hr, hFound⟩ := List.mem_flatMap.mp hj
  refine ⟨r, mem_pool_of_mem_activeRules hr, j, hFound, ?_⟩
  rw [← (stamped_of_mem_found hFound).1]
  -- Settings drop an issue or change its severity, and leave its rule and place alone.
  split at hSet
  · obtain rfl := Option.some.inj hSet
    exact ⟨rfl, rfl⟩
  · cases hSet
  · obtain rfl := Option.some.inj hSet
    exact ⟨rfl, rfl⟩

/-- **Issues about the file stand on its first line.** -/
theorem span_of_mem_issuesIn {config : Config} {s : Suite} {facts : SourceFacts} {i : Issue}
    (h : i ∈ issuesIn config allRules s facts) (hFile : i.isAboutFile = true) :
    i.span = .of 1 := by
  obtain ⟨r, hr, j, hj, hRule, hSpan⟩ := exists_found_of_mem_issuesIn h
  obtain ⟨q, hq, hId⟩ := List.any_eq_true.mp hFile
  -- Ids are unique, so the rule that found the issue is the one of the three that it is named for.
  obtain rfl : q = r :=
    eq_of_id_eq (mem_allRules_of_mem_fileRules hq) hr ((beq_iff_eq.mp hId).trans hRule)
  rw [hSpan]
  exact span_of_mem_found hq hj

/-! ### Tests on the first line -/

/-- **The last of the tests that start on the first line**, by its index. -/
def lastOnFirstLine? (tests : List TestCase) : Option Nat :=
  (tests.zipIdx.filter (·.1.span.line == 1)).getLast?.map (·.2)

theorem exists_getElem?_of_lastOnFirstLine? {tests : List TestCase} {k : Nat}
    (h : lastOnFirstLine? tests = some k) : ∃ t, tests[k]? = some t ∧ t.span.line = 1 := by
  obtain ⟨p, hLast, rfl⟩ := Option.map_eq_some_iff.mp h
  obtain ⟨hMem, hLine⟩ := List.mem_filter.mp (List.mem_of_getLast? hLast)
  exact ⟨p.1, List.mem_zipIdx_iff_getElem?.mp hMem, beq_iff_eq.mp hLine⟩

theorem exists_lastOnFirstLine?_iff {tests : List TestCase} :
    (∃ k, lastOnFirstLine? tests = some k) ↔ ∃ t ∈ tests, t.span.line = 1 := by
  constructor
  · rintro ⟨k, hk⟩
    obtain ⟨t, hTest, hLine⟩ := exists_getElem?_of_lastOnFirstLine? hk
    exact ⟨t, List.mem_of_getElem? hTest, hLine⟩
  · rintro ⟨t, ht, hLine⟩
    obtain ⟨k, hk⟩ := List.mem_iff_getElem?.mp ht
    have found : (t, k) ∈ tests.zipIdx.filter (·.1.span.line == 1) :=
      List.mem_filter.mpr ⟨List.mem_zipIdx_iff_getElem?.mpr hk, beq_iff_eq.mpr hLine⟩
    rw [← Option.isSome_iff_exists, lastOnFirstLine?, Option.isSome_map, List.getLast?_isSome]
    exact List.ne_nil_of_mem found

theorem containsLine_one_iff {s : Span} (h : 1 ≤ s.line) :
    s.containsLine 1 = true ↔ s.line = 1 := by
  have := s.line_le_endLine
  rw [Span.mem_containsLine]
  omega

/-- Of tests that start on lines of a file, the innermost on the first line is the last that starts
there. -/
theorem testAt?_one {tests : List TestCase} (starts : ∀ t ∈ tests, 1 ≤ t.span.line) :
    testAt? tests 1 = lastOnFirstLine? tests := by
  -- What was found so far starts on the first line too, so any later test there takes its place.
  have from_index (index : Nat) (best : Option (Nat × Int)) (hBest : ∀ b ∈ best, b.2 ≤ 1) :
      (testAtFrom 1 tests index best).map (·.1) =
        (((tests.zipIdx index).filter (·.1.span.line == 1)).getLast?.map (·.2)).or
          (best.map (·.1)) := by
    induction tests generalizing index best with
    | nil => rfl
    | cons t rest ih =>
      have contains_iff := containsLine_one_iff (starts t List.mem_cons_self)
      have later := ih fun u hu => starts u (List.mem_cons_of_mem t hu)
      rw [testAtFrom, List.zipIdx_cons, List.filter_cons]
      split
      · next taken =>
        have hLine := contains_iff.mp (Bool.and_eq_true_iff.mp taken).1
        rw [later _ _ (by simp [hLine]), if_pos (beq_iff_eq.mpr hLine), List.getLast?_cons]
        cases ((rest.zipIdx (index + 1)).filter (·.1.span.line == 1)).getLast? <;> rfl
      · next passed =>
        have hLine : t.span.line ≠ 1 := by
          intro hLine
          apply passed
          rw [contains_iff.mpr hLine, hLine, Bool.true_and, Option.all_eq_true]
          exact fun b hb => decide_eq_true (hBest b hb)
        rw [later _ _ hBest, if_neg (by simpa using hLine)]
  simpa [testAt?, lastOnFirstLine?] using
    from_index 0 none fun b hb => absurd hb (Option.not_mem_none b)

/-- The tests of a file start on its lines. -/
theorem one_le_line_of_read {parse : Syntax.Parser} {path : Text} {content : Content}
    {framework : Option Framework} {s : Suite}
    (h : Suite.read parse path content framework = .ok s) {t : TestCase} (ht : t ∈ s.tests) :
    1 ≤ t.span.line := by
  obtain ⟨-, -, call, -, hSpan⟩ := exists_node_of_read h ht
  rw [hSpan]
  show (1 : Int) ≤ call.label.start.row + 1
  omega

/-! ### Attribution -/

section

variable (tests : List TestCase) (issues : List Issue)

/-- **A test has the issues at whose line it is the innermost.** -/
theorem getElem?_withIssues (k : Nat) :
    (withIssues tests issues)[k]? =
      tests[k]?.map fun t => (t, issues.filter fun i => testAt? tests i.span.line == some k) := by
  rw [withIssues, List.zip, List.getElem?_zipWith, getElem?_attributeIssues]
  cases tests[k]? <;> rfl

/-- Attribution looks at each issue alone, so it comes to the same before and after a selection. -/
theorem getElem?_withIssues_filter {p : Issue → Bool} {k : Nat} {t : TestCase}
    {bucket : List Issue} (h : (withIssues tests issues)[k]? = some (t, bucket)) :
    (withIssues tests (issues.filter p))[k]? = some (t, bucket.filter p) := by
  rw [getElem?_withIssues, Option.map_eq_some_iff] at h ⊢
  obtain ⟨_, hTest, hPair⟩ := h
  obtain ⟨rfl, rfl⟩ := Prod.mk.inj hPair
  exact ⟨_, hTest, by rw [List.filter_comm]⟩

/-- A ranking shows the tests with their issues. -/
theorem rankTests_map_perm {α : Type} [ScoreNumber α] (fileScore : Nat) (row : WeightRow)
    (policy : PenaltyPolicy) :
    ((rankTests α tests issues fileScore row policy).map fun r => (r.test, r.issues)).Perm
      (withIssues tests issues) := by
  have shown := (rankTests_perm (α := α) tests issues fileScore row policy).map
    fun r => (r.test, r.issues)
  rw [List.map_map] at shown
  exact shown.trans (.of_eq (List.map_id _))

variable {tests issues}

/-- **What stands on the first line** belongs to the last test that starts there. -/
theorem filter_of_withIssues (starts : ∀ t ∈ tests, 1 ≤ t.span.line) {p : Issue → Bool}
    (first : ∀ i ∈ issues, p i = true → i.span.line = 1) {k : Nat} {t : TestCase}
    {bucket : List Issue} (h : (withIssues tests issues)[k]? = some (t, bucket)) :
    bucket.filter p = if lastOnFirstLine? tests = some k then issues.filter p else [] := by
  have selected := getElem?_withIssues_filter tests issues (p := p) h
  rw [getElem?_withIssues, Option.map_eq_some_iff] at selected
  obtain ⟨_, -, hPair⟩ := selected
  rw [← (Prod.mk.inj hPair).2]
  have owner (i : Issue) (hi : i ∈ issues.filter p) :
      testAt? tests i.span.line = lastOnFirstLine? tests := by
    obtain ⟨hMem, hp⟩ := List.mem_filter.mp hi
    rw [first i hMem hp, testAt?_one starts]
  split
  · next hLast =>
    exact List.filter_eq_self.mpr fun i hi => by rw [owner i hi, hLast, beq_self_eq_true]
  · next hOther =>
    exact List.filter_eq_nil_iff.mpr fun i hi => by rwa [owner i hi, beq_iff_eq]

/-- Some test has an issue of the first line exactly if there is one and a test starts there. -/
theorem exists_mem_withIssues_iff (starts : ∀ t ∈ tests, 1 ≤ t.span.line) {p : Issue → Bool}
    (first : ∀ i ∈ issues, p i = true → i.span.line = 1) :
    (∃ x ∈ withIssues tests issues, ∃ i ∈ x.2, p i = true) ↔
      issues.filter p ≠ [] ∧ ∃ t ∈ tests, t.span.line = 1 := by
  rw [← exists_lastOnFirstLine?_iff]
  constructor
  · rintro ⟨⟨t, bucket⟩, hx, i, hi, hp⟩
    obtain ⟨k, hk⟩ := List.mem_iff_getElem?.mp hx
    have mem : i ∈ bucket.filter p := List.mem_filter.mpr ⟨hi, hp⟩
    rw [filter_of_withIssues starts first hk] at mem
    split at mem
    · next hLast => exact ⟨List.ne_nil_of_mem mem, k, hLast⟩
    · cases mem
  · rintro ⟨hSome, k, hLast⟩
    obtain ⟨t, hTest, -⟩ := exists_getElem?_of_lastOnFirstLine? hLast
    obtain ⟨i, hi⟩ := List.exists_mem_of_ne_nil _ hSome
    have hk := getElem?_withIssues tests issues k
    rw [hTest, Option.map_some] at hk
    have whole := filter_of_withIssues starts first hk
    rw [if_pos hLast] at whole
    obtain ⟨hBucket, hp⟩ := List.mem_filter.mp (whole ▸ hi)
    exact ⟨_, List.mem_of_getElem? hk, i, hBucket, hp⟩

end

/-- **Findings about a file go to the last test that starts on its first line.** They all stand on
that line, so each of them is among the issues of this test and of no other; every other test has
the issues, and with them the value, that it has without these findings. A ranking is free of them
just where none counts or no test starts on the first line. -/
theorem file_findings_on_first_line {α : Type} [ScoreNumber α] {parse : Syntax.Parser}
    {config : Config} {job : Job} {a : Analysis α} (h : analyze α parse config job = .ok a)
    (on : config.perTest = true) :
    let aboutFile := a.issues.filter (·.isAboutFile)
    let others := a.issues.filter (!·.isAboutFile)
    (∀ i ∈ aboutFile, i.span = .of 1) ∧
      (∀ k t bucket, (withIssues a.tests a.issues)[k]? = some (t, bucket) →
        bucket.filter (·.isAboutFile) =
            (if lastOnFirstLine? a.tests = some k then aboutFile else []) ∧
          (withIssues a.tests others)[k]? = some (t, bucket.filter (!·.isAboutFile)) ∧
          (lastOnFirstLine? a.tests ≠ some k →
            (withIssues a.tests others)[k]? = some (t, bucket) ∧
              ∀ row policy, (testValues α a.tests others row policy)[k]? =
                (testValues α a.tests a.issues row policy)[k]?)) ∧
      ∃ ranking, a.ranking = some ranking ∧
        (ranking.map fun r => (r.test, r.issues)).Perm (withIssues a.tests a.issues) ∧
        ((∃ r ∈ ranking, ∃ i ∈ r.issues, i.isAboutFile = true) ↔
          aboutFile ≠ [] ∧ ∃ t ∈ a.tests, t.span.line = 1) := by
  intro aboutFile others
  obtain ⟨s, hRead, hAnalysis⟩ := exists_read_of_analyze h
  have starts (t : TestCase) (ht : t ∈ a.tests) : 1 ≤ t.span.line := by
    rw [hAnalysis] at ht
    exact one_le_line_of_read hRead ht
  have stands (i : Issue) (hi : i ∈ a.issues) (hFile : i.isAboutFile = true) : i.span = .of 1 := by
    rw [hAnalysis] at hi
    exact span_of_mem_issuesIn hi hFile
  have first (i : Issue) (hi : i ∈ a.issues) (hFile : i.isAboutFile = true) : i.span.line = 1 :=
    congrArg Span.line (stands i hi hFile)
  have ranked : ∃ fileScore row policy,
      a.ranking = some (rankTests α a.tests a.issues fileScore row policy) := by
    rw [hAnalysis]
    exact ⟨_, _, _, if_pos on⟩
  obtain ⟨fileScore, row, policy, hRanking⟩ := ranked
  have shown := rankTests_map_perm (α := α) a.tests a.issues fileScore row policy
  refine ⟨fun i hi => ?_, fun k t bucket hk => ?_, _, hRanking, shown, ?_⟩
  · obtain ⟨hMem, hFile⟩ := List.mem_filter.mp hi
    exact stands i hMem hFile
  · have own := filter_of_withIssues starts first hk
    have rest := getElem?_withIssues_filter a.tests a.issues (p := (!·.isAboutFile)) hk
    refine ⟨own, rest, fun hOther => ?_⟩
    rw [if_neg hOther, List.filter_eq_nil_iff] at own
    have kept : bucket.filter (!·.isAboutFile) = bucket :=
      List.filter_eq_self.mpr fun i hi => by simpa using own i hi
    rw [kept] at rest
    refine ⟨rest, fun row policy => ?_⟩
    rw [testValues, testValues, List.getElem?_map, List.getElem?_map]
    exact congrArg (Option.map _) (rest.trans hk.symm)
  · rw [← exists_mem_withIssues_iff starts first]
    simp only [← shown.mem_iff, List.mem_map, exists_exists_and_eq_and]

/-- A file with nothing but a happy path has its finding among the issues of its one test. -/
theorem file_findings_on_first_line_happy_path :
    let config : Config := { smells := { happyPathMinTests := 1 } }
    let job : Job :=
      { path := "one.test.ts", test := .text "it('is one', () => expect(1).toBe(1))" }
    config.perTest = true ∧ ∃ a ranking, analyze Rat oneAssertionParser config job = .ok a ∧
      a.ranking = some ranking ∧ ∃ r ∈ ranking, ∃ i ∈ r.issues, i.isAboutFile = true := by
  intro config job
  have on : config.perTest = true := rfl
  have found : ((Suite.read oneAssertionParser job.path job.test none).toOption.any fun s =>
      let ctx := contextFor config s (factsFor oneAssertionParser config job s)
      s.tests.any (·.span.line == 1) &&
        (applySettings config.rules (happyPathOnly.found ctx)).any fun i =>
          i.rule == happyPathOnly.id &&
            !(Silence.ofLines registry.contains s.lines).isIgnored i.span.line i.rule) = true := by
    decide +kernel
  refine ⟨on, ?_⟩
  cases hRead : Suite.read oneAssertionParser job.path job.test none with
  | error e => simp [hRead, Except.toOption] at found
  | ok s =>
    have analyzed := @analyze_rat oneAssertionParser config job s hRead allRules
    simp only [hRead, Except.toOption, Option.any_some, Bool.and_eq_true, List.any_eq_true,
      beq_iff_eq, Bool.not_eq_true'] at found
    obtain ⟨⟨t, ht, hLine⟩, i, hi, hRule, heard⟩ := found
    have inForce : happyPathOnly ∈ activeRules config.rules allRules := by
      rw [activeRules, List.mem_mergeSort, List.mem_filter]
      exact ⟨by simp [allRules], rfl⟩
    have counted := mem_issuesIn inForce hi heard
    have aboutFile : i.isAboutFile = true := by
      rw [Issue.isAboutFile, hRule]
      rfl
    obtain ⟨-, -, ranking, hRanking, -, shows⟩ := file_findings_on_first_line analyzed on
    have listed := List.mem_filter.mpr ⟨counted, aboutFile⟩
    exact ⟨_, ranking, analyzed, hRanking, shows.mpr ⟨List.ne_nil_of_mem listed, t, ht, hLine⟩⟩

end SuiteAudit
