import SuiteAudit.Proofs.Inert
import SuiteAudit.Proofs.Numerals
import SuiteAudit.Proofs.WithoutSource

/-!
# Which registered rules fail

A registered contribution always answers, and so do the detectors, with two exceptions. One asks for
the test that a mock names, and a suite that was read has that test (`testIndex_lt_of_read`). The
other names an expected value and does not look whether there is one: `shallowVariety` fails where
limits let it speak of a file without any (`fails_shallowVariety_iff`). So the failed rules of an
audit are this one or none (`failed_rules_of_read`).
-/

namespace SuiteAudit

open Syntax Rules

/-! ### Detectors that always answer -/

theorem fails_iff {r : Rule} {detect : Detector} {ctx : RuleContext} (h : r.detect = some detect) :
    r.fails ctx = true ↔ ∃ fault, detect ctx = .error fault := by
  rw [Rule.fails, Rule.run, h]
  dsimp only
  cases detect ctx with
  | error fault => exact iff_of_true rfl ⟨fault, rfl⟩
  | ok findings =>
    refine iff_of_false Bool.false_ne_true ?_
    rintro ⟨fault, hFault⟩
    cases hFault

theorem fails_eq_false {r : Rule} {detect : Detector} {ctx : RuleContext}
    (h : r.detect = some detect) (answer : ∃ findings, detect ctx = .ok findings) :
    r.fails ctx = false := by
  rw [← Bool.not_eq_true, fails_iff h]
  rintro ⟨fault, hFault⟩
  obtain ⟨findings, hFindings⟩ := answer
  cases hFault.symm.trans hFindings

theorem snapshotOveruse_answers (ctx : RuleContext) : snapshotOveruse.fails ctx = false := by
  refine fails_eq_false rfl ?_
  dsimp only
  split
  · exact ⟨_, rfl⟩
  · split <;> exact ⟨_, rfl⟩

theorem overMocking_answers (ctx : RuleContext) : overMocking.fails ctx = false := by
  refine fails_eq_false rfl ?_
  dsimp only
  split
  · exact ⟨_, rfl⟩
  · split <;> exact ⟨_, rfl⟩

theorem happyPathOnly_answers (ctx : RuleContext) : happyPathOnly.fails ctx = false := by
  refine fails_eq_false rfl ?_
  dsimp only
  split <;> exact ⟨_, rfl⟩

theorem boilerplatePadding_answers (ctx : RuleContext) : boilerplatePadding.fails ctx = false := by
  refine fails_eq_false rfl ?_
  dsimp only
  split <;> exact ⟨_, rfl⟩

/-- **Two rules may fail to answer**; all others always do. -/
theorem answers_or : ∀ r ∈ allRules,
    (∀ ctx, r.fails ctx = false) ∨ r = incompleteMockVerification ∨ r = shallowVariety := by
  simp only [allRules, List.forall_mem_cons, List.not_mem_nil, false_implies, implies_true,
    and_true]
  exact ⟨.inl fun _ => rfl, .inl fun _ => rfl, .inl snapshotOveruse_answers, .inl fun _ => rfl,
    .inl fun _ => rfl, .inl fun _ => rfl, .inl fun _ => rfl, .inl fun _ => rfl, .inl fun _ => rfl,
    .inl sighted_behavioralCompleteness.answers, .inl fun _ => rfl, .inl fun _ => rfl,
    .inl fun _ => rfl, .inl sighted_missingErrorTest.answers,
    .inl sighted_returnPathCoverage.answers, .inl fun _ => rfl, .inl fun _ => rfl,
    .inr (.inl trivial), .inl sighted_missingBoundaryTest.answers, .inl fun _ => rfl,
    .inl fun _ => rfl, .inl fun _ => rfl, .inl fun _ => rfl, .inl fun _ => rfl, .inl fun _ => rfl,
    .inl sighted_limitedInputVariety.answers, .inl fun _ => rfl, .inl fun _ => rfl,
    .inl overMocking_answers, .inr (.inr trivial), .inl happyPathOnly_answers, .inl fun _ => rfl,
    .inl boilerplatePadding_answers, .inl fun _ => rfl, .inl fun _ => rfl, .inl fun _ => rfl,
    .inl fun _ => rfl, .inl fun _ => rfl, .inl fun _ => rfl, .inl fun _ => rfl, .inl fun _ => rfl,
    .inl fun _ => rfl, .inl fun _ => rfl, .inl fun _ => rfl, .inl fun _ => rfl, .inl fun _ => rfl⟩

/-! ### Mocks and their tests -/

/-- **Each mock of the suite that names a test names one that the suite has.** -/
def NamesOwnTests (s : Suite) : Prop :=
  ∀ m ∈ s.mocks, ∀ index, m.testIndex = some index → 0 ≤ index ∧ index < s.tests.length

theorem incompleteMockVerification_answers {ctx : RuleContext} (own : NamesOwnTests ctx.suite) :
    incompleteMockVerification.fails ctx = false := by
  have answer : ∀ m ∈ ctx.suite.mocks,
      ∃ findings, unverifiedFindings ctx.suite.tests m = .ok findings := by
    intro m hm
    unfold unverifiedFindings
    split
    · exact ⟨_, rfl⟩
    · next index hIndex =>
      have named : m.testIndex = some index := by
        unfold verifyingTest? at hIndex
        split at hIndex
        · exact hIndex
        · cases hIndex
      obtain ⟨h0, hLt⟩ := own m hm index named
      have found : testAtIndex? ctx.suite.tests index = ctx.suite.tests[index.toNat]? := by
        simp only [testAtIndex?, if_neg (Int.not_lt.mpr h0)]
      rw [found, List.getElem?_eq_getElem (by omega)]
      dsimp only
      split <;> exact ⟨_, rfl⟩
  obtain ⟨findings, hFindings⟩ := exists_mapM_eq_ok answer
  exact fails_eq_false rfl ⟨findings.flatten, by rw [hFindings]; rfl⟩

theorem testIndex_of_mock? {scope : MockScope} {testIndex : Option Nat} {call : Node} {m : Mock}
    (h : Body.mock? scope testIndex call = some m) : m.testIndex = testIndex.map Int.ofNat := by
  simp only [Body.mock?, Option.bind_eq_bind, Option.bind_eq_some_iff] at h
  obtain ⟨path, -, kind, -, hMock⟩ := h
  obtain rfl := Option.some.inj hMock
  cases testIndex <;> rfl

theorem testIndex_of_mem_callbackMocks {b : Block} {scope : MockScope} {testIndex : Option Nat}
    {m : Mock} (h : m ∈ Suite.callbackMocks b scope testIndex) :
    m.testIndex = testIndex.map Int.ofNat := by
  unfold Suite.callbackMocks at h
  cases hBody : b.callback.bind Body.of? with
  | none =>
    rw [hBody] at h
    cases h
  | some body =>
    rw [hBody] at h
    obtain ⟨call, -, hCall⟩ := List.mem_filterMap.mp h
    exact testIndex_of_mock? hCall

/-- **A mock names the test that it is in.** -/
theorem testIndex_of_mem_mocksOf {index : Nat} {item : Item} {m : Mock}
    (h : m ∈ Suite.mocksOf (index, item)) {named : Int} (hNamed : m.testIndex = some named) :
    Suite.isTest item = true ∧ named = index := by
  cases item with
  | call n =>
    rw [testIndex_of_mock? (Option.mem_toList.mp h)] at hNamed
    cases hNamed
  | declaration n describes => cases h
  | block b call place =>
    unfold Suite.mocksOf at h
    dsimp only at h
    split at h
    · cases h
    · next hKind =>
      rw [testIndex_of_mem_callbackMocks h] at hNamed
      refine ⟨?_, (Option.some.inj hNamed).symm⟩
      rw [Suite.isTest, hKind]
      rfl
    · rw [testIndex_of_mem_callbackMocks h] at hNamed
      cases hNamed

theorem readTests_cons_of_not {item : Item} (h : Suite.isTest item = false) (index : Nat)
    (rest : List (Nat × Item)) :
    Suite.readTests ((index, item) :: rest) = Suite.readTests rest := by
  cases item with
  | call n => rfl
  | declaration n describes => rfl
  | block b call place =>
    rw [Suite.isTest] at h
    rw [Suite.readTests, h]
    rfl

theorem exists_of_readTests_cons {item : Item} (h : Suite.isTest item = true) {index : Nat}
    {rest : List (Nat × Item)} {tests : List Suite.ReadTest}
    (hTests : Suite.readTests ((index, item) :: rest) = .ok tests) :
    ∃ test more, Suite.readTests rest = .ok more ∧ tests = test :: more := by
  cases item with
  | call n => cases h
  | declaration n describes => cases h
  | block b call place =>
    rw [Suite.isTest] at h
    rw [Suite.readTests, if_pos h, bind_eq_ok] at hTests
    obtain ⟨test, -, hTests⟩ := hTests
    rw [bind_eq_ok] at hTests
    obtain ⟨more, hMore, hTests⟩ := hTests
    exact ⟨test, more, hMore, (Except.ok.inj hTests).symm⟩

/-- **A suite has as many tests as were numbered.** -/
theorem lt_of_mem_numberedFrom {items : List Item} {index : Nat} {tests : List Suite.ReadTest}
    (hTests : Suite.readTests (Suite.numberedFrom index items) = .ok tests) {i : Nat} {item : Item}
    (h : (i, item) ∈ Suite.numberedFrom index items) (hTest : Suite.isTest item = true) :
    i < index + tests.length := by
  -- A test takes the next number from those that remain, so number and rest add up to the same.
  induction items generalizing index tests with
  | nil => cases h
  | cons first items ih =>
    rw [Suite.numberedFrom] at h hTests
    cases hFirst : Suite.isTest first with
    | true =>
      rw [hFirst, if_pos rfl] at h hTests
      obtain ⟨test, more, hMore, rfl⟩ := exists_of_readTests_cons hFirst hTests
      rw [List.length_cons]
      rcases List.mem_cons.mp h with hHere | hLater
      · obtain rfl : i = index := congrArg Prod.fst hHere
        omega
      · have := ih hMore hLater
        omega
    | false =>
      rw [hFirst, if_neg Bool.false_ne_true] at h hTests
      rw [readTests_cons_of_not hFirst] at hTests
      rcases List.mem_cons.mp h with hHere | hLater
      · obtain rfl : item = first := congrArg Prod.snd hHere
        exact absurd (hFirst.symm.trans hTest) Bool.false_ne_true
      · exact ih hTests hLater

theorem namesOwnTests_of_read {parse : Parser} {path : Text} {content : Content}
    {framework : Option Framework} {s : Suite}
    (h : Suite.read parse path content framework = .ok s) : NamesOwnTests s := by
  obtain ⟨grammar, text, outlined, -, -, hOutline, hs⟩ := exists_ofOutline_of_read h
  rw [Suite.ofOutline, bind_eq_ok] at hOutline
  obtain ⟨tests, hTests, hOutline⟩ := hOutline
  obtain rfl := Except.ok.inj hOutline
  intro m hm named hNamed
  rw [hs] at hm ⊢
  obtain ⟨⟨index, item⟩, hItem, hm⟩ := List.mem_flatMap.mp hm
  obtain ⟨hTest, rfl⟩ := testIndex_of_mem_mocksOf hm hNamed
  have index_lt := lt_of_mem_numberedFrom hTests hItem hTest
  rw [Nat.zero_add] at index_lt
  dsimp only
  rw [List.length_map]
  exact ⟨Int.natCast_nonneg index, Int.ofNat_lt.mpr index_lt⟩

/-! ### The rule that needs an expected value -/

/-- **Whether a suite without an expected value is spoken of**: no literal of an active test is
expected, and limits let a file count as shallow that has no tests with such and no value of
them. -/
def lacksExpectedValue (s : Suite) (limits : SmellLimits) : Bool :=
  limits.shallowMinTests ≤ 0 && 0 ≤ limits.shallowMaxDistinct &&
    s.literals.all fun a => !(a.role == .expected && s.isActiveIndex a.testIndex)

theorem fails_shallowVariety (ctx : RuleContext) :
    shallowVariety.fails ctx = lacksExpectedValue ctx.suite ctx.smells := by
  rw [Bool.eq_iff_iff, fails_iff rfl, lacksExpectedValue]
  dsimp only
  cases hExpected : ctx.suite.literals.filter fun a =>
      a.role == .expected && ctx.suite.isActiveIndex a.testIndex with
  | nil =>
    have none_expected : (ctx.suite.literals.all fun a =>
        !(a.role == .expected && ctx.suite.isActiveIndex a.testIndex)) = true := by
      rw [List.all_eq_true]
      intro a ha
      rw [Bool.not_eq_true']
      exact Bool.eq_false_iff.mpr (List.filter_eq_nil_iff.mp hExpected a ha)
    rw [none_expected, Bool.and_true, Bool.and_eq_true, decide_eq_true_eq, decide_eq_true_eq]
    simp only [List.map_nil, List.eraseDups_nil, List.length_nil, Bool.or_eq_true,
      decide_eq_true_eq, Int.ofNat_eq_natCast]
    constructor
    · rintro ⟨fault, h⟩
      split at h
      · cases h
      · next hNot => exact ⟨by omega, by omega⟩
    · rintro ⟨hMin, hMax⟩
      refine ⟨.noExpectedValue, ?_⟩
      rw [if_neg (by omega)]
  | cons first rest =>
    have hFirst := List.mem_filter.mp (hExpected ▸ List.mem_cons_self (a := first) (l := rest))
    have some_expected : (ctx.suite.literals.all fun a =>
        !(a.role == .expected && ctx.suite.isActiveIndex a.testIndex)) = false := by
      rw [List.all_eq_false]
      exact ⟨first, hFirst.1, by simp [hFirst.2]⟩
    rw [some_expected, Bool.and_false]
    refine iff_of_false ?_ Bool.false_ne_true
    rintro ⟨fault, h⟩
    split at h <;> cases h

/-! ### Failed rules -/

theorem nodup_eraseDups {β : Type} [BEq β] [LawfulBEq β] (xs : List β) : xs.eraseDups.Nodup := by
  induction h : xs.length using Nat.strong_induction_on generalizing xs with
  | _ n ih =>
    cases xs with
    | nil => exact List.nodup_nil
    | cons x xs =>
      subst h
      rw [List.eraseDups_cons, List.nodup_cons, List.mem_eraseDups, List.mem_filter]
      refine ⟨fun hx => by simp at hx, ih _ ?_ _ rfl⟩
      exact Nat.lt_succ_of_le (List.length_filter_le _ _)

section

variable {s : Suite}

/-- **A registered detector answers for a suite that was read**, but for the one rule that needs an
expected value. -/
theorem fails_registered_iff (own : NamesOwnTests s) {ctx : RuleContext} (hSuite : ctx.suite = s)
    {r : Rule} (hr : r ∈ allRules) :
    r.fails ctx = true ↔ r = shallowVariety ∧ lacksExpectedValue s ctx.smells = true := by
  subst hSuite
  rcases answers_or r hr with answers | rfl | rfl
  · rw [answers]
    refine iff_of_false Bool.false_ne_true ?_
    rintro ⟨rfl, lacks⟩
    rw [← fails_shallowVariety, answers] at lacks
    exact Bool.false_ne_true lacks
  · rw [incompleteMockVerification_answers own]
    refine iff_of_false Bool.false_ne_true ?_
    rintro ⟨same, -⟩
    have id_eq := congrArg Rule.id same
    exact absurd id_eq (by decide)
  · rw [fails_shallowVariety, and_iff_right rfl]

theorem nodup_failedRules {α : Type} [ScoreNumber α] {config : Config} {pool : List Rule}
    {facts : SourceFacts} : (analysisIn α config pool s facts).breakdown.failedRules.Nodup :=
  List.nodup_mergeSort.mpr (nodup_eraseDups _)

theorem mem_failedRules_registered_iff (own : NamesOwnTests s) (α : Type) [ScoreNumber α]
    (config : Config) (facts : SourceFacts) {id : Text} :
    id ∈ (analysisIn α config allRules s facts).breakdown.failedRules ↔
      id = shallowVariety.id ∧ config.rules.lookup shallowVariety.id ≠ some .off ∧
        lacksExpectedValue s config.smells = true := by
  have in_force : config.rules.lookup shallowVariety.id ≠ some .off ↔
      shallowVariety.inForce config.rules = true := bne_iff_ne.symm
  rw [mem_failedRules_iff, in_force]
  constructor
  · rintro ⟨r, hr, rfl, ⟨hForce, hFails⟩ | spoiled⟩
    · obtain ⟨rfl, lacks⟩ := (fails_registered_iff own rfl hr).mp hFails
      exact ⟨rfl, hForce, lacks⟩
    · obtain ⟨fault, hFault⟩ := spoiled.raises
      rw [deltaOf_eq hr] at hFault
      cases hFault
  · rintro ⟨rfl, hForce, lacks⟩
    have registered : shallowVariety ∈ allRules := by
      simp [allRules]
    exact ⟨_, registered, rfl,
      .inl ⟨hForce, (fails_registered_iff own rfl registered).mpr ⟨rfl, lacks⟩⟩⟩

end

/-- **At most one registered rule fails.** Whatever a rule sees beside a suite that was read, its
contribution answers, and its detector does unless the rule is the one that needs an expected value,
and lacks it. So in every audit of the suite the failed rules are this one, where it is not switched
off and limits let it speak of a file without expected values, and else none. -/
theorem failed_rules_of_read {parse : Parser} {path : Text} {content : Content}
    {framework : Option Framework} {s : Suite}
    (h : Suite.read parse path content framework = .ok s) :
    (∀ ctx : RuleContext, ctx.suite = s → ∀ r ∈ allRules,
        ((∃ issues, r.run ctx = .ok issues) ↔
          ¬ (r = shallowVariety ∧ lacksExpectedValue s ctx.smells = true)) ∧
        ∀ issues, ∃ delta, r.deltaOf issues ctx = .ok delta) ∧
      ∀ (α : Type) [ScoreNumber α] (config : Config) (facts : SourceFacts) (a : Analysis α),
        audit α config allRules s facts = .ok a →
          a.breakdown.failedRules =
            if config.rules.lookup shallowVariety.id ≠ some .off ∧
                lacksExpectedValue s config.smells = true then [shallowVariety.id] else [] := by
  have own := namesOwnTests_of_read h
  refine ⟨fun ctx hSuite r hr => ⟨?_, fun issues => ⟨_, deltaOf_eq hr issues ctx⟩⟩, ?_⟩
  · rw [← fails_registered_iff own hSuite hr, Rule.fails]
    cases r.run ctx with
    | ok issues => exact iff_of_true ⟨issues, rfl⟩ Bool.false_ne_true
    | error fault =>
      refine iff_of_false ?_ fun hNot => hNot rfl
      rintro ⟨issues, hIssues⟩
      cases hIssues
  · intro α _ config facts a ha
    obtain rfl := eq_of_audit ha
    have failed_iff (id : Text) :=
      @mem_failedRules_registered_iff s own α _ config facts id
    split
    · next lacking =>
      rw [← List.perm_singleton, List.perm_ext_iff_of_nodup nodup_failedRules
        (List.nodup_singleton _)]
      intro id
      rw [failed_iff, List.mem_singleton, and_iff_left lacking]
    · next hNot =>
      rw [List.eq_nil_iff_forall_not_mem]
      intro id hId
      exact hNot ((failed_iff id).mp hId).2

/-- Limits that a user may set, by which a file is shallow that expects nothing at all. -/
def anyFileShallow : Config := { smells := { shallowMinTests := 0 } }

/-- **The rule fails** for one test without assertions, under limits that are accepted. -/
theorem failed_rules_of_read_no_assertion :
    Config.ofFields registry [("smells", .object [("shallow_min_tests", .int 0)])] =
        .ok anyFileShallow ∧
      ∃ s, Suite.read oneTestParser "add.test.ts" (.text "it('adds', () => {})") none = .ok s ∧
        ∃ a, audit Rat anyFileShallow allRules s .unavailable = .ok a ∧
          a.breakdown.failedRules = ["ai-shallow-variety"] := by
  have lacking : (match Suite.read oneTestParser "add.test.ts" (.text "it('adds', () => {})") none
      with
      | .ok s => lacksExpectedValue s anyFileShallow.smells
      | .error _ => false) = true := by decide +kernel
  refine ⟨rfl, ?_⟩
  cases hRead : Suite.read oneTestParser "add.test.ts" (.text "it('adds', () => {})") none with
  | error e => simp [hRead] at lacking
  | ok s =>
    rw [hRead] at lacking
    have no_setting : anyFileShallow.rules.lookup shallowVariety.id ≠ some .off := by
      simp [anyFileShallow]
    have audited := audit_rat anyFileShallow allRules s .unavailable
    refine ⟨s, rfl, _, audited, ?_⟩
    rw [(failed_rules_of_read hRead).2 Rat anyFileShallow .unavailable _ audited,
      if_pos ⟨no_setting, lacking⟩]
    rfl

end SuiteAudit
