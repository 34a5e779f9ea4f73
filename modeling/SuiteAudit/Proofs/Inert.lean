import SuiteAudit.Proofs.Fairness
import SuiteAudit.Proofs.Omission

/-!
# Rules that leave no trace

A rule that is off, a stub, or without a detector may as well not be there (`audit_filter_idle`).
One whose detector has no answer leaves nothing but its id among the failed rules (`audit_filter`),
and a contribution without an answer is as good as none (`audit_muted`). `inert_rules` says so of
whole analyses, and which ids are those of failed rules.
-/

namespace SuiteAudit

/-! ### Audits -/

/-- The analysis with those of its failed rules whose id passes. -/
def Analysis.keepingFailed {α : Type} (keep : Text → Bool) (a : Analysis α) : Analysis α :=
  { a with
    breakdown := { a.breakdown with failedRules := a.breakdown.failedRules.filter keep } }

/-- **A rule that does not run**: a stub, one without a detector, or one that is switched off. -/
inductive Rule.Idle (settings : List (Text × RuleSetting)) (r : Rule) : Prop where
  | stub (h : r.implemented = false)
  | blank (h : r.detect = none)
  | off (h : settings.lookup r.id = some .off)

theorem Rule.Idle.not_inForce {settings : List (Text × RuleSetting)} {r : Rule}
    (h : r.Idle settings) : r.inForce settings = false := by
  cases h with
  | stub h => simp [Rule.inForce, Rule.isActive, h]
  | blank h => simp [Rule.inForce, Rule.isActive, h]
  | off h => simp [Rule.inForce, h]

/-- **A rule that is spoiled by its contribution**: its detector answers, but what its issues do to
its category is asked in vain. -/
structure Rule.Spoiled (config : Config) (pool : List Rule) (s : Suite) (facts : SourceFacts)
    (r : Rule) : Prop where
  inForce : r.inForce config.rules = true
  answers : r.fails (contextFor config s facts) = false
  tests : s.tests ≠ []
  category : r.category.isSome
  raises : ∃ fault,
    r.deltaOf (issuesIn config pool s facts) (contextFor config s facts) = .error fault

theorem Rule.Spoiled.scores {config : Config} {pool : List Rule} {s : Suite} {facts : SourceFacts}
    {r : Rule} (h : r.Spoiled config pool s facts) : ∃ c, r.scoresIn c = true := by
  obtain ⟨c, hCategory⟩ := Option.isSome_iff_exists.mp h.category
  obtain ⟨fault, hFault⟩ := h.raises
  have hActive : r.isActive = true := (Bool.and_eq_true_iff.mp h.inForce).1
  have hContribute : r.contribute.isSome = true := by
    cases hNone : r.contribute with
    | none => simp [Rule.deltaOf, hNone] at hFault
    | some _ => rfl
  exact ⟨c, by simp [Rule.scoresIn, hActive, hCategory, hContribute]⟩

section

variable {config : Config} {pool : List Rule} (s : Suite) (facts : SourceFacts)
  {keep : Text → Bool}

theorem activeRules_muted (settings : List (Text × RuleSetting)) :
    activeRules settings (pool.map (Rule.muted keep)) =
      (activeRules settings pool).map (Rule.muted keep) :=
  activeRules_map (Rule.muted_id keep) (Rule.muted_isActive keep)

theorem issuesIn_muted (keep : Text → Bool) (config : Config) (pool : List Rule) :
    issuesIn config (pool.map (Rule.muted keep)) s facts = issuesIn config pool s facts := by
  rw [issuesIn, issuesIn, activeRules_muted, runRules_muted]

variable (α : Type) [ScoreNumber α]

/-- The analysis forgets failed rules as the raw scores do. -/
theorem analysisOf_keeping (ctx : RuleContext) (issues : List Issue) (scored : RawReport) :
    analysisOf α config ctx issues { scored with failed := scored.failed.filter keep } =
      (analysisOf α config ctx issues scored).keepingFailed keep := by
  unfold analysisOf Analysis.keepingFailed
  dsimp only
  rw [Text.eraseDups_filter, Text.mergeSort_filter]
  rfl

variable {α}

/-- An audit with the same issues and raw scores is the same but for failed rules. -/
theorem audit_keeping {other : List Rule}
    (issues_eq : issuesIn config other s facts = issuesIn config pool s facts)
    (scored_eq : scoredIn α config other s facts =
      { scoredIn α config pool s facts with
        failed := (scoredIn α config pool s facts).failed.filter keep }) :
    audit α config other s facts = (audit α config pool s facts).map (·.keepingFailed keep) := by
  rw [audit_eq, audit_eq, analysisIn, analysisIn, scored_eq, issues_eq, analysisOf_keeping]
  unfold ScoreFault.guard analysisFault?
  dsimp only
  split <;> rfl

/-- **Rules without an answer may be left out.** -/
theorem audit_filter (distinct : (pool.map (·.id)).Nodup) (inert : ∀ r ∈ pool, keep r.id = false →
      r.Idle config.rules ∨ r.fails (contextFor config s facts) = true) :
    audit α config (pool.filter (keep ·.id)) s facts =
      (audit α config pool s facts).map (·.keepingFailed keep) := by
  have failing : ∀ r ∈ activeRules config.rules pool, keep r.id = false →
      r.fails (contextFor config s facts) = true := by
    intro r hr hKeep
    obtain ⟨hPool, hForce⟩ := mem_activeRules.mp hr
    rcases inert r hPool hKeep with idle | hFails
    · exact absurd (idle.not_inForce.symm.trans hForce) Bool.false_ne_true
    · exact hFails
  have quiet : ∀ r ∈ activeRules config.rules pool, keep r.id = false →
      r.found (contextFor config s facts) = [] := by
    intro r hr hKeep
    have hFails := failing r hr hKeep
    unfold Rule.fails at hFails
    unfold Rule.found
    split at hFails <;> simp_all
  have mute (issues : List Issue) : ∀ r ∈ activeRules config.rules pool, keep r.id = false →
      r.Mute issues (contextFor config s facts)
        (runRules (activeRules config.rules pool) (contextFor config s facts)).failed := by
    intro r hr hKeep c _
    rw [runRules_eq]
    exact .inl (List.mem_map.mpr
      ⟨r, List.mem_filter.mpr ⟨hr, failing r hr hKeep⟩, rfl⟩)
  have issues_eq : issuesIn config (pool.filter (keep ·.id)) s facts =
      issuesIn config pool s facts := by
    rw [issuesIn, issuesIn, activeRules_filter distinct, runRules_filter quiet]
  apply audit_keeping s facts issues_eq
  rw [scoredIn, scoredIn, issues_eq, activeRules_filter distinct, runRules_filter quiet]
  exact categoryRaws_filter (mute _) α

/-- **A contribution without an answer is as good as none.** -/
theorem audit_muted
    (spoiled : ∀ r ∈ pool, keep r.id = false → r.Spoiled config pool s facts) :
    audit α config (pool.map (Rule.muted keep)) s facts =
      (audit α config pool s facts).map (·.keepingFailed keep) := by
  have issues_eq := issuesIn_muted s facts keep config pool
  apply audit_keeping s facts issues_eq
  -- Their detectors answer, so at first none of their ids is among those that failed.
  have failed_eq : (runRules (activeRules config.rules pool)
        (contextFor config s facts)).failed.filter keep =
      (runRules (activeRules config.rules pool) (contextFor config s facts)).failed := by
    rw [List.filter_eq_self, runRules_eq]
    intro id hId
    obtain ⟨r, hr, rfl⟩ := List.mem_map.mp hId
    obtain ⟨hActive, hFails⟩ := List.mem_filter.mp hr
    by_contra hKeep
    have := (spoiled r (mem_activeRules.mp hActive).1 (by simpa using hKeep)).answers
    exact Bool.false_ne_true (this.symm.trans hFails)
  have mute : ∀ r ∈ activeRules config.rules pool, keep r.id = false →
      r.Mute (issuesIn config pool s facts) (contextFor config s facts)
        (runRules (activeRules config.rules pool) (contextFor config s facts)).failed :=
    fun r hr hKeep _ _ => .inr (spoiled r (mem_activeRules.mp hr).1 hKeep).raises
  rw [scoredIn, scoredIn, issues_eq, activeRules_muted, runRules_muted, categoryRaws_muted]
  refine Eq.trans ?_ (categoryRaws_filter mute α)
  rw [failed_eq]

/-- **A contribution that is not asked makes no difference.** -/
theorem audit_unasked (unasked : s.tests = [] ∨
      ∀ r ∈ pool, keep r.id = false → r.inForce config.rules = false ∨ r.category = none) :
    audit α config (pool.map (Rule.muted keep)) s facts = audit α config pool s facts := by
  have issues_eq := issuesIn_muted s facts keep config pool
  have scored_eq : scoredIn α config (pool.map (Rule.muted keep)) s facts =
      scoredIn α config pool s facts := by
    rw [scoredIn, scoredIn, issues_eq, activeRules_muted, runRules_muted, categoryRaws_muted]
    apply categoryRaws_of_unasked
    refine unasked.imp id fun h r hr hKeep => ?_
    obtain ⟨hPool, hForce⟩ := mem_activeRules.mp hr
    exact (h r hPool hKeep).resolve_left (by rw [hForce]; exact Bool.noConfusion)
  rw [audit_eq, audit_eq, analysisIn, analysisIn, scored_eq, issues_eq]

/-- **Which rules failed**: those in force whose detector or contribution has no answer. -/
theorem mem_failedRules_iff {id : Text} :
    id ∈ (analysisIn α config pool s facts).breakdown.failedRules ↔
      ∃ r ∈ pool, r.id = id ∧ (r.inForce config.rules = true ∧
          r.fails (contextFor config s facts) = true ∨ r.Spoiled config pool s facts) := by
  have in_failed : id ∈ (analysisIn α config pool s facts).breakdown.failedRules ↔
      id ∈ (scoredIn α config pool s facts).failed := by
    show id ∈ (scoredIn α config pool s facts).failed.eraseDups.mergeSort Text.le ↔ _
    rw [List.mem_mergeSort, List.mem_eraseDups]
  rw [in_failed, scoredIn, mem_failed_categoryRaws, runRules_eq, List.mem_map]
  constructor
  · rintro (⟨r, hr, rfl⟩ | ⟨hTests, r, hr, rfl, ⟨c, hScores⟩, hFault⟩)
    · obtain ⟨hActive, hFails⟩ := List.mem_filter.mp hr
      obtain ⟨hPool, hForce⟩ := mem_activeRules.mp hActive
      exact ⟨r, hPool, rfl, .inl ⟨hForce, hFails⟩⟩
    · obtain ⟨hPool, hForce⟩ := mem_activeRules.mp hr
      refine ⟨r, hPool, rfl, ?_⟩
      cases hFails : r.fails (contextFor config s facts) with
      | true => exact .inl ⟨hForce, rfl⟩
      | false =>
        have hCategory : r.category.isSome := by simp [category_of_scoresIn hScores]
        exact .inr ⟨hForce, hFails, hTests, hCategory, hFault⟩
  · rintro ⟨r, hPool, rfl, ⟨hForce, hFails⟩ | spoiled⟩
    · exact .inl ⟨r, List.mem_filter.mpr ⟨mem_activeRules.mpr ⟨hPool, hForce⟩, hFails⟩, rfl⟩
    · exact .inr ⟨spoiled.tests, r, mem_activeRules.mpr ⟨hPool, spoiled.inForce⟩, rfl,
        spoiled.scores, spoiled.raises⟩

end

/-- Rules that do not run may be left out without a trace. -/
theorem audit_filter_idle {α : Type} [ScoreNumber α] {config : Config} {pool : List Rule}
    (distinct : (pool.map (·.id)).Nodup) {keep : Text → Bool}
    (idle : ∀ r ∈ pool, keep r.id = false → r.Idle config.rules) (s : Suite)
    (facts : SourceFacts) :
    audit α config (pool.filter (keep ·.id)) s facts = audit α config pool s facts := by
  have rules_eq : activeRules config.rules (pool.filter (keep ·.id)) =
      activeRules config.rules pool := by
    rw [activeRules_filter distinct, List.filter_eq_self]
    intro r hr
    obtain ⟨hPool, hForce⟩ := mem_activeRules.mp hr
    by_contra hKeep
    exact Bool.false_ne_true
      ((idle r hPool (by simpa using hKeep)).not_inForce.symm.trans hForce)
  rw [audit, audit, rules_eq]

/-- **Rules that cannot answer leave no trace.** The order of a pool does not count. A rule that
does not run may be left out of it. So may one whose detector has no answer, and one whose
contribution has none is as good as one without: then all that changes is that its id is no longer
among those of the failed rules. There are the ids of such rules, and no others. -/
theorem inert_rules (α : Type) [ScoreNumber α] (parse : Syntax.Parser) (config : Config) (job : Job)
    {pool : List Rule} (distinct : (pool.map (·.id)).Nodup) :
    let analysis (pool : List Rule) := analyze α parse config job pool
    let read (s : Suite) := Suite.read parse job.path job.test config.framework = .ok s
    let facts (s : Suite) := factsFor parse config job s
    (∀ other, pool.Perm other → analysis other = analysis pool) ∧
      (∀ keep : Text → Bool, (∀ r ∈ pool, keep r.id = false → r.Idle config.rules) →
        analysis (pool.filter (keep ·.id)) = analysis pool) ∧
      (∀ keep : Text → Bool,
        (∀ s, read s → ∀ r ∈ pool, keep r.id = false →
          r.Idle config.rules ∨ r.fails (contextFor config s (facts s)) = true) →
        analysis (pool.filter (keep ·.id)) = (analysis pool).map (·.keepingFailed keep)) ∧
      (∀ keep : Text → Bool,
        (∀ s, read s → ∀ r ∈ pool, keep r.id = false → r.Spoiled config pool s (facts s)) →
        analysis (pool.map (Rule.muted keep)) = (analysis pool).map (·.keepingFailed keep)) ∧
      (∀ keep : Text → Bool,
        (∀ s, read s → s.tests = [] ∨ ∀ r ∈ pool, keep r.id = false →
          r.Idle config.rules ∨ r.category = none) →
        analysis (pool.map (Rule.muted keep)) = analysis pool) ∧
      ∀ a, analysis pool = .ok a → ∃ s, read s ∧ ∀ id, id ∈ a.breakdown.failedRules ↔
        ∃ r ∈ pool, r.id = id ∧
          (r.inForce config.rules = true ∧ r.fails (contextFor config s (facts s)) = true ∨
            r.Spoiled config pool s (facts s)) := by
  intro analysis read facts
  -- Equal audits are audits that compare by the identity.
  have same {other : List Rule}
      (audits : ∀ s, read s → audit α config other s (facts s) = audit α config pool s (facts s)) :
      analysis other = analysis pool := by
    refine (analyze_eq_map fun s hRead => ?_).trans (congrFun Except.map_id _)
    rw [Except.map_id]
    exact audits s hRead
  refine ⟨?_, ?_, ?_, ?_, ?_, ?_⟩
  · intro other perm
    apply same
    intro s _
    rw [audit, audit, activeRules_perm distinct perm]
  · intro keep idle
    exact same fun s _ => audit_filter_idle distinct idle s _
  · intro keep inert
    exact analyze_eq_map fun s hRead => audit_filter s _ distinct (inert s hRead)
  · intro keep spoiled
    exact analyze_eq_map fun s hRead => audit_muted s _ (spoiled s hRead)
  · intro keep unasked
    apply same
    intro s hRead
    apply audit_unasked
    exact (unasked s hRead).imp_right fun h r hr hKeep => (h r hr hKeep).imp_left (·.not_inForce)
  · intro a ha
    obtain ⟨s, hRead, rfl⟩ := exists_read_of_analyze ha
    exact ⟨s, hRead, fun id => mem_failedRules_iff s (facts s)⟩

/-- A rule whose detector has no answer. -/
def brokenRule : Rule where
  id := "broken"
  display := "Broken"
  severity := .warning
  category := some .inputVariety
  guidance := ""
  detect := some fun _ => .error .refused

/-- A rule whose contribution has no answer. -/
def spoiledRule : Rule where
  id := "spoiled"
  display := "Spoiled"
  severity := .warning
  category := some .inputVariety
  guidance := ""
  detect := some fun _ => .ok []
  contribute := some fun _ _ => .error .refused

/-- A broken rule, a spoiled one, and one that is switched off: turned around, left out or without
its contribution, none shows but among the failed rules. -/
theorem inert_rules_broken :
    let job : Job := { path := "add.test.ts", test := .text "it('adds', () => {})" }
    let config : Config := { rules := [(Rules.emptyTest.id, .off)] }
    let analysis (pool : List Rule) := analyze Rat oneTestParser config job pool
    let pool := [spoiledRule, brokenRule, Rules.emptyTest]
    ∃ a, analysis pool = .ok a ∧
      analysis [Rules.emptyTest, brokenRule, spoiledRule] = .ok a ∧
      analysis [spoiledRule, brokenRule] = .ok a ∧
      analysis [spoiledRule, Rules.emptyTest] = .ok (a.keepingFailed (· != brokenRule.id)) ∧
      analysis [{ spoiledRule with contribute := none }, brokenRule, Rules.emptyTest] =
        .ok (a.keepingFailed (· != spoiledRule.id)) ∧
      brokenRule.id ∈ a.breakdown.failedRules ∧ spoiledRule.id ∈ a.breakdown.failedRules := by
  intro job config analysis pool
  have distinct : (pool.map (·.id)).Nodup := by decide
  obtain ⟨s, hRead, hTests⟩ : ∃ s,
      Suite.read oneTestParser job.path job.test config.framework = .ok s ∧ s.tests ≠ [] := by
    have some_test : ((Suite.read oneTestParser job.path job.test none).toOption.any fun s =>
        !s.tests.isEmpty) = true := by
      decide +kernel
    cases hRead : Suite.read oneTestParser job.path job.test none with
    | error e =>
      rw [hRead] at some_test
      cases some_test
    | ok s =>
      rw [hRead] at some_test
      have some_test : (!s.tests.isEmpty) = true := some_test
      exact ⟨s, rfl, by simpa using some_test⟩
  have spoiled : spoiledRule.Spoiled config pool s (factsFor oneTestParser config job s) :=
    ⟨rfl, rfl, hTests, rfl, _, rfl⟩
  have only (s' : Suite)
      (h : Suite.read oneTestParser job.path job.test config.framework = .ok s') : s' = s :=
    Except.ok.inj (h.symm.trans hRead)
  obtain ⟨order, idle, failing, muted, -, failed⟩ :=
    inert_rules Rat oneTestParser config job distinct
  have analyzed := @analyze_rat oneTestParser config job s hRead pool
  obtain ⟨s', hRead', failed_iff⟩ := failed _ analyzed
  rw [only s' hRead'] at failed_iff
  have turned : pool.Perm [Rules.emptyTest, brokenRule, spoiledRule] :=
    (List.reverse_perm pool).symm
  -- Each of the three is told from the others by its id.
  have off_only : (spoiledRule.id != Rules.emptyTest.id) = true ∧
      (brokenRule.id != Rules.emptyTest.id) = true ∧
      (Rules.emptyTest.id != Rules.emptyTest.id) = false := by decide
  have broken_only : (spoiledRule.id != brokenRule.id) = true ∧
      (brokenRule.id != brokenRule.id) = false ∧
      (Rules.emptyTest.id != brokenRule.id) = true := by decide
  have spoiled_only : (spoiledRule.id != spoiledRule.id) = false ∧
      (brokenRule.id != spoiledRule.id) = true ∧
      (Rules.emptyTest.id != spoiledRule.id) = true := by decide
  have without_off : pool.filter (·.id != Rules.emptyTest.id) = [spoiledRule, brokenRule] := by
    simp only [pool, List.filter_cons, off_only, if_true, Bool.false_eq_true, if_false,
      List.filter_nil]
  have without_broken : pool.filter (·.id != brokenRule.id) = [spoiledRule, Rules.emptyTest] := by
    simp only [pool, List.filter_cons, broken_only, if_true, Bool.false_eq_true, if_false,
      List.filter_nil]
  have muted_spoiled : pool.map (Rule.muted (· != spoiledRule.id)) =
      [{ spoiledRule with contribute := none }, brokenRule, Rules.emptyTest] := by
    simp only [pool, List.map_cons, List.map_nil, Rule.muted, spoiled_only, if_true,
      Bool.false_eq_true, if_false]
  rw [← without_off, ← without_broken, ← muted_spoiled]
  refine ⟨_, analyzed, (order _ turned).trans analyzed,
    (idle (· != Rules.emptyTest.id) ?_).trans analyzed,
    (failing (· != brokenRule.id) fun s' h => ?_).trans (congrArg _ analyzed),
    (muted (· != spoiledRule.id) fun s' h => ?_).trans (congrArg _ analyzed),
    (failed_iff _).mpr ⟨brokenRule, by simp [pool], rfl, .inl ⟨rfl, rfl⟩⟩,
    (failed_iff _).mpr ⟨spoiledRule, List.mem_cons_self, rfl, .inr spoiled⟩⟩
  · simp only [pool, List.forall_mem_cons, off_only, Bool.true_eq_false, false_implies, true_and]
    exact ⟨fun _ => .off rfl, fun _ h => absurd h List.not_mem_nil⟩
  · rw [only s' h]
    simp only [pool, List.forall_mem_cons, broken_only, Bool.true_eq_false, false_implies, true_and]
    exact ⟨fun _ => .inr rfl, fun _ h => absurd h List.not_mem_nil⟩
  · rw [only s' h]
    simp only [pool, List.forall_mem_cons, spoiled_only, Bool.true_eq_false, false_implies,
      true_and]
    exact ⟨fun _ => spoiled, fun _ h => absurd h List.not_mem_nil⟩

end SuiteAudit
