import SuiteAudit.Proofs.Breakdowns

/-!
# What a run of rules finds

A run of rules is a flat map: each rule finds what it finds on its own (`runRules_eq`), and which of
its issues count is decided without a look at those of other rules (`perm_ofRule_countedIssues`). So
two audits of one suite agree on every rule that finds the same in both
(`length_ofRule_countedIssues`).
-/

namespace SuiteAudit

/-! ### One rule -/

/-- The issues that a rule finds; none if it gives no answer. -/
def Rule.found (r : Rule) (ctx : RuleContext) : List Issue :=
  match r.run ctx with
  | .ok issues => issues
  | .error _ => []

/-- Whether a rule gives no answer. -/
def Rule.fails (r : Rule) (ctx : RuleContext) : Bool :=
  match r.run ctx with
  | .ok _ => false
  | .error _ => true

/-- What a rule finds, its detector found. -/
theorem exists_of_mem_found {r : Rule} {ctx : RuleContext} {i : Issue} (h : i ∈ r.found ctx) :
    ∃ detect findings, r.detect = some detect ∧ detect ctx = .ok findings ∧
      ∃ f ∈ findings, r.issue f = i := by
  unfold Rule.found Rule.run at h
  cases hDetect : r.detect with
  | none => simp [hDetect] at h
  | some detect =>
    rw [hDetect] at h
    cases hFindings : detect ctx with
    | error fault => simp [hFindings, Except.map] at h
    | ok findings =>
      simp only [hFindings, Except.map, List.mem_map] at h
      exact ⟨detect, findings, rfl, hFindings, h⟩

/-- **A rule stamps its issues** with its own id and category. -/
theorem stamped_of_mem_found {r : Rule} {ctx : RuleContext} {i : Issue} (h : i ∈ r.found ctx) :
    i.rule = r.id ∧ i.category = r.category := by
  obtain ⟨-, -, -, -, f, -, rfl⟩ := exists_of_mem_found h
  exact ⟨rfl, rfl⟩

/-! ### A run of rules -/

theorem mem_pool_of_mem_activeRules {settings : List (Text × RuleSetting)} {pool : List Rule}
    {r : Rule} (h : r ∈ activeRules settings pool) : r ∈ pool :=
  List.mem_of_mem_filter (List.mem_mergeSort.mp h)

/-- **A run of rules, rule by rule.** -/
theorem runRules_eq (rules : List Rule) (ctx : RuleContext) :
    runRules rules ctx =
      { issues := rules.flatMap (·.found ctx)
        failed := (rules.filter (·.fails ctx)).map (·.id) } := by
  suffices foldl_eq : ∀ report : RuleReport,
      rules.foldl (RuleReport.add ctx) report =
        { issues := report.issues ++ rules.flatMap (·.found ctx)
          failed := report.failed ++ (rules.filter (·.fails ctx)).map (·.id) } from
    foldl_eq {}
  induction rules with
  | nil => simp
  | cons r rules ih =>
    intro report
    rw [List.foldl_cons, ih, List.flatMap_cons, List.filter_cons]
    cases h : r.run ctx with
    | ok issues =>
      simp only [RuleReport.add, Rule.found, Rule.fails, h, List.append_assoc, Bool.false_eq_true,
        if_false]
    | error fault =>
      simp only [RuleReport.add, Rule.found, Rule.fails, h, List.nil_append, if_true,
        List.map_cons, List.append_assoc, List.singleton_append]

/-- The issues of one id in a run are those of the rules of that id. -/
theorem ofRule_runRules (rules : List Rule) (ctx : RuleContext) (id : Text) :
    Issue.ofRule (runRules rules ctx).issues id =
      (rules.filter (·.id == id)).flatMap (·.found ctx) := by
  rw [runRules_eq]
  dsimp only
  induction rules with
  | nil => rfl
  | cons r rules ih =>
    rw [Issue.ofRule] at ih ⊢
    rw [List.flatMap_cons, List.filter_append, ih, List.filter_cons]
    by_cases h : (r.id == id) = true
    · have own : (r.found ctx).filter (·.rule == id) = r.found ctx := by
        rw [List.filter_eq_self]
        intro i hi
        rw [(stamped_of_mem_found hi).1]
        exact h
      rw [own, if_pos h, List.flatMap_cons]
    · have other : (r.found ctx).filter (·.rule == id) = [] := by
        rw [List.filter_eq_nil_iff]
        intro i hi
        rw [(stamped_of_mem_found hi).1]
        exact h
      rw [other, if_neg h, List.nil_append]

/-! ### The issues that count -/

/-- The setting of a rule does not look at the issues of others. -/
theorem ofRule_applySettings (settings : List (Text × RuleSetting)) (found : List Issue)
    (id : Text) :
    Issue.ofRule (applySettings settings found) id =
      applySettings settings (Issue.ofRule found id) := by
  rw [Issue.ofRule, Issue.ofRule, applySettings, applySettings, List.filter_filterMap,
    List.filterMap_filter]
  apply List.filterMap_congr
  intro i _
  cases settings.lookup i.rule with
  | none => simp [Option.filter]
  | some setting => cases setting <;> simp [Option.filter]

/-- **The issues of a rule that count** are, in some order, those that settings and directives leave
of what it found. -/
theorem perm_ofRule_countedIssues (config : Config) (s : Suite) (found : List Issue) (id : Text) :
    (Issue.ofRule (countedIssues config s found) id).Perm
      ((Silence.ofLines registry.contains s.lines).filter
        (applySettings config.rules (Issue.ofRule found id))) := by
  rw [countedIssues, Issue.sorted, ← ofRule_applySettings]
  refine ((List.mergeSort_perm _ _).filter _).trans ?_
  rw [Silence.filter, Silence.filter, Issue.ofRule, List.filter_filter, List.filter_filter]
  simp only [Bool.and_comm]
  exact List.Perm.refl _

/-- What counts of two runs that found the same for a rule is equally much. -/
theorem length_ofRule_countedIssues (config : Config) (s : Suite) {found others : List Issue}
    {id : Text} (h : Issue.ofRule found id = Issue.ofRule others id) :
    (Issue.ofRule (countedIssues config s found) id).length =
      (Issue.ofRule (countedIssues config s others) id).length := by
  rw [(perm_ofRule_countedIssues config s found id).length_eq, h,
    (perm_ofRule_countedIssues config s others id).length_eq]

/-- What settings leave of the issues of a rule in force counts, unless a directive silences it. -/
theorem mem_issuesIn {config : Config} {pool : List Rule} {s : Suite} {facts : SourceFacts}
    {r : Rule} (hr : r ∈ activeRules config.rules pool) {i : Issue}
    (hi : i ∈ applySettings config.rules (r.found (contextFor config s facts)))
    (heard : (Silence.ofLines registry.contains s.lines).isIgnored i.span.line i.rule = false) :
    i ∈ issuesIn config pool s facts := by
  rw [issuesIn, countedIssues, Issue.sorted, List.mem_mergeSort, Silence.filter, List.mem_filter,
    runRules_eq]
  refine ⟨?_, by simp [heard]⟩
  obtain ⟨found, hFound, hSet⟩ := List.mem_filterMap.mp hi
  exact List.mem_filterMap.mpr ⟨found, List.mem_flatMap.mpr ⟨r, hr, hFound⟩, hSet⟩

end SuiteAudit
