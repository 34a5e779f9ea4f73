import SuiteAudit.Proofs.Contributions

/-!
# Raw scores, one category at a time

Raw scores come from a fold over the categories that hands the rules without an answer on from one
category to the next. Registered rules always have an answer, so nothing is handed on and every
category stands alone: `categoryRaws_eq` gives its raw score as a function of the category. Over the
rationals nothing on the way is a fault (`categoryRaws_fault`).
-/

namespace SuiteAudit

/-! ### The rules of a category -/

theorem category_of_scoresIn {r : Rule} {c : Category} (h : r.scoresIn c = true) :
    r.category = some c := by
  simp only [Rule.scoresIn, Bool.and_eq_true, beq_iff_eq] at h
  exact h.1.2

/-- The rules that move a category, where those of `failed` gave no answer before. -/
def scoringRules (c : Category) (rules : List Rule) (failed : List Text) : List Rule :=
  rules.filter fun r => r.scoresIn c && !failed.contains r.id

/-- What some rules do to a category, each by its answer. -/
def Effect.ofRules (rules : List Rule) (issues : List Issue) (ctx : RuleContext) : Effect where
  testPoints := (rules.filter (!·.requiresSource)).map fun r => (r.delta issues ctx).points
  sourcePoints := (rules.filter (·.requiresSource)).map fun r => (r.delta issues ctx).points
  covered := wholeSum ((rules.filter (·.requiresSource)).map fun r => (r.delta issues ctx).covered)
  total := wholeSum ((rules.filter (·.requiresSource)).map fun r => (r.delta issues ctx).total)

/-- An effect is made of the answers of its rules. -/
theorem Effect.ofRules_congr {rules : List Rule} {issues others : List Issue}
    {ctx other : RuleContext} (h : ∀ r ∈ rules, r.delta issues ctx = r.delta others other) :
    Effect.ofRules rules issues ctx = Effect.ofRules rules others other := by
  have answers {β : Type} (p : Rule → Bool) (g : Delta → β) :
      (rules.filter p).map (fun r => g (r.delta issues ctx)) =
        (rules.filter p).map fun r => g (r.delta others other) :=
    List.map_congr_left fun r hr => congrArg g (h r (List.mem_of_mem_filter hr))
  simp only [Effect.ofRules, answers]

/-- Where every rule answers, the deltas of a category are the answers of its rules, and no rule is
added to those that failed. -/
theorem deltasOf_eq {rules : List Rule} (known : ∀ r ∈ rules, r ∈ allRules) (c : Category)
    (issues : List Issue) (ctx : RuleContext) (failed : List Text) :
    deltasOf c rules issues ctx failed =
      { deltas := (scoringRules c rules failed).map fun r =>
          { rule := r, delta := r.delta issues ctx }
        failed } := by
  suffices foldl_eq : ∀ report : DeltaReport,
      rules.foldl (DeltaReport.add c issues ctx) report =
        { deltas := report.deltas ++ (scoringRules c rules report.failed).map fun r =>
            { rule := r, delta := r.delta issues ctx }
          failed := report.failed } from foldl_eq { failed }
  induction rules with
  | nil => simp [scoringRules]
  | cons r rules ih =>
    intro report
    have answer := deltaOf_eq (known r List.mem_cons_self) issues ctx
    rw [List.foldl_cons, ih fun q hq => known q (List.mem_cons_of_mem r hq)]
    by_cases h : (r.scoresIn c && !report.failed.contains r.id) = true
    · simp only [DeltaReport.add, h, if_true, answer, scoringRules, List.filter_cons,
        List.map_cons, List.append_assoc, List.singleton_append]
    · simp only [DeltaReport.add, h, if_false, scoringRules, List.filter_cons, Bool.false_eq_true]

theorem Effect.of_map (rules : List Rule) (issues : List Issue) (ctx : RuleContext) :
    Effect.of (rules.map fun r => { rule := r, delta := r.delta issues ctx }) =
      Effect.ofRules rules issues ctx := by
  simp only [Effect.of, Effect.ofRules, List.partition_eq_filter_filter, List.filter_map,
    List.map_map]
  rfl

/-! ### One category -/

/-- **The raw score of one category**, where every rule answers. -/
def rawIn (α : Type) [ScoreNumber α] (rules : List Rule) (issues : List Issue) (ctx : RuleContext)
    (failed : List Text) (c : Category) : CategoryRaw :=
  if ctx.suite.tests.isEmpty then { category := c, raw := 0, evidence := .noTests }
  else rawFrom (α := α) c ctx (Effect.ofRules (scoringRules c rules failed) issues ctx)

section

variable {α : Type} [ScoreNumber α]

theorem rawFrom_category (c : Category) (ctx : RuleContext) (effect : Effect) :
    (rawFrom (α := α) c ctx effect).category = c := by
  unfold rawFrom
  split
  · rfl
  · split <;> rfl

theorem rawIn_category (rules : List Rule) (issues : List Issue) (ctx : RuleContext)
    (failed : List Text) (c : Category) : (rawIn α rules issues ctx failed c).category = c := by
  unfold rawIn
  split
  · rfl
  · exact rawFrom_category c ctx _

/-- How much of a category is measured depends on what is looked at only, not on what is found. -/
theorem rawIn_evidence (rules : List Rule) (issues : List Issue) (ctx : RuleContext)
    (failed : List Text) (c : Category) :
    (rawIn α rules issues ctx failed c).evidence =
      if ctx.suite.tests.isEmpty then .noTests
      else if c.needsSource && !ctx.facts.available then .unknown
      else .measured := by
  unfold rawIn rawFrom
  split
  · rfl
  · cases c.needsSource <;> cases ctx.facts.available <;> rfl

/-- **The raw scores of registered rules**, category by category. -/
theorem categoryRaws_eq {rules : List Rule} (known : ∀ r ∈ rules, r ∈ allRules)
    (issues : List Issue) (ctx : RuleContext) (failed : List Text) :
    (categoryRaws α rules issues ctx failed).raws =
        Category.all.map (rawIn α rules issues ctx failed) ∧
      (categoryRaws α rules issues ctx failed).failed = failed := by
  suffices foldl_eq : ∀ (cs : List Category) (report : RawReport), report.failed = failed →
      (cs.foldl (RawReport.add α rules issues ctx) report).raws =
          report.raws ++ cs.map (rawIn α rules issues ctx failed) ∧
        (cs.foldl (RawReport.add α rules issues ctx) report).failed = failed from
    foldl_eq Category.all { failed } rfl
  intro cs
  induction cs with
  | nil =>
    intro report h
    exact ⟨by simp, h⟩
  | cons c cs ih =>
    intro report h
    have step : (RawReport.add α rules issues ctx report c).raws =
          report.raws ++ [rawIn α rules issues ctx failed c] ∧
        (RawReport.add α rules issues ctx report c).failed = failed := by
      unfold RawReport.add rawIn
      split
      · exact ⟨rfl, h⟩
      -- No rule is added to those that failed, so the next category sees the same rules.
      · rw [h, deltasOf_eq known]
        dsimp only
        rw [Effect.of_map]
        exact ⟨rfl, rfl⟩
    obtain ⟨hRaws, hFailed⟩ := ih _ step.2
    rw [List.foldl_cons]
    refine ⟨?_, hFailed⟩
    rw [hRaws, step.1, List.append_assoc, List.map_cons, List.singleton_append]

/-! ### All rules -/

/-- Whatever the rules answer, there is one raw score for each category, in order. -/
theorem categoryRaws_category (rules : List Rule) (issues : List Issue) (ctx : RuleContext)
    (failed : List Text) :
    (categoryRaws α rules issues ctx failed).raws.map (·.category) = Category.all := by
  suffices foldl_eq : ∀ (cs : List Category) (report : RawReport),
      (cs.foldl (RawReport.add α rules issues ctx) report).raws.map (·.category) =
        report.raws.map (·.category) ++ cs from foldl_eq Category.all { failed }
  intro cs
  induction cs with
  | nil => simp
  | cons c cs ih =>
    intro report
    have step : (RawReport.add α rules issues ctx report c).raws.map (·.category) =
        report.raws.map (·.category) ++ [c] := by
      unfold RawReport.add
      split
      · rw [List.map_append, List.map_singleton]
      · rw [List.map_append, List.map_singleton, rawFrom_category]
    rw [List.foldl_cons, ih, step, List.append_assoc, List.singleton_append]

/-- Raw scores have no fault where no category has one, whatever rules gave no answer before. -/
theorem categoryRaws_fault_of {rules : List Rule} {issues : List Issue} {ctx : RuleContext}
    {failed : List Text} (sound : ∀ c before, rawFault? α c ctx
      (Effect.of (deltasOf c rules issues ctx before).deltas) = none) :
    (categoryRaws α rules issues ctx failed).fault = none := by
  suffices foldl_eq : ∀ (cs : List Category) (report : RawReport), report.fault = none →
      (cs.foldl (RawReport.add α rules issues ctx) report).fault = none from
    foldl_eq Category.all { failed } rfl
  intro cs
  induction cs with
  | nil => exact fun _ h => h
  | cons c cs ih =>
    intro report h
    apply ih
    unfold RawReport.add
    split
    · exact h
    · dsimp only
      rw [h, sound]
      rfl

end

/-! ### The rationals -/

open ScoreNumber in
/-- **Over the rationals raw scores are between nothing and twenty-five.** -/
theorem rawFrom_mem_range (c : Category) (ctx : RuleContext) (effect : Effect) :
    0 ≤ (rawFrom (α := Rat) c ctx effect).raw ∧ (rawFrom (α := Rat) c ctx effect).raw ≤ 25 := by
  have measured_le (x : Rat) : roundHalfUp (clampRaw x) ≤ 25 :=
    roundHalfUp_le (by exact_mod_cast clampRaw_le x)
  have unknown_le (x : Rat) : unknownValue (clampRaw x) ≤ 25 :=
    (unknownValue_clampRaw_le x).trans (by decide)
  unfold rawFrom
  dsimp only
  split
  · exact ⟨le_roundHalfUp (by exact_mod_cast clampRaw_nonneg _), measured_le _⟩
  · split
    · exact ⟨unknownValue_clampRaw_nonneg _, unknown_le _⟩
    · refine ⟨le_max_of_le_right (unknownValue_clampRaw_nonneg _), max_le ?_ (unknown_le _)⟩
      split <;> exact measured_le _

theorem rawIn_mem_range (rules : List Rule) (issues : List Issue) (ctx : RuleContext)
    (failed : List Text) (c : Category) :
    0 ≤ (rawIn Rat rules issues ctx failed c).raw ∧
      (rawIn Rat rules issues ctx failed c).raw ≤ 25 := by
  unfold rawIn
  split
  · exact (by decide : (0 : Int) ≤ 0 ∧ (0 : Int) ≤ 25)
  · exact rawFrom_mem_range c ctx _

theorem pointFault?_rat (points : List Points) : pointFault? Rat points = none := by
  unfold pointFault?
  split
  · rfl
  · simp [List.findSome?_eq_none_iff]

theorem rawFault?_rat (c : Category) (ctx : RuleContext) (effect : Effect) :
    rawFault? Rat c ctx effect = none := by
  unfold rawFault?
  rw [pointFault?_rat, pointFault?_rat]
  split <;> rfl

/-- **Over the rationals raw scores have no fault.** -/
theorem categoryRaws_fault (rules : List Rule) (issues : List Issue) (ctx : RuleContext)
    (failed : List Text) : (categoryRaws Rat rules issues ctx failed).fault = none :=
  categoryRaws_fault_of fun c _ => rawFault?_rat c ctx _

end SuiteAudit
