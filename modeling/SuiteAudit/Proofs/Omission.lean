import SuiteAudit.Proofs.Findings

/-!
# Scores without some rules

The rules in force are sorted by their ids, so the order of a pool does not count
(`activeRules_perm`). Rules that find nothing can be left out of a run (`runRules_filter`), and
rules that move nothing out of every category (`categoryRaws_filter`): all that is lost of them is
their ids among those of the failed rules. `mem_failed_categoryRaws` says which ids those are.
-/

namespace SuiteAudit

/-! ### Sorted texts -/

namespace Text

theorem codes_injective {a b : Text} (h : a.codes = b.codes) : a = b := by
  obtain ⟨points⟩ := a
  obtain ⟨others⟩ := b
  exact congrArg mk (List.map_injective_iff.mpr (fun _ _ => CodePoint.code_injective) h)

theorem le_iff (a b : Text) : le a b = true ↔ ¬ b.codes < a.codes := by
  rw [le, lt, Bool.not_eq_true', decide_eq_false_iff_not]

theorem le_trans (a b c : Text) (hab : le a b = true) (hbc : le b c = true) : le a c = true := by
  rw [le_iff, List.not_lt] at *
  exact List.le_trans hab hbc

theorem le_total (a b : Text) : (le a b || le b a) = true := by
  rw [Bool.or_eq_true, le_iff, le_iff, List.not_lt, List.not_lt]
  exact List.le_total a.codes b.codes

theorem le_antisymm {a b : Text} (hab : le a b = true) (hba : le b a = true) : a = b := by
  rw [le_iff, List.not_lt] at hab hba
  exact codes_injective (List.le_antisymm hab hba)

theorem pairwise_mergeSort (ts : List Text) :
    (ts.mergeSort le).Pairwise fun a b => le a b = true :=
  List.pairwise_mergeSort le_trans le_total ts

/-- What is left of a sorted list is the sorted list of what is left. -/
theorem mergeSort_filter (keep : Text → Bool) (ts : List Text) :
    (ts.filter keep).mergeSort le = (ts.mergeSort le).filter keep := by
  apply List.Perm.eq_of_pairwise (fun a b _ _ => le_antisymm) (pairwise_mergeSort _)
    ((pairwise_mergeSort ts).filter keep)
  exact (List.mergeSort_perm _ _).trans ((List.mergeSort_perm ts le).filter keep).symm

/-- Dropping repetitions and dropping elements can be done in either order. -/
theorem eraseDups_filter (keep : Text → Bool) (ts : List Text) :
    (ts.filter keep).eraseDups = ts.eraseDups.filter keep := by
  induction h : ts.length using Nat.strong_induction_on generalizing ts with
  | _ n ih =>
    cases ts with
    | nil => rfl
    | cons t ts =>
      subst h
      have others_length : (ts.filter fun u => !u == t).length < (t :: ts).length :=
        Nat.lt_succ_of_le (List.length_filter_le _ _)
      have others := ih _ others_length (ts.filter fun u => !u == t) rfl
      rw [List.eraseDups_cons, List.filter_cons, List.filter_cons, ← others, List.filter_filter]
      by_cases hKeep : keep t = true
      · rw [if_pos hKeep, if_pos hKeep, List.eraseDups_cons, List.filter_filter]
        simp only [Bool.and_comm]
      · rw [if_neg hKeep, if_neg hKeep]
        congr 1
        apply List.filter_congr
        intro u _
        cases hu : keep u with
        | false => rfl
        | true =>
          have : u ≠ t := by
            rintro rfl
            exact hKeep hu
          simp [this]

end Text

/-! ### The rules in force -/

/-- Whether a rule is in force: it can run, and is not switched off. -/
def Rule.inForce (settings : List (Text × RuleSetting)) (r : Rule) : Bool :=
  r.isActive && settings.lookup r.id != some .off

section

variable {settings : List (Text × RuleSetting)} {pool : List Rule}

theorem mem_activeRules {r : Rule} :
    r ∈ activeRules settings pool ↔ r ∈ pool ∧ r.inForce settings = true := by
  rw [activeRules, List.mem_mergeSort, List.mem_filter]
  rfl

theorem pairwise_activeRules :
    (activeRules settings pool).Pairwise fun a b => Text.le a.id b.id = true :=
  List.pairwise_mergeSort (fun a b c => Text.le_trans a.id b.id c.id)
    (fun a b => Text.le_total a.id b.id) _

/-- **There is one way to list the rules in force by their ids**, as long as ids are not
repeated. -/
theorem eq_activeRules (distinct : (pool.map (·.id)).Nodup) {rules : List Rule}
    (perm : rules.Perm (pool.filter (Rule.inForce settings)))
    (sorted : rules.Pairwise fun a b => Text.le a.id b.id = true) :
    rules = activeRules settings pool := by
  apply List.Perm.eq_of_pairwise _ sorted pairwise_activeRules
    (perm.trans (List.mergeSort_perm _ _).symm)
  intro a b ha hb hab hba
  exact List.inj_on_of_nodup_map distinct (List.mem_of_mem_filter (perm.subset ha))
    (mem_activeRules.mp hb).1 (Text.le_antisymm hab hba)

/-- **The order of a pool does not count.** -/
theorem activeRules_perm (distinct : (pool.map (·.id)).Nodup) {other : List Rule}
    (perm : pool.Perm other) : activeRules settings other = activeRules settings pool :=
  eq_activeRules distinct ((List.mergeSort_perm _ _).trans (perm.symm.filter _))
    pairwise_activeRules

/-- Leaving rules out of a pool leaves them out of those in force. -/
theorem activeRules_filter (distinct : (pool.map (·.id)).Nodup) (keep : Rule → Bool) :
    activeRules settings (pool.filter keep) = (activeRules settings pool).filter keep := by
  symm
  apply eq_activeRules (distinct.sublist (List.filter_sublist.map _)) _
    (pairwise_activeRules.filter keep)
  refine ((List.mergeSort_perm _ _).filter keep).trans ?_
  rw [List.filter_filter, List.filter_filter]
  exact List.Perm.of_eq (List.filter_congr fun r _ => Bool.and_comm _ _)

/-- Changes of rules that keep their ids, and whether they can run, keep them in force. -/
theorem activeRules_map {change : Rule → Rule} (id_eq : ∀ r, (change r).id = r.id)
    (active_eq : ∀ r, (change r).isActive = r.isActive) :
    activeRules settings (pool.map change) = (activeRules settings pool).map change := by
  rw [activeRules, activeRules, List.filter_map, List.map_mergeSort]
  · congr 2
    exact List.filter_congr fun r _ => by simp [id_eq, active_eq]
  · intro a _ b _
    rw [id_eq, id_eq]

end

/-! ### A run without some rules -/

theorem runRules_filter {rules : List Rule} {ctx : RuleContext} {keep : Text → Bool}
    (quiet : ∀ r ∈ rules, keep r.id = false → r.found ctx = []) :
    runRules (rules.filter (keep ·.id)) ctx =
      { issues := (runRules rules ctx).issues
        failed := (runRules rules ctx).failed.filter keep } := by
  have issues_eq : (rules.filter (keep ·.id)).flatMap (·.found ctx) =
      rules.flatMap (·.found ctx) := by
    induction rules with
    | nil => rfl
    | cons r rules ih =>
      have rest := ih fun q hq => quiet q (List.mem_cons_of_mem r hq)
      rw [List.filter_cons, List.flatMap_cons]
      cases hKeep : keep r.id with
      | true => rw [if_pos rfl, List.flatMap_cons, rest]
      | false =>
        rw [if_neg Bool.false_ne_true, rest, quiet r List.mem_cons_self hKeep, List.nil_append]
  rw [runRules_eq, runRules_eq, issues_eq, List.filter_map, List.filter_filter, List.filter_filter]
  simp only [Bool.and_comm, Function.comp_apply]

/-! ### Categories without some rules -/

section

variable {rules : List Rule} {issues : List Issue} {ctx : RuleContext} {failed : List Text}

/-- A rule that gave no answer stays among those. -/
theorem subset_failed_add (c : Category) (report : DeltaReport) (r : Rule) :
    report.failed ⊆ (report.add c issues ctx r).failed := by
  unfold DeltaReport.add
  split
  · split
    · exact List.Subset.refl _
    · exact List.subset_append_left _ _
  · exact List.Subset.refl _

theorem subset_failed_deltasOf (c : Category) :
    failed ⊆ (deltasOf c rules issues ctx failed).failed := by
  suffices foldl_subset : ∀ report : DeltaReport,
      report.failed ⊆ (rules.foldl (DeltaReport.add c issues ctx) report).failed from
    foldl_subset { failed }
  induction rules with
  | nil => exact fun _ => List.Subset.refl _
  | cons r rules ih =>
    exact fun report => List.Subset.trans (subset_failed_add c report r) (ih _)

/-- **Rules that are not asked may be left out of a category.** -/
theorem deltasOf_scoringRules (c : Category) :
    deltasOf c (scoringRules c rules failed) issues ctx failed =
      deltasOf c rules issues ctx failed := by
  suffices foldl_eq : ∀ report : DeltaReport, failed ⊆ report.failed →
      (scoringRules c rules failed).foldl (DeltaReport.add c issues ctx) report =
        rules.foldl (DeltaReport.add c issues ctx) report from
    foldl_eq { failed } (List.Subset.refl _)
  induction rules with
  | nil => exact fun _ _ => rfl
  | cons r rules ih =>
    intro report grown
    have rest := ih (report.add c issues ctx r)
      (List.Subset.trans grown (subset_failed_add c report r))
    rw [scoringRules] at rest ⊢
    rw [List.filter_cons, List.foldl_cons, ← rest]
    split
    · rfl
    · next hSkip =>
      have not_asked : ¬ (r.scoresIn c && !report.failed.contains r.id) = true := by
        simp only [Bool.and_eq_true, Bool.not_eq_true', List.contains_eq_mem,
          decide_eq_false_iff_not, not_and, not_not] at hSkip ⊢
        exact fun hScores => grown (hSkip hScores)
      rw [DeltaReport.add, if_neg not_asked]

/-- What a rule would have to answer is nothing. -/
def Rule.Mute (r : Rule) (issues : List Issue) (ctx : RuleContext) (failed : List Text) : Prop :=
  ∀ c, r.scoresIn c = true → r.id ∈ failed ∨ ∃ fault, r.deltaOf issues ctx = .error fault

variable {keep : Text → Bool}
  (mute : ∀ r ∈ rules, keep r.id = false → r.Mute issues ctx failed)

include mute

theorem deltasOf_filter {before : List Text} (grown : failed ⊆ before) (c : Category) :
    deltasOf c (rules.filter (keep ·.id)) issues ctx (before.filter keep) =
      { deltas := (deltasOf c rules issues ctx before).deltas
        failed := (deltasOf c rules issues ctx before).failed.filter keep } := by
  suffices foldl_eq : ∀ report : DeltaReport, failed ⊆ report.failed →
      (rules.filter (keep ·.id)).foldl (DeltaReport.add c issues ctx)
          { report with failed := report.failed.filter keep } =
        { rules.foldl (DeltaReport.add c issues ctx) report with
          failed := (rules.foldl (DeltaReport.add c issues ctx) report).failed.filter keep } from
    foldl_eq { failed := before } grown
  induction rules with
  | nil => exact fun _ _ => rfl
  | cons r rules ih =>
    intro report grown
    have rest := ih (fun q hq => mute q (List.mem_cons_of_mem r hq)) (report.add c issues ctx r)
      (List.Subset.trans grown (subset_failed_add c report r))
    rw [List.filter_cons, List.foldl_cons, ← rest]
    cases hKeep : keep r.id with
    | true =>
      -- A rule that is kept is asked on both sides or on neither.
      have contains_eq :
          (report.failed.filter keep).contains r.id = report.failed.contains r.id := by
        simp [hKeep]
      rw [if_pos rfl, List.foldl_cons]
      congr 1
      unfold DeltaReport.add
      rw [contains_eq]
      split
      · split
        · rfl
        · simp [hKeep]
      · rfl
    | false =>
      rw [if_neg Bool.false_ne_true]
      congr 1
      unfold DeltaReport.add
      split
      · next hAsked =>
        simp only [Bool.and_eq_true, Bool.not_eq_true', List.contains_eq_mem,
          decide_eq_false_iff_not] at hAsked
        rcases mute r List.mem_cons_self hKeep c hAsked.1 with hFailed | ⟨fault, hFault⟩
        · exact absurd (grown hFailed) hAsked.2
        · simp [hFault, hKeep]
      · rfl

/-- **Mute rules may be left out of all categories**: nothing is lost but their ids among those of
the failed rules. -/
theorem categoryRaws_filter (α : Type) [ScoreNumber α] :
    categoryRaws α (rules.filter (keep ·.id)) issues ctx (failed.filter keep) =
      { categoryRaws α rules issues ctx failed with
        failed := (categoryRaws α rules issues ctx failed).failed.filter keep } := by
  suffices foldl_eq : ∀ (cs : List Category) (report : RawReport), failed ⊆ report.failed →
      cs.foldl (RawReport.add α (rules.filter (keep ·.id)) issues ctx)
          { report with failed := report.failed.filter keep } =
        { cs.foldl (RawReport.add α rules issues ctx) report with
          failed := (cs.foldl (RawReport.add α rules issues ctx) report).failed.filter keep } from
    foldl_eq Category.all { failed } (List.Subset.refl _)
  intro cs
  induction cs with
  | nil => exact fun _ _ => rfl
  | cons c cs ih =>
    intro report grown
    have step : RawReport.add α (rules.filter (keep ·.id)) issues ctx
          { report with failed := report.failed.filter keep } c =
        { RawReport.add α rules issues ctx report c with
          failed := (RawReport.add α rules issues ctx report c).failed.filter keep } := by
      unfold RawReport.add
      dsimp only
      split
      · rfl
      · rw [deltasOf_filter mute grown]
    have grown_step : failed ⊆ (RawReport.add α rules issues ctx report c).failed := by
      unfold RawReport.add
      split
      · exact grown
      · exact List.Subset.trans grown (subset_failed_deltasOf c)
    rw [List.foldl_cons, List.foldl_cons, step]
    exact ih _ grown_step

end

/-! ### Rules without a contribution -/

/-- A rule without its contribution, unless its id passes. -/
def Rule.muted (keep : Text → Bool) (r : Rule) : Rule :=
  if keep r.id then r else { r with contribute := none }

section

variable (keep : Text → Bool) (r : Rule)

@[simp] theorem Rule.muted_id : (r.muted keep).id = r.id := by
  unfold Rule.muted
  split <;> rfl

@[simp] theorem Rule.muted_isActive : (r.muted keep).isActive = r.isActive := by
  unfold Rule.muted
  split <;> rfl

@[simp] theorem Rule.found_muted (ctx : RuleContext) : (r.muted keep).found ctx = r.found ctx := by
  unfold Rule.muted
  split <;> rfl

@[simp] theorem Rule.fails_muted (ctx : RuleContext) : (r.muted keep).fails ctx = r.fails ctx := by
  unfold Rule.muted
  split <;> rfl

end

theorem Rule.muted_of_keep {keep : Text → Bool} {r : Rule} (h : keep r.id = true) :
    r.muted keep = r :=
  if_pos h

theorem Rule.scoresIn_muted {keep : Text → Bool} {r : Rule} (h : keep r.id = false)
    (c : Category) : (r.muted keep).scoresIn c = false := by
  rw [Rule.muted, h]
  exact Bool.and_false _

/-- A run does not look at contributions. -/
theorem runRules_muted (keep : Text → Bool) (rules : List Rule) (ctx : RuleContext) :
    runRules (rules.map (Rule.muted keep)) ctx = runRules rules ctx := by
  rw [runRules_eq, runRules_eq, List.flatMap_map, List.filter_map, List.map_map]
  simp [Function.comp_def]

/-- Rules without a contribution score like rules that are left out. -/
theorem scoringRules_muted (keep : Text → Bool) (c : Category) (rules : List Rule)
    (failed : List Text) :
    scoringRules c (rules.map (Rule.muted keep)) failed =
      scoringRules c (rules.filter (keep ·.id)) failed := by
  induction rules with
  | nil => rfl
  | cons r rules ih =>
    rw [scoringRules, scoringRules] at ih ⊢
    rw [List.map_cons, List.filter_cons, ih]
    cases hKeep : keep r.id with
    | true => simp [Rule.muted_of_keep hKeep, hKeep, List.filter_cons]
    | false => simp [Rule.scoresIn_muted hKeep, hKeep]

/-- Categories see rules without a contribution as if they were left out. -/
theorem categoryRaws_muted (α : Type) [ScoreNumber α] (keep : Text → Bool) (rules : List Rule)
    (issues : List Issue) (ctx : RuleContext) (failed : List Text) :
    categoryRaws α (rules.map (Rule.muted keep)) issues ctx failed =
      categoryRaws α (rules.filter (keep ·.id)) issues ctx failed := by
  have deltas_eq (c : Category) (failed : List Text) :
      deltasOf c (rules.map (Rule.muted keep)) issues ctx failed =
        deltasOf c (rules.filter (keep ·.id)) issues ctx failed := by
    rw [← deltasOf_scoringRules, scoringRules_muted, deltasOf_scoringRules]
  apply List.foldl_ext
  intro report c _
  unfold RawReport.add
  rw [deltas_eq]

/-- Without tests, or if they score nowhere, rules may be left out of all categories. -/
theorem categoryRaws_of_unasked (α : Type) [ScoreNumber α] {keep : Text → Bool}
    {rules : List Rule} {ctx : RuleContext}
    (unasked : ctx.suite.tests = [] ∨ ∀ r ∈ rules, keep r.id = false → r.category = none)
    (issues : List Issue) (failed : List Text) :
    categoryRaws α (rules.filter (keep ·.id)) issues ctx failed =
      categoryRaws α rules issues ctx failed := by
  apply List.foldl_ext
  intro report c _
  unfold RawReport.add
  rcases unasked with noTests | noCategory
  · rw [if_pos (by simp [noTests]), if_pos (by simp [noTests])]
  · have scoring_eq (failed : List Text) : scoringRules c (rules.filter (keep ·.id)) failed =
        scoringRules c rules failed := by
      rw [scoringRules, scoringRules, List.filter_filter]
      apply List.filter_congr
      intro r hr
      cases hKeep : keep r.id with
      | true => rw [Bool.and_true]
      | false => simp [Rule.scoresIn, noCategory r hr hKeep]
    rw [← deltasOf_scoringRules, scoring_eq, deltasOf_scoringRules]

/-! ### Failed rules -/

section

variable {rules : List Rule} {issues : List Issue} {ctx : RuleContext}

theorem mem_failed_deltasOf {c : Category} {failed : List Text} {id : Text} :
    id ∈ (deltasOf c rules issues ctx failed).failed ↔
      id ∈ failed ∨ ∃ r ∈ rules, r.id = id ∧ r.scoresIn c = true ∧
        ∃ fault, r.deltaOf issues ctx = .error fault := by
  suffices foldl_iff : ∀ report : DeltaReport,
      id ∈ (rules.foldl (DeltaReport.add c issues ctx) report).failed ↔
        id ∈ report.failed ∨ ∃ r ∈ rules, r.id = id ∧ r.scoresIn c = true ∧
          ∃ fault, r.deltaOf issues ctx = .error fault from foldl_iff { failed }
  induction rules with
  | nil => simp
  | cons r rules ih =>
    intro report
    have step : id ∈ (report.add c issues ctx r).failed ↔ id ∈ report.failed ∨
        (r.id = id ∧ r.scoresIn c = true ∧ ∃ fault, r.deltaOf issues ctx = .error fault) := by
      unfold DeltaReport.add
      by_cases hKnown : r.id ∈ report.failed
      · simp only [List.contains_eq_mem, hKnown, decide_true, Bool.not_true, Bool.and_false,
          Bool.false_eq_true, if_false, iff_self_or]
        rintro ⟨rfl, -⟩
        exact hKnown
      · cases hScores : r.scoresIn c with
        | false => simp
        | true =>
          cases hDelta : r.deltaOf issues ctx with
          | ok delta => simp [hKnown]
          | error fault => simp [hKnown, eq_comm]
    rw [List.foldl_cons, ih, step, List.exists_mem_cons_iff, or_assoc]

/-- **The rules without an answer after scoring**: those from before, and those whose contribution
is asked in vain. -/
theorem mem_failed_categoryRaws {α : Type} [ScoreNumber α] {failed : List Text} {id : Text} :
    id ∈ (categoryRaws α rules issues ctx failed).failed ↔
      id ∈ failed ∨ ctx.suite.tests ≠ [] ∧ ∃ r ∈ rules, r.id = id ∧
        (∃ c, r.scoresIn c = true) ∧ ∃ fault, r.deltaOf issues ctx = .error fault := by
  suffices foldl_iff : ∀ (cs : List Category) (report : RawReport),
      id ∈ (cs.foldl (RawReport.add α rules issues ctx) report).failed ↔
        id ∈ report.failed ∨ ctx.suite.tests ≠ [] ∧ ∃ r ∈ rules, r.id = id ∧
          (∃ c ∈ cs, r.scoresIn c = true) ∧ ∃ fault, r.deltaOf issues ctx = .error fault by
    have all_categories (r : Rule) :
        (∃ c ∈ Category.all, r.scoresIn c = true) ↔ ∃ c, r.scoresIn c = true :=
      ⟨fun ⟨c, _, h⟩ => ⟨c, h⟩, fun ⟨c, h⟩ => ⟨c, by cases c <;> decide, h⟩⟩
    have all_iff := foldl_iff Category.all { failed }
    simp only [all_categories] at all_iff
    exact all_iff
  intro cs
  induction cs with
  | nil => simp
  | cons c cs ih =>
    intro report
    have step : id ∈ (RawReport.add α rules issues ctx report c).failed ↔
        id ∈ report.failed ∨ ctx.suite.tests ≠ [] ∧ ∃ r ∈ rules, r.id = id ∧
          r.scoresIn c = true ∧ ∃ fault, r.deltaOf issues ctx = .error fault := by
      unfold RawReport.add
      by_cases hTests : ctx.suite.tests = []
      · simp [hTests]
      · simp [hTests, mem_failed_deltasOf]
    rw [List.foldl_cons, ih, step]
    simp only [List.exists_mem_cons_iff, or_and_right, and_or_left, exists_or, or_assoc]

end

end SuiteAudit
